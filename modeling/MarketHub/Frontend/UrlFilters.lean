import MarketHub.Frontend.OrderNumber
import MarketHub.JavaScript.SearchParams

/-!
The filters of the order lists in the URL (`lib/utils/useUrlFilters.ts`, `applyLookupToFilters` of
`lib/utils/orderNumber.ts`).

A handler may call the setter several times. Each call navigates to what its update makes of the
parameters of the current render, and the last navigation wins: what the calls before it set is
lost.

* `navigate`: the parameters after the calls of a handler.
* `step`, `run`: the events of a page.
* `LookupShown`, `LookupRemoved`: the URL holds the lookup that was typed, or none.
* `exact_iff_survives`, `exact_along_iff`: exactly if the lost calls had nothing to change.
-/

namespace MarketHub.Frontend

open Python JavaScript

/-! ### The setter -/

/-- The update of `useUrlFilters().set`. -/
def setFilter (p : SearchParams) (key : String) (value : Option Text) : SearchParams :=
  let next :=
    match value with
    | none | some [] => p.delete key
    | some value => p.set key (toUSVString value)
  -- A filter that changes goes back to the first page.
  if key ≠ "page" then next.delete "page" else next

/-- The parameters after the calls of one handler: every call updates those of the render. -/
def navigate (p : SearchParams) (calls : List (String × Option Text)) : SearchParams :=
  calls.foldl (fun _ call => setFilter p call.1 call.2) p

/-- `applyLookupToFilters`, as its calls. -/
def applyLookupToFilters (raw : Text) : List (String × Option Text) :=
  let next := nextLookupParams raw
  [("order_item_id", next.orderItemId), ("number", next.number)]

/-- `onRemove` of the chip of a lookup, as its calls. -/
def onRemoveLookup : List (String × Option Text) := [("number", none), ("order_item_id", none)]

/-- `filters.get(key)`. -/
def getFilter (p : SearchParams) (key : String) : String := (p.get key).getD ""

/-- `lookupInput`. -/
def lookupInput (p : SearchParams) : String :=
  if getFilter p "number" ≠ "" then getFilter p "number" else getFilter p "order_item_id"

/-! ### The events of a page -/

/-- The parameters of a lookup. -/
def lookupKeys : List String := ["number", "order_item_id"]

/-- What a user does to the filters. -/
inductive FilterEvent where
  | lookup (raw : Text)
  | removeLookup
  | filter (key : String) (value : Option Text) (other : key ∉ lookupKeys)
  | clearAll

/-- One event. -/
def step (p : SearchParams) : FilterEvent → SearchParams
  | .lookup raw => navigate p (applyLookupToFilters raw)
  | .removeLookup => navigate p onRemoveLookup
  | .filter key value _ => navigate p [(key, value)]
  | .clearAll => []

/-- The events with the parameters that they meet. -/
def run : SearchParams → List FilterEvent → List (SearchParams × FilterEvent)
  | _, [] => []
  | p, event :: events => (p, event) :: run (step p event) events

/-! ### What the URL holds -/

/-- The other filters are as before, and `page` is dropped. -/
structure OthersKept (p p' : SearchParams) : Prop where
  others : ∀ key ∉ "page" :: lookupKeys, p'.getAll key = p.getAll key
  page : p'.getAll "page" = []

/-- The URL holds the lookup, and the other filters are as before. -/
structure LookupShown (raw : Text) (p p' : SearchParams) : Prop extends OthersKept p p' where
  number : (p'.getAll "number").map text = (nextLookupParams raw).number.toList
  orderItemId : (p'.getAll "order_item_id").map text = (nextLookupParams raw).orderItemId.toList

/-- The URL holds no lookup, and the other filters are as before. -/
structure LookupRemoved (p p' : SearchParams) : Prop extends OthersKept p p' where
  number : p'.getAll "number" = []
  orderItemId : p'.getAll "order_item_id" = []

/-- The URL holds what the event says. There is a chip to remove when there is a lookup. -/
def Exact (p : SearchParams) : FilterEvent → Prop
  | .lookup raw => LookupShown raw p (step p (.lookup raw))
  | .removeLookup => lookupInput p ≠ "" → LookupRemoved p (step p .removeLookup)
  | _ => True

/-- The call that is lost had nothing to change: an edit finds the `order_item_id` that it sets
already there, a removal finds no `number`. -/
def Survives (p : SearchParams) : FilterEvent → Prop
  | .lookup raw =>
      (p.getAll "order_item_id").map text = (nextLookupParams raw).orderItemId.toList
        ∧ ∀ value ∈ (nextLookupParams raw).number, value.Scalar
  | .removeLookup => lookupInput p ≠ "" → p.getAll "number" = []
  | _ => True

/-! ### One event -/

section Step

variable {p : SearchParams} {key key' : String} {value : Option Text} {raw : Text}

lemma getAll_setFilter_of_ne (h : key' ≠ key) (hpage : key' ≠ "page") :
    (setFilter p key value).getAll key' = p.getAll key' := by
  have hnext : ∀ next : SearchParams, next.getAll key' = p.getAll key' →
      (if key ≠ "page" then next.delete "page" else next).getAll key' = p.getAll key' := by
    intro next hnext
    split
    · rw [SearchParams.getAll_delete_of_ne hpage, hnext]
    · exact hnext
  refine hnext _ ?_
  split
  · exact SearchParams.getAll_delete_of_ne h
  · exact SearchParams.getAll_delete_of_ne h
  · exact SearchParams.getAll_set_of_ne h

lemma getAll_setFilter_page (h : key ≠ "page") : (setFilter p key value).getAll "page" = [] := by
  unfold setFilter
  rw [if_pos h, SearchParams.getAll_delete]

lemma getAll_setFilter_none (h : key ≠ "page") : (setFilter p key none).getAll key = [] := by
  unfold setFilter
  rw [if_pos h, SearchParams.getAll_delete_of_ne h, SearchParams.getAll_delete]

lemma getAll_setFilter_some {value : Text} (h : key ≠ "page") (hne : value ≠ []) :
    (setFilter p key (some value)).getAll key = [toUSVString value] := by
  obtain ⟨c, value, rfl⟩ := List.exists_cons_of_ne_nil hne
  unfold setFilter
  rw [if_pos h, SearchParams.getAll_delete_of_ne h, SearchParams.getAll_set]

/-- The second of two calls is all that happens. -/
lemma othersKept_setFilter (h : key ∈ lookupKeys) : OthersKept p (setFilter p key value) where
  others key' hkey' := by
    simp only [List.mem_cons, not_or] at hkey'
    refine getAll_setFilter_of_ne ?_ hkey'.1
    rintro rfl
    exact absurd h (by simpa using hkey'.2)
  page := getAll_setFilter_page (by
    rintro rfl
    exact absurd h (by decide))

/-- A lookup has a text, if it has any. -/
lemma number_ne_nil {value : Text} (h : (nextLookupParams raw).number = some value) :
    value ≠ [] := by
  have hempty : (classifyOrderLookup raw).status = .empty ↔ trim raw = [] := by
    rw [classifyOrderLookup]
    split_ifs with hempty
    · exact iff_of_true rfl hempty
    · exact iff_of_false (by simp) hempty
    · exact iff_of_false (by simp) hempty
    · exact iff_of_false (by simp) hempty
  rw [nextLookupParams] at h
  simp only [classify_value] at h
  intro hnil
  subst hnil
  split at h
  · cases h
  · cases h
  · rename_i hstatus
    rw [hempty.mpr (Option.some.inj h)] at hstatus
    cases hstatus
  · rename_i hstatus
    split at h
    · rw [hempty.mpr (Option.some.inj h)] at hstatus
      cases hstatus
    · cases h

/-- **An edit** shows its lookup exactly if the call that is lost had nothing to change. -/
lemma lookupShown_iff : LookupShown raw p (step p (.lookup raw)) ↔ Survives p (.lookup raw) := by
  have hstep : step p (.lookup raw) = setFilter p "number" (nextLookupParams raw).number := rfl
  have hid : (step p (.lookup raw)).getAll "order_item_id" = p.getAll "order_item_id" := by
    rw [hstep]
    exact getAll_setFilter_of_ne (by decide) (by decide)
  have hnumber : ((step p (.lookup raw)).getAll "number").map text
      = (nextLookupParams raw).number.toList
      ↔ ∀ value ∈ (nextLookupParams raw).number, value.Scalar := by
    rw [hstep]
    cases hvalue : (nextLookupParams raw).number with
    | none => simp [getAll_setFilter_none]
    | some value =>
        rw [getAll_setFilter_some (by decide) (number_ne_nil hvalue)]
        simp [text_toUSVString_iff]
  constructor
  · intro h
    refine ⟨?_, hnumber.mp h.number⟩
    rw [← hid]
    exact h.orderItemId
  · rintro ⟨hsame, hscalar⟩
    exact {
      toOthersKept := by
        rw [hstep]
        exact othersKept_setFilter (by decide)
      number := hnumber.mpr hscalar
      orderItemId := by rw [hid, hsame] }

/-- **A removal** removes the lookup exactly if there is no number, whose removal is lost. -/
lemma lookupRemoved_iff : LookupRemoved p (step p .removeLookup) ↔ p.getAll "number" = [] := by
  have hstep : step p .removeLookup = setFilter p "order_item_id" none := rfl
  have hnumber : (step p .removeLookup).getAll "number" = p.getAll "number" := by
    rw [hstep]
    exact getAll_setFilter_of_ne (by decide) (by decide)
  constructor
  · intro h
    rw [← hnumber]
    exact h.number
  · intro h
    exact {
      toOthersKept := by
        rw [hstep]
        exact othersKept_setFilter (by decide)
      number := by rw [hnumber, h]
      orderItemId := getAll_setFilter_none (by decide) }

/-- **One event.** -/
lemma exact_iff_survives {event : FilterEvent} : Exact p event ↔ Survives p event := by
  cases event with
  | lookup raw => exact lookupShown_iff
  | removeLookup => exact forall_congr' fun _ => lookupRemoved_iff
  | filter key value other => exact Iff.rfl
  | clearAll => exact Iff.rfl

end Step

/-! ### Runs -/

/-- **The URL holds the lookup that was typed**, after every event of a run, exactly if no event
meets parameters in which its lost call had something to change. -/
theorem exact_along_iff (p : SearchParams) (events : List FilterEvent) :
    (∀ x ∈ run p events, Exact x.1 x.2) ↔ ∀ x ∈ run p events, Survives x.1 x.2 :=
  forall₂_congr fun _ _ => exact_iff_survives

/-- A number typed over an id leaves the id. -/
theorem not_exact_id_then_number : ¬ ∀ (p : SearchParams) (events : List FilterEvent),
    ∀ x ∈ run p events, Exact x.1 x.2 := by
  intro h
  have hexact : LookupShown (text "1042") [("order_item_id", "a")] _ :=
    h [("order_item_id", "a")] [.lookup (text "1042")] _ List.mem_cons_self
  exact absurd hexact.orderItemId (by decide)

end MarketHub.Frontend
