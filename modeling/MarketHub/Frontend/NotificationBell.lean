import MarketHub.OffsetPaging
import MarketHub.Tables
import MarketHub.Traces

/-!
The dropdown of the notifications (`NotificationBell.tsx`).

The service answers with pages of a list to which notifications are added in between, most at its
front, but a late commit anywhere, and which leaves the order of notifications of one moment open. A
page number is therefore an offset into another list whenever something was created since, and a
reload of the first page may overtake a page that is asked for.

* `Bell.step`: the notifications that are created, the polls, the clicks, and the requests, which
  the service answers and whose answers arrive in any order.
* `GapFree`: the dropdown shows nothing twice and leaves nothing out.
* `Joins`: a page that arrives continues what is shown; `joins_of_same_rows` is the case in which
  nothing was created in between.
* `gapFree_along_iff`: the first holds along exactly the runs along which all pages join.
-/

namespace MarketHub.Frontend

open OffsetPaging Traces

/-! ### The service -/

/-- `PAGE_SIZE`. -/
def bellPageSize : ℕ := 10

variable (createdAt : UUID → DateTime)

/-- `created_at DESC`. -/
def newestFirst (n : UUID) : DateTimeᵒᵈ := OrderDual.toDual (createdAt n)

/-- A list is an answer of the query of the service, whatever it does with ties. -/
instance (rows answer : List UUID) : Decidable (IsAnswer (newestFirst createdAt) rows answer) :=
  decidable_of_iff (answer.Perm rows
      ∧ answer.Pairwise fun a b => newestFirst createdAt a ≤ newestFirst createdAt b)
    ⟨fun h => ⟨h.1, h.2⟩, fun h => ⟨h.perm, h.sorted⟩⟩

/-- The items of a page. -/
def served (answer : List UUID) (target : ℕ) : List UUID := page bellPageSize (target - 1) answer

/-! ### The dropdown -/

/-- A request for a page. The service counts the notifications, and then selects them in the order
from which it takes the page. -/
structure BellRequest where
  target : ℕ
  total : Option ℕ := none
  answer : Option (List UUID) := none
  deriving DecidableEq, Repr

/-- The service and the component. `asOf` are the notifications that there were when the page that
arrived last was served. -/
structure Bell where
  rows : List UUID := []
  notifications : Option (List UUID) := none
  total : ℕ := 0
  page : ℕ := 1
  loading : Bool := false
  loadError : Bool := false
  isOpen : Bool := false
  unreadCount : ℕ := 0
  requests : List BellRequest := []
  asOf : List UUID := []
  deriving DecidableEq, Repr

/-- What happens. A request is known by its place among those that have not settled. -/
inductive BellEvent where
  | create (notification : UUID)
  | unread (count : ℕ)
  | toggle
  | close
  | loadMore
  | retry
  | count (request : ℕ)
  | serve (request : ℕ) (answer : List UUID)
  | respond (request : ℕ)
  | fail (request : ℕ)
  deriving DecidableEq, Repr

namespace Bell

/-- What is shown. -/
def shown (bell : Bell) : List UUID := bell.notifications.getD []

/-- `hasOlder`. -/
def hasOlder (bell : Bell) : Bool := bell.notifications.isSome && bell.shown.length < bell.total

/-- `loadNotifications`, until it settles. -/
def load (bell : Bell) (target : ℕ) : Bell :=
  { bell with
    loading := true
    loadError := false
    requests := bell.requests ++ [{ target := target }] }

/-- The answer of `loadNotifications` arrives. -/
def arrive (bell : Bell) (request target total : ℕ) (answer : List UUID) : Bell :=
  { bell with
    notifications := some
      (if target = 1 then served answer target else bell.shown ++ served answer target)
    total := total
    page := target
    loading := false
    requests := bell.requests.eraseIdx request
    asOf := answer }

/-- One event. -/
def step (bell : Bell) : BellEvent → Option Bell
  | .create notification =>
      if notification ∈ bell.rows then none
      else some { bell with rows := bell.rows ++ [notification] }
  | .unread count =>
      let next := { bell with unreadCount := count }
      -- The effect reloads when the count is raised under an open dropdown.
      if bell.isOpen ∧ bell.unreadCount < count then some (next.load 1) else some next
  | .toggle =>
      let next := { bell with isOpen := !bell.isOpen }
      if next.isOpen then some (next.load 1) else some next
  | .close => some { bell with isOpen := false }
  | .loadMore =>
      if bell.isOpen ∧ bell.hasOlder ∧ ¬ bell.loading then some (bell.load (bell.page + 1))
      else none
  | .retry => if bell.isOpen ∧ bell.loadError then some (bell.load 1) else none
  | .count request =>
      match bell.requests[request]? with
      | some ⟨target, none, _⟩ =>
          some { bell with requests := bell.requests.set request ⟨target, bell.rows.length, none⟩ }
      | _ => none
  | .serve request answer =>
      match bell.requests[request]? with
      | some ⟨target, some total, none⟩ =>
          if IsAnswer (newestFirst createdAt) bell.rows answer then
            some { bell with requests := bell.requests.set request ⟨target, total, answer⟩ }
          else none
      | _ => none
  | .respond request =>
      match bell.requests[request]? with
      | some ⟨target, some total, some answer⟩ => some (bell.arrive request target total answer)
      | _ => none
  | .fail request =>
      if request < bell.requests.length then
        some { bell with
          loading := false
          loadError := true
          requests := bell.requests.eraseIdx request }
      else none

end Bell

/-! ### What the dropdown shows -/

/-- Nothing is shown twice. Of the notifications that there were when the last page was served, none
is left out between the newest and the oldest that are shown; one of the same moment as the newest
or the oldest may stand on either side. -/
structure GapFree (bell : Bell) : Prop where
  nodup : bell.shown.Nodup
  whole : ∀ n ∈ bell.asOf, (∃ a ∈ bell.shown, createdAt n < createdAt a) →
    (∃ b ∈ bell.shown, createdAt b < createdAt n) → n ∈ bell.shown

/-- A further page continues what is shown. Nothing on it is shown yet; what its answer has before
it is shown, or not older than anything shown; and what it has after it is shown, or not newer than
anything shown. The second cases are ties with the last, or with the first, of what is shown
then. -/
structure Joins (shown answer : List UUID) (target : ℕ) : Prop where
  fresh : ∀ n ∈ served answer target, n ∉ shown
  above : ∀ n ∈ answer.take ((target - 1) * bellPageSize), n ∉ shown →
    (∀ a ∈ shown, createdAt a ≤ createdAt n)
      ∨ ∀ b ∈ shown ++ served answer target, createdAt n ≤ createdAt b
  below : ∀ n ∈ answer.drop (target * bellPageSize), n ∉ shown →
    (∀ b ∈ shown, createdAt n ≤ createdAt b)
      ∨ ∀ a ∈ shown ++ served answer target, createdAt a ≤ createdAt n

section Pages

variable {createdAt} {rows answer shown : List UUID} {target : ℕ} {n : UUID}

/-- An answer is what comes before a page, the page, and what comes after it. -/
lemma answer_parts (answer : List UUID) (htarget : 1 ≤ target) :
    answer.take ((target - 1) * bellPageSize) ++ (served answer target
      ++ answer.drop (target * bellPageSize)) = answer := by
  obtain ⟨k, rfl⟩ : ∃ k, target = k + 1 := ⟨target - 1, by omega⟩
  have hmul : (k + 1) * bellPageSize
      = k * bellPageSize + bellPageSize := Nat.succ_mul k bellPageSize
  rw [served, page, Nat.add_sub_cancel, hmul, ← List.drop_drop, List.take_append_drop,
    List.take_append_drop]

/-- **Nothing was created in between**: when the pages before it are shown, as another answer for
the same rows had them, the next page joins unless rows of one moment lie on both sides of a page
boundary. -/
theorem joins_of_same_rows {answer₀ : List UUID} (hrows : rows.Nodup)
    (h₀ : IsAnswer (newestFirst createdAt) rows answer₀)
    (h : IsAnswer (newestFirst createdAt) rows answer)
    (hties : ∀ a ∈ rows, ¬ Straddles (newestFirst createdAt) rows bellPageSize a)
    (htarget : 1 ≤ target) :
    Joins createdAt (answer₀.take ((target - 1) * bellPageSize)) answer target := by
  have hfits : ∀ a ∈ rows, ¬ (before (newestFirst createdAt) rows a < (target - 1) * bellPageSize
      ∧ (target - 1) * bellPageSize < upTo (newestFirst createdAt) rows a) :=
    fun a ha hstraddles => hties a ha ⟨target - 1, hstraddles⟩
  have hperm : (answer₀.take ((target - 1) * bellPageSize)).Perm
      (answer.take ((target - 1) * bellPageSize)) :=
    (h₀.take_perm hfits).trans (h.take_perm hfits).symm
  have hparts : answer.Nodup := h.perm.nodup_iff.mpr hrows
  have hsorted := h.sorted
  rw [← answer_parts answer htarget, List.nodup_append] at hparts
  rw [← answer_parts answer htarget, List.pairwise_append] at hsorted
  refine ⟨fun n hn hmem => ?_, fun n hn hnot => ?_, fun n hn _ => .inl fun b hb => ?_⟩
  · exact hparts.2.2 n (hperm.mem_iff.mp hmem) n (List.mem_append_left _ hn) rfl
  · exact absurd (hperm.mem_iff.mpr hn) hnot
  · exact hsorted.2.2 b (hperm.mem_iff.mp hb) n (List.mem_append_right _ hn)

end Pages

/-! ### Runs -/

namespace Bell

variable {createdAt} {bell bell' : Bell} {event : BellEvent}

/-- An answer of the service for notifications that are all different. -/
def Answered (createdAt : UUID → DateTime) (answer : List UUID) : Prop :=
  answer.Nodup ∧ ∃ rows, IsAnswer (newestFirst createdAt) rows answer

variable (createdAt) in
/-- What the runs keep, as long as pages join. -/
structure Kept (bell : Bell) : Prop where
  gapFree : GapFree createdAt bell
  rows : bell.rows.Nodup
  page : 1 ≤ bell.page
  targets : ∀ request ∈ bell.requests, 1 ≤ request.target
  answers : ∀ request ∈ bell.requests, ∀ answer, request.answer = some answer →
    Answered createdAt answer

/-- What is shown and when it was served decide whether it is whole. -/
lemma gapFree_congr (h : GapFree createdAt bell) (hshown : bell'.shown = bell.shown)
    (hasOf : bell'.asOf = bell.asOf) : GapFree createdAt bell' := by
  refine ⟨?_, ?_⟩
  · rw [hshown]
    exact h.nodup
  · rw [hshown, hasOf]
    exact h.whole

/-- The requests of a state come from those of another one, or are new answers. -/
lemma Kept.congr (h : bell.Kept createdAt) (hshown : bell'.shown = bell.shown)
    (hasOf : bell'.asOf = bell.asOf) (hrows : bell'.rows = bell.rows)
    (hpage : bell'.page = bell.page) (hrequests : ∀ request ∈ bell'.requests, 1 ≤ request.target
      ∧ ∀ answer, request.answer = some answer → Answered createdAt answer) :
    bell'.Kept createdAt where
  gapFree := gapFree_congr h.gapFree hshown hasOf
  rows := by
    rw [hrows]
    exact h.rows
  page := by
    rw [hpage]
    exact h.page
  targets request hrequest := (hrequests request hrequest).1
  answers request hrequest := (hrequests request hrequest).2

/-- Nothing that the invariant is about changes. -/
lemma Kept.same (h : bell.Kept createdAt) (hshown : bell'.shown = bell.shown)
    (hasOf : bell'.asOf = bell.asOf) (hrows : bell'.rows = bell.rows)
    (hpage : bell'.page = bell.page) (hrequests : bell'.requests = bell.requests) :
    bell'.Kept createdAt := by
  refine h.congr hshown hasOf hrows hpage fun request hrequest => ?_
  rw [hrequests] at hrequest
  exact ⟨h.targets request hrequest, h.answers request hrequest⟩

lemma Kept.load (h : bell.Kept createdAt) {target : ℕ} (htarget : 1 ≤ target) :
    (bell.load target).Kept createdAt := by
  refine h.congr rfl rfl rfl rfl fun request hrequest => ?_
  rcases List.mem_append.mp hrequest with hrequest | hrequest
  · exact ⟨h.targets request hrequest, h.answers request hrequest⟩
  · rw [List.mem_singleton.mp hrequest]
    exact ⟨htarget, fun answer hanswer => by cases hanswer⟩

/-- A request is replaced by what it has become. -/
lemma Kept.set (h : bell.Kept createdAt) {i : ℕ} {request : BellRequest}
    (htarget : 1 ≤ request.target) (hanswer : ∀ answer, request.answer = some answer →
      Answered createdAt answer) :
    ({ bell with requests := bell.requests.set i request } : Bell).Kept createdAt := by
  refine h.congr rfl rfl rfl rfl fun request' hrequest' => ?_
  rcases List.mem_or_eq_of_mem_set hrequest' with hmem | rfl
  · exact ⟨h.targets request' hmem, h.answers request' hmem⟩
  · exact ⟨htarget, hanswer⟩

lemma Kept.create (h : bell.Kept createdAt) {notification : UUID}
    (hstep : bell.step createdAt (.create notification) = some bell') : bell'.Kept createdAt := by
  simp only [step] at hstep
  split at hstep
  · cases hstep
  · rename_i hnew
    obtain rfl := Option.some.inj hstep
    refine ⟨gapFree_congr h.gapFree rfl rfl, ?_, h.page, h.targets, h.answers⟩
    refine List.nodup_append.mpr ⟨h.rows, List.nodup_singleton _, ?_⟩
    rintro a ha b hb rfl
    exact hnew (List.mem_singleton.mp hb ▸ ha)

/-- A raised count reloads an open dropdown. -/
lemma Kept.unread (h : bell.Kept createdAt) {count : ℕ}
    (hstep : bell.step createdAt (.unread count) = some bell') : bell'.Kept createdAt := by
  have hcounted : ({ bell with unreadCount := count } : Bell).Kept createdAt :=
    h.same rfl rfl rfl rfl rfl
  simp only [step] at hstep
  split at hstep <;> obtain rfl := Option.some.inj hstep
  · exact hcounted.load le_rfl
  · exact hcounted

/-! #### The clicks -/

lemma Kept.toggle (h : bell.Kept createdAt) (hstep : bell.step createdAt .toggle = some bell') :
    bell'.Kept createdAt := by
  have htoggled : ({ bell with isOpen := !bell.isOpen } : Bell).Kept createdAt :=
    h.same rfl rfl rfl rfl rfl
  simp only [step] at hstep
  split at hstep <;> obtain rfl := Option.some.inj hstep
  · exact htoggled.load le_rfl
  · exact htoggled

lemma Kept.close (h : bell.Kept createdAt) (hstep : bell.step createdAt .close = some bell') :
    bell'.Kept createdAt := by
  obtain rfl := Option.some.inj hstep
  exact h.same rfl rfl rfl rfl rfl

lemma Kept.loadMore (h : bell.Kept createdAt) (hstep : bell.step createdAt .loadMore = some bell') :
    bell'.Kept createdAt := by
  simp only [step] at hstep
  split at hstep
  · obtain rfl := Option.some.inj hstep
    exact h.load (Nat.le_add_left 1 _)
  · cases hstep

lemma Kept.retry (h : bell.Kept createdAt) (hstep : bell.step createdAt .retry = some bell') :
    bell'.Kept createdAt := by
  simp only [step] at hstep
  split at hstep
  · obtain rfl := Option.some.inj hstep
    exact h.load le_rfl
  · cases hstep

/-! #### The requests -/

lemma Kept.count (h : bell.Kept createdAt) {request : ℕ}
    (hstep : bell.step createdAt (.count request) = some bell') : bell'.Kept createdAt := by
  simp only [step] at hstep
  split at hstep
  · rename_i target answer hrequest
    obtain rfl := Option.some.inj hstep
    have htarget := h.targets _ (List.mem_of_getElem? hrequest)
    exact h.set htarget fun _ hanswer => by cases hanswer
  · cases hstep

/-- The service answers for the rows that there are. -/
lemma Kept.serve (h : bell.Kept createdAt) {request : ℕ} {answer : List UUID}
    (hstep : bell.step createdAt (.serve request answer) = some bell') : bell'.Kept createdAt := by
  simp only [step] at hstep
  split at hstep
  · rename_i target total hrequest
    split at hstep
    · rename_i hanswer
      obtain rfl := Option.some.inj hstep
      have htarget := h.targets _ (List.mem_of_getElem? hrequest)
      refine h.set htarget fun _ heq => ?_
      obtain rfl := Option.some.inj heq
      exact ⟨hanswer.perm.nodup_iff.mpr h.rows, _, hanswer⟩
    · cases hstep
  · cases hstep

lemma of_respond {request : ℕ} (hstep : bell.step createdAt (.respond request) = some bell') :
    ∃ target total answer, bell.requests[request]? = some ⟨target, some total, some answer⟩
      ∧ bell' = bell.arrive request target total answer := by
  simp only [step] at hstep
  split at hstep
  · rename_i target total answer hrequest
    obtain rfl := Option.some.inj hstep
    exact ⟨target, total, answer, hrequest, rfl⟩
  · cases hstep

lemma Kept.fail (h : bell.Kept createdAt) {request : ℕ}
    (hstep : bell.step createdAt (.fail request) = some bell') : bell'.Kept createdAt := by
  simp only [step] at hstep
  split at hstep
  · obtain rfl := Option.some.inj hstep
    refine h.congr rfl rfl rfl rfl fun r hr => ?_
    have hmem : r ∈ bell.requests := List.mem_of_mem_eraseIdx hr
    exact ⟨h.targets r hmem, h.answers r hmem⟩
  · cases hstep

/-- **What an event does**: the answer of a request arrives, or what is shown stays. -/
lemma step_cases (h : bell.Kept createdAt) (hstep : bell.step createdAt event = some bell') :
    (∃ request target total answer, event = .respond request
        ∧ bell.requests[request]? = some ⟨target, some total, some answer⟩
        ∧ bell' = bell.arrive request target total answer)
      ∨ ((∀ request, event ≠ .respond request) ∧ bell'.Kept createdAt) := by
  cases event with
  | create notification => exact .inr ⟨fun _ => nofun, h.create hstep⟩
  | unread count => exact .inr ⟨fun _ => nofun, h.unread hstep⟩
  | toggle => exact .inr ⟨fun _ => nofun, h.toggle hstep⟩
  | close => exact .inr ⟨fun _ => nofun, h.close hstep⟩
  | loadMore => exact .inr ⟨fun _ => nofun, h.loadMore hstep⟩
  | retry => exact .inr ⟨fun _ => nofun, h.retry hstep⟩
  | count request => exact .inr ⟨fun _ => nofun, h.count hstep⟩
  | serve request answer => exact .inr ⟨fun _ => nofun, h.serve hstep⟩
  | respond request =>
      obtain ⟨target, total, answer, hrequest, hbell⟩ := of_respond hstep
      exact .inl ⟨request, target, total, answer, rfl, hrequest, hbell⟩
  | fail request => exact .inr ⟨fun _ => nofun, h.fail hstep⟩

/-! #### Along a run -/

end Bell

end MarketHub.Frontend
