import MarketHub.Python.Text

/-!
`URLSearchParams`: the parameters of a URL, in their order.

* `SearchParams.get`, `getAll`, `set`, `delete`: the methods of the same names. A text goes into
  the parameters as `toUSVString`, which has no lone surrogates.
* `getAll_set`, `getAll_delete` and the lemmas beside them: what is there afterwards.
-/

namespace JavaScript

open Python

/-- A text whose lone surrogates are replaced by `U+FFFD`. -/
def toUSVString (t : Text) : String :=
  String.ofList (t.map fun
    | .char c => c
    | .surrogate _ => '\uFFFD')

/-- Nothing is replaced exactly if there are no lone surrogates. -/
lemma text_toUSVString_iff {t : Text} : text (toUSVString t) = t ↔ t.Scalar := by
  rw [text, toUSVString, String.toList_ofList, List.map_map]
  constructor
  · intro h c hc
    rw [← h] at hc
    obtain ⟨c', -, rfl⟩ := List.mem_map.mp hc
    exact ⟨_, rfl⟩
  · intro h
    refine (List.map_congr_left fun c hc => ?_).trans (List.map_id t)
    obtain ⟨ch, rfl⟩ := h c hc
    rfl

/-- `URLSearchParams`. -/
abbrev SearchParams := List (String × String)

namespace SearchParams

/-- `params.getAll(name)`. -/
def getAll (name : String) (p : SearchParams) : List String :=
  (p.filter fun pair => pair.1 = name).map Prod.snd

/-- `params.get(name)`. -/
def get (name : String) (p : SearchParams) : Option String := (getAll name p).head?

/-- `params.delete(name)`. -/
def delete (name : String) (p : SearchParams) : SearchParams := p.filter fun pair => pair.1 ≠ name

/-- `params.set(name, value)`: the first parameter of the name gets the value, and the others go. -/
def set (name value : String) : SearchParams → SearchParams
  | [] => [(name, value)]
  | pair :: p =>
      if pair.1 = name then (name, value) :: delete name p else pair :: set name value p

variable {name name' value : String} {p : SearchParams}

lemma getAll_cons (pair : String × String) :
    getAll name (pair :: p) = if pair.1 = name then pair.2 :: getAll name p else getAll name p := by
  by_cases h : pair.1 = name <;> simp [getAll, h]

@[simp] lemma getAll_delete : getAll name (delete name p) = [] := by
  simp [getAll, delete, List.filter_filter]

lemma getAll_delete_of_ne (h : name' ≠ name) : getAll name' (delete name p) = getAll name' p := by
  rw [getAll, delete, List.filter_filter, getAll]
  refine congrArg _ (List.filter_congr fun pair _ => ?_)
  by_cases hpair : pair.1 = name'
  · simp [hpair, h]
  · simp [hpair]

@[simp] lemma getAll_set : getAll name (set name value p) = [value] := by
  induction p with
  | nil => simp [set, getAll]
  | cons pair p ih =>
      rw [set]
      split
      · rw [getAll_cons, if_pos rfl, getAll_delete]
      · rw [getAll_cons, if_neg ‹_›, ih]

lemma getAll_set_of_ne (h : name' ≠ name) : getAll name' (set name value p) = getAll name' p := by
  induction p with
  | nil => simp [set, getAll, h.symm]
  | cons pair p ih =>
      rw [set]
      split
      · rename_i hpair
        rw [getAll_cons, if_neg h.symm, getAll_delete_of_ne h, getAll_cons, if_neg]
        rw [hpair]
        exact h.symm
      · rw [getAll_cons, getAll_cons, ih]

end SearchParams

end JavaScript
