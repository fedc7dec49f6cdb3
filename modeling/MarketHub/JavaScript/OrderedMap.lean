import Mathlib.Data.List.Basic
import Mathlib.Tactic

/-!
`Map`: entries in the order in which their keys were first set.

* `OrderedMap.get`, `set`: the methods of the same names.
* `get_set`, `get_set_of_ne`, `set_of_get`, `set_of_not_mem`: what a `set` makes of the entries.
-/

namespace JavaScript

/-- `Map`. -/
abbrev OrderedMap (K V : Type) := List (K × V)

namespace OrderedMap

variable {K V : Type} [DecidableEq K] {m : OrderedMap K V} {k k' : K} {v : V}

/-- `map.get(key)`. -/
def get (k : K) (m : OrderedMap K V) : Option V := (m.find? fun e => e.1 = k).map Prod.snd

/-- `map.set(key, value)`: the entry keeps its place, and a new one goes to the end. -/
def set (k : K) (v : V) : OrderedMap K V → OrderedMap K V
  | [] => [(k, v)]
  | e :: m => if e.1 = k then (k, v) :: m else e :: set k v m

lemma get_cons (e : K × V) : get k (e :: m) = if e.1 = k then some e.2 else get k m := by
  rw [get, List.find?_cons]
  by_cases h : e.1 = k <;> simp [h, get]

@[simp] lemma get_set : get k (set k v m) = some v := by
  induction m with
  | nil => simp [set, get_cons]
  | cons e m ih =>
      rw [set]
      split
      · rw [get_cons, if_pos rfl]
      · rw [get_cons, if_neg ‹_›, ih]

lemma get_set_of_ne (h : k' ≠ k) : get k' (set k v m) = get k' m := by
  induction m with
  | nil =>
      rw [set, get_cons, if_neg h.symm]
  | cons e m ih =>
      rw [set]
      split
      · rename_i he
        rw [get_cons, if_neg h.symm, get_cons, if_neg (by rw [he]; exact h.symm)]
      · rw [get_cons, get_cons, ih]

/-- A `set` with the value that is there changes nothing. -/
lemma set_of_mem (h : (k, v) ∈ m) (hnodup : (m.map Prod.fst).Nodup) : set k v m = m := by
  induction m with
  | nil => cases h
  | cons e m ih =>
      obtain ⟨hnot, hnodup⟩ := List.nodup_cons.mp hnodup
      rw [set]
      split
      · rename_i he
        rcases List.mem_cons.mp h with rfl | h
        · rfl
        · exact absurd (he ▸ List.mem_map_of_mem h) hnot
      · rename_i he
        rcases List.mem_cons.mp h with rfl | h
        · exact absurd rfl he
        · rw [ih h hnodup]

/-- A new entry goes to the end. -/
lemma set_of_not_mem (h : k ∉ m.map Prod.fst) : set k v m = m ++ [(k, v)] := by
  induction m with
  | nil => rfl
  | cons e m ih =>
      rw [List.map_cons, List.mem_cons, not_or] at h
      rw [set, if_neg (Ne.symm h.1), ih h.2, List.cons_append]

end OrderedMap

end JavaScript
