import Mathlib.Data.List.Sort
import Mathlib.Data.Rat.Defs
import Mathlib.Tactic

/-!
Stable sorting by a comparator.

* `Comparator`: a function that compares two values by a number, consistently.
* `IsStableSort c l s`: `s` has the elements of `l`, in order, and ties as they stood.
* `IsStableSort.unique`: there is one such list; `isStableSort_mergeSort`: it exists.
* `StableSorter`: a sort that is only known to be stable. `filter_sort`: it commutes with a filter.
-/

namespace StableSort

variable {α β : Type*}

/-- A consistent comparator: what is compared with a number up to zero comes first, or beside. -/
structure Comparator (α : Type*) where
  compare : α → α → ℚ
  swap : ∀ a b, 0 < compare a b ↔ compare b a < 0
  trans : ∀ a b c, compare a b ≤ 0 → compare b c ≤ 0 → compare a c ≤ 0

namespace Comparator

variable (c : Comparator α) {a b x : α}

/-- Not behind. -/
def le (a b : α) : Bool := c.compare a b ≤ 0

/-- On one level. -/
def tied (a b : α) : Bool := c.le a b && c.le b a

lemma le_iff : c.le a b = true ↔ c.compare a b ≤ 0 := decide_eq_true_iff

lemma le_total (a b : α) : c.le a b = true ∨ c.le b a = true := by
  rw [le_iff, le_iff]
  by_cases h : c.compare a b ≤ 0
  · exact .inl h
  · exact .inr ((c.swap a b).mp (not_le.mp h)).le

lemma or_le (a b : α) : (c.le a b || c.le b a) = true := Bool.or_eq_true_iff.mpr (c.le_total a b)

lemma le_refl (a : α) : c.le a a = true := (c.le_total a a).elim id id

lemma le_trans (a b x : α) (hab : c.le a b = true) (hbx : c.le b x = true) : c.le a x = true :=
  c.le_iff.mpr (c.trans a b x (c.le_iff.mp hab) (c.le_iff.mp hbx))

lemma tied_iff : c.tied a b = true ↔ c.le a b = true ∧ c.le b a = true := Bool.and_eq_true_iff

lemma tied_self (a : α) : c.tied a a = true := c.tied_iff.mpr ⟨c.le_refl a, c.le_refl a⟩

/-- The comparator of what a function gives. -/
def on (c : Comparator β) (f : α → β) : Comparator α where
  compare a b := c.compare (f a) (f b)
  swap a b := c.swap (f a) (f b)
  trans a b x := c.trans (f a) (f b) (f x)

end Comparator

/-- The list in order, and ties as they stood. -/
structure IsStableSort (c : Comparator α) (l s : List α) : Prop where
  perm : s.Perm l
  sorted : s.Pairwise fun a b => c.le a b = true
  stable : ∀ a, s.filter (c.tied a) = l.filter (c.tied a)

section Unique

variable {c : Comparator α} {l s s' : List α}

/-- The first elements of two sorted lists with the same ties. -/
lemma eq_of_sorted : ∀ {s s' : List α}, s.Pairwise (fun a b => c.le a b = true) →
    s'.Pairwise (fun a b => c.le a b = true) → (∀ a, s.filter (c.tied a) = s'.filter (c.tied a)) →
    s = s' := by
  intro s
  induction s with
  | nil =>
      intro s' _ _ hties
      cases s' with
      | nil => rfl
      | cons b s' =>
          have hb := hties b
          rw [List.filter_nil, List.filter_cons_of_pos (c.tied_self b)] at hb
          cases hb
  | cons a s ih =>
      intro s' hs hs' hties
      obtain ⟨ha, htail⟩ := List.pairwise_cons.mp hs
      have hmem : ∀ x, x ∈ a :: s ↔ x ∈ s' := by
        intro x
        have hx := congrArg (x ∈ ·) (hties x)
        simpa [List.mem_filter, c.tied_self x] using hx
      cases s' with
      | nil => exact absurd ((hmem a).mp List.mem_cons_self) List.not_mem_nil
      | cons b s' =>
          obtain ⟨hb, htail'⟩ := List.pairwise_cons.mp hs'
          -- each first element is not behind the other
          have hab : c.le a b = true := by
            rcases List.mem_cons.mp ((hmem b).mpr List.mem_cons_self) with rfl | h
            · exact c.le_refl _
            · exact ha b h
          have hba : c.le b a = true := by
            rcases List.mem_cons.mp ((hmem a).mp List.mem_cons_self) with rfl | h
            · exact c.le_refl _
            · exact hb a h
          -- so they tie, and the first of their ties is the same in both lists
          have hfirst := hties a
          rw [List.filter_cons_of_pos (c.tied_self a),
            List.filter_cons_of_pos (c.tied_iff.mpr ⟨hab, hba⟩)] at hfirst
          obtain ⟨rfl, -⟩ := List.cons.inj hfirst
          refine congrArg (a :: ·) (ih htail htail' fun x => ?_)
          have hx := hties x
          rw [List.filter_cons, List.filter_cons] at hx
          split at hx
          · exact (List.cons.inj hx).2
          · exact hx

/-- **There is one stable sort.** -/
theorem IsStableSort.unique (h : IsStableSort c l s) (h' : IsStableSort c l s') : s = s' :=
  eq_of_sorted h.sorted h'.sorted fun a => (h.stable a).trans (h'.stable a).symm

/-- A part of a stable sort sorts the part. -/
lemma IsStableSort.filter (h : IsStableSort c l s) (p : α → Bool) :
    IsStableSort c (l.filter p) (s.filter p) where
  perm := h.perm.filter p
  sorted := h.sorted.filter p
  stable a := by
    rw [List.filter_comm, h.stable, List.filter_comm]

/-- **It exists.** -/
theorem isStableSort_mergeSort (c : Comparator α) (l : List α) :
    IsStableSort c l (l.mergeSort c.le) where
  perm := List.mergeSort_perm l c.le
  sorted := List.pairwise_mergeSort c.le_trans c.or_le l
  stable a := by
    have hties : (l.filter (c.tied a)).Pairwise fun x y => c.le x y = true := by
      refine List.pairwise_of_forall_mem_list fun x hx y hy => ?_
      have hx' := c.tied_iff.mp (List.mem_filter.mp hx).2
      have hy' := c.tied_iff.mp (List.mem_filter.mp hy).2
      exact c.le_trans _ _ _ hx'.2 hy'.1
    have hsub := (List.sublist_mergeSort c.le_trans c.or_le hties List.filter_sublist).filter
      (c.tied a)
    have htwice : (l.filter (c.tied a)).filter (c.tied a) = l.filter (c.tied a) := by
      rw [List.filter_filter]
      exact List.filter_congr fun _ _ => Bool.and_self _
    rw [htwice] at hsub
    exact (hsub.eq_of_length (((List.mergeSort_perm l c.le).filter _).length_eq).symm).symm

end Unique

/-! ### Sorts that are only known to be stable -/

/-- A stable sort. -/
structure StableSorter (α : Type*) where
  sort : Comparator α → List α → List α
  stable : ∀ c l, IsStableSort c l (sort c l)

namespace StableSorter

variable (sorter : StableSorter α) (c : Comparator α) (l : List α)

/-- The merge sort is one. -/
instance : Inhabited (StableSorter α) := ⟨⟨fun c l => l.mergeSort c.le, isStableSort_mergeSort⟩⟩

/-- **Sorting and filtering commute.** -/
lemma filter_sort (p : α → Bool) : (sorter.sort c l).filter p = sorter.sort c (l.filter p) :=
  ((sorter.stable c l).filter p).unique (sorter.stable c _)

end StableSorter

end StableSort
