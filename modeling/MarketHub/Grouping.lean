import Mathlib.Algebra.BigOperators.Group.Finset.Basic
import Mathlib.Algebra.GroupWithZero.Nat

/-!
Counting by groups.

* `groups`: the answer of a `GROUP BY` that counts, in some order; `Arrangement`: in any.
* `tally`: a table of counts that starts with zeros and takes over the rows of an answer.
* `tally_eq_count`: the table holds the number of every value.
* `sum_count`: the counts of all values add up to the number of rows.
* `map_filter_filterMap`: a join that finds every row keeps what is read off the rows.
-/

namespace Grouping

variable {α β : Type*} [DecidableEq α] {l : List α} {rows : List (α × ℕ)}

/-- Every value that occurs, with the number of its occurrences. -/
def groups (l : List α) : List (α × ℕ) := l.dedup.map fun a => (a, l.count a)

/-- The order of the rows of a query that says none. -/
structure Arrangement (α : Type*) where
  arrange : List α → List α
  perm : ∀ rows, (arrange rows).Perm rows

/-- A table of counts, which starts with zeros and takes over the given rows. -/
def tally (rows : List (α × ℕ)) : α → ℕ :=
  rows.foldl (fun counts row => Function.update counts row.1 row.2) fun _ => 0

/-- A value that no row names keeps its count. -/
lemma foldl_update_of_not_mem {a : α} (h : ∀ row ∈ rows, row.1 ≠ a) (counts : α → ℕ) :
    rows.foldl (fun counts row => Function.update counts row.1 row.2) counts a = counts a := by
  induction rows generalizing counts with
  | nil => rfl
  | cons row rows ih =>
      rw [List.foldl_cons, ih fun r hr => h r (List.mem_cons_of_mem _ hr)]
      exact Function.update_of_ne (h row List.mem_cons_self).symm _ _

/-- A value that one row names has the count of the row. -/
lemma foldl_update_of_mem {a : α} {n : ℕ} (hnodup : (rows.map Prod.fst).Nodup) (h : (a, n) ∈ rows)
    (counts : α → ℕ) :
    rows.foldl (fun counts row => Function.update counts row.1 row.2) counts a = n := by
  induction rows generalizing counts with
  | nil => cases h
  | cons row rows ih =>
      rw [List.map_cons, List.nodup_cons] at hnodup
      rw [List.foldl_cons]
      rcases List.mem_cons.mp h with rfl | h
      · rw [foldl_update_of_not_mem fun r hr heq => ?_]
        · exact Function.update_self _ _ _
        · exact hnodup.1 (List.mem_map.mpr ⟨r, hr, heq⟩)
      · exact ih hnodup.2 h _

lemma groups_fst (l : List α) : (groups l).map Prod.fst = l.dedup := by
  rw [groups, List.map_map]
  exact List.map_id _

/-- **The table of an answer** of the `GROUP BY`, in whatever order its rows come. -/
lemma tally_eq_count (h : rows.Perm (groups l)) (a : α) : tally rows a = l.count a := by
  by_cases ha : a ∈ l
  · have hrow : (a, l.count a) ∈ rows := by
      rw [h.mem_iff, groups, List.mem_map]
      exact ⟨a, List.mem_dedup.mpr ha, rfl⟩
    have hnodup : (rows.map Prod.fst).Nodup := by
      rw [(h.map Prod.fst).nodup_iff, groups_fst]
      exact List.nodup_dedup l
    exact foldl_update_of_mem hnodup hrow _
  · rw [List.count_eq_zero_of_not_mem ha]
    refine foldl_update_of_not_mem (fun row hrow heq => ha ?_) _
    have hmem : row.1 ∈ (groups l).map Prod.fst := List.mem_map.mpr ⟨row, h.mem_iff.mp hrow, rfl⟩
    rw [groups_fst, List.mem_dedup] at hmem
    exact heq ▸ hmem

/-- The counts of all values add up to the number of rows. -/
lemma sum_count {values : List α} (hnodup : values.Nodup) (hall : ∀ a ∈ l, a ∈ values) :
    (values.map fun a => l.count a).sum = l.length := by
  calc (values.map fun a => l.count a).sum
      = ∑ a ∈ values.toFinset, l.count a := (List.sum_toFinset _ hnodup).symm
    _ = ∑ a ∈ values.toFinset, (l : Multiset α).count a := by simp
    _ = Multiset.card (l : Multiset α) :=
        Multiset.sum_count_eq_card fun a ha => List.mem_toFinset.mpr (hall a ha)
    _ = l.length := rfl

/-- Counting a value of the rows. -/
lemma count_map_eq_length_filter (f : β → α) (l : List β) (a : α) :
    (l.map f).count a = (l.filter fun b => f b == a).length := by
  rw [List.count, List.countP_map, List.countP_eq_length_filter]
  rfl

omit [DecidableEq α] in
/-- A join that finds every row keeps what is read off the rows. -/
lemma map_filter_filterMap {γ : Type*} {f : β → Option γ} {p : γ → Bool} {q : β → Bool}
    {g : γ → α} {h : β → α} {l : List β}
    (hl : ∀ b ∈ l, ∃ c, f b = some c ∧ p c = q b ∧ g c = h b) :
    ((l.filterMap f).filter p).map g = (l.filter q).map h := by
  induction l with
  | nil => rfl
  | cons b l ih =>
      obtain ⟨c, hc, hp, hg⟩ := hl b List.mem_cons_self
      have hrest := ih fun b hb => hl b (List.mem_cons_of_mem _ hb)
      rw [List.filterMap_cons_some hc]
      by_cases hq : q b = true
      · rw [List.filter_cons_of_pos (hp.trans hq), List.filter_cons_of_pos hq, List.map_cons,
          List.map_cons, hrest, hg]
      · rw [List.filter_cons_of_neg (hp ▸ hq), List.filter_cons_of_neg hq, hrest]

end Grouping
