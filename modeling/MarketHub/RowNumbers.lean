import Mathlib.Data.List.Sort
import Mathlib.Data.List.Nodup
import Mathlib.Data.List.Dedup
import Mathlib.Tactic

/-!
Row numbers.

* `rank key rows a`: the place of `a` among the rows, from 1 on. `map_rank`: along the rows in
  order the ranks are 1, 2, ….
* `rowNumber`, `rowNumberIn`: `row_number()` over all rows, and within the parts of a partition.
* `mem_rowNumberIn_iff`: the number of a row is its rank in its part.
* `updateFrom`: the `UPDATE ... FROM` that stores what a query has computed for the same key.
-/

namespace RowNumbers

variable {α κ ι π β : Type*} [LinearOrder κ]

/-! ### Ranks -/

/-- The place among the rows, from 1 on. -/
def rank (key : α → κ) (rows : List α) (a : α) : ℕ := rows.countP (key · < key a) + 1

/-- In order. -/
def Ascending (key : α → κ) (rows : List α) : Prop := rows.Pairwise fun a b => key a < key b

section Ranks

variable {key : α → κ} {rows rows' : List α} {a b : α}

lemma Ascending.map {key' : β → κ} {f : α → β} (h : Ascending (fun a => key' (f a)) rows) :
    Ascending key' (rows.map f) := List.pairwise_map.mpr h

lemma rank_perm (h : rows.Perm rows') (a : α) : rank key rows a = rank key rows' a := by
  rw [rank, rank, h.countP_eq]

/-- **Along the rows in order** the ranks are 1, 2, …. -/
lemma map_rank (h : Ascending key rows) : rows.map (rank key rows) = List.range' 1 rows.length := by
  induction rows with
  | nil => rfl
  | cons a rows ih =>
      obtain ⟨hfirst, htail⟩ := List.pairwise_cons.mp h
      have hzero : rows.countP (key · < key a) = 0 :=
        List.countP_eq_zero.mpr fun b hb => by simpa using (hfirst b hb).le
      have hnext : ∀ b ∈ rows, rank key (a :: rows) b = 1 + rank key rows b := by
        intro b hb
        have hcount : (a :: rows).countP (key · < key b) = rows.countP (key · < key b) + 1 :=
          List.countP_cons_of_pos (decide_eq_true (hfirst b hb))
        rw [rank, rank, hcount]
        omega
      calc (a :: rows).map (rank key (a :: rows))
          = 1 :: rows.map fun b => 1 + rank key rows b := by
            rw [List.map_cons, List.map_congr_left hnext, rank,
              List.countP_cons_of_neg (by simp), hzero]
        _ = 1 :: (rows.map (rank key rows)).map (1 + ·) := by rw [List.map_map]; rfl
        _ = List.range' 1 (a :: rows).length := by
            rw [ih htail, List.map_add_range', List.length_cons, List.range'_succ]

/-- The merge sort by a key. -/
def sortBy (key : α → κ) (rows : List α) : List α := rows.mergeSort fun a b => key a ≤ key b

lemma sortBy_perm (key : α → κ) (rows : List α) : (sortBy key rows).Perm rows :=
  List.mergeSort_perm rows _

/-- Rows with different keys come in order. -/
lemma ascending_sortBy (h : (rows.map key).Nodup) : Ascending key (sortBy key rows) := by
  have hle : (sortBy key rows).Pairwise fun a b => key a ≤ key b := by
    refine (List.pairwise_mergeSort ?_ ?_ rows).imp fun h => of_decide_eq_true h
    · exact fun a b c hab hbc => decide_eq_true
        ((of_decide_eq_true hab).trans (of_decide_eq_true hbc))
    · intro a b
      simpa using le_total (key a) (key b)
  have hne : (sortBy key rows).Pairwise fun a b => key a ≠ key b :=
    List.pairwise_map.mp (((sortBy_perm key rows).map key).nodup_iff.mpr h)
  exact hle.imp₂ (fun _ _ => lt_of_le_of_ne) hne

/-- **The ranks** of rows with different keys are 1, 2, …. -/
lemma map_rank_perm (h : (rows.map key).Nodup) :
    (rows.map (rank key rows)).Perm (List.range' 1 rows.length) := by
  have hsorted := map_rank (ascending_sortBy h)
  rw [List.map_congr_left fun a _ => rank_perm (sortBy_perm key rows) a,
    (sortBy_perm key rows).length_eq] at hsorted
  rw [← hsorted]
  exact (sortBy_perm key rows).symm.map _

/-- What holds of every rank up to the last one. -/
lemma forall_rank_iff (h : (rows.map key).Nodup) (p : ℕ → Prop) :
    (∀ a ∈ rows, p (rank key rows a)) ↔ ∀ n, 1 ≤ n → n ≤ rows.length → p n := by
  have hmem : ∀ n, (∃ a ∈ rows, rank key rows a = n) ↔ 1 ≤ n ∧ n ≤ rows.length := by
    intro n
    rw [← List.mem_map, (map_rank_perm h).mem_iff, List.mem_range'_1]
    omega
  constructor
  · intro hp n hn hle
    obtain ⟨a, ha, rfl⟩ := (hmem n).mpr ⟨hn, hle⟩
    exact hp a ha
  · intro hp a ha
    obtain ⟨hn, hle⟩ := (hmem _).mp ⟨a, ha, rfl⟩
    exact hp _ hn hle

end Ranks

/-! ### Numbering -/

/-- `row_number() OVER (ORDER BY key)`. -/
def rowNumber (key : α → κ) (rows : List α) : List (α × ℕ) := (sortBy key rows).zipIdx 1

/-- `row_number() OVER (PARTITION BY part ORDER BY key)`. -/
def rowNumberIn [DecidableEq π] (part : α → π) (key : α → κ) (rows : List α) : List (α × ℕ) :=
  (rows.map part).dedup.flatMap fun p => rowNumber key (rows.filter (part · = p))

section Numbering

variable {key : α → κ} {rows : List α} {a : α} {n : ℕ}

/-- **The number of a row** is its rank. -/
lemma rowNumber_eq (h : (rows.map key).Nodup) :
    rowNumber key rows = (sortBy key rows).map fun a => (a, rank key rows a) := by
  have hranks : List.range' 1 (sortBy key rows).length = (sortBy key rows).map (rank key rows) := by
    rw [← map_rank (ascending_sortBy h)]
    exact List.map_congr_left fun a _ => rank_perm (sortBy_perm key rows) a
  have hzip : (sortBy key rows).zip ((sortBy key rows).map (rank key rows))
      = (sortBy key rows).map fun a => (a, rank key rows a) := by
    rw [List.zip_map_right, List.zip, List.zipWith_self, List.map_map]
    rfl
  rw [rowNumber, List.zipIdx_eq_zip_range', hranks, hzip]

lemma mem_rowNumber_iff (h : (rows.map key).Nodup) :
    (a, n) ∈ rowNumber key rows ↔ a ∈ rows ∧ n = rank key rows a := by
  rw [rowNumber_eq h, List.mem_map]
  constructor
  · rintro ⟨b, hb, heq⟩
    cases heq
    exact ⟨(sortBy_perm key rows).mem_iff.mp hb, rfl⟩
  · rintro ⟨ha, rfl⟩
    exact ⟨a, (sortBy_perm key rows).mem_iff.mpr ha, rfl⟩

variable [DecidableEq π] {part : α → π}

omit [LinearOrder κ] in
lemma nodup_filter_map (h : (rows.map key).Nodup) (p : α → Bool) :
    ((rows.filter p).map key).Nodup :=
  h.sublist (List.filter_sublist.map key)

/-- **The number of a row within its part** is its rank there. -/
lemma mem_rowNumberIn_iff (h : (rows.map key).Nodup) :
    (a, n) ∈ rowNumberIn part key rows
      ↔ a ∈ rows ∧ n = rank key (rows.filter (part · = part a)) a := by
  simp only [rowNumberIn, List.mem_flatMap, List.mem_dedup, List.mem_map,
    mem_rowNumber_iff (nodup_filter_map h _), List.mem_filter, decide_eq_true_eq]
  constructor
  · rintro ⟨p, -, ⟨ha, rfl⟩, hn⟩
    exact ⟨ha, hn⟩
  · rintro ⟨ha, hn⟩
    exact ⟨part a, ⟨a, ha, rfl⟩, ⟨ha, rfl⟩, hn⟩

end Numbering

/-! ### Storing the numbers -/

/-- `UPDATE rows SET column = computed.value FROM computed WHERE rows.id = computed.id`. -/
def updateFrom [DecidableEq ι] (id : α → ι) (computed : List (ι × β)) (rows : List (α × Option β)) :
    List (α × Option β) :=
  rows.map fun row => (row.1, ((computed.find? (·.1 = id row.1)).map Prod.snd).or row.2)

section Update

variable [DecidableEq ι] {id : α → ι} {rows : List α} {computed : List (α × β)} {f : α → β}

/-- **What is stored** of a query with one answer for every row. -/
lemma updateFrom_eq (hid : (rows.map id).Nodup)
    (h : ∀ a n, (a, n) ∈ computed ↔ a ∈ rows ∧ n = f a) :
    updateFrom id (computed.map fun x => (id x.1, x.2)) (rows.map (·, none))
      = rows.map fun a => (a, some (f a)) := by
  rw [updateFrom, List.map_map]
  refine List.map_congr_left fun a ha => ?_
  have hfind : (computed.map fun x => (id x.1, x.2)).find? (·.1 = id a) = some (id a, f a) := by
    have hmem : (id a, f a) ∈ computed.map fun x => (id x.1, x.2) :=
      List.mem_map.mpr ⟨(a, f a), (h _ _).mpr ⟨ha, rfl⟩, rfl⟩
    cases hx : (computed.map fun x => (id x.1, x.2)).find? (·.1 = id a) with
    | none => simpa using List.find?_eq_none.mp hx _ hmem
    | some x =>
        -- the row with this key is the row itself
        obtain ⟨⟨b, n⟩, hb, rfl⟩ := List.mem_map.mp (List.mem_of_find?_eq_some hx)
        obtain ⟨hrow, rfl⟩ := (h b n).mp hb
        have hsame : id b = id a := by simpa using List.find?_some hx
        rw [List.inj_on_of_nodup_map hid hrow ha hsame]
  simp only [Function.comp_apply, hfind, Option.map_some, Option.some_or]

end Update

end RowNumbers
