import Mathlib.Data.List.Sort
import Mathlib.Data.List.Count
import Mathlib.Tactic

/-!
Pages of a sorted answer.

A query sorts its rows by a key and leaves the order of rows with one key open; every page
comes from a query of its own, which may decide differently.

* `IsAnswer key rows l`: `l` is an answer of a query for the rows.
* `page size k l`, `pages`: the piece of an answer that a page shows, and the first pages.
* `Straddles`: the rows with the key of a row lie on both sides of a page boundary.
* `pages_answer_iff`: the pages together are an answer, whatever the queries decide, exactly
  when no row straddles.
* `Sorting`: how a query decides; `pages_shown_iff` is the same for pages that show something
  of every row.
* `mem_page_iff`: when one row is on a page, whatever the queries decide.
-/

namespace OffsetPaging

variable {α β κ : Type*} [LinearOrder κ] {key : α → κ} {rows l l' : List α} {size : ℕ}

/-- An answer of a query that sorts the rows by the key. -/
structure IsAnswer (key : α → κ) (rows l : List α) : Prop where
  perm : l.Perm rows
  sorted : l.Pairwise fun a b => key a ≤ key b

/-- The piece of an answer on the page `k`, the first page being `0`. -/
def page (size k : ℕ) (l : List α) : List α := (l.drop (k * size)).take size

/-- The first `n` pages, each of its own answer. -/
def pages (size n : ℕ) (answers : ℕ → List α) : List α :=
  (List.range n).flatMap fun k => page size k (answers k)

/-- How many rows come before those with the key of `a`. -/
def before (key : α → κ) (rows : List α) (a : α) : ℕ := rows.countP fun b => key b < key a

/-- How many rows come before or among those with the key of `a`. -/
def upTo (key : α → κ) (rows : List α) (a : α) : ℕ := rows.countP fun b => key b ≤ key a

/-- The rows with the key of `a` lie on both sides of a page boundary. -/
def Straddles (key : α → κ) (rows : List α) (size : ℕ) (a : α) : Prop :=
  ∃ k, before key rows a < k * size ∧ k * size < upTo key rows a

/-! ### Places in a sorted list -/

lemma IsAnswer.before_eq (h : IsAnswer key rows l) (a : α) : before key l a = before key rows a :=
  h.perm.countP_eq _

lemma IsAnswer.upTo_eq (h : IsAnswer key rows l) (a : α) : upTo key l a = upTo key rows a :=
  h.perm.countP_eq _

section Places

variable {i : ℕ} {a : α}

/-- The first rows and the others of a sorted list. -/
lemma le_of_take_drop (h : l.Pairwise fun a b => key a ≤ key b) (i : ℕ) :
    ∀ a ∈ l.take i, ∀ b ∈ l.drop i, key a ≤ key b := by
  rw [← List.take_append_drop i l, List.pairwise_append] at h
  exact h.2.2

/-- A row among the first has at most as many before it. -/
lemma before_lt_of_mem_take (h : l.Pairwise fun a b => key a ≤ key b) (ha : a ∈ l.take i) :
    before key l a < i := by
  have hsplit : before key l a = (l.take i).countP (fun b => key b < key a)
      + (l.drop i).countP (fun b => key b < key a) := by
    rw [before, ← List.countP_append, List.take_append_drop]
  have hrest : (l.drop i).countP (fun b => key b < key a) = 0 := by
    rw [List.countP_eq_zero]
    intro b hb
    simpa using le_of_take_drop h i a ha b hb
  have hfirst : (l.take i).countP (fun b => key b < key a) < (l.take i).length :=
    List.countP_lt_length_iff.mpr ⟨a, ha, by simp⟩
  have hlength : (l.take i).length ≤ i := List.length_take_le i l
  omega

/-- A row behind the first has them all before or beside it. -/
lemma lt_upTo_of_mem_drop (h : l.Pairwise fun a b => key a ≤ key b) (ha : a ∈ l.drop i) :
    i < upTo key l a := by
  have hsplit : upTo key l a = (l.take i).countP (fun b => key b ≤ key a)
      + (l.drop i).countP (fun b => key b ≤ key a) := by
    rw [upTo, ← List.countP_append, List.take_append_drop]
  have hfirst : (l.take i).countP (fun b => key b ≤ key a) = (l.take i).length := by
    rw [List.countP_eq_length]
    intro b hb
    exact decide_eq_true (le_of_take_drop h i b hb a ha)
  have hself : 0 < (l.drop i).countP (fun b => key b ≤ key a) :=
    List.countP_pos_iff.mpr ⟨a, ha, decide_eq_true le_rfl⟩
  have hlength : (l.take i).length = i :=
    List.length_take_of_le (by
      have := List.length_pos_of_mem ha
      rw [List.length_drop] at this
      omega)
  omega

/-- Where no row straddles, the first rows are the same in every answer. -/
lemma IsAnswer.take_perm (h : IsAnswer key rows l)
    (hfits : ∀ a ∈ rows, ¬ (before key rows a < i ∧ i < upTo key rows a)) :
    (l.take i).Perm (rows.filter fun a => upTo key rows a ≤ i) := by
  have hfilter : l.filter (fun a => upTo key rows a ≤ i) = l.take i := by
    conv_lhs => rw [← List.take_append_drop i l, List.filter_append]
    have hfirst : (l.take i).filter (fun a => upTo key rows a ≤ i) = l.take i := by
      rw [List.filter_eq_self]
      intro a ha
      have hbefore : before key rows a < i := by
        rw [← h.before_eq]
        exact before_lt_of_mem_take h.sorted ha
      have hmem : a ∈ rows := h.perm.mem_iff.mp (List.mem_of_mem_take ha)
      exact decide_eq_true (not_lt.mp fun hlt => hfits a hmem ⟨hbefore, hlt⟩)
    have hrest : (l.drop i).filter (fun a => upTo key rows a ≤ i) = [] := by
      rw [List.filter_eq_nil_iff]
      intro a ha hle
      have hlt := lt_upTo_of_mem_drop h.sorted ha
      rw [h.upTo_eq] at hlt
      exact absurd (of_decide_eq_true hle) (not_le.mpr hlt)
    rw [hfirst, hrest, List.append_nil]
  rw [← hfilter]
  exact h.perm.filter _

/-- The rows on the two sides of a boundary on which `a` straddles have its key. -/
lemma key_eq_of_straddles (h : l.Pairwise fun a b => key a ≤ key b) {l₁ l₂ : List α} {x : α}
    (hl : l = l₁ ++ x :: l₂) (hbefore : before key l a ≤ l₁.length)
    (hupTo : l₁.length < upTo key l a) :
    key x = key a := by
  have hfirst : l.take l₁.length = l₁ := by rw [hl, List.take_left]
  have hdrop : l.drop (l₁.length + 1) = l₂ := by rw [hl, List.drop_append]; simp
  refine le_antisymm (not_lt.mp fun hlt => ?_) (not_lt.mp fun hlt => ?_)
  · -- the rows from `x` on are behind those with the key of `a`
    have hle : upTo key l a ≤ l₁.length := by
      have hsplit : upTo key l a = l₁.countP (fun b => key b ≤ key a)
          + (x :: l₂).countP (fun b => key b ≤ key a) := by
        rw [upTo, hl, List.countP_append]
      have hrest : (x :: l₂).countP (fun b => key b ≤ key a) = 0 := by
        rw [List.countP_eq_zero]
        intro b hb
        have hxb : key x ≤ key b := by
          rw [hl, List.pairwise_append] at h
          rcases List.mem_cons.mp hb with rfl | hb
          · exact le_rfl
          · exact (List.pairwise_cons.mp h.2.1).1 b hb
        simpa using lt_of_lt_of_le hlt hxb
      have hcount : l₁.countP (fun b => key b ≤ key a) ≤ l₁.length := List.countP_le_length
      omega
    omega
  · -- the rows up to `x` are before them
    have hge : l₁.length + 1 ≤ before key l a := by
      have hsplit : before key l a = (l₁ ++ [x]).countP (fun b => key b < key a)
          + l₂.countP (fun b => key b < key a) := by
        rw [before, hl, ← List.countP_append, List.append_assoc, List.singleton_append]
      have hall : (l₁ ++ [x]).countP (fun b => key b < key a) = (l₁ ++ [x]).length := by
        rw [List.countP_eq_length]
        intro b hb
        have hbx : key b ≤ key x := by
          rw [hl, List.pairwise_append] at h
          rcases List.mem_append.mp hb with hb | hb
          · exact h.2.2 b hb x List.mem_cons_self
          · rw [List.mem_singleton.mp hb]
        exact decide_eq_true (lt_of_le_of_lt hbx hlt)
      rw [hall, List.length_append, List.length_singleton] at hsplit
      omega
    omega

end Places

/-! ### Pages of one answer, and of many -/

section Pages

variable {n k : ℕ} {answers : ℕ → List α}

lemma pages_succ : pages size (n + 1) answers = pages size n answers ++ page size n
    (answers n) := by
  rw [pages, List.range_succ, List.flatMap_append, List.flatMap_singleton, pages]

/-- The first rows up to the end of a page. -/
lemma take_succ_mul : l.take ((k + 1) * size) = l.take (k * size) ++ page size k l := by
  rw [page, ← List.take_add]
  congr 1
  ring

/-- The pages of one answer. -/
lemma pages_const : pages size n (fun _ => l) = l.take (n * size) := by
  induction n with
  | zero => simp [pages]
  | succ n ih => rw [pages_succ, ih, take_succ_mul]

/-- The first pages are part of more pages. -/
lemma pages_sublist {m : ℕ} (h : m ≤ n) :
    (pages size m answers).Sublist (pages size n answers) := by
  induction h with
  | refl => exact List.Sublist.refl _
  | step _ ih =>
      rw [pages_succ]
      exact ih.trans (List.sublist_append_left _ _)

/-- Pages depend on the answers of the queries that were made. -/
lemma pages_congr {answers' : ℕ → List α} (h : ∀ k < n, answers k = answers' k) :
    pages size n answers = pages size n answers' := by
  rw [pages, pages, List.flatMap_congr fun k hk => by rw [h k (List.mem_range.mp hk)]]

/-- The first pages, where no row straddles. -/
lemma pages_perm (hfits : ∀ a ∈ rows, ¬ Straddles key rows size a)
    (hanswers : ∀ k, IsAnswer key rows (answers k)) (n : ℕ) :
    (pages size n answers).Perm (rows.filter fun a => upTo key rows a ≤ n * size)
      ∧ (pages size n answers).Pairwise fun a b => key a ≤ key b := by
  have hboundary : ∀ k, ((answers k).take (k * size)).Perm
      (rows.filter fun a => upTo key rows a ≤ k * size)
      ∧ ∀ j, ((answers j).take (k * size)).Perm (rows.filter fun a => upTo key rows a ≤ k * size) :=
    fun k => ⟨(hanswers k).take_perm fun a ha hlt => hfits a ha ⟨k, hlt⟩,
      fun j => (hanswers j).take_perm fun a ha hlt => hfits a ha ⟨k, hlt⟩⟩
  induction n with
  | zero =>
      have hzero := (hboundary 0).1
      rw [Nat.zero_mul, List.take_zero] at hzero
      rw [Nat.zero_mul]
      exact ⟨hzero, List.Pairwise.nil⟩
  | succ n ih =>
      have hpart : (pages size n answers).Perm ((answers n).take (n * size)) :=
        ih.1.trans ((hboundary n).1).symm
      have hsorted := (hanswers n).sorted
      rw [pages_succ]
      refine ⟨?_, List.pairwise_append.mpr ⟨ih.2, ?_, fun a ha b hb => ?_⟩⟩
      · refine (hpart.append_right _).trans ?_
        rw [← take_succ_mul]
        exact (hboundary (n + 1)).2 n
      · exact hsorted.sublist ((List.take_sublist _ _).trans (List.drop_sublist _ _))
      · exact le_of_take_drop hsorted (n * size) a (hpart.mem_iff.mp ha) b (List.mem_of_mem_take hb)

/-- Two neighbours with one key may change places. -/
lemma IsAnswer.swap {l₁ l₂ : List α} {x y : α} (h : IsAnswer key rows (l₁ ++ x :: y :: l₂))
    (hkey : key x = key y) : IsAnswer key rows (l₁ ++ y :: x :: l₂) := by
  refine ⟨((List.Perm.swap x y l₂).append_left l₁).trans h.perm, ?_⟩
  have hsorted := h.sorted
  simp only [List.pairwise_append, List.pairwise_cons, List.mem_cons] at hsorted ⊢
  obtain ⟨h₁, ⟨hx, hy, h₂⟩, hcross⟩ := hsorted
  refine ⟨h₁, ⟨?_, fun b hb => hx b (Or.inr hb), h₂⟩, ?_⟩
  · rintro b (rfl | hb)
    · exact hkey.ge
    · exact hy b hb
  · rintro a ha b (rfl | rfl | hb)
    · exact hcross a ha b (Or.inr (Or.inl rfl))
    · exact hcross a ha b (Or.inl rfl)
    · exact hcross a ha b (Or.inr (Or.inr hb))

/-- Where a row straddles, two answers may show one row on two pages. -/
lemma pages_not_nodup (hsize : 0 < size) (hn : rows.length ≤ n * size) {a : α}
    (h : Straddles key rows size a) :
    ∃ answers, (∀ k, IsAnswer key rows (answers k)) ∧ ¬ (pages size n answers).Nodup := by
  obtain ⟨k, hbefore, hupTo⟩ := h
  have hl : IsAnswer key rows (rows.insertionSort fun a b => key a ≤ key b) :=
    ⟨List.perm_insertionSort _ _, List.pairwise_insertionSort _ _⟩
  generalize rows.insertionSort (fun a b => key a ≤ key b) = l at hl
  rw [← hl.before_eq] at hbefore
  rw [← hl.upTo_eq] at hupTo
  have hlength : upTo key l a ≤ l.length := List.countP_le_length
  have hrows : l.length = rows.length := hl.perm.length_eq
  -- the rows on the two sides of the boundary
  obtain ⟨l₁, x, y, l₂, hsplit, hplace⟩ :
      ∃ l₁ x y l₂, l = l₁ ++ x :: y :: l₂ ∧ l₁.length + 1 = k * size := by
    refine ⟨l.take (k * size - 1), l[k * size - 1], l[k * size], l.drop (k * size + 1), ?_, ?_⟩
    · have hnext : k * size - 1 + 1 = k * size := by omega
      conv_lhs => rw [← List.take_append_drop (k * size - 1) l]
      rw [List.drop_eq_getElem_cons (by omega), hnext, List.drop_eq_getElem_cons (by omega)]
    · rw [List.length_take_of_le (by omega)]
      omega
  have hx : key x = key a := key_eq_of_straddles hl.sorted hsplit (by omega) (by omega)
  have hy : key y = key a := by
    have hsplit' : l = (l₁ ++ [x]) ++ y :: l₂ := by rw [hsplit, List.append_assoc]; rfl
    refine key_eq_of_straddles hl.sorted hsplit' ?_ ?_ <;> simp <;> omega
  have hswap : IsAnswer key rows (l₁ ++ y :: x :: l₂) := by
    rw [hsplit] at hl
    exact hl.swap (hx.trans hy.symm)
  refine ⟨fun j => if j < k then l else l₁ ++ y :: x :: l₂, fun j => ?_, fun hnodup => ?_⟩
  · dsimp only
    split
    · exact hl
    · exact hswap
  · -- `x` is the last row before the boundary in one answer, and the first behind it in the other
    have hk : k < n := by
      by_contra hle
      have hmul : n * size ≤ k * size := Nat.mul_le_mul_right size (not_lt.mp hle)
      omega
    have hsub : (pages size (k + 1) fun j => if j < k then l else l₁ ++ y :: x :: l₂).Sublist
        (pages size n fun j => if j < k then l else l₁ ++ y :: x :: l₂) :=
      pages_sublist hk
    have hfirst : pages size k (fun j => if j < k then l else l₁ ++ y :: x :: l₂) = l₁ ++ [x] := by
      rw [pages_congr fun j hj => if_pos hj, pages_const, ← hplace, hsplit,
        List.append_cons, List.take_left' (by simp)]
    have hnext : page size k (l₁ ++ y :: x :: l₂) = x :: l₂.take (size - 1) := by
      rw [page, ← hplace, List.append_cons, List.drop_left' (by simp),
        ← Nat.succ_pred_eq_of_pos hsize]
      rfl
    have htwice := hnodup.sublist hsub
    rw [pages_succ, hfirst, if_neg (lt_irrefl k), hnext] at htwice
    simp [List.nodup_append] at htwice

/-- **When the pages are an answer**: every row is on exactly one page, and in order, whatever
the queries decide about rows with one key, exactly when no row straddles a page boundary. -/
theorem pages_answer_iff (hsize : 0 < size) (hnodup : rows.Nodup) (hn : rows.length ≤ n * size) :
    (∀ answers, (∀ k, IsAnswer key rows (answers k)) → IsAnswer key rows (pages size n answers))
      ↔ ∀ a ∈ rows, ¬ Straddles key rows size a := by
  constructor
  · intro hall a _ hstraddles
    obtain ⟨answers, hanswers, htwice⟩ := pages_not_nodup hsize hn hstraddles
    exact htwice ((hall answers hanswers).perm.nodup_iff.mpr hnodup)
  · intro hfits answers hanswers
    obtain ⟨hperm, hsorted⟩ := pages_perm hfits hanswers n
    have hall : rows.filter (fun a => upTo key rows a ≤ n * size) = rows :=
      List.filter_eq_self.mpr fun a _ => decide_eq_true (le_trans List.countP_le_length hn)
    rw [hall] at hperm
    exact ⟨hperm, hsorted⟩

end Pages

/-! ### Queries -/

/-- How one query orders the rows it finds. -/
structure Sorting (key : α → κ) where
  sort : List α → List α
  answers : ∀ rows, IsAnswer key rows (sort rows)

namespace Sorting

variable (key) in
/-- Rows with one key stay as they stood. -/
def stable : Sorting key where
  sort := List.insertionSort fun a b => key a ≤ key b
  answers _ := ⟨List.perm_insertionSort _ _, List.pairwise_insertionSort _ _⟩

open scoped Classical in
/-- A query that gives one certain answer. -/
noncomputable def giving (h : IsAnswer key rows l) : Sorting key where
  sort rows' := if rows' = rows then l else (stable key).sort rows'
  answers rows' := by
    split
    · rename_i heq
      rwa [heq]
    · exact (stable key).answers rows'

@[simp] lemma giving_sort (h : IsAnswer key rows l) : (giving h).sort rows = l := if_pos rfl

end Sorting

/-! ### One row -/

section Row

variable {a : α}

/-- A row that stands before or behind all others with its key. -/
lemma exists_answer_beside (hnodup : rows.Nodup) (ha : a ∈ rows) :
    (∃ l₁ l₂, IsAnswer key rows (l₁ ++ a :: l₂) ∧ l₁.length = before key rows a ∧ a ∉ l₁ ++ l₂)
      ∧ ∃ l₁ l₂, IsAnswer key rows (l₁ ++ a :: l₂) ∧ l₁.length + 1 = upTo key rows a
        ∧ a ∉ l₁ ++ l₂ := by
  obtain ⟨r₁, r₂, rfl⟩ := List.append_of_mem ha
  have hs : IsAnswer key (r₁ ++ r₂) ((Sorting.stable key).sort (r₁ ++ r₂)) :=
    (Sorting.stable key).answers _
  generalize (Sorting.stable key).sort (r₁ ++ r₂) = s at hs
  have hmem : a ∉ s := by
    rw [hs.perm.mem_iff]
    exact ((List.nodup_middle).mp hnodup).notMem
  -- the others, split at a threshold that the key of `a` fits between
  have hsplit : ∀ p : α → Bool, (∀ x, p x = true → key x ≤ key a) →
      (∀ x, p x = false → key a ≤ key x) →
      IsAnswer key (r₁ ++ a :: r₂) (s.filter p ++ a :: s.filter fun x => !p x)
        ∧ (s.filter p).length = (r₁ ++ r₂).countP p := by
    intro p hle hge
    refine ⟨⟨?_, ?_⟩, ?_⟩
    · refine List.perm_middle.trans (List.Perm.trans ?_ List.perm_middle.symm)
      exact ((List.filter_append_perm p s).trans hs.perm).cons a
    · refine List.pairwise_append.mpr ⟨hs.sorted.filter _, List.pairwise_cons.mpr
        ⟨fun x hx => hge x (by simpa using (List.mem_filter.mp hx).2), hs.sorted.filter _⟩, ?_⟩
      intro x hx y hy
      have hxa := hle x (List.mem_filter.mp hx).2
      rcases List.mem_cons.mp hy with rfl | hy
      · exact hxa
      · exact hxa.trans (hge y (by simpa using (List.mem_filter.mp hy).2))
    · rw [← List.countP_eq_length_filter]
      exact hs.perm.countP_eq _
  have hnot : ∀ p : α → Bool, a ∉ s.filter p ++ s.filter fun x => !p x := by
    intro p hx
    rcases List.mem_append.mp hx with hx | hx
    · exact hmem (List.mem_of_mem_filter hx)
    · exact hmem (List.mem_of_mem_filter hx)
  -- before all ties, then behind them
  constructor
  · obtain ⟨hanswer, hlength⟩ := hsplit (fun x => key x < key a)
      (fun x hx => (of_decide_eq_true hx).le) fun x hx => not_lt.mp (of_decide_eq_false hx)
    refine ⟨_, _, hanswer, ?_, hnot _⟩
    rw [hlength, before, List.countP_append, List.countP_append, List.countP_cons]
    simp
  · obtain ⟨hanswer, hlength⟩ := hsplit (fun x => key x ≤ key a)
      (fun x hx => of_decide_eq_true hx) fun x hx => (not_le.mp (of_decide_eq_false hx)).le
    refine ⟨_, _, hanswer, ?_, hnot _⟩
    rw [hlength, upTo, List.countP_append, List.countP_append, List.countP_cons]
    simp
    omega

/-- A page is a part of the first rows, and of the others. -/
lemma page_sublist_take {k : ℕ} : (page size k l).Sublist (l.take ((k + 1) * size)) := by
  rw [take_succ_mul]
  exact List.sublist_append_right _ _

lemma page_sublist_drop {k : ℕ} : (page size k l).Sublist (l.drop (k * size)) :=
  List.take_sublist _ _

/-- **When a row is on a page**, whatever the queries decide: exactly when it does not straddle, and
then it is on the page of the rows before it. -/
theorem mem_page_iff {P : ℕ → Prop} (hsize : 0 < size) (hnodup : rows.Nodup) (ha : a ∈ rows) :
    (∀ answers : ℕ → List α, (∀ k, IsAnswer key rows (answers k)) →
        ∃ k, P k ∧ a ∈ page size k (answers k))
      ↔ ¬ Straddles key rows size a ∧ P (before key rows a / size) := by
  have hdiv := Nat.div_add_mod (before key rows a) size
  have hmod := Nat.mod_lt (before key rows a) hsize
  rw [Nat.mul_comm] at hdiv
  constructor
  · -- shown for every answer: take answers that put the row late, then early
    intro hall
    have hstraddles : ¬ Straddles key rows size a := by
      rintro ⟨m, hbefore, hupTo⟩
      have hbeside : (∃ l₁ l₂, IsAnswer key rows (l₁ ++ a :: l₂)
            ∧ l₁.length = before key rows a ∧ a ∉ l₁ ++ l₂)
          ∧ ∃ l₁ l₂, IsAnswer key rows (l₁ ++ a :: l₂) ∧ l₁.length + 1 = upTo key rows a
            ∧ a ∉ l₁ ++ l₂ := exists_answer_beside hnodup ha
      obtain ⟨⟨l₁, l₂, hfirst, hlength, hnot⟩, l₁', l₂', hlast, hlength', hnot'⟩ := hbeside
      -- before the boundary the row comes last, and behind it first
      obtain ⟨k, -, hk⟩ := hall (fun k => if k < m then l₁' ++ a :: l₂' else l₁ ++ a
          :: l₂) fun k => by
        split
        · exact hlast
        · exact hfirst
      rw [List.mem_append, not_or] at hnot hnot'
      split at hk
      · rename_i hlt
        have hle : (k + 1) * size ≤ l₁'.length :=
          le_trans (Nat.mul_le_mul_right size hlt) (by omega)
        have hmem := page_sublist_take.subset hk
        rw [List.take_append_of_le_length hle] at hmem
        exact hnot'.1 (List.mem_of_mem_take hmem)
      · rename_i hge
        have hle : l₁.length < k * size :=
          lt_of_lt_of_le (by omega) (Nat.mul_le_mul_right size (not_lt.mp hge))
        have hmem := page_sublist_drop.subset hk
        rw [List.append_cons, List.drop_append] at hmem
        rcases List.mem_append.mp hmem with hmem | hmem
        · rw [List.drop_of_length_le (by simpa using hle)] at hmem
          cases hmem
        · exact hnot.2 (List.mem_of_mem_drop hmem)
    -- any one answer names the page
    refine ⟨hstraddles, ?_⟩
    obtain ⟨k, hP, hk⟩ := hall (fun _ => (Sorting.stable key).sort rows) fun _ =>
      (Sorting.stable key).answers rows
    have hanswer := (Sorting.stable key).answers rows
    have hlow := before_lt_of_mem_take hanswer.sorted (page_sublist_take.subset hk)
    have hhigh := lt_upTo_of_mem_drop hanswer.sorted (page_sublist_drop.subset hk)
    rw [hanswer.before_eq] at hlow
    rw [hanswer.upTo_eq] at hhigh
    have hge : k * size ≤ before key rows a := not_lt.mp fun hlt => hstraddles ⟨k, hlt, hhigh⟩
    rwa [Nat.div_eq_of_lt_le hge hlow]
  · -- no boundary lies among the ties, so every answer has the row on that page
    rintro ⟨hstraddles, hP⟩ answers hanswers
    refine ⟨_, hP, ?_⟩
    generalize before key rows a / size = k at hdiv
    have hanswer := hanswers k
    have hupTo : upTo key rows a ≤ (k + 1) * size :=
      not_lt.mp fun hlt => hstraddles ⟨k + 1, by rw [Nat.add_mul]; omega, hlt⟩
    have hmem := hanswer.perm.mem_iff.mpr ha
    rw [← List.take_append_drop ((k + 1) * size) (answers k), take_succ_mul] at hmem
    rcases List.mem_append.mp hmem with hmem | hmem
    · rcases List.mem_append.mp hmem with hmem | hmem
      · have hlt := before_lt_of_mem_take hanswer.sorted hmem
        rw [hanswer.before_eq] at hlt
        omega
      · exact hmem
    · have hlt := lt_upTo_of_mem_drop hanswer.sorted hmem
      rw [hanswer.upTo_eq] at hlt
      omega

end Row

/-! ### All rows -/

/-- **When the pages show every row once**: pages that show something different of every row
show the rows of one answer, whatever the queries decide about rows with one key, exactly when
no row straddles a page boundary. -/
theorem pages_shown_iff {γ : Type*} {n : ℕ} {f : α → γ} (hsize : 0 < size)
    (hf : (rows.map f).Nodup) (hn : rows.length ≤ n * size) :
    (∀ sortings : ℕ → Sorting key, ∃ l, IsAnswer key rows l ∧
        ((List.range n).flatMap fun k => (page size k ((sortings k).sort rows)).map f) = l.map f)
      ↔ ∀ a ∈ rows, ¬ Straddles key rows size a := by
  have hshown : ∀ answers : ℕ → List α,
      ((List.range n).flatMap fun k => (page size k (answers k)).map f)
        = (pages size n answers).map f := fun answers => by
    rw [pages, List.map_flatMap]
  constructor
  · intro hall a _ hstraddles
    obtain ⟨answers, hanswers, htwice⟩ := pages_not_nodup hsize hn hstraddles
    obtain ⟨l, hl, hshow⟩ := hall fun k => Sorting.giving (hanswers k)
    refine htwice ?_
    have hnodup : ((pages size n answers).map f).Nodup := by
      rw [hshown] at hshow
      simp only [Sorting.giving_sort] at hshow
      rw [hshow]
      exact (hl.perm.map f).nodup_iff.mpr hf
    exact hnodup.of_map f
  · intro hfits sortings
    exact ⟨_, (pages_answer_iff hsize (hf.of_map f) hn).mpr hfits _ fun k =>
      (sortings k).answers rows,
      hshown _⟩

end OffsetPaging
