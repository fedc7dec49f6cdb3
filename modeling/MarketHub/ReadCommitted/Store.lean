import Mathlib.Data.List.AList
import Mathlib.Algebra.BigOperators.Group.Finset.Basic
import Mathlib.Algebra.BigOperators.Group.List.Basic
import Mathlib.Tactic

/-!
Stores of rows and the private versions a transaction keeps of them.

A store maps keys to rows, the type of a row depending on its key; `K` plays the
part of all primary keys of all tables together.

* **Weights.** `total w st` adds a weight over all rows of a store. It is the
  shape of every accounting invariant, and `total_insert` and `total_erase` say
  how one write moves it.
* **Held rows.** A transaction that has locked a row keeps the committed version
  it locked (`Held.base`) and its own, not yet committed version (`Held.cur`).
  `merge st held` is the store after those versions are committed; `lookup_merge`
  reads one row of it, and `total_merge` says that committing moves a weight by
  the `drift` of the held rows, provided the locked versions are still the
  committed ones (`Agrees`).
-/

namespace ReadCommitted

variable {K : Type} {Row : K → Type}

/-- A store: finitely many rows under distinct keys. -/
abbrev Store (Row : K → Type) := AList Row

/-! ### Weights -/

/-- The weight of all rows of a store together. -/
def total (w : (k : K) → Row k → ℤ) (st : Store Row) : ℤ :=
  (st.entries.map fun e => w e.1 e.2).sum

/-- The weight of a row that may be absent. -/
def weigh (w : (k : K) → Row k → ℤ) (k : K) (r : Option (Row k)) : ℤ :=
  r.elim 0 (w k)

@[simp] lemma weigh_none (w : (k : K) → Row k → ℤ) (k : K) : weigh w k none = 0 := rfl

@[simp] lemma weigh_some (w : (k : K) → Row k → ℤ) (k : K) (r : Row k) :
    weigh w k (some r) = w k r := rfl

/-- A total splits over a sum of weights. -/
lemma total_add (w v : (k : K) → Row k → ℤ) (st : Store Row) :
    total (fun k r => w k r + v k r) st = total w st + total v st :=
  List.sum_map_add

variable [DecidableEq K]

/-- Taking the entry of a key out of a list with distinct keys takes its weight
out of the sum. -/
lemma sum_kerase (w : (k : K) → Row k → ℤ) (k : K) (l : List (Sigma Row)) :
    ((l.kerase k).map fun e => w e.1 e.2).sum
      = (l.map fun e => w e.1 e.2).sum - weigh w k (l.dlookup k) := by
  induction l with
  | nil => simp
  | cons e l ih =>
      obtain ⟨k', r⟩ := e
      by_cases h : k = k'
      · subst h
        simp
      · rw [List.kerase_cons_ne h, List.dlookup_cons_ne _ _ h]
        simp only [List.map_cons, List.sum_cons, ih]
        ring

/-- Writing a row replaces the weight of its old version by that of the new one. -/
lemma total_insert (w : (k : K) → Row k → ℤ) (k : K) (r : Row k) (st : Store Row) :
    total w (st.insert k r) = total w st + w k r - weigh w k (st.lookup k) := by
  simp only [total, AList.entries_insert, List.map_cons, List.sum_cons, sum_kerase, AList.lookup]
  ring

/-- Deleting a row takes its weight away. -/
lemma total_erase (w : (k : K) → Row k → ℤ) (k : K) (st : Store Row) :
    total w (st.erase k) = total w st - weigh w k (st.lookup k) :=
  sum_kerase w k st.entries

/-- A weight that vanishes on every row of a store vanishes in total. -/
lemma total_eq_zero {w : (k : K) → Row k → ℤ} {st : Store Row}
    (h : ∀ k r, st.lookup k = some r → w k r = 0) : total w st = 0 := by
  refine List.sum_eq_zero fun x hx => ?_
  obtain ⟨e, he, rfl⟩ := List.mem_map.mp hx
  exact h e.1 e.2 (AList.mem_lookup_iff.mpr he)

/-- Two weights that agree on the rows of a store have the same total. -/
lemma total_congr {w w' : (k : K) → Row k → ℤ} {st : Store Row}
    (h : ∀ k r, st.lookup k = some r → w k r = w' k r) : total w st = total w' st := by
  refine congrArg List.sum (List.map_congr_left fun e he => ?_)
  exact h e.1 e.2 (AList.mem_lookup_iff.mpr he)

/-- A weight that vanishes on every row but one is the weight of that row. -/
lemma total_eq_weigh {w : (k : K) → Row k → ℤ} {st : Store Row} {k : K}
    (h : ∀ k' r, k' ≠ k → st.lookup k' = some r → w k' r = 0) :
    total w st = weigh w k (st.lookup k) := by
  have hrest : total w (st.erase k) = 0 := by
    refine total_eq_zero fun k' r hr => ?_
    by_cases hkk : k' = k
    · subst hkk
      rw [AList.lookup_erase] at hr
      cases hr
    · rw [AList.lookup_erase_ne hkk] at hr
      exact h k' r hkk hr
  rw [total_erase] at hrest
  omega

/-- A total, as a sum over keys. -/
lemma total_eq_sum {w : (k : K) → Row k → ℤ} {st : Store Row} {F : Finset K}
    (hF : ∀ k ∈ st.keys, k ∈ F) : total w st = ∑ k ∈ F, weigh w k (st.lookup k) := by
  have hkeys : total w st = ∑ k ∈ st.keys.toFinset, weigh w k (st.lookup k) := by
    rw [List.sum_toFinset _ st.keys_nodup, total, AList.keys, List.keys, List.map_map]
    refine congrArg List.sum (List.map_congr_left fun e he => ?_)
    rw [Function.comp_apply, AList.mem_lookup_iff.mpr he]
    rfl
  rw [hkeys]
  refine Finset.sum_subset (fun k hk => hF k (List.mem_toFinset.mp hk)) fun k _ hk => ?_
  rw [List.mem_toFinset] at hk
  rw [AList.lookup_eq_none.mpr hk, weigh_none]

/-- Two stores with the same weights have the same total. -/
lemma total_eq_of_weigh {w : (k : K) → Row k → ℤ} {st st' : Store Row}
    (h : ∀ k, weigh w k (st.lookup k) = weigh w k (st'.lookup k)) : total w st = total w st' := by
  have hst : ∀ k ∈ st.keys, k ∈ st.keys.toFinset ∪ st'.keys.toFinset := fun k hk =>
    Finset.mem_union_left _ (List.mem_toFinset.mpr hk)
  have hst' : ∀ k ∈ st'.keys, k ∈ st.keys.toFinset ∪ st'.keys.toFinset := fun k hk =>
    Finset.mem_union_right _ (List.mem_toFinset.mpr hk)
  rw [total_eq_sum hst, total_eq_sum hst']
  exact Finset.sum_congr rfl fun k _ => h k

/-- Two stores that differ in the weight of one row only. -/
lemma total_sub_eq_of_weigh {w : (k : K) → Row k → ℤ} {st st' : Store Row} {k : K}
    (h : ∀ k', k' ≠ k → weigh w k' (st.lookup k') = weigh w k' (st'.lookup k')) :
    total w st - weigh w k (st.lookup k) = total w st' - weigh w k (st'.lookup k) := by
  rw [← total_erase, ← total_erase]
  refine total_eq_of_weigh fun k' => ?_
  by_cases hk : k' = k
  · subst hk
    rw [AList.lookup_erase, AList.lookup_erase]
  · rw [AList.lookup_erase_ne hk, AList.lookup_erase_ne hk, h k' hk]

/-! ### Held rows -/

/-- A row a transaction has locked: the committed version at the time of the lock
and the transaction's own version, either of which may be absent. -/
structure Held (Row : K → Type) (k : K) where
  base : Option (Row k)
  cur : Option (Row k)

/-- Put one private version into a store. -/
def put (e : Sigma (Held Row)) (st : Store Row) : Store Row :=
  match e.2.cur with
  | some r => st.insert e.1 r
  | none => st.erase e.1

/-- The store with the private versions of a transaction put in. -/
def merge (st : Store Row) (held : AList (Held Row)) : Store Row :=
  held.entries.foldr put st

lemma lookup_put_self (e : Sigma (Held Row)) (st : Store Row) :
    (put e st).lookup e.1 = e.2.cur := by
  rw [put]
  split
  · rename_i r h
    rw [AList.lookup_insert, h]
  · rename_i h
    rw [AList.lookup_erase, h]

lemma lookup_put_ne {e : Sigma (Held Row)} {k : K} (h : k ≠ e.1) (st : Store Row) :
    (put e st).lookup k = st.lookup k := by
  rw [put]
  split
  · exact AList.lookup_insert_ne h
  · exact AList.lookup_erase_ne h

lemma lookup_foldr_put (l : List (Sigma (Held Row))) (st : Store Row) (k : K) :
    (l.foldr put st).lookup k
      = match l.dlookup k with
        | some h => h.cur
        | none => st.lookup k := by
  induction l with
  | nil => rfl
  | cons e l ih =>
      by_cases h : k = e.1
      · subst h
        rw [List.foldr_cons, lookup_put_self, List.dlookup_cons_eq]
      · rw [List.foldr_cons, lookup_put_ne h, ih, List.dlookup_cons_ne _ _ h]

/-- A row after a merge: the private version where there is one. -/
lemma lookup_merge (st : Store Row) (held : AList (Held Row)) (k : K) :
    (merge st held).lookup k
      = match held.lookup k with
        | some h => h.cur
        | none => st.lookup k :=
  lookup_foldr_put held.entries st k

lemma lookup_merge_of_held {st : Store Row} {held : AList (Held Row)} {k : K} {h : Held Row k}
    (hk : held.lookup k = some h) : (merge st held).lookup k = h.cur := by
  rw [lookup_merge, hk]

lemma lookup_merge_of_not_held {st : Store Row} {held : AList (Held Row)} {k : K}
    (hk : held.lookup k = none) : (merge st held).lookup k = st.lookup k := by
  rw [lookup_merge, hk]

/-- The locked versions are the committed ones: what a row lock guarantees as
long as it is held. -/
def Agrees (held : AList (Held Row)) (st : Store Row) : Prop :=
  ∀ k h, held.lookup k = some h → st.lookup k = h.base

lemma agrees_empty (st : Store Row) : Agrees (∅ : AList (Held Row)) st := by
  intro k h hk
  simp at hk

/-- Two transactions hold no row in common. -/
def Apart (held held' : AList (Held Row)) : Prop :=
  ∀ k, held.lookup k = none ∨ held'.lookup k = none

lemma Apart.symm {held held' : AList (Held Row)} (h : Apart held held') : Apart held' held :=
  fun k => (h k).symm

lemma apart_empty (held : AList (Held Row)) : Apart held ∅ := fun k => Or.inr (by simp)

/-- A commit leaves the locked versions of every other transaction committed. -/
lemma Agrees.merge_of_apart {held held' : AList (Held Row)} {st : Store Row}
    (h : Agrees held st) (hap : Apart held held') : Agrees held (merge st held') := by
  intro k hk hlook
  have hnone : held'.lookup k = none := by
    rcases hap k with h' | h'
    · rw [h'] at hlook
      cases hlook
    · exact h'
  rw [lookup_merge_of_not_held hnone]
  exact h k hk hlook

/-! ### The drift of held rows -/

/-- What one private version adds to a weight that reads `w` before the commit
and `w'` after it. -/
def gain (w w' : (k : K) → Row k → ℤ) (k : K) (h : Held Row k) : ℤ :=
  weigh w' k h.cur - weigh w k h.base

/-- What the private versions of a transaction add to a weight. -/
def drift (w w' : (k : K) → Row k → ℤ) (held : AList (Held Row)) : ℤ :=
  total (gain w w') held

lemma drift_insert (w w' : (k : K) → Row k → ℤ) (held : AList (Held Row)) (k : K)
    (h : Held Row k) :
    drift w w' (held.insert k h)
      = drift w w' held + gain w w' k h - weigh (gain w w') k (held.lookup k) :=
  total_insert (gain w w') k h held

lemma total_put (w : (k : K) → Row k → ℤ) (e : Sigma (Held Row)) (st : Store Row) :
    total w (put e st) = total w st + weigh w e.1 e.2.cur - weigh w e.1 (st.lookup e.1) := by
  rw [put]
  split
  · rename_i r h
    rw [total_insert, h, weigh_some]
  · rename_i h
    rw [total_erase, h, weigh_none]
    ring

lemma total_foldr_put (w : (k : K) → Row k → ℤ) (st : Store Row) :
    ∀ l : List (Sigma (Held Row)), l.NodupKeys →
      (∀ e ∈ l, st.lookup e.1 = e.2.base) →
      total w (l.foldr put st) = total w st + (l.map fun e => gain w w e.1 e.2).sum
  | [], _, _ => by simp
  | e :: l, hnd, hbase => by
      have ih := total_foldr_put w st l (List.nodupKeys_of_nodupKeys_cons hnd)
        (fun e' he' => hbase e' (List.mem_cons_of_mem _ he'))
      have hfresh : l.dlookup e.1 = none :=
        List.dlookup_eq_none.mpr (List.notMem_keys_of_nodupKeys_cons hnd)
      have hlook : (l.foldr put st).lookup e.1 = e.2.base := by
        rw [lookup_foldr_put, hfresh]
        exact hbase e List.mem_cons_self
      rw [List.foldr_cons, total_put, ih, hlook, List.map_cons, List.sum_cons, gain]
      ring

/-- A weight that vanishes outside the held rows is carried by their committed
versions. -/
lemma total_of_held {d : (k : K) → Row k → ℤ} {st : Store Row} {held : AList (Held Row)}
    (hag : Agrees held st) (hoff : ∀ k r, held.lookup k = none → st.lookup k = some r → d k r = 0) :
    total d st = (held.entries.map fun e => weigh d e.1 e.2.base).sum := by
  -- drop every held row from the store: nothing of the weight is left
  let dropped : List (Sigma (Held Row)) := held.entries.map fun e => ⟨e.1, ⟨e.2.base, none⟩⟩
  have hkeys : dropped.keys = held.entries.keys := by
    simp [dropped, List.keys, Function.comp_def]
  have hnd : dropped.NodupKeys := by
    rw [List.NodupKeys, hkeys]
    exact held.nodupKeys
  have hbase : ∀ e ∈ dropped, st.lookup e.1 = e.2.base := by
    intro e he
    obtain ⟨e', he', rfl⟩ := List.mem_map.mp he
    exact hag e'.1 e'.2 (AList.mem_lookup_iff.mpr he')
  have hzero : total d (dropped.foldr put st) = 0 := by
    refine total_eq_zero fun k r hk => ?_
    rw [lookup_foldr_put] at hk
    split at hk
    · rename_i h hlook
      obtain ⟨e, -, he⟩ := List.mem_map.mp (List.of_mem_dlookup hlook)
      cases he
      cases hk
    · rename_i hlook
      refine hoff k r ?_ hk
      have hmem : k ∉ held.entries.keys := hkeys ▸ List.dlookup_eq_none.mp hlook
      exact List.dlookup_eq_none.mpr hmem
  have hsum := total_foldr_put d st dropped hnd hbase
  have hgain : (dropped.map fun e => gain d d e.1 e.2).sum
      = -(held.entries.map fun e => weigh d e.1 e.2.base).sum := by
    simp only [dropped, List.map_map, Function.comp_def, gain, weigh_none, zero_sub]
    rw [List.sum_neg, List.map_map]
    rfl
  rw [hzero, hgain] at hsum
  omega

/-- Committing moves a weight by the drift of the held rows; the weight may itself
change with the commit, but only on rows the transaction holds. -/
lemma total_merge {w w' : (k : K) → Row k → ℤ} {st : Store Row} {held : AList (Held Row)}
    (hag : Agrees held st)
    (hsame : ∀ k r, held.lookup k = none → st.lookup k = some r → w' k r = w k r) :
    total w' (merge st held) = total w st + drift w w' held := by
  have hbase : ∀ e ∈ held.entries, st.lookup e.1 = e.2.base := fun e he =>
    hag e.1 e.2 (AList.mem_lookup_iff.mpr he)
  have hmerge : total w' (merge st held)
      = total w' st + (held.entries.map fun e => gain w' w' e.1 e.2).sum :=
    total_foldr_put w' st held.entries held.nodupKeys hbase
  have hchange : total w' st - total w st
      = (held.entries.map fun e => weigh (fun k r => w' k r - w k r) e.1 e.2.base).sum := by
    rw [← total_of_held hag fun k r hk hr => by rw [hsame k r hk hr, sub_self]]
    have hadd := total_add w (fun k r => w' k r - w k r) st
    simp only [add_sub_cancel] at hadd
    rw [hadd]
    ring
  have hdrift : drift w w' held
      = (held.entries.map fun e => gain w' w' e.1 e.2).sum
        + (held.entries.map fun e => weigh (fun k r => w' k r - w k r) e.1 e.2.base).sum := by
    rw [drift, total, ← List.sum_map_add]
    refine congrArg List.sum (List.map_congr_left fun e _ => ?_)
    cases hb : e.2.base <;> simp [gain, hb]
  rw [hmerge, hdrift]
  omega

end ReadCommitted
