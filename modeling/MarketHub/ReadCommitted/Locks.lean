import MarketHub.ReadCommitted.Program

/-!
What one step of a session does to the rows it holds.

The session operations are read off key by key (`lookup_lock`, `lookup_write`, and
the simp lemmas saying which operation leaves which field alone), and `Extends`
collects what every step has in common: rows held before are still held over the
same committed version, and a row taken by the step is taken over its committed
version and is held by nobody else (`eval_extends`). The two consequences the
interleaving semantics lives on are `Extends.agrees` and `Extends.apart`.
-/

namespace ReadCommitted

variable {K : Type} [DecidableEq K] {Row : K → Type} {Ev : Type}

namespace Session

variable (st v : Store Row) (s : Session Row Ev) (k : K)

/-! ### The fields each operation leaves alone -/

@[simp] lemma lock_objects : (s.lock st k).objects = s.objects := by
  rw [lock]; split <;> rfl

@[simp] lemma lock_pending : (s.lock st k).pending = s.pending := by
  rw [lock]; split <;> rfl

@[simp] lemma write_objects (r : Option (Row k)) : (s.write st k r).objects = s.objects := rfl

@[simp] lemma write_pending (r : Option (Row k)) : (s.write st k r).pending = s.pending := rfl

@[simp] lemma load_held : (s.load v k).held = s.held := by
  rw [load]; split <;> rfl

@[simp] lemma load_pending : (s.load v k).pending = s.pending := by
  rw [load]; split <;> rfl

@[simp] lemma sync_held (r : Row k) : (s.sync k r).held = s.held := rfl

@[simp] lemma sync_pending (r : Row k) : (s.sync k r).pending = s.pending := rfl

@[simp] lemma follow_held (m : Row k → Bool) (f : Row k → Row k) :
    (s.follow k m f).held = s.held := by
  rw [follow]
  split
  · split <;> rfl
  · rfl

@[simp] lemma follow_pending (m : Row k → Bool) (f : Row k → Row k) :
    (s.follow k m f).pending = s.pending := by
  rw [follow]
  split
  · split <;> rfl
  · rfl

@[simp] lemma foldl_load_held (ks : List K) : (ks.foldl (load v) s).held = s.held := by
  induction ks generalizing s with
  | nil => rfl
  | cons k ks ih => rw [List.foldl_cons, ih, load_held]

@[simp] lemma foldl_load_pending (ks : List K) : (ks.foldl (load v) s).pending = s.pending := by
  induction ks generalizing s with
  | nil => rfl
  | cons k ks ih => rw [List.foldl_cons, ih, load_pending]

@[simp] lemma foldl_lock_objects (ks : List K) : (ks.foldl (lock st) s).objects = s.objects := by
  induction ks generalizing s with
  | nil => rfl
  | cons k ks ih => rw [List.foldl_cons, ih, lock_objects]

@[simp] lemma foldl_lock_pending (ks : List K) : (ks.foldl (lock st) s).pending = s.pending := by
  induction ks generalizing s with
  | nil => rfl
  | cons k ks ih => rw [List.foldl_cons, ih, lock_pending]

/-! ### The held rows, key by key -/

lemma lookup_lock_self :
    (s.lock st k).held.lookup k = some ((s.held.lookup k).getD ⟨st.lookup k, st.lookup k⟩) := by
  rw [lock]
  split
  · rename_i h hk
    rw [hk]; rfl
  · rename_i hk
    rw [hk, AList.lookup_insert]; rfl

lemma lookup_lock_ne {k' : K} (h : k' ≠ k) : (s.lock st k).held.lookup k' = s.held.lookup k' := by
  rw [lock]
  split
  · rfl
  · exact AList.lookup_insert_ne h

lemma lookup_write_self (r : Option (Row k)) :
    (s.write st k r).held.lookup k
      = some ⟨((s.held.lookup k).getD ⟨st.lookup k, st.lookup k⟩).base, r⟩ := by
  rw [write, AList.lookup_insert]
  cases s.held.lookup k <;> rfl

lemma lookup_write_ne {k' : K} (h : k' ≠ k) (r : Option (Row k)) :
    (s.write st k r).held.lookup k' = s.held.lookup k' :=
  AList.lookup_insert_ne h

end Session

/-! ### What a step does to the held rows -/

/-- The held rows of `s'` extend those of `s`, the new ones being free. -/
structure Extends (st : Store Row) (busy : Busy Row) (s s' : Session Row Ev) : Prop where
  kept : ∀ k h, s.held.lookup k = some h → ∃ h', s'.held.lookup k = some h' ∧ h'.base = h.base
  fresh : ∀ k h', s.held.lookup k = none → s'.held.lookup k = some h' →
    h'.base = st.lookup k ∧ busy.locked k = false

namespace Extends

variable {st : Store Row} {busy : Busy Row} {s s' s'' : Session Row Ev} {k : K}

lemma of_held_eq (h : s'.held = s.held) : Extends st busy s s' where
  kept k h' hk := ⟨h', by rw [h]; exact hk, rfl⟩
  fresh k h' hk hk' := by
    rw [h, hk] at hk'
    cases hk'

lemma trans (h : Extends st busy s s') (h' : Extends st busy s' s'') : Extends st busy s s'' where
  kept k hd hk := by
    obtain ⟨hd', hk', hb'⟩ := h.kept k hd hk
    obtain ⟨hd'', hk'', hb''⟩ := h'.kept k hd' hk'
    exact ⟨hd'', hk'', hb''.trans hb'⟩
  fresh k hd'' hk hk'' := by
    cases hmid : s'.held.lookup k with
    | none => exact h'.fresh k hd'' hmid hk''
    | some hd' =>
        obtain ⟨hd₂, hk₂, hb₂⟩ := h'.kept k hd' hmid
        rw [hk₂] at hk''
        cases hk''
        rw [hb₂]
        exact h.fresh k hd' hk hmid

/-- Replacing or adding one held row over the right committed version. -/
lemma of_insert {hd : Held Row k} (hheld : s'.held = s.held.insert k hd)
    (hbase : hd.base = ((s.held.lookup k).getD ⟨st.lookup k, st.lookup k⟩).base)
    (hfree : s.held.lookup k = none → busy.locked k = false) : Extends st busy s s' where
  kept k' h' hk' := by
    by_cases hkk : k' = k
    · subst hkk
      refine ⟨hd, by rw [hheld, AList.lookup_insert], ?_⟩
      rw [hbase, hk']
      rfl
    · exact ⟨h', by rw [hheld, AList.lookup_insert_ne hkk, hk'], rfl⟩
  fresh k' h' hk' hk'' := by
    by_cases hkk : k' = k
    · subst hkk
      rw [hheld, AList.lookup_insert] at hk''
      cases hk''
      exact ⟨by rw [hbase, hk']; rfl, hfree hk'⟩
    · rw [hheld, AList.lookup_insert_ne hkk, hk'] at hk''
      cases hk''

lemma lock (hfree : s.held.lookup k = none → busy.locked k = false) :
    Extends st busy s (s.lock st k) := by
  cases hk : s.held.lookup k with
  | some h =>
      refine of_held_eq ?_
      rw [Session.lock, hk]
  | none =>
      have hheld : (s.lock st k).held = s.held.insert k ⟨st.lookup k, st.lookup k⟩ := by
        rw [Session.lock, hk]
      refine of_insert hheld ?_ fun _ => hfree hk
      rw [hk]
      rfl

lemma write (hfree : s.held.lookup k = none → busy.locked k = false) (r : Option (Row k)) :
    Extends st busy s (s.write st k r) := by
  refine of_insert rfl ?_ hfree
  cases hk : s.held.lookup k with
  | some h => rfl
  | none => rfl

lemma locks {ks : List K} (hfree : ks.any busy.locked = false) :
    Extends st busy s (ks.foldl (Session.lock st) s) := by
  induction ks generalizing s with
  | nil => exact of_held_eq rfl
  | cons k ks ih =>
      rw [List.any_cons, Bool.or_eq_false_iff] at hfree
      exact (lock fun _ => hfree.1).trans (ih hfree.2)

/-- Rows held over their committed versions stay so. -/
lemma agrees (h : Extends st busy s s') (hag : Agrees s.held st) : Agrees s'.held st := by
  intro k hd' hk'
  cases hk : s.held.lookup k with
  | none => exact ((h.fresh k hd' hk hk').1).symm
  | some hd =>
      obtain ⟨hd₂, hk₂, hb₂⟩ := h.kept k hd hk
      rw [hk₂] at hk'
      cases hk'
      rw [hb₂]
      exact hag k hd hk

/-- A session that holds no row of another one still holds none. -/
lemma apart (h : Extends st busy s s') {held : AList (Held Row)} (hap : Apart s.held held)
    (hbusy : ∀ k, held.lookup k ≠ none → busy.locked k = true) : Apart s'.held held := by
  intro k
  cases hk' : s'.held.lookup k with
  | none => exact Or.inl rfl
  | some hd' =>
      refine Or.inr ?_
      cases hk : s.held.lookup k with
      | some hd =>
          rcases hap k with h' | h'
          · rw [hk] at h'
            cases h'
          · exact h'
      | none =>
          by_contra hne
          have h1 := hbusy k hne
          rw [(h.fresh k hd' hk hk').2] at h1
          cases h1

end Extends

/-- Every step of a session extends the rows it holds. -/
lemma eval_extends [∀ k, DecidableEq (Row k)] [Table Row] {β : Type} {op : Op Row Ev β}
    {c : Choice} {busy : Busy Row} {st : Store Row} {s s' : Session Row Ev} {b : β}
    (h : op.eval c busy st s = some (b, s')) : Extends st busy s s' := by
  -- an operation that takes a lock or writes a row has asked `busy` before
  cases op with
  | utcnow => cases h; exact .of_held_eq rfl
  | uuid4 => cases h; exact .of_held_eq rfl
  | select skip rows ents locks =>
      simp only [Op.eval] at h
      split at h
      · cases h; exact .of_held_eq rfl
      · split at h
        · cases h
        · rename_i hfree
          cases h
          exact (Extends.locks (Bool.not_eq_true _ ▸ hfree)).trans
            (.of_held_eq (Session.foldl_load_held _ _ _))
  | query q => cases h; exact .of_held_eq rfl
  | attrs k => cases h; exact .of_held_eq rfl
  | assign k r =>
      simp only [Op.eval] at h
      split at h
      · cases h; exact .of_held_eq rfl
      · cases h
  | update k m f =>
      simp only [Op.eval] at h
      split at h
      · cases h; exact .of_held_eq (Session.follow_held _ _ _ _)
      · split at h
        · split at h
          · cases h
          · rename_i hfree
            cases h
            exact (Extends.write (fun _ => Bool.not_eq_true _ ▸ hfree) _).trans
              (.of_held_eq (Session.follow_held _ _ _ _))
        · cases h; exact .of_held_eq (Session.follow_held _ _ _ _)
  | delete k referenced =>
      simp only [Op.eval] at h
      split at h
      · cases h
      · rename_i hfree
        split at h
        · cases h; exact .of_held_eq rfl
        · cases h
          exact (Extends.write (fun _ => Bool.not_eq_true _ ▸ hfree) none).trans (.of_held_eq rfl)
  | add k r =>
      simp only [Op.eval] at h
      split at h
      · cases h; exact .of_held_eq rfl
      · cases h
  | insertNested k r =>
      simp only [Op.eval] at h
      split at h
      · cases h
      · rename_i hfree
        split at h
        · cases h; exact .of_held_eq rfl
        · cases h
          refine (Extends.write (fun _ => ?_) _).trans (.of_held_eq rfl)
          simp only [Busy.clashes, Bool.or_eq_true, not_or, Bool.not_eq_true] at hfree
          exact hfree.1
  | refresh k =>
      simp only [Op.eval] at h
      split at h
      · cases h; exact .of_held_eq rfl
      · cases h
  | dirty => cases h; exact .of_held_eq rfl
  | flushKey k =>
      simp only [Op.eval] at h
      split at h
      · cases h; exact .of_held_eq rfl
      · split at h
        · split at h
          · cases h
          · rename_i hfree
            cases h
            refine (Extends.write (fun _ => ?_) _).trans (.of_held_eq rfl)
            simp only [Busy.clashes, Bool.or_eq_true, not_or, Bool.not_eq_true] at hfree
            exact hfree.1.1
        · split at h
          · cases h; exact .of_held_eq rfl
          · split at h
            · cases h
            · rename_i hfree
              split at h
              · cases h
                exact (Extends.write (fun _ => Bool.not_eq_true _ ▸ hfree) _).trans
                  (.of_held_eq rfl)
              · cases h
  | record e => cases h; exact .of_held_eq rfl

end ReadCommitted
