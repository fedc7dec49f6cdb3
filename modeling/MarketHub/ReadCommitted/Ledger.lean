import MarketHub.ReadCommitted.Steps

/-!
Double-entry accounts of a session.

* **Balances.** `Session.balance w s` is what a session adds to the weight `w` once
  everything it has changed is sent and committed: the drift of the rows it holds and
  the weight of the changes its objects still carry (`unsent`). A lock, a returned row
  and a flush leave a balance alone (`balance_lock`, `balance_load`, `balance_sends`);
  a write, a new object and a changed attribute move it by new minus old.
* **Moves.** `Session.Moves R s` says that every row the session holds has moved, from
  the locked version to its own, as a reflexive and transitive relation allows.
* **In step.** `Session.InStep s` says that an object with a change was read from a row
  the session holds, so that its flush writes exactly the object (`LawfulTable`).
-/

namespace ReadCommitted

variable {K : Type} {Row : K → Type} {Ev Err : Type}

/-- Sending a change to the very row it was made on stores the changed row. -/
class LawfulTable {K : Type} (Row : K → Type) [Table Row] : Prop where
  patch_self : ∀ {k : K} (old new : Row k), Table.patch old new old = new

/-- The weight an object still owes the database. -/
def owed (w : (k : K) → Row k → ℤ) (k : K) (o : Obj Row k) : ℤ :=
  w k o.cur - weigh w k o.loaded

/-- The weight of the changes that are not sent yet. -/
def unsent (w : (k : K) → Row k → ℤ) (objects : AList (Obj Row)) : ℤ :=
  total (owed w) objects

variable [DecidableEq K]

lemma unsent_insert (w : (k : K) → Row k → ℤ) (objects : AList (Obj Row)) (k : K) (o : Obj Row k) :
    unsent w (objects.insert k o)
      = unsent w objects + owed w k o - weigh (owed w) k (objects.lookup k) :=
  total_insert (owed w) k o objects

namespace Session

/-- What the session adds to a weight once all of it is committed. -/
def balance (w : (k : K) → Row k → ℤ) (s : Session Row Ev) : ℤ :=
  drift w w s.held + unsent w s.objects

/-- Every held row has moved as the relation allows. -/
def Moves (R : (k : K) → Option (Row k) → Option (Row k) → Prop) (s : Session Row Ev) : Prop :=
  ∀ k h, s.held.lookup k = some h → R k h.base h.cur

/-- An object with a change was read from a row the session holds. -/
def InStep (s : Session Row Ev) : Prop :=
  ∀ k o old, s.objects.lookup k = some o → o.loaded = some old → old ≠ o.cur →
    ∃ h, s.held.lookup k = some h ∧ h.cur = some old

variable {w : (k : K) → Row k → ℤ} {st v : Store Row} {s : Session Row Ev} {k : K}

/-! ### Balances -/

/-- A write moves a balance by the new row minus the row as the session sees it. -/
lemma balance_write (r : Option (Row k)) :
    (s.write st k r).balance w = s.balance w + weigh w k r - weigh w k ((s.view st).lookup k) := by
  rw [balance, balance, write_objects, write, lookup_view]
  cases hk : s.held.lookup k with
  | none =>
      simp only [drift_insert, hk, gain, weigh_none]
      ring
  | some h =>
      simp only [drift_insert, hk, gain, weigh_some]
      ring

lemma balance_sync (r : Row k) :
    (s.sync k r).balance w
      = s.balance w - weigh (owed w) k (s.objects.lookup k) := by
  rw [balance, balance, sync, unsent_insert, owed]
  simp only [weigh_some]
  ring

/-- Setting an object without a change in step with the database moves nothing. -/
lemma balance_sync_of_clean (hclean : ∀ o, s.objects.lookup k = some o → o.loaded = some o.cur)
    (r : Row k) : (s.sync k r).balance w = s.balance w := by
  rw [balance_sync]
  cases ho : s.objects.lookup k with
  | none => simp
  | some o => simp [owed, hclean o ho]

lemma balance_follow_of_clean (hclean : ∀ o, s.objects.lookup k = some o → o.loaded = some o.cur)
    (m : Row k → Bool) (f : Row k → Row k) : (s.follow k m f).balance w = s.balance w := by
  rw [follow]
  split
  · split
    · exact balance_sync_of_clean hclean _
    · rfl
  · rfl

lemma balance_add (hnone : s.objects.lookup k = none) (r : Row k) :
    balance w { s with objects := s.objects.insert k ⟨none, r⟩ } = s.balance w + w k r := by
  rw [balance, balance, unsent_insert, hnone, owed]
  simp only [weigh_none]
  ring

lemma balance_assign {o : Obj Row k} (ho : s.objects.lookup k = some o) (r : Row k) :
    balance w { s with objects := s.objects.insert k ⟨o.loaded, r⟩ }
      = s.balance w + w k r - w k o.cur := by
  rw [balance, balance, unsent_insert, ho]
  simp only [owed, weigh_some]
  ring

/-- A session without changes owes nothing. -/
lemma Clean.balance_eq (h : s.Clean) : s.balance w = drift w w s.held := by
  rw [balance, unsent, total_eq_zero, add_zero]
  intro k o ho
  rw [owed, h k o ho, weigh_some, sub_self]

/-! ### Moves -/

section Moves

variable {R : (k : K) → Option (Row k) → Option (Row k) → Prop}

lemma moves_empty : Moves R (∅ : Session Row Ev) := by
  intro k h hk
  change (∅ : AList (Held Row)).lookup k = some h at hk
  simp at hk

lemma Moves.of_held_eq {s' : Session Row Ev} (h : s.Moves R) (heq : s'.held = s.held) :
    s'.Moves R := by
  intro k hd hk
  rw [heq] at hk
  exact h k hd hk

lemma Moves.lock (hrefl : ∀ k r, R k r r) (h : s.Moves R) : (s.lock st k).Moves R := by
  intro k' hd hk'
  by_cases hkk : k' = k
  · subst hkk
    rw [lookup_lock_self] at hk'
    cases hk : s.held.lookup k' with
    | none =>
        rw [hk] at hk'
        cases hk'
        exact hrefl _ _
    | some hd' =>
        rw [hk] at hk'
        cases hk'
        exact h k' hd' hk
  · rw [lookup_lock_ne st s k hkk] at hk'
    exact h k' hd hk'

lemma Moves.locks (hrefl : ∀ k r, R k r r) (h : s.Moves R) (ks : List K) :
    (ks.foldl (Session.lock st) s).Moves R := by
  induction ks generalizing s with
  | nil => exact h
  | cons k ks ih => exact ih (h.lock hrefl)

lemma Moves.write (htrans : ∀ k r₁ r₂ r₃, R k r₁ r₂ → R k r₂ r₃ → R k r₁ r₃) (h : s.Moves R)
    {r : Option (Row k)} (hr : R k ((s.view st).lookup k) r) : (s.write st k r).Moves R := by
  intro k' hd hk'
  by_cases hkk : k' = k
  · subst hkk
    rw [lookup_write_self] at hk'
    cases hk'
    rw [lookup_view] at hr
    cases hk : s.held.lookup k' with
    | none =>
        rw [hk] at hr
        exact hr
    | some hd' =>
        rw [hk] at hr
        exact htrans _ _ _ _ (h k' hd' hk) hr
  · rw [lookup_write_ne st s k hkk] at hk'
    exact h k' hd hk'

/-- A commit moves every row as the relation allows. -/
lemma Moves.merge (hrefl : ∀ k r, R k r r) (h : s.Moves R) (hag : Agrees s.held st) (k : K) :
    R k (st.lookup k) ((ReadCommitted.merge st s.held).lookup k) := by
  cases hk : s.held.lookup k with
  | none =>
      rw [lookup_merge_of_not_held hk]
      exact hrefl _ _
  | some hd =>
      rw [lookup_merge_of_held hk, hag k hd hk]
      exact h k hd hk

end Moves

/-! ### In step -/

lemma Clean.inStep (h : s.Clean) : s.InStep := by
  intro k o old ho hold hne
  have hloaded := h k o ho
  rw [hold] at hloaded
  exact absurd (Option.some.inj hloaded) hne

/-- A row is written whose object carries no change. -/
lemma InStep.write (h : s.InStep)
    (hclean : ∀ o, s.objects.lookup k = some o → o.loaded = some o.cur) (r : Option (Row k)) :
    (s.write st k r).InStep := by
  intro k' o old ho hold hne
  rw [write_objects] at ho
  by_cases hkk : k' = k
  · subst hkk
    have hloaded := hclean o ho
    rw [hold] at hloaded
    exact absurd (Option.some.inj hloaded) hne
  · obtain ⟨hd, hk, hcur⟩ := h k' o old ho hold hne
    exact ⟨hd, by rw [lookup_write_ne st s k hkk]; exact hk, hcur⟩

lemma InStep.sync (h : s.InStep) (r : Row k) : (s.sync k r).InStep := by
  intro k' o old ho hold hne
  rcases lookup_sync_cases ho with hclean | ⟨-, hobj⟩
  · rw [hold] at hclean
    exact absurd (Option.some.inj hclean) hne
  · exact h k' o old hobj hold hne

lemma InStep.add (h : s.InStep) (r : Row k) :
    InStep { s with objects := s.objects.insert k ⟨none, r⟩ } := by
  intro k' o old ho hold hne
  by_cases hkk : k' = k
  · subst hkk
    rw [AList.lookup_insert] at ho
    cases ho
    cases hold
  · rw [AList.lookup_insert_ne hkk] at ho
    exact h k' o old ho hold hne

/-- The attributes of an object are set while the row it was read from is held. -/
lemma InStep.assign (h : s.InStep) {row : Row k} {hd : Held Row k}
    (hhd : s.held.lookup k = some hd) (hcur : hd.cur = some row) (r : Row k) :
    InStep { s with objects := s.objects.insert k ⟨some row, r⟩ } := by
  intro k' o old ho hold hne
  by_cases hkk : k' = k
  · subst hkk
    rw [AList.lookup_insert] at ho
    cases ho
    cases hold
    exact ⟨hd, hhd, hcur⟩
  · rw [AList.lookup_insert_ne hkk] at ho
    exact h k' o old ho hold hne

/-- A row is written and its object set in step with the database. -/
lemma InStep.write_sync (h : s.InStep) (r : Option (Row k)) (r' : Row k) :
    ((s.write st k r).sync k r').InStep := by
  intro k' o old ho hold hne
  rcases lookup_sync_cases ho with hclean | ⟨hkk, hobj⟩
  · rw [hold] at hclean
    exact absurd (Option.some.inj hclean) hne
  · rw [write_objects] at hobj
    obtain ⟨hd, hk, hcur⟩ := h k' o old hobj hold hne
    exact ⟨hd, by rw [sync_held, lookup_write_ne st s k hkk]; exact hk, hcur⟩

/-! ### A flush -/

section Flush

variable [Table Row] [LawfulTable Row] {ob : Obj Row k} {r : Row k}

/-- A flush stores the object as it is. -/
lemma InStep.sends_eq (h : s.InStep) (hob : s.objects.lookup k = some ob)
    (hsend : Sends (s.view st) k ob r) : r = ob.cur ∧ (s.view st).lookup k = ob.loaded := by
  cases hsend with
  | insert hnew hnone => exact ⟨rfl, hnone.trans hnew.symm⟩
  | @update old v hold hne hv =>
      obtain ⟨hd, hk, hcur⟩ := h k ob old hob hold hne
      have hview : (s.view st).lookup k = some old := by
        rw [lookup_view, hk]
        exact hcur
      obtain rfl : v = old := Option.some.inj (hv.symm.trans hview)
      exact ⟨LawfulTable.patch_self _ _, hview.trans hold.symm⟩

/-- A flush leaves every balance alone: what an object owed is now drift. -/
lemma balance_sends (h : s.InStep) (hob : s.objects.lookup k = some ob)
    (hsend : Sends (s.view st) k ob r) :
    ((s.write st k (some r)).sync k ob.cur).balance w = s.balance w := by
  obtain ⟨rfl, hview⟩ := h.sends_eq hob hsend
  rw [balance_sync, balance_write, hview, write_objects, hob]
  simp only [weigh_some, owed]
  ring

end Flush

/-! ### Tidy sessions -/

/-- An object with the attributes `cur` over a held row, locked as `base`, that is as
the object last saw it. -/
def Carries (s : Session Row Ev) (k : K) (base : Option (Row k)) (cur : Row k) : Prop :=
  ∃ o h, s.objects.lookup k = some o ∧ o.cur = cur ∧ s.held.lookup k = some h ∧ h.base = base
    ∧ h.cur = o.loaded

/-- A session whose held rows have moved as the relation allows, and whose changes can
be sent and are such moves as well. -/
structure Tidy (R : (k : K) → Option (Row k) → Option (Row k) → Prop) (s : Session Row Ev) :
    Prop where
  moves : s.Moves R
  inStep : s.InStep
  sendable : ∀ k o, s.objects.lookup k = some o → R k o.loaded (some o.cur)

/-- A session that only loaded rows and took locks. -/
structure Still (s : Session Row Ev) : Prop where
  pending : s.pending = []
  clean : s.Clean
  unmoved : ∀ k h, s.held.lookup k = some h → h.cur = h.base

/-- A session that began by loading and locking the row `k`. -/
structure Opened (k : K) (r : Row k) (s : Session Row Ev) : Prop extends s.Still where
  held : s.held.lookup k = some ⟨some r, some r⟩
  object : s.objects.lookup k = some ⟨some r, r⟩

lemma still_empty : Still (∅ : Session Row Ev) where
  pending := rfl
  clean := clean_empty
  unmoved k h hk := by
    change (∅ : AList (Held Row)).lookup k = some h at hk
    simp at hk

lemma Still.load (h : s.Still) : (s.load v k).Still where
  pending := by rw [load_pending, h.pending]
  clean := h.clean.load v
  unmoved k' hd hk := by
    rw [load_held] at hk
    exact h.unmoved k' hd hk

lemma Still.lock (h : s.Still) : (s.lock st k).Still where
  pending := by rw [lock_pending, h.pending]
  clean := h.clean.lock st
  unmoved k' hd hk := by
    by_cases hkk : k' = k
    · subst hkk
      rw [lookup_lock_self] at hk
      cases hold : s.held.lookup k' with
      | none =>
          rw [hold] at hk
          cases hk
          rfl
      | some hd' =>
          rw [hold] at hk
          cases hk
          exact h.unmoved k' hd' hold
    · rw [lookup_lock_ne st s k hkk] at hk
      exact h.unmoved k' hd hk

lemma Still.locks (h : s.Still) (ks : List K) : (ks.foldl (Session.lock st) s).Still := by
  induction ks generalizing s with
  | nil => exact h
  | cons k ks ih => exact ih h.lock

lemma Still.balance_eq (h : s.Still) : s.balance w = 0 := by
  rw [h.clean.balance_eq, drift, total_eq_zero]
  intro k hd hk
  rw [gain, h.unmoved k hd hk, sub_self]

lemma Still.tidy {R : (k : K) → Option (Row k) → Option (Row k) → Prop} (hrefl : ∀ k r, R k r r)
    (h : s.Still) : s.Tidy R where
  moves k hd hk := by
    rw [h.unmoved k hd hk]
    exact hrefl _ _
  inStep := h.clean.inStep
  sendable k o ho := by
    rw [h.clean k o ho]
    exact hrefl _ _

lemma Opened.carries {r : Row k} (h : s.Opened k r) : s.Carries k (some r) r :=
  ⟨_, _, h.object, rfl, h.held, rfl, rfl⟩

/-- A lock leaves the rows already held alone. -/
lemma lookup_locks_of_held {hd : Held Row k} (hk : s.held.lookup k = some hd) (ks : List K) :
    (ks.foldl (Session.lock st) s).held.lookup k = some hd := by
  induction ks generalizing s with
  | nil => exact hk
  | cons k' ks ih =>
      refine ih ?_
      by_cases hkk : k = k'
      · subst hkk
        rw [lookup_lock_self, hk]
        rfl
      · rw [lookup_lock_ne st s k' hkk, hk]

/-- The held version of a row after it was locked among others. -/
lemma lookup_locks {ks : List K} (hk : k ∈ ks) (hnone : s.held.lookup k = none) :
    (ks.foldl (Session.lock st) s).held.lookup k = some ⟨st.lookup k, st.lookup k⟩ := by
  induction ks generalizing s with
  | nil => cases hk
  | cons k' ks ih =>
      by_cases hkk : k = k'
      · subst hkk
        refine lookup_locks_of_held ?_ ks
        rw [lookup_lock_self, hnone]
        rfl
      · refine ih (List.mem_of_ne_of_mem hkk hk) ?_
        rw [lookup_lock_ne st s k' hkk]
        exact hnone

lemma lookup_locks_ne {ks : List K} (hk : k ∉ ks) :
    (ks.foldl (Session.lock st) s).held.lookup k = s.held.lookup k := by
  induction ks generalizing s with
  | nil => rfl
  | cons k' ks ih =>
      rw [List.mem_cons, not_or] at hk
      rw [List.foldl_cons, ih hk.2, lookup_lock_ne st s k' hk.1]

/-- Loading and locking a row opens a session on it. -/
lemma opened_of_locks {ks : List K} (hk : k ∈ ks) {r : Row k} (hr : st.lookup k = some r) :
    Opened k r ((ks.foldl (Session.lock st) (∅ : Session Row Ev)).load st k) where
  toStill := (still_empty.locks ks).load
  held := by
    rw [load_held, lookup_locks hk rfl, hr]
  object := by
    rw [Session.load, foldl_lock_objects, hr]
    change (AList.insert k _ (∅ : AList (Obj Row))).lookup k = _
    exact AList.lookup_insert _

/-! ### Changes of a tidy session -/

variable {R : (k : K) → Option (Row k) → Option (Row k) → Prop}

/-- The attributes of an object over a held row are set. -/
lemma Tidy.assign (h : s.Tidy R) {base : Option (Row k)} {row r : Row k} {o : Obj Row k}
    (ho : s.objects.lookup k = some o) (hc : s.Carries k base row) (hloaded : o.loaded = some row)
    (hmove : R k (some row) (some r)) :
    Tidy R { s with objects := s.objects.insert k ⟨o.loaded, r⟩ } where
  moves := h.moves
  inStep := by
    obtain ⟨o', hd, ho', -, hhd, -, hcur⟩ := hc
    obtain rfl : o = o' := Option.some.inj (ho.symm.trans ho')
    rw [hloaded]
    exact h.inStep.assign hhd (hcur.trans hloaded) r
  sendable k' o' ho' := by
    by_cases hkk : k' = k
    · subst hkk
      rw [AList.lookup_insert] at ho'
      cases ho'
      rw [hloaded]
      exact hmove
    · rw [AList.lookup_insert_ne hkk] at ho'
      exact h.sendable k' o' ho'

lemma Carries.assign {base : Option (Row k)} {row : Row k} {o : Obj Row k}
    (ho : s.objects.lookup k = some o) (hc : s.Carries k base row) (r : Row k) :
    Carries { s with objects := s.objects.insert k ⟨o.loaded, r⟩ } k base r := by
  obtain ⟨o', hd, ho', -, hhd, hbase, hcur⟩ := hc
  obtain rfl : o = o' := Option.some.inj (ho.symm.trans ho')
  exact ⟨_, hd, AList.lookup_insert _, rfl, hhd, hbase, hcur⟩

/-- A new object. -/
lemma Tidy.add (h : s.Tidy R) {r : Row k} (hmove : R k none (some r)) :
    Tidy R { s with objects := s.objects.insert k ⟨none, r⟩ } where
  moves := h.moves
  inStep := h.inStep.add r
  sendable k' o' ho' := by
    by_cases hkk : k' = k
    · subst hkk
      rw [AList.lookup_insert] at ho'
      cases ho'
      exact hmove
    · rw [AList.lookup_insert_ne hkk] at ho'
      exact h.sendable k' o' ho'

lemma Tidy.sync (hrefl : ∀ k r, R k r r) (h : s.Tidy R) (r : Row k) : (s.sync k r).Tidy R where
  moves := h.moves.of_held_eq rfl
  inStep := h.inStep.sync r
  sendable k' o ho := by
    by_cases hkk : k' = k
    · subst hkk
      rw [lookup_sync_self] at ho
      cases ho
      exact hrefl _ _
    · rw [lookup_sync_ne s k hkk] at ho
      exact h.sendable k' o ho

lemma Tidy.follow (hrefl : ∀ k r, R k r r) (h : s.Tidy R) (m : Row k → Bool) (f : Row k → Row k) :
    (s.follow k m f).Tidy R := by
  rw [Session.follow]
  split
  · split
    · exact h.sync hrefl _
    · exact h
  · exact h

/-- A row is written whose object carries no change. -/
lemma Tidy.write (htrans : ∀ k r₁ r₂ r₃, R k r₁ r₂ → R k r₂ r₃ → R k r₁ r₃) (h : s.Tidy R)
    (hclean : ∀ o, s.objects.lookup k = some o → o.loaded = some o.cur) {r : Option (Row k)}
    (hmove : R k ((s.view st).lookup k) r) : (s.write st k r).Tidy R where
  moves := h.moves.write htrans hmove
  inStep := h.inStep.write hclean r
  sendable := h.sendable

/-- What another row's write leaves of an object over a held row. -/
lemma Carries.write_ne {base : Option (Row k)} {row : Row k} (hc : s.Carries k base row) {k' : K}
    (hkk : k ≠ k') (r : Option (Row k')) : (s.write st k' r).Carries k base row := by
  obtain ⟨o, hd, ho, hcur, hhd, hbase, heq⟩ := hc
  exact ⟨o, hd, ho, hcur, by rw [lookup_write_ne st s k' hkk]; exact hhd, hbase, heq⟩

lemma Carries.follow_ne {base : Option (Row k)} {row : Row k} (hc : s.Carries k base row) {k' : K}
    (hkk : k ≠ k') (m : Row k' → Bool) (f : Row k' → Row k') :
    (s.follow k' m f).Carries k base row := by
  obtain ⟨o, hd, ho, hcur, hhd, hbase, heq⟩ := hc
  refine ⟨o, hd, ?_, hcur, by rw [follow_held]; exact hhd, hbase, heq⟩
  rw [Session.follow]
  split
  · split
    · rw [lookup_sync_ne s k' hkk]
      exact ho
    · exact ho
  · exact ho

/-- The session `s'` is what a flush makes of the session `s`. -/
structure FlushedTo (R : (k : K) → Option (Row k) → Option (Row k) → Prop)
    (s s' : Session Row Ev) : Prop where
  tidy : s'.Tidy R
  pending : s'.pending = s.pending
  balance : ∀ w, s'.balance w = s.balance w
  carries : ∀ k base row, s.Carries k base row → s'.Carries k base row

variable [Table Row] [LawfulTable Row]

lemma FlushedTo.sends (htrans : ∀ k r₁ r₂ r₃, R k r₁ r₂ → R k r₂ r₃ → R k r₁ r₃)
    {s₀ : Session Row Ev} (hrefl : ∀ k r, R k r r) (h : FlushedTo R s₀ s) {ob : Obj Row k}
    {r : Row k} (hob : s.objects.lookup k = some ob) (hsend : Sends (s.view st) k ob r) :
    FlushedTo R s₀ ((s.write st k (some r)).sync k ob.cur) := by
  obtain ⟨rfl, hview⟩ := h.tidy.inStep.sends_eq hob hsend
  refine ⟨⟨?_, h.tidy.inStep.write_sync _ _, fun k' o ho => ?_⟩, h.pending, fun w => ?_, ?_⟩
  · refine (h.tidy.moves.write htrans ?_).of_held_eq rfl
    rw [hview]
    exact h.tidy.sendable k ob hob
  · by_cases hkk : k' = k
    · subst hkk
      rw [lookup_sync_self] at ho
      cases ho
      exact hrefl _ _
    · rw [lookup_sync_ne _ k hkk] at ho
      exact h.tidy.sendable k' o ho
  · exact (balance_sends h.tidy.inStep hob hsend).trans (h.balance w)
  · intro k' base row hc
    obtain ⟨o, hd, ho, hcur, hhd, hbase, heq⟩ := h.carries k' base row hc
    by_cases hkk : k' = k
    · subst hkk
      obtain rfl : o = ob := Option.some.inj (ho.symm.trans hob)
      refine ⟨⟨some o.cur, o.cur⟩, ⟨base, some o.cur⟩, lookup_sync_self _ _ _, hcur, ?_, rfl, rfl⟩
      rw [sync_held, lookup_write_self, hhd]
      exact congrArg (fun b => some (Held.mk b (some o.cur))) hbase
    · refine ⟨o, hd, ?_, hcur, ?_, hbase, heq⟩
      · rw [lookup_sync_ne _ k hkk]
        exact ho
      · rw [sync_held, lookup_write_ne st s k hkk]
        exact hhd

end Session

section Rules

variable [∀ k, DecidableEq (Row k)] [Table Row] [LawfulTable Row]
  {R : (k : K) → Option (Row k) → Option (Row k) → Prop} {o : Outline Row Ev} {α : Type}
  {post : α → Store Row → Session Row Ev → Prop} {st : Store Row} {s : Session Row Ev}

omit [LawfulTable Row] in
/-- A `SELECT ... FOR UPDATE` of one row as the first statement of a session. -/
lemma wp_scalar_opened {k : K} {stmt : Store Row → Option (List K)}
    {f : Option (Row k) → Prog Row Ev Err α}
    (hlocks : ∀ v locks, stmt v = some locks → k ∈ locks ∧ ∃ r, v.lookup k = some r)
    (hnone : ∀ st', o.Finds ∅ st st' → wp o (f none) post st' ∅)
    (hsome : ∀ st' r s', o.Finds ∅ st st' → st'.lookup k = some r → s'.Opened k r →
      wp o (f (some r)) post st' s') :
    wp o ((Prog.scalar k stmt).bind f) post st ∅ := by
  refine wp_scalar (fun st' hf _ => hnone st' hf) fun st' locks hf hstmt => ?_
  have hview : (∅ : Session Row Ev).view st' = st' := rfl
  rw [hview] at hstmt ⊢
  obtain ⟨hmem, r, hr⟩ := hlocks st' locks hstmt
  have hread : (∅ : Session Row Ev).read st' k = some r := hr
  rw [hread]
  exact hsome st' r _ hf hr (Session.opened_of_locks hmem hr)

/-- `session.flush` in a tidy session. -/
lemma wp_flush_tidy (hrefl : ∀ k r, R k r r)
    (htrans : ∀ k r₁ r₂ r₃, R k r₁ r₂ → R k r₂ r₃ → R k r₁ r₃)
    {f : Unit → Prog Row Ev Err α} (h : s.Tidy R)
    (hend : ∀ st s', s.FlushedTo R s' → s'.Clean → wp o (f ()) post st s') :
    wp o (Prog.flush.bind f) post st s :=
  wp_flush (fun _ s' => s.FlushedTo R s') (fun _ _ _ hI _ => hI)
    (fun _ _ _ _ _ hI _ hob hsend => hI.sends htrans hrefl hob hsend)
    ⟨h, rfl, fun _ => rfl, fun _ _ _ hc => hc⟩ hend

end Rules

end ReadCommitted
