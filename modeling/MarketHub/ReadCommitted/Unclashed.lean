import MarketHub.ReadCommitted.Current

/-!
Unique indexes across transactions.

* `Sys.Stands`: a version of a row that is committed or held by a transaction.
* `Sys.Unclashed F`: no two versions of different rows of `F` stand in each other's way.
* `Reachable.unclashed_inserts`: programs that change the rows of `F` only by inserting new ones
  keep it so.
* `Prog.CommitsLast`: programs whose last step is a commit.
-/

namespace ReadCommitted

variable {K : Type} [DecidableEq K] {Row : K → Type} [∀ k, DecidableEq (Row k)] [Table Row]
  {Ev Err α : Type}

/-! ### One session -/

section Sessions

variable {st : Store Row} {s s' : Session Row Ev} {busy : Busy Row} {c : Choice}

/-- The session has a version of the row. -/
def Session.Has (s : Session Row Ev) (k : K) (r : Row k) : Prop :=
  ∃ h, s.held.lookup k = some h ∧ h.cur = some r

/-- A step that changes the rows of `F` only by inserting new ones. -/
def Op.inserts (F : K → Prop) : {γ : Type} → Op Row Ev γ → Prop
  | _, .assign k _ => ¬ F k
  | _, .update k _ _ => ¬ F k
  | _, .delete k _ => ¬ F k
  | _, _ => True

/-- Of the rows of `F`, a session that has locked some, and inserted others or is about to. -/
structure Session.Growing (F : K → Prop) (s : Session Row Ev) : Prop where
  held : ∀ k h, F k → s.held.lookup k = some h → h.cur = h.base ∨ h.base = none
  objects : ∀ k ob, F k → s.objects.lookup k = some ob → ob.loaded = some ob.cur ∨ ob.loaded = none

variable {F : K → Prop}

omit [DecidableEq K] [∀ k, DecidableEq (Row k)] [Table Row] in
lemma Op.opens.inserts {γ : Type} {op : Op Row Ev γ} (h : op.opens) : op.inserts F := by
  cases op with
  | assign k r => exact h.elim
  | update k m f => exact h.elim
  | delete k referenced => exact h.elim
  | _ => trivial

omit [∀ k, DecidableEq (Row k)] [Table Row] in
lemma Session.Growing.empty : Session.Growing F (∅ : Session Row Ev) where
  held k h _ hk := by
    change (∅ : AList (Held Row)).lookup k = some h at hk
    simp at hk
  objects k ob _ hob := by
    change (∅ : AList (Obj Row)).lookup k = some ob at hob
    simp at hob

omit [∀ k, DecidableEq (Row k)] [Table Row] in
/-- A lock adds no version. -/
lemma Session.Growing.lock (h : s.Growing F) (st : Store Row) (k : K) :
    (s.lock st k).Growing F
      ∧ ∀ k' r, (s.lock st k).Has k' r → s.Has k' r ∨ st.lookup k' = some r := by
  have hlock : ∀ k' hd, (s.lock st k).held.lookup k' = some hd →
      s.held.lookup k' = some hd ∨ hd = ⟨st.lookup k', st.lookup k'⟩ := by
    intro k' hd hk'
    by_cases hkk : k' = k
    · subst hkk
      rw [lookup_lock_self] at hk'
      cases hheld : s.held.lookup k' with
      | none =>
          rw [hheld] at hk'
          exact .inr (Option.some.inj hk').symm
      | some hd' =>
          rw [hheld] at hk'
          exact .inl hk'
    · rw [lookup_lock_ne st s k hkk] at hk'
      exact .inl hk'
  refine ⟨⟨fun k' hd hF hk' => ?_, fun k' ob hF hob => ?_⟩, fun k' r hhas => ?_⟩
  · rcases hlock k' hd hk' with hold | rfl
    · exact h.held k' hd hF hold
    · exact .inl rfl
  · rw [Session.lock_objects] at hob
    exact h.objects k' ob hF hob
  · obtain ⟨hd, hk', hcur⟩ := hhas
    rcases hlock k' hd hk' with hold | rfl
    · exact .inl ⟨hd, hold, hcur⟩
    · exact .inr hcur

omit [∀ k, DecidableEq (Row k)] [Table Row] in
lemma Session.Growing.locks (h : s.Growing F) (st : Store Row) (ks : List K) :
    (ks.foldl (Session.lock st) s).Growing F
      ∧ ∀ k r, (ks.foldl (Session.lock st) s).Has k r → s.Has k r ∨ st.lookup k = some r := by
  induction ks generalizing s with
  | nil => exact ⟨h, fun _ _ hhas => .inl hhas⟩
  | cons k ks ih =>
      obtain ⟨hlock, hone⟩ := h.lock st k
      obtain ⟨hrest, hall⟩ := ih hlock
      exact ⟨hrest, fun k' r hhas => (hall k' r hhas).elim (hone k' r) .inr⟩

omit [∀ k, DecidableEq (Row k)] [Table Row] in
lemma Session.Growing.load (h : s.Growing F) (v : Store Row) (k : K) : (s.load v k).Growing F where
  held k' hd hF hk := h.held k' hd hF (by rwa [Session.load_held] at hk)
  objects k' ob hF hob := by
    rcases Session.lookup_load_cases v s k hob with hold | ⟨r, -, rfl⟩
    · exact h.objects k' ob hF hold
    · exact .inl rfl

omit [∀ k, DecidableEq (Row k)] [Table Row] in
lemma Session.Growing.loads (h : s.Growing F) (v : Store Row) (ks : List K) :
    (ks.foldl (Session.load v) s).Growing F := by
  induction ks generalizing s with
  | nil => exact h
  | cons k ks ih => exact ih (h.load v k)

omit [∀ k, DecidableEq (Row k)] [Table Row] in
lemma Session.Growing.sync {k : K} (h : s.Growing F) (r : Row k) : (s.sync k r).Growing F where
  held := h.held
  objects k' ob hF hob := by
    rcases Session.lookup_sync_cases hob with hclean | ⟨-, hold⟩
    · exact .inl hclean
    · exact h.objects k' ob hF hold

omit [∀ k, DecidableEq (Row k)] [Table Row] in
lemma Session.Growing.follow {k : K} (h : s.Growing F) (m : Row k → Bool) (f : Row k → Row k) :
    (s.follow k m f).Growing F := by
  rw [Session.follow]
  split
  · split
    · exact h.sync _
    · exact h
  · exact h

omit [∀ k, DecidableEq (Row k)] [Table Row] in
/-- A row outside of `F` is written. -/
lemma Session.Growing.write_other {k : K} (h : s.Growing F) (st : Store Row) (hk : ¬ F k)
    (r : Option (Row k)) : (s.write st k r).Growing F
      ∧ ∀ k' r', F k' → (s.write st k r).Has k' r' → s.Has k' r' := by
  have hne : ∀ k', F k' → k' ≠ k := by
    rintro k' hF rfl
    exact hk hF
  refine ⟨⟨fun k' hd hF hk' => ?_, h.objects⟩, fun k' r' hF hhas => ?_⟩
  · rw [Session.lookup_write_ne st s k (hne k' hF)] at hk'
    exact h.held k' hd hF hk'
  · obtain ⟨hd, hk', hcur⟩ := hhas
    rw [Session.lookup_write_ne st s k (hne k' hF)] at hk'
    exact ⟨hd, hk', hcur⟩

omit [∀ k, DecidableEq (Row k)] [Table Row] in
/-- A row is inserted that the session did not see. -/
lemma Session.Growing.insert {k : K} (h : s.Growing F) (hnone : (s.view st).lookup k = none)
    (r : Row k) : ((s.write st k (some r)).sync k r).Growing F
      ∧ ∀ k' r', F k' → ((s.write st k (some r)).sync k r).Has k' r' →
        s.Has k' r' ∨ (⟨k', r'⟩ : Sigma Row) = ⟨k, r⟩ := by
  have hheld : ∀ k' hd, ((s.write st k (some r)).sync k r).held.lookup k' = some hd →
      s.held.lookup k' = some hd ∨ k' = k := by
    intro k' hd hk'
    by_cases hkk : k' = k
    · exact .inr hkk
    · rw [Session.sync_held, Session.lookup_write_ne st s k hkk] at hk'
      exact .inl hk'
  -- a row of `F` that is inserted was not held before
  have hself : F k → ∀ hd, ((s.write st k (some r)).sync k r).held.lookup k = some hd →
      hd.base = none ∧ hd.cur = some r := by
    intro hF hd hk
    rw [Session.sync_held, Session.lookup_write_self] at hk
    cases hk
    refine ⟨?_, rfl⟩
    rw [lookup_view] at hnone
    cases hkd : s.held.lookup k with
    | none =>
        rw [hkd] at hnone
        exact hnone
    | some hd =>
        rw [hkd] at hnone
        rcases h.held k hd hF hkd with heq | hbase
        · exact heq.symm.trans hnone
        · exact hbase
  refine ⟨⟨fun k' hd hF hk' => ?_, fun k' ob hF hob => ?_⟩, fun k' r' hF hhas => ?_⟩
  · rcases hheld k' hd hk' with hold | rfl
    · exact h.held k' hd hF hold
    · exact .inr (hself hF hd hk').1
  · rcases Session.lookup_sync_cases hob with hclean | ⟨-, hold⟩
    · exact .inl hclean
    · exact h.objects k' ob hF hold
  · obtain ⟨hd, hk', hcur⟩ := hhas
    rcases hheld k' hd hk' with hold | rfl
    · exact .inl ⟨hd, hold, hcur⟩
    · rw [(hself hF hd hk').2] at hcur
      cases hcur
      exact .inr rfl

/-- A step adds nothing to the rows of `F` but what it locks, or one version that no index
refuses. -/
def Session.Admits (F : K → Prop) (st : Store Row) (busy : Busy Row)
    (s s' : Session Row Ev) : Prop :=
  (∀ k r, F k → s'.Has k r → s.Has k r ∨ st.lookup k = some r)
    ∨ ∃ k r, busy.clashes k r = false ∧ clashes (s.view st) k r = false
      ∧ ∀ k' r', F k' → s'.Has k' r' → s.Has k' r' ∨ (⟨k', r'⟩ : Sigma Row) = ⟨k, r⟩

omit [∀ k, DecidableEq (Row k)] in
lemma Session.admits_of_held (h : s'.held = s.held) : s.Admits F st busy s' := by
  refine .inl fun k r _ hhas => .inl ?_
  obtain ⟨hd, hk, hcur⟩ := hhas
  exact ⟨hd, h ▸ hk, hcur⟩

omit [∀ k, DecidableEq (Row k)] in
lemma Session.admits_of_has (h : ∀ k r, F k → s'.Has k r → s.Has k r) : s.Admits F st busy s' :=
  .inl fun k r hF hhas => .inl (h k r hF hhas)

/-- **What a step adds** to the rows of `F`. -/
lemma Session.Growing.step {γ : Type} {op : Op Row Ev γ} {b : γ} (hok : op.inserts F)
    (h : s.Growing F) (he : op.eval c busy st s = some (b, s')) :
    s'.Growing F ∧ s.Admits F st busy s' := by
  -- an operation that leaves the rows of the session, and one that writes rows outside of `F`
  have hsame : ∀ s₁ : Session Row Ev, s₁.Growing F → s₁.held = s.held →
      s₁.Growing F ∧ s.Admits F st busy s₁ :=
    fun s₁ hgrowing hheld => ⟨hgrowing, Session.admits_of_held hheld⟩
  have hother : ∀ s₁ : Session Row Ev, (s₁.Growing F ∧ ∀ k r, F k → s₁.Has k r → s.Has k r) →
      s₁.Growing F ∧ s.Admits F st busy s₁ :=
    fun s₁ hs₁ => ⟨hs₁.1, Session.admits_of_has hs₁.2⟩
  cases op with
  | utcnow => cases he; exact hsame _ h rfl
  | uuid4 => cases he; exact hsame _ h rfl
  | select skip rows ents locks =>
      rcases eval_select_skip he with ⟨-, rfl⟩ | ⟨-, rfl⟩
      · exact hsame _ h rfl
      · obtain ⟨hlocks, hall⟩ := h.locks st (b.flatMap locks)
        have hheld : ((b.flatMap ents).foldl (Session.load (s.view st))
            ((b.flatMap locks).foldl (Session.lock st) s)).held
            = ((b.flatMap locks).foldl (Session.lock st) s).held := Session.foldl_load_held _ _ _
        refine ⟨hlocks.loads _ _, .inl fun k r _ hhas => hall k r ?_⟩
        obtain ⟨hd, hk, hcur⟩ := hhas
        exact ⟨hd, hheld ▸ hk, hcur⟩
  | query q => cases he; exact hsame _ h rfl
  | attrs k => cases he; exact hsame _ h rfl
  | assign k r =>
      obtain ⟨ob, -, rfl⟩ := eval_assign he
      refine hsame _ ⟨h.held, fun k' ob' hF hob => ?_⟩ rfl
      rw [AList.lookup_insert_ne (by rintro rfl; exact hok hF)] at hob
      exact h.objects k' ob' hF hob
  | update k m f =>
      rcases eval_update he with ⟨-, rfl, -⟩ | ⟨r, -, -, -, rfl⟩
      · exact hsame _ (h.follow m f) (Session.follow_held ..)
      · obtain ⟨hgrowing, hhas⟩ := h.write_other st hok (some (f r))
        refine hother _ ⟨hgrowing.follow m f, fun k' r' hF ⟨hd, hk', hcur⟩ =>
          hhas k' r' hF ⟨hd, ?_, hcur⟩⟩
        rwa [Session.follow_held] at hk'
  | delete k referenced =>
      rcases eval_delete he with ⟨-, rfl, -⟩ | ⟨-, -, rfl⟩
      · exact hsame _ h rfl
      · obtain ⟨hgrowing, hhas⟩ := h.write_other st hok none
        refine hother _ ⟨⟨hgrowing.held, fun k' ob hF hob => ?_⟩, hhas⟩
        rw [AList.lookup_erase_ne (by rintro rfl; exact hok hF)] at hob
        exact h.objects k' ob hF hob
  | add k r =>
      obtain ⟨-, rfl⟩ := eval_add he
      refine hsame _ ⟨h.held, fun k' ob hF hob => ?_⟩ rfl
      by_cases hkk : k' = k
      · subst hkk
        rw [AList.lookup_insert] at hob
        cases hob
        exact .inr rfl
      · rw [AList.lookup_insert_ne hkk] at hob
        exact h.objects k' ob hF hob
  | insertNested k r =>
      -- the savepoint is released only where neither index nor another transaction clashes
      rcases eval_insertNested he with ⟨-, rfl, -⟩ | ⟨-, hnone, hfree, rfl⟩
      · exact hsame _ h rfl
      · have hbusy : busy.clashes k r = false := by
          by_contra hne
          simp [Op.eval, hne] at he
        obtain ⟨hgrowing, hhas⟩ := h.insert hnone r
        exact ⟨hgrowing, .inr ⟨k, r, hbusy, hfree, hhas⟩⟩
  | refresh k =>
      obtain ⟨r, hr, rfl⟩ := eval_refresh he
      exact hsame _ (h.sync r) rfl
  | dirty => cases he; exact hsame _ h rfl
  | flushKey k =>
      -- a dirty object of `F` is new, so the flush inserts it under the same test
      rcases eval_flushKey he with ⟨rfl, -⟩ | ⟨ob, r, hob, hsend, rfl⟩
      · exact hsame _ h rfl
      · by_cases hF : F k
        · rcases h.objects k ob hF hob with hclean | hnew
          · exact absurd hclean hsend.loaded_ne
          · cases hsend with
            | update hloaded _ _ =>
                rw [hnew] at hloaded
                cases hloaded
            | insert _ hnone =>
                have hfree : busy.clashes k ob.cur = false
                    ∧ clashes (s.view st) k ob.cur = false := by
                  by_contra hne
                  simp only [not_and_or, Bool.not_eq_false] at hne
                  simp [Op.eval, hob, hnew, hne] at he
                obtain ⟨hgrowing, hhas⟩ := h.insert hnone ob.cur
                exact ⟨hgrowing, .inr ⟨k, ob.cur, hfree.1, hfree.2, hhas⟩⟩
        · obtain ⟨hgrowing, hhas⟩ := h.write_other st hF (some r)
          exact hother _ ⟨hgrowing.sync _, hhas⟩
  | record e => cases he; exact hsame _ ⟨h.held, h.objects⟩ rfl

end Sessions

/-! ### All sessions -/

/-- A version of a row that is committed, or held by a transaction. -/
def Sys.Stands (s : Sys Row Ev Err α) (k : K) (r : Row k) : Prop :=
  s.committed.lookup k = some r ∨ ∃ t th, s.threads.lookup t = some th ∧ th.session.Has k r

/-- No two versions of different rows of `F` stand in each other's way. -/
def Sys.Unclashed (F : K → Prop) (s : Sys Row Ev Err α) : Prop :=
  ∀ k r k' r', F k → F k' → k ≠ k' → s.Stands k r → s.Stands k' r' → Table.clash k r k' r' = false

section Systems

variable {F : K → Prop} {s s' : Sys Row Ev Err α} {st₀ : Store Row}

omit [∀ k, DecidableEq (Row k)] in
/-- Fewer versions. -/
lemma Sys.Unclashed.mono (h : s.Unclashed F) (hsub : ∀ k r, F k → s'.Stands k r → s.Stands k r) :
    s'.Unclashed F :=
  fun k r k' r' hF hF' hk hr hr' =>
    h k r k' r' hF hF' hk (hsub k r hF hr) (hsub k' r' hF' hr')

omit [∀ k, DecidableEq (Row k)] in
/-- One more version, in nobody's way. -/
lemma Sys.Unclashed.add (h : s.Unclashed F)
    (hsymm : ∀ k (r : Row k) k' r', Table.clash k r k' r' = Table.clash k' r' k r) {k : K}
    {r : Row k} (hfree : ∀ k' r', F k' → k ≠ k' → s.Stands k' r' → Table.clash k r k' r' = false)
    (hsub : ∀ k' r', F k' → s'.Stands k' r' → s.Stands k' r' ∨ (⟨k', r'⟩ : Sigma Row) = ⟨k, r⟩) :
    s'.Unclashed F := by
  intro k₁ r₁ k₂ r₂ hF₁ hF₂ hk hr₁ hr₂
  rcases hsub k₁ r₁ hF₁ hr₁ with hold₁ | heq₁
  · rcases hsub k₂ r₂ hF₂ hr₂ with hold₂ | heq₂
    · exact h k₁ r₁ k₂ r₂ hF₁ hF₂ hk hold₁ hold₂
    · cases heq₂
      rw [hsymm]
      exact hfree k₁ r₁ hF₁ (Ne.symm hk) hold₁
  · cases heq₁
    rcases hsub k₂ r₂ hF₂ hr₂ with hold₂ | heq₂
    · exact hfree k₂ r₂ hF₂ hk hold₂
    · cases heq₂
      exact absurd rfl hk

omit [∀ k, DecidableEq (Row k)] [Table Row] in
/-- The versions after a thread is replaced. -/
lemma Sys.stands_set {t : ℕ} {th : Thread Row Ev Err α} {k : K} {r : Row k}
    (h : (s.set t th).Stands k r) : s.Stands k r ∨ th.session.Has k r := by
  rcases h with hcommitted | ⟨t', th', hl, hhas⟩
  · exact .inl (.inl hcommitted)
  · rcases Sys.thread_cases hl with ⟨rfl, rfl⟩ | ⟨-, hl⟩
    · exact .inr hhas
    · exact .inl (.inr ⟨t', th', hl, hhas⟩)

omit [∀ k, DecidableEq (Row k)] [Table Row] in
lemma Session.not_has_empty {k : K} {r : Row k} : ¬ (∅ : Session Row Ev).Has k r := by
  rintro ⟨h, hk, -⟩
  change (∅ : AList (Held Row)).lookup k = some h at hk
  simp at hk

omit [∀ k, DecidableEq (Row k)] in
/-- What another thread holds is not in the way of a row that no held row is in the way of. -/
lemma Sys.not_clash_of_busy {t t' : ℕ} {th : Thread Row Ev Err α} {k k' : K}
    {r : Row k} {r' : Row k'} (hne : t' ≠ t) (hl : s.threads.lookup t' = some th)
    (hhas : th.session.Has k' r') (hfree : (s.busy t).clashes k r = false) :
    Table.clash k r k' r' = false := by
  obtain ⟨h, hk', hcur⟩ := hhas
  rw [Busy.clashes, Bool.or_eq_false_iff] at hfree
  have hmem : (⟨k', h⟩ : Sigma (Held Row)) ∈ s.busy t := by
    refine List.mem_flatMap.mpr ⟨⟨t', th⟩, ?_, AList.mem_lookup_iff.mp hk'⟩
    rw [← AList.mem_lookup_iff, AList.lookup_erase_ne hne]
    exact hl
  have hone := List.any_eq_false.mp hfree.2 _ hmem
  rw [hcur] at hone
  simpa using hone

omit [∀ k, DecidableEq (Row k)] in
/-- At rest the committed versions stand. -/
lemma Sys.unclashed_rest (h : ReadCommitted.Unclashed F st₀) :
    (Sys.rest st₀ : Sys Row Ev Err α).Unclashed F := by
  have hcommitted : ∀ k r, (Sys.rest st₀ : Sys Row Ev Err α).Stands k r →
      st₀.lookup k = some r := by
    rintro k r (hr | ⟨t, th, hl, -⟩)
    · exact hr
    · simp [Sys.rest] at hl
  intro k r k' r' hF hF' hk hr hr'
  exact h k r k' r' hF hF' hk (hcommitted k r hr) (hcommitted k' r' hr')

omit [∀ k, DecidableEq (Row k)] in
/-- A thread starts, or gives up what it has held. -/
lemma Sys.Unclashed.set_empty (h : s.Unclashed F) {t : ℕ} {th : Thread Row Ev Err α}
    (hempty : th.session = ∅) : (s.set t th).Unclashed F := by
  refine h.mono fun k r _ hstands => ?_
  rcases Sys.stands_set hstands with hold | hnew
  · exact hold
  · rw [hempty] at hnew
    exact absurd hnew Session.not_has_empty

section Threads

variable {t : ℕ} {th : Thread Row Ev Err α} {p : Prog Row Ev Err α} {k : K} {r : Row k}

omit [∀ k, DecidableEq (Row k)] [Table Row] in
/-- What stands after a commit has stood before. -/
lemma Sys.stands_commitThread (hth : s.threads.lookup t = some th)
    (h : (s.commitThread t th p).Stands k r) : s.Stands k r := by
  rcases h with hcommitted | ⟨t', th', hl, hhas⟩
  · change (merge s.committed th.session.held).lookup k = some r at hcommitted
    cases hheld : th.session.held.lookup k with
    | none =>
        rw [lookup_merge_of_not_held hheld] at hcommitted
        exact .inl hcommitted
    | some hd =>
        rw [lookup_merge_of_held hheld] at hcommitted
        exact .inr ⟨t, th, hth, hd, hheld, hcommitted⟩
  · rcases Sys.thread_cases hl with ⟨rfl, rfl⟩ | ⟨-, hl⟩
    · exact absurd hhas Session.not_has_empty
    · exact .inr ⟨t', th', hl, hhas⟩

omit [∀ k, DecidableEq (Row k)] in
/-- What stands is not in the way of a row that a transaction may insert: the index refuses no
version that it sees, and none that the others hold. -/
lemma Sys.not_clash_of_insert (hth : s.threads.lookup t = some th)
    (hag : Agrees th.session.held s.committed) (hgrowing : th.session.Growing F)
    (hbusy : (s.busy t).clashes k r = false)
    (hview : clashes (th.session.view s.committed) k r = false) {k' : K} {r' : Row k'} (hF : F k')
    (h : s.Stands k' r') :
    Table.clash k r k' r' = false := by
  obtain ⟨-, hclash⟩ := clashes_eq_false_iff.mp hview
  rcases h with hcommitted | ⟨t', th', hl, hhas⟩
  · -- a committed version is the one the session sees
    refine hclash k' r' ?_
    rw [Session.lookup_view]
    cases hheld : th.session.held.lookup k' with
    | none => exact hcommitted
    | some hd =>
        have hbase := hag k' hd hheld
        rcases hgrowing.held k' hd hF hheld with hsame | hnone
        · exact hsame.trans (hbase.symm.trans hcommitted)
        · rw [hbase, hnone] at hcommitted
          cases hcommitted
  · by_cases htt : t' = t
    · -- it is the transaction's own
      subst htt
      cases hth.symm.trans hl
      obtain ⟨hd, hheld, hcur⟩ := hhas
      refine hclash k' r' ?_
      rw [Session.lookup_view, hheld]
      exact hcur
    · exact Sys.not_clash_of_busy htt hl hhas hbusy

/-- **A statement** that changes the rows of `F` only by inserting new ones. -/
lemma Sys.Unclashed.op (h : s.Unclashed F)
    (hsymm : ∀ k (r : Row k) k' r', Table.clash k r k' r' = Table.clash k' r' k r)
    (hth : s.threads.lookup t = some th) (hag : Agrees th.session.held s.committed)
    (hgrowing : th.session.Growing F) {γ : Type} {o : Op Row Ev γ} {c : Choice} {b : γ}
    {se : Session Row Ev} (ho : o.inserts F)
    (he : o.eval c (s.busy t) s.committed th.session = some (b, se)) :
    (s.set t { th with prog := p, session := se }).Unclashed F := by
  obtain ⟨-, hcases⟩ := hgrowing.step ho he
  rcases hcases with hsame | ⟨k₁, r₁, hbusy, hview, hnew⟩
  · refine h.mono fun k r hF hstands => ?_
    rcases Sys.stands_set hstands with hold | hhas
    · exact hold
    · rcases hsame k r hF hhas with hold | hcommitted
      · exact .inr ⟨t, th, hth, hold⟩
      · exact .inl hcommitted
  · refine h.add hsymm (k := k₁) (r := r₁)
      (fun k' r' hF _ => Sys.not_clash_of_insert hth hag hgrowing hbusy hview hF)
      fun k' r' hF hstands => ?_
    rcases Sys.stands_set hstands with hold | hhas
    · exact .inl hold
    · rcases hnew k' r' hF hhas with hold | heq
      · exact .inl (.inr ⟨t, th, hth, hold⟩)
      · exact .inr heq

end Threads

/-- **Unique indexes hold across transactions.** Programs that change the rows of `F` only by
inserting new ones leave no two versions of them in each other's way. -/
theorem Reachable.unclashed_inserts {P : Prog Row Ev Err α → Prop}
    {G : Sys Row Ev Err α → Action Row Ev Err α → Prop}
    (hsymm : ∀ k (r : Row k) k' r', Table.clash k r k' r' = Table.clash k' r' k r)
    (hP : ∀ p, P p → p.AllOps (Op.inserts F)) (hinit : ReadCommitted.Unclashed F st₀)
    (h : Reachable P G (Sys.rest st₀) s) :
    s.Unclashed F ∧ ∀ t th, s.threads.lookup t = some th →
      th.prog.AllOps (Op.inserts F) ∧ th.session.Growing F := by
  induction h with
  | init => exact ⟨Sys.unclashed_rest hinit, fun t th hl => by simp [Sys.rest] at hl⟩
  | @step s s' a hr hstart _ hstep ih =>
      obtain ⟨hunclashed, hthreads⟩ := ih
      have hok : s.Ok ({} : Outline Row Ev) fun _ _ _ => True :=
        hr.ok ⟨fun _ _ _ _ _ _ => trivial, fun _ _ _ _ _ _ _ _ _ => trivial⟩ trivial
          (fun _ _ _ _ _ => wp_of_forall (fun _ _ => trivial) fun _ _ _ => trivial)
          fun _ _ _ _ _ _ _ _ _ _ => trivial
      cases Sys.stepTo_of_step hstep with
      | start _ =>
          exact ⟨hunclashed.set_empty rfl, Sys.forall_threads_set hthreads ⟨hP _ hstart, .empty⟩⟩
      | @op t c th β op k b se hth hp he =>
          obtain ⟨hops, hgrowing⟩ := hthreads t th hth
          rw [hp] at hops
          exact ⟨hunclashed.op hsymm hth (hok.agrees t th hth) hgrowing hops.1 he,
            Sys.forall_threads_set hthreads ⟨hops.2 b, (hgrowing.step hops.1 he).1⟩⟩
      | @commit t c th k hth hp =>
          obtain ⟨hops, -⟩ := hthreads t th hth
          rw [hp] at hops
          exact ⟨hunclashed.mono fun _ _ _ => Sys.stands_commitThread hth,
            Sys.forall_threads_set hthreads ⟨hops, .empty⟩⟩
      | @publish t c th k hth hp =>
          obtain ⟨hops, hgrowing⟩ := hthreads t th hth
          rw [hp] at hops
          refine ⟨hunclashed.mono fun k₁ r _ hstands => ?_,
            Sys.forall_threads_set hthreads ⟨hops, hgrowing⟩⟩
          -- the events alone change
          have hafter : (s.set t { th with prog := k }).Stands k₁ r := hstands
          rcases Sys.stands_set hafter with hold | hhas
          · exact hold
          · exact .inr ⟨t, th, hth, hhas⟩
      | @abort t th e hth =>
          exact ⟨hunclashed.set_empty rfl, Sys.forall_threads_set hthreads ⟨trivial, .empty⟩⟩

/-- Programs that read, or insert in savepoints. -/
theorem Reachable.unclashed {P : Prog Row Ev Err α → Prop}
    {G : Sys Row Ev Err α → Action Row Ev Err α → Prop}
    (hsymm : ∀ k (r : Row k) k' r', Table.clash k r k' r' = Table.clash k' r' k r)
    (hP : ∀ p, P p → p.AllOps Op.opens) (hinit : ReadCommitted.Unclashed F st₀)
    (h : Reachable P G (Sys.rest st₀) s) :
    s.Unclashed F ∧ ∀ t th, s.threads.lookup t = some th →
      th.prog.AllOps (Op.inserts F) ∧ th.session.Growing F :=
  h.unclashed_inserts hsymm (fun p hp => (hP p hp).mono fun _ => Op.opens.inserts) hinit

end Systems

/-! ### Programs that end with a commit -/

/-- A program that ends with its only commit, or raises. -/
def Prog.CommitsLast : Prog Row Ev Err α → Prop
  | .pure _ => False
  | .op _ k => ∀ b, (k b).CommitsLast
  | .raise _ => True
  | .commit k => ∃ a, k = .pure a
  | .publish k => k.CommitsLast

omit [DecidableEq K] [∀ k, DecidableEq (Row k)] [Table Row] in
lemma Prog.Uncommitted.commitsLast {β : Type} {p : Prog Row Ev Err α} {f : α → Prog Row Ev Err β}
    (hp : p.Uncommitted) (hf : ∀ a, (f a).CommitsLast) : (p.bind f).CommitsLast := by
  induction p with
  | pure a => exact hf a
  | op o k ih => exact fun b => ih b (hp b)
  | raise e => trivial
  | commit k ih => exact hp.elim
  | publish k ih => exact ih hp

omit [DecidableEq K] [∀ k, DecidableEq (Row k)] [Table Row] in
lemma Prog.CommitsLast.not_pure {p : Prog Row Ev Err α} {a : α} (h : p.CommitsLast) :
    p ≠ .pure a := by
  rintro rfl
  exact h

/-- The program of a thread has come to its end. -/
def Sys.Returned (s : Sys Row Ev Err α) (t : ℕ) : Prop :=
  ∃ th a, s.threads.lookup t = some th ∧ th.prog = .pure a

/-- A thread that has returned stays as it is. -/
lemma Sys.Returned.step {s s' : Sys Row Ev Err α} {t : ℕ} {b : Action Row Ev Err α}
    (h : s.Returned t) (hstep : Sys.step b s = some s') : s'.Returned t := by
  obtain ⟨th, a, hth, hpure⟩ := h
  have hother : ∀ t' th', (t' = t → False) →
      (s.threads.insert t' th').lookup t = some th := fun t' th' hne => by
    rw [AList.lookup_insert_ne fun heq => hne heq.symm]
    exact hth
  refine ⟨th, a, ?_, hpure⟩
  cases Sys.stepTo_of_step hstep with
  | start hnone =>
      refine hother _ _ ?_
      rintro rfl
      cases hnone.symm.trans hth
  | op hl hp _ =>
      refine hother _ _ ?_
      rintro rfl
      cases hl.symm.trans hth
      cases hp.symm.trans hpure
  | commit hl hp =>
      refine hother _ _ ?_
      rintro rfl
      cases hl.symm.trans hth
      cases hp.symm.trans hpure
  | publish hl hp =>
      refine hother _ _ ?_
      rintro rfl
      cases hl.symm.trans hth
      cases hp.symm.trans hpure
  | abort hl =>
      refine hother _ _ ?_
      rintro rfl
      -- a thread that has returned is not aborted
      simp [Sys.step, hth, hpure] at hstep

end ReadCommitted
