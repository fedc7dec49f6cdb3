import MarketHub.ReadCommitted.Clock

/-!
Objects and rows of a program that runs alone.

* `Session.Current k`: what the object of the row `k` was loaded as is what the session sees of the
  row. Every step keeps it, unless it writes the row past its object (`Op.through`).
* `Unclashed F`: no two rows of `F` stand in each other's way. A session that inserts in savepoints,
  and otherwise only reads, sees such rows if they were committed as such (`Session.Opens`).
* `Prog.Uncommitted.answers`: what the answer of a program that runs alone satisfies.
-/

namespace ReadCommitted

variable {K : Type} [DecidableEq K] {Row : K → Type} [∀ k, DecidableEq (Row k)] [Table Row]
  {Ev Err α : Type} {st : Store Row} {s : Session Row Ev} {k : K}

/-! ### Objects and the rows they stand for -/

/-- What the object of the row `k` was loaded as is what the session sees of the row. -/
def Session.Current (k : K) (st : Store Row) (s : Session Row Ev) : Prop :=
  ∀ ob r, s.objects.lookup k = some ob → ob.loaded = some r → (s.view st).lookup k = some r

/-- A step that does not write the row `k` past its object. -/
def Op.through (k : K) : {γ : Type} → Op Row Ev γ → Prop
  | _, .update k' _ _ => k ≠ k'
  | _, .delete k' _ => k ≠ k'
  | _, _ => True

namespace Session.Current

omit [∀ k, DecidableEq (Row k)] [Table Row] in
lemma empty : Current k st (∅ : Session Row Ev) := by
  intro ob r hob _
  change (∅ : AList (Obj Row)).lookup k = some ob at hob
  simp at hob

omit [∀ k, DecidableEq (Row k)] [Table Row] in
lemma lock (h : s.Current k st) (k' : K) : (s.lock st k').Current k st := by
  intro ob r hob hr
  rw [lock_objects] at hob
  rw [lookup_view_lock]
  exact h ob r hob hr

omit [∀ k, DecidableEq (Row k)] [Table Row] in
lemma locks (h : s.Current k st) (ks : List K) : (ks.foldl (Session.lock st) s).Current k st := by
  induction ks generalizing s with
  | nil => exact h
  | cons k' ks ih => exact ih (h.lock k')

omit [∀ k, DecidableEq (Row k)] [Table Row] in
/-- Rows are returned as the session sees them. -/
lemma load {v : Store Row} (h : s.Current k st) (hv : v.lookup k = (s.view st).lookup k) (k' : K) :
    (s.load v k').Current k st := by
  intro ob r hob hr
  rw [Session.view, load_held]
  rcases lookup_load_cases v s k' hob with hold | ⟨r', hr', rfl⟩
  · exact h ob r hold hr
  · obtain rfl := Option.some.inj hr
    exact hv.symm.trans hr'

omit [∀ k, DecidableEq (Row k)] [Table Row] in
lemma loads {v : Store Row} (h : s.Current k st) (hv : v.lookup k = (s.view st).lookup k)
    (ks : List K) : (ks.foldl (Session.load v) s).Current k st := by
  induction ks generalizing s with
  | nil => exact h
  | cons k' ks ih =>
      refine ih (h.load hv k') ?_
      rw [hv, Session.view, Session.view, load_held]

omit [∀ k, DecidableEq (Row k)] [Table Row] in
/-- A row is written together with its object. -/
lemma write (h : s.Current k st) (k' : K) (r : Row k') :
    ((s.write st k' (some r)).sync k' r).Current k st := by
  intro ob r' hob hr'
  by_cases hk : k = k'
  · subst hk
    rw [lookup_sync_self] at hob
    cases hob
    cases hr'
    exact lookup_view_write_self ..
  · rw [lookup_sync_ne _ _ hk, write_objects] at hob
    exact (lookup_view_write_ne st s k' hk _).trans (h ob r' hob hr')

omit [∀ k, DecidableEq (Row k)] [Table Row] in
/-- Another row is written. -/
lemma write_ne {k' : K} (h : s.Current k st) (hk : k ≠ k') (r : Option (Row k')) :
    (s.write st k' r).Current k st := by
  intro ob r' hob hr'
  exact (lookup_view_write_ne st s k' hk _).trans (h ob r' hob hr')

omit [∀ k, DecidableEq (Row k)] [Table Row] in
/-- Another object follows its row. -/
lemma follow_ne {k' : K} (h : s.Current k st) (hk : k ≠ k') (m : Row k' → Bool)
    (f : Row k' → Row k') : (s.follow k' m f).Current k st := by
  rw [Session.follow]
  split
  · split
    · intro ob r hob hr
      rw [lookup_sync_ne _ _ hk] at hob
      exact h ob r hob hr
    · exact h
  · exact h

/-- A step through the objects keeps them so. -/
lemma step [LawfulTable Row] {γ : Type} {op : Op Row Ev γ} {c : Choice} {busy : Busy Row} {b : γ}
    {s' : Session Row Ev} (hok : op.through k) (h : s.Current k st)
    (he : op.eval c busy st s = some (b, s')) : s'.Current k st := by
  cases op with
  | utcnow => cases he; exact h
  | uuid4 => cases he; exact h
  | select skip rows ents locks =>
      rcases eval_select_skip he with ⟨-, rfl⟩ | ⟨-, rfl⟩
      · exact h
      · refine (h.locks _).loads ?_ _
        exact (lookup_view_locks _ k).symm
  | query q => cases he; exact h
  | attrs k' => cases he; exact h
  | assign k' r =>
      obtain ⟨ob, hob, rfl⟩ := eval_assign he
      intro ob' r' hob' hr'
      by_cases hk : k = k'
      · subst hk
        rw [AList.lookup_insert] at hob'
        cases hob'
        exact h ob r' hob hr'
      · rw [AList.lookup_insert_ne hk] at hob'
        exact h ob' r' hob' hr'
  | update k' m f =>
      rcases eval_update he with ⟨-, rfl, -⟩ | ⟨r, -, -, -, rfl⟩
      · exact h.follow_ne hok m f
      · exact (h.write_ne hok _).follow_ne hok m f
  | delete k' referenced =>
      rcases eval_delete he with ⟨-, rfl, -⟩ | ⟨-, -, rfl⟩
      · exact h
      · intro ob r hob hr
        rw [AList.lookup_erase_ne hok] at hob
        exact h.write_ne hok none ob r hob hr
  | add k' r =>
      obtain ⟨-, rfl⟩ := eval_add he
      intro ob' r' hob' hr'
      by_cases hk : k = k'
      · subst hk
        rw [AList.lookup_insert] at hob'
        cases hob'
        cases hr'
      · rw [AList.lookup_insert_ne hk] at hob'
        exact h ob' r' hob' hr'
  | insertNested k' r =>
      rcases eval_insertNested he with ⟨-, rfl, -⟩ | ⟨-, -, -, rfl⟩
      · exact h
      · exact h.write k' r
  | refresh k' =>
      obtain ⟨r, hr, rfl⟩ := eval_refresh he
      intro ob' r' hob' hr'
      by_cases hk : k = k'
      · subst hk
        rw [lookup_sync_self] at hob'
        cases hob'
        cases hr'
        exact hr
      · rw [lookup_sync_ne _ _ hk] at hob'
        exact h ob' r' hob' hr'
  | dirty => cases he; exact h
  | flushKey k' =>
      rcases eval_flushKey he with ⟨rfl, -⟩ | ⟨ob, r, hob, hsend, rfl⟩
      · exact h
      · by_cases hk : k = k'
        · subst hk
          -- what is sent is the object, since the row is the one it was loaded as
          obtain rfl : r = ob.cur := by
            cases hsend with
            | insert _ _ => rfl
            | update hloaded _ hrow =>
                obtain rfl := Option.some.inj (hrow.symm.trans (h ob _ hob hloaded))
                exact LawfulTable.patch_self _ _
          exact h.write k ob.cur
        · intro ob' r' hob' hr'
          rw [lookup_sync_ne _ _ hk, write_objects] at hob'
          exact (lookup_view_write_ne st s k' hk _).trans (h ob' r' hob' hr')
  | record e => cases he; exact h

end Session.Current

/-! ### Rows in nobody's way -/

/-- No two rows of `F` stand in each other's way. -/
def Unclashed (F : K → Prop) (v : Store Row) : Prop :=
  ∀ k r k' r', F k → F k' → k ≠ k' → v.lookup k = some r → v.lookup k' = some r' →
    Table.clash k r k' r' = false

/-- A step that reads, or inserts in a savepoint. -/
def Op.opens : {γ : Type} → Op Row Ev γ → Prop
  | _, .assign _ _ => False
  | _, .update _ _ _ => False
  | _, .delete _ _ => False
  | _, .add _ _ => False
  | _, _ => True

/-- A session that has read and inserted in savepoints. -/
structure Session.Opens (F : K → Prop) (st : Store Row) (s : Session Row Ev) : Prop where
  clean : s.Clean
  unclashed : Unclashed F st → Unclashed F (s.view st)

omit [∀ k, DecidableEq (Row k)] in
lemma Session.Opens.empty {F : K → Prop} : Opens F st (∅ : Session Row Ev) := ⟨clean_empty, id⟩

/-- It stays so. -/
lemma Session.Opens.step {F : K → Prop}
    (hsymm : ∀ k (r : Row k) k' r', Table.clash k r k' r' = Table.clash k' r' k r)
    {γ : Type} {op : Op Row Ev γ} {c : Choice} {busy : Busy Row} {b : γ} {s' : Session Row Ev}
    (hok : op.opens) (h : s.Opens F st) (he : op.eval c busy st s = some (b, s')) :
    s'.Opens F st := by
  cases op with
  | utcnow => cases he; exact h
  | uuid4 => cases he; exact h
  | select skip rows ents locks =>
      rcases eval_select_skip he with ⟨-, rfl⟩ | ⟨-, rfl⟩
      · exact h
      · refine ⟨(h.clean.locks st _).loads _ _, fun hst => ?_⟩
        intro k r k' r' hF hF' hk hr hr'
        rw [Session.view, foldl_load_held, ← Session.view, lookup_view_locks] at hr hr'
        exact h.unclashed hst k r k' r' hF hF' hk hr hr'
  | query q => cases he; exact h
  | attrs k => cases he; exact h
  | assign k r => exact hok.elim
  | update k m f => exact hok.elim
  | delete k referenced => exact hok.elim
  | add k r => exact hok.elim
  | insertNested k r =>
      -- the savepoint is tried against the snapshot, so the new row clashes with none
      rcases eval_insertNested he with ⟨-, rfl, -⟩ | ⟨-, -, hfree, rfl⟩
      · exact h
      · refine ⟨fun k' ob hob => ?_, fun hst k₁ r₁ k₂ r₂ hF₁ hF₂ hk hr₁ hr₂ => ?_⟩
        · rcases Session.lookup_sync_cases hob with hclean | ⟨-, hold⟩
          · exact hclean
          · exact h.clean k' ob hold
        · obtain ⟨-, hfree⟩ := clashes_eq_false_iff.mp hfree
          rw [Session.view, Session.sync_held, ← Session.view] at hr₁ hr₂
          have hother : ∀ k' r', k' ≠ k → ((s.write st k (some r)).view st).lookup k' = some r' →
              (s.view st).lookup k' = some r' := fun k' r' hk' hr' =>
            (Session.lookup_view_write_ne st s k hk' _).symm.trans hr'
          have hself : ∀ r', ((s.write st k (some r)).view st).lookup k = some r' → r' = r :=
            fun r' hr' => Option.some.inj (hr'.symm.trans (Session.lookup_view_write_self ..))
          by_cases hk₁ : k₁ = k
          · subst hk₁
            rw [hself r₁ hr₁]
            exact hfree k₂ r₂ (hother k₂ r₂ (Ne.symm hk) hr₂)
          · by_cases hk₂ : k₂ = k
            · subst hk₂
              rw [hself r₂ hr₂, hsymm]
              exact hfree k₁ r₁ (hother k₁ r₁ hk₁ hr₁)
            · exact h.unclashed hst k₁ r₁ k₂ r₂ hF₁ hF₂ hk (hother k₁ r₁ hk₁ hr₁)
                (hother k₂ r₂ hk₂ hr₂)
  | refresh k =>
      obtain ⟨r, hr, rfl⟩ := eval_refresh he
      exact ⟨h.clean.sync r, h.unclashed⟩
  | dirty => cases he; exact h
  | flushKey k =>
      rcases eval_flushKey he with ⟨rfl, -⟩ | ⟨ob, r, hob, hsend, rfl⟩
      · exact h
      · exact absurd (h.clean k ob hob) hsend.loaded_ne
  | record e => cases he; exact ⟨h.clean, h.unclashed⟩

/-! ### Answers -/

/-- What the sessions of a program satisfy that runs alone holds at its commits. -/
lemma wp_alone_of_allOps {ok : {γ : Type} → Op Row Ev γ → Prop}
    {I : Store Row → Session Row Ev → Prop} {o : Outline Row Ev}
    {post : α → Store Row → Session Row Ev → Prop} {p : Prog Row Ev Err α}
    (hrely : ∀ s st st', o.rely s st st' → st' = st) (hp : p.AllOps ok)
    (hstep : ∀ (γ : Type) (op : Op Row Ev γ) c busy st s b s', ok op → I st s →
      op.eval c busy st s = some (b, s') → I st s')
    (hcommit : ∀ st s, I st s → o.commit st s) (hempty : ∀ st, I st ∅)
    (hpost : ∀ a st s, I st s → post a st s) (hI : I st s) : wp o p post st s := by
  induction p generalizing st s with
  | pure a =>
      intro st' hr
      rw [hrely _ _ _ hr]
      exact hpost a st s hI
  | op op k ih =>
      intro st' hf c busy b s' he _
      obtain rfl := hrely _ _ _ hf.rely
      exact ih b (hp.2 b) (hstep _ op c busy _ s b s' hp.1 hI he)
  | raise e => trivial
  | commit k ih =>
      intro st' hf
      obtain rfl := hrely _ _ _ hf.rely
      exact ⟨hcommit _ s hI, ih hp (hempty _)⟩
  | publish k ih => exact ih hp hI

/-- What the answer of a program that runs alone satisfies. -/
theorem Prog.Uncommitted.answers {cs : ℕ → Choice} {n : ℕ} {log : List Ev} {o : Outline Row Ev}
    {S : Session Row Ev → Prop} {P : {γ : Type} → Op Row Ev γ → Prop} {p : Prog Row Ev Err α}
    {post : α → Store Row → Session Row Ev → Prop} (hp : p.Uncommitted) (hP : p.AllOps P)
    (ho : o.Admits cs st S P n (exec cs p n st log s).next) (hs : S s) (hwp : wp o p post st s)
    (hag : Agrees s.held st) {a : α} (ha : (exec cs p n st log s).result = .ok a) :
    post a st (exec cs p n st log s).session := by
  induction p generalizing n s with
  | pure a' =>
      cases ha
      exact hwp st (o.rely_refl s st)
  | op op k ih =>
      cases he : op.eval (cs n) [] st s with
      | none =>
          rw [exec, he] at ha
          cases ha
      | some bs =>
          obtain ⟨b, s'⟩ := bs
          have hexec : exec cs (.op op k) n st log s = exec cs (k b) (n + 1) st log s' := exec_op he
          have hlt : n < (exec cs (.op op k) n st log s).next := by
            rw [hexec]
            exact exec_next_le _
          have hguard := ho.guard op s n le_rfl hlt hs
          rw [hexec] at ho ha ⊢
          exact ih b (hp b) (hP.2 b)
            ⟨ho.inv, fun op s m hm => ho.guard op s m ((Nat.le_succ n).trans hm), ho.step⟩
            (ho.step op _ b s s' hP.1 hs he)
            (hwp st ⟨o.rely_refl s st, ho.inv, hag⟩ _ _ b s' he hguard)
            ((eval_extends he).agrees hag) ha
  | raise e => cases ha
  | commit k ih => exact hp.elim
  | publish k ih => exact ih hp hP ho hs hwp hag ha

end ReadCommitted
