import MarketHub.ReadCommitted.Serial
import MarketHub.ReadCommitted.Steps

/-!
Programs made of harmless steps.

* `Prog.AllOps ok p`: every step that `p` can make satisfies `ok`, whatever the steps
  before it have answered.
* `wp_of_allOps`: a condition on sessions that such steps keep holds whenever the program
  commits or ends.
* `Op.within F`: a step that writes no row outside `F`; `wp_within` is what a program of such
  steps leaves alone, and `Prog.Body F` a program of such steps without a commit.
* `Without j s`: a session that has not inserted the row `j`; the steps that do not add it
  (`Op.spares`) keep it so.
* `Prog.Raises E p`: every exception that `p` raises satisfies `E`; `exec_raises` reads
  this off a run.
-/

namespace ReadCommitted

variable {K : Type} {Row : K → Type} {Ev Err α β : Type}

namespace Prog

/-- Every step of a program satisfies a condition. -/
def AllOps (ok : {γ : Type} → Op Row Ev γ → Prop) : Prog Row Ev Err α → Prop
  | .pure _ => True
  | .op o k => ok o ∧ ∀ b, (k b).AllOps ok
  | .raise _ => True
  | .commit k => k.AllOps ok
  | .publish k => k.AllOps ok

variable {ok : {γ : Type} → Op Row Ev γ → Prop} {k : K}

@[simp] lemma allOps_pure (a : α) : AllOps ok (.pure a : Prog Row Ev Err α) := trivial

@[simp] lemma allOps_raise (e : Failure Err) : AllOps ok (.raise e : Prog Row Ev Err α) := trivial

@[simp] lemma allOps_throw (e : Err) : AllOps ok (throw e : Prog Row Ev Err α) := trivial

@[simp] lemma allOps_lift (o : Op Row Ev α) :
    AllOps ok (lift o : Prog Row Ev Err α) ↔ ok o :=
  and_iff_left fun _ => trivial

lemma AllOps.mono {ok' : {γ : Type} → Op Row Ev γ → Prop} {p : Prog Row Ev Err α}
    (hp : p.AllOps ok) (himp : ∀ {γ : Type} (op : Op Row Ev γ), ok op → ok' op) : p.AllOps ok' := by
  induction p with
  | pure a => trivial
  | op o k ih => exact ⟨himp o hp.1, fun b => ih b (hp.2 b)⟩
  | raise e => trivial
  | commit k ih => exact ih hp
  | publish k ih => exact ih hp

lemma AllOps.and {ok' : {γ : Type} → Op Row Ev γ → Prop} {p : Prog Row Ev Err α} (hp : p.AllOps ok)
    (hp' : p.AllOps ok') : p.AllOps fun op => ok op ∧ ok' op := by
  induction p with
  | pure a => trivial
  | op o k ih => exact ⟨⟨hp.1, hp'.1⟩, fun b => ih b (hp.2 b) (hp'.2 b)⟩
  | raise e => trivial
  | commit k ih => exact ih hp hp'
  | publish k ih => exact ih hp hp'

lemma AllOps.bind {p : Prog Row Ev Err α} {f : α → Prog Row Ev Err β} (hp : p.AllOps ok)
    (hf : ∀ a, (f a).AllOps ok) : (p.bind f).AllOps ok := by
  induction p with
  | pure a => exact hf a
  | op o k ih => exact ⟨hp.1, fun b => ih b (hp.2 b)⟩
  | raise e => trivial
  | commit k ih => exact ih hp
  | publish k ih => exact ih hp

lemma allOps_flush (hdirty : ok (.dirty : Op Row Ev (List K)))
    (hflush : ∀ k, ok (.flushKey k : Op Row Ev Unit)) :
    AllOps ok (flush : Prog Row Ev Err Unit) := by
  refine ⟨hdirty, fun ks => ?_⟩
  induction ks with
  | nil => trivial
  | cons k ks ih => exact ⟨hflush k, fun _ => ih⟩

lemma allOps_scalar {stmt : Store Row → Option (List K)} {skip : Bool}
    (hselect : ok (.select skip (fun v => (stmt v).toList) (fun _ => [k]) id))
    (hattrs : ok (.attrs k)) :
    AllOps ok (scalar k stmt skip : Prog Row Ev Err (Option (Row k))) := by
  refine ⟨hselect, fun rows => ?_⟩
  dsimp only
  split
  · trivial
  · exact ⟨hattrs, fun _ => trivial⟩

lemma allOps_get [DecidableEq K] (hselect : ok (.select false
      (fun v => ((v.lookup k).map fun _ => ([] : List K)).toList) (fun _ => [k]) id))
    (hattrs : ok (.attrs k)) :
    AllOps ok (get k : Prog Row Ev Err (Option (Row k))) := by
  refine ⟨hattrs, fun row => ?_⟩
  dsimp only
  split
  · trivial
  · exact allOps_scalar hselect hattrs

end Prog

variable [DecidableEq K] [∀ k, DecidableEq (Row k)] [Table Row]

/-- A condition on sessions that the steps of a program keep. -/
lemma wp_of_allOps {ok : {γ : Type} → Op Row Ev γ → Prop} {I : Session Row Ev → Prop}
    {o : Outline Row Ev} {post : α → Store Row → Session Row Ev → Prop} {p : Prog Row Ev Err α}
    {st : Store Row} {s : Session Row Ev} (hp : p.AllOps ok)
    (hstep : ∀ (γ : Type) (op : Op Row Ev γ) c busy st s b s', ok op → I s →
      op.eval c busy st s = some (b, s') → I s')
    (hcommit : ∀ st s, I s → Agrees s.held st → o.commit st s) (hempty : I ∅)
    (hpost : ∀ a st s, I s → post a st s) (hI : I s) : wp o p post st s := by
  induction p generalizing st s with
  | pure a => exact fun st' _ => hpost a st' s hI
  | op op k ih =>
      intro st' _ c busy b s' he _
      exact ih b (hp.2 b) (hstep _ op c busy st' s b s' hp.1 hI he)
  | raise e => trivial
  | commit k ih => exact fun st' hf => ⟨hcommit st' s hI hf.agrees, ih hp hempty⟩
  | publish k ih => exact ih hp hI

/-! ### Rows that are not written -/

/-- A step that writes no row outside `F`. -/
def Op.within (F : K → Prop) : {γ : Type} → Op Row Ev γ → Prop
  | _, .assign k _ => F k
  | _, .update k _ _ => F k
  | _, .delete k _ => F k
  | _, .add k _ => F k
  | _, .insertNested k _ => F k
  | _, _ => True

/-- A session that has written the row `j` at most as a new row that satisfies `V`, and is
about to write no other. -/
structure Session.Adds (j : K) (V : Row j → Prop) (s : Session Row Ev) : Prop where
  held : ∀ h, s.held.lookup j = some h → h.cur = h.base ∨ ∃ r, h.cur = some r ∧ V r
  objects : ∀ ob, s.objects.lookup j = some ob →
    ob.loaded = some ob.cur ∨ ob.loaded = none ∧ V ob.cur

namespace Session.Adds

variable {j k : K} {V V' : Row j → Prop} {s s' : Session Row Ev} {st : Store Row}

omit [∀ k, DecidableEq (Row k)] [Table Row] in
lemma empty : Adds j V (∅ : Session Row Ev) where
  held h hk := by
    change (∅ : AList (Held Row)).lookup j = some h at hk
    simp at hk
  objects ob hob := by
    change (∅ : AList (Obj Row)).lookup j = some ob at hob
    simp at hob

omit [∀ k, DecidableEq (Row k)] [Table Row] in
lemma mono (h : s.Adds j V) (hV : ∀ r, V r → V' r) : s.Adds j V' where
  held hd hk := (h.held hd hk).imp_right fun ⟨r, hr, hVr⟩ => ⟨r, hr, hV r hVr⟩
  objects ob hob := (h.objects ob hob).imp_right fun ⟨hnew, hVr⟩ => ⟨hnew, hV _ hVr⟩

omit [∀ k, DecidableEq (Row k)] [Table Row] in
lemma lock (h : s.Adds j V) : (s.lock st k).Adds j V where
  held hd hk := by
    by_cases hkk : j = k
    · subst hkk
      rw [lookup_lock_self] at hk
      cases hold : s.held.lookup j with
      | none =>
          rw [hold] at hk
          cases hk
          exact Or.inl rfl
      | some hd' =>
          rw [hold] at hk
          cases hk
          exact h.held hd' hold
    · rw [lookup_lock_ne st s k hkk] at hk
      exact h.held hd hk
  objects := by
    rw [lock_objects]
    exact h.objects

omit [∀ k, DecidableEq (Row k)] [Table Row] in
lemma load {v : Store Row} (h : s.Adds j V) : (s.load v k).Adds j V where
  held := by
    rw [load_held]
    exact h.held
  objects ob hob := by
    rcases lookup_load_cases v s k hob with hold | ⟨r, -, rfl⟩
    · exact h.objects ob hold
    · exact Or.inl rfl

omit [∀ k, DecidableEq (Row k)] [Table Row] in
lemma sync (h : s.Adds j V) (r : Row k) : (s.sync k r).Adds j V where
  held := h.held
  objects ob hob := by
    rcases lookup_sync_cases hob with hclean | ⟨-, hold⟩
    · exact Or.inl hclean
    · exact h.objects ob hold

omit [∀ k, DecidableEq (Row k)] [Table Row] in
lemma follow (h : s.Adds j V) (m : Row k → Bool) (f : Row k → Row k) :
    (s.follow k m f).Adds j V := by
  rw [Session.follow]
  split
  · split
    · exact h.sync _
    · exact h
  · exact h

omit [∀ k, DecidableEq (Row k)] [Table Row] in
/-- Another row is written. -/
lemma write (h : s.Adds j V) (st : Store Row) (hk : j ≠ k) (r : Option (Row k)) :
    (s.write st k r).Adds j V where
  held hd hkd := by
    rw [lookup_write_ne st s k hk] at hkd
    exact h.held hd hkd
  objects := h.objects

omit [∀ k, DecidableEq (Row k)] [Table Row] in
/-- Another object is set. -/
lemma object (h : s.Adds j V) (hk : j ≠ k) (ob : Obj Row k) :
    Adds j V { s with objects := s.objects.insert k ob } where
  held := h.held
  objects ob' hob' := by
    rw [AList.lookup_insert_ne hk] at hob'
    exact h.objects ob' hob'

omit [∀ k, DecidableEq (Row k)] [Table Row] in
/-- A new object is added. -/
lemma add (h : s.Adds j V) {r : Row j} (hr : V r) :
    Adds j V { s with objects := s.objects.insert j ⟨none, r⟩ } where
  held := h.held
  objects ob hob := by
    rw [AList.lookup_insert] at hob
    cases hob
    exact Or.inr ⟨rfl, hr⟩

omit [∀ k, DecidableEq (Row k)] in
/-- The change of an object is sent. -/
lemma sent (h : s.Adds j V) {ob : Obj Row k} {r : Row k} (hob : s.objects.lookup k = some ob)
    (hsend : Sends (s.view st) k ob r) : ((s.write st k (some r)).sync k ob.cur).Adds j V := by
  by_cases hkk : j = k
  · subst hkk
    obtain ⟨hnew, hr⟩ := (h.objects ob hob).resolve_left hsend.loaded_ne
    cases hsend with
    | insert _ _ =>
        refine ⟨fun hd hk => ?_, fun ob' hob' => Or.inl ?_⟩
        · rw [sync_held, lookup_write_self] at hk
          cases hk
          exact Or.inr ⟨ob.cur, rfl, hr⟩
        · rw [lookup_sync_self] at hob'
          cases hob'
          rfl
    | update hold _ _ =>
        rw [hnew] at hold
        cases hold
  · exact (h.write st hkk _).sync _

/-- **A step within a footprint** adds nothing outside it. -/
lemma step {F : K → Prop} (hj : ¬ F j) {γ : Type} {op : Op Row Ev γ} {c : Choice}
    {busy : Busy Row} {b : γ} (hok : op.within F) (h : s.Adds j V)
    (he : op.eval c busy st s = some (b, s')) : s'.Adds j V := by
  have hne : ∀ k, F k → j ≠ k := by
    rintro k hk rfl
    exact hj hk
  -- what is written within `F` is not the row `j`
  cases op with
  | utcnow => cases he; exact h
  | uuid4 => cases he; exact h
  | select skip rows ents locks =>
      rcases eval_select_skip he with ⟨-, rfl⟩ | ⟨-, rfl⟩
      · exact h
      · have hlocked : Session.Adds j V ((b.flatMap locks).foldl (Session.lock st) s) :=
          List.foldlRecOn _ _ h fun _ hu _ _ => hu.lock
        exact List.foldlRecOn _ _ hlocked fun _ hu _ _ => hu.load
  | query q => cases he; exact h
  | attrs k => cases he; exact h
  | assign k r =>
      obtain ⟨ob, -, rfl⟩ := eval_assign he
      exact h.object (hne k hok) _
  | update k m f =>
      rcases eval_update he with ⟨-, rfl, -⟩ | ⟨r, -, -, -, rfl⟩
      · exact h.follow m f
      · exact (h.write st (hne k hok) _).follow m f
  | delete k referenced =>
      rcases eval_delete he with ⟨-, rfl, -⟩ | ⟨-, -, rfl⟩
      · exact h
      · refine ⟨(h.write st (hne k hok) none).held, fun ob hob => ?_⟩
        rw [AList.lookup_erase_ne (hne k hok)] at hob
        exact h.objects ob hob
  | add k r =>
      obtain ⟨-, rfl⟩ := eval_add he
      exact h.object (hne k hok) _
  | insertNested k r =>
      rcases eval_insertNested he with ⟨-, rfl, -⟩ | ⟨-, -, -, rfl⟩
      · exact h
      · exact (h.write st (hne k hok) _).sync _
  | refresh k =>
      obtain ⟨r, -, rfl⟩ := eval_refresh he
      exact h.sync r
  | dirty => cases he; exact h
  | flushKey k =>
      rcases eval_flushKey he with ⟨rfl, -⟩ | ⟨ob, r, hob, hsend, rfl⟩
      · exact h
      · exact h.sent hob hsend
  | record e => cases he; exact ⟨h.held, h.objects⟩

end Session.Adds

/-- A session that has not written the row `j`, and is not about to. -/
structure Session.Untouched (j : K) (s : Session Row Ev) : Prop where
  held : ∀ h, s.held.lookup j = some h → h.cur = h.base
  objects : ∀ ob, s.objects.lookup j = some ob → ob.loaded = some ob.cur

namespace Session.Untouched

variable {j k : K} {s s' : Session Row Ev} {st : Store Row}

omit [∀ k, DecidableEq (Row k)] [Table Row] in
/-- Such a session adds no row. -/
lemma iff_adds : s.Untouched j ↔ s.Adds j fun _ => False :=
  ⟨fun h => ⟨fun hd hk => Or.inl (h.held hd hk), fun ob hob => Or.inl (h.objects ob hob)⟩,
    fun h => ⟨fun hd hk => (h.held hd hk).resolve_right fun ⟨_, _, hr⟩ => hr,
      fun ob hob => (h.objects ob hob).resolve_right fun hr => hr.2⟩⟩

omit [∀ k, DecidableEq (Row k)] [Table Row] in
lemma empty : Untouched j (∅ : Session Row Ev) := iff_adds.mpr .empty

/-- **A step within a footprint** does not touch the rows outside it. -/
lemma step {F : K → Prop} (hj : ¬ F j) {γ : Type} {op : Op Row Ev γ} {c : Choice}
    {busy : Busy Row} {b : γ} (hok : op.within F) (h : s.Untouched j)
    (he : op.eval c busy st s = some (b, s')) : s'.Untouched j :=
  iff_adds.mpr ((iff_adds.mp h).step hj hok he)

omit [∀ k, DecidableEq (Row k)] [Table Row] in
/-- A commit of such a session leaves the row as it was. -/
lemma kept (h : s.Untouched j) (hag : Agrees s.held st) :
    (merge st s.held).lookup j = st.lookup j := by
  cases hk : s.held.lookup j with
  | none => exact lookup_merge_of_not_held hk
  | some hd => rw [lookup_merge_of_held hk, hag j hd hk, h.held hd hk]

end Session.Untouched

/-- A step that locks no row without writing it. -/
def Op.lockless : {γ : Type} → Op Row Ev γ → Prop
  | _, .select _ rows _ locks => ∀ v, (rows v).flatMap locks = []
  | _, _ => True

omit [∀ k, DecidableEq (Row k)] [Table Row] in
lemma Prog.lockless_get (k : K) :
    (Prog.get k : Prog Row Ev Err (Option (Row k))).AllOps Op.lockless := by
  refine Prog.allOps_get (fun v => ?_) trivial
  cases hv : v.lookup k <;> simp

omit [DecidableEq K] [∀ k, DecidableEq (Row k)] [Table Row] in
lemma Prog.lockless_flush : (Prog.flush : Prog Row Ev Err Unit).AllOps Op.lockless :=
  Prog.allOps_flush trivial fun _ => trivial

/-- Such a step within a footprint takes no row outside it. -/
lemma held_none_of_within {F : K → Prop} {j : K} (hj : ¬ F j) {γ : Type} {op : Op Row Ev γ}
    {c : Choice} {busy : Busy Row} {b : γ} {st : Store Row} {s s' : Session Row Ev}
    (hok : op.within F) (hfree : op.lockless) (h : s.Untouched j) (hnone : s.held.lookup j = none)
    (he : op.eval c busy st s = some (b, s')) : s'.held.lookup j = none := by
  have hne : ∀ k, F k → j ≠ k := by
    rintro k hk rfl
    exact hj hk
  have hwrite : ∀ k (r : Option (Row k)), j ≠ k → (s.write st k r).held.lookup j = none :=
    fun k r hk => (Session.lookup_write_ne st s k hk r).trans hnone
  -- a write goes to a key of `F`, and a flush sends no untouched object
  cases op with
  | select skip rows ents locks =>
      rcases eval_select_skip he with ⟨-, rfl⟩ | ⟨rfl, rfl⟩
      · exact hnone
      · rw [Session.foldl_load_held, hfree]
        exact hnone
  | update k m f =>
      rcases eval_update he with ⟨-, rfl, -⟩ | ⟨r, -, -, -, rfl⟩
      · rw [Session.follow_held]
        exact hnone
      · rw [Session.follow_held]
        exact hwrite k _ (hne k hok)
  | delete k referenced =>
      rcases eval_delete he with ⟨-, rfl, -⟩ | ⟨-, -, rfl⟩
      · exact hnone
      · exact hwrite k none (hne k hok)
  | insertNested k r =>
      rcases eval_insertNested he with ⟨-, rfl, -⟩ | ⟨-, -, -, rfl⟩
      · exact hnone
      · exact hwrite k _ (hne k hok)
  | flushKey k =>
      rcases eval_flushKey he with ⟨rfl, -⟩ | ⟨ob, r, hob, hsend, rfl⟩
      · exact hnone
      · by_cases hkk : j = k
        · subst hkk
          exact absurd (h.objects ob hob) hsend.loaded_ne
        · exact hwrite k _ hkk
  | assign k r =>
      obtain ⟨ob, -, rfl⟩ := eval_assign he
      exact hnone
  | add k r =>
      obtain ⟨-, rfl⟩ := eval_add he
      exact hnone
  | refresh k =>
      obtain ⟨r, -, rfl⟩ := eval_refresh he
      exact hnone
  | utcnow => cases he; exact hnone
  | uuid4 => cases he; exact hnone
  | query q => cases he; exact hnone
  | attrs k => cases he; exact hnone
  | dirty => cases he; exact hnone
  | record e => cases he; exact hnone

/-- A commit that writes no row outside `F`. -/
def Kept (F : K → Prop) (st : Store Row) (s : Session Row Ev) : Prop :=
  ∀ j, ¬ F j → (merge st s.held).lookup j = st.lookup j

/-- What a program leaves alone that stays within a footprint. -/
lemma wp_within {F : K → Prop} {o : Outline Row Ev} {p : Prog Row Ev Err α} {st : Store Row}
    {post : α → Store Row → Session Row Ev → Prop} (hp : p.AllOps (Op.within F))
    (hcommit : ∀ st s, Agrees s.held st → Kept F st s → o.commit st s)
    (hpost : ∀ a st s, post a st s) : wp o p post st ∅ :=
  wp_of_allOps (I := fun s => ∀ j, ¬ F j → s.Untouched j) hp
    (fun _ _ _ _ _ _ _ _ hok h he j hj => (h j hj).step hj hok he)
    (fun st s h hag => hcommit st s hag fun j hj => (h j hj).kept hag) (fun _ _ => .empty)
    (fun a st s _ => hpost a st s) fun _ _ => .empty

/-! #### Bodies -/

namespace Prog

/-- A program without a commit that writes no row outside `F`. -/
def Body (F : K → Prop) : Prog Row Ev Err α → Prop
  | .pure _ => True
  | .op o k => o.within F ∧ ∀ b, (k b).Body F
  | .raise _ => True
  | .commit _ => False
  | .publish k => k.Body F

variable {F : K → Prop} {p : Prog Row Ev Err α} {f : α → Prog Row Ev Err β}

omit [DecidableEq K] [∀ k, DecidableEq (Row k)] [Table Row] in
lemma Body.bind (hp : p.Body F) (hf : ∀ a, (f a).Body F) : (p.bind f).Body F := by
  induction p with
  | pure a => exact hf a
  | op o k ih => exact ⟨hp.1, fun b => ih b (hp.2 b)⟩
  | raise e => trivial
  | commit k ih => exact hp.elim
  | publish k ih => exact ih hp

omit [DecidableEq K] [∀ k, DecidableEq (Row k)] [Table Row] in
lemma Body.allOps (hp : p.Body F) : p.AllOps (Op.within F) := by
  induction p with
  | pure a => trivial
  | op o k ih => exact ⟨hp.1, fun b => ih b (hp.2 b)⟩
  | raise e => trivial
  | commit k ih => exact hp.elim
  | publish k ih => exact ih hp

omit [DecidableEq K] [∀ k, DecidableEq (Row k)] [Table Row] in
lemma body_flush : (flush : Prog Row Ev Err Unit).Body F := by
  refine ⟨trivial, fun ks => ?_⟩
  induction ks with
  | nil => trivial
  | cons k ks ih => exact ⟨trivial, fun _ => ih⟩

omit [DecidableEq K] [∀ k, DecidableEq (Row k)] [Table Row] in
lemma body_scalar (k : K) (stmt : Store Row → Option (List K)) (skip : Bool := false) :
    (scalar k stmt skip : Prog Row Ev Err (Option (Row k))).Body F := by
  refine ⟨trivial, fun rows => ?_⟩
  dsimp only
  split
  · trivial
  · exact ⟨trivial, fun _ => trivial⟩

omit [∀ k, DecidableEq (Row k)] [Table Row] in
lemma body_get (k : K) : (get k : Prog Row Ev Err (Option (Row k))).Body F := by
  refine ⟨trivial, fun row => ?_⟩
  dsimp only
  split
  · trivial
  · exact body_scalar _ _

omit [DecidableEq K] [∀ k, DecidableEq (Row k)] [Table Row] in
/-- A transaction with a body stays within its footprint. -/
lemma Body.transaction (hp : p.Body F) (g : α → β) : (p.bind fun a =>
    flush.bind fun _ => .commit (.publish (.pure (g a)))).AllOps (Op.within F) :=
  hp.allOps.bind fun _ => body_flush.allOps.bind fun _ => trivial

end Prog

/-! ### Rows that are not inserted -/

/-- A step that does not add a new object for the row `j`. -/
def Op.spares (j : K) : {γ : Type} → Op Row Ev γ → Prop
  | _, .add k _ => k ≠ j
  | _, .insertNested k _ => k ≠ j
  | _, _ => True

/-- A session that has not inserted the row `j`, and is not about to. -/
structure Session.Without (j : K) (s : Session Row Ev) : Prop where
  held : ∀ h, s.held.lookup j = some h → h.base = none → h.cur = none
  objects : ∀ ob, s.objects.lookup j = some ob → ob.loaded ≠ none

namespace Session.Without

variable {j k : K} {s s' : Session Row Ev} {st : Store Row}

omit [∀ k, DecidableEq (Row k)] [Table Row] in
lemma empty : Without j (∅ : Session Row Ev) where
  held h hk := by
    change (∅ : AList (Held Row)).lookup j = some h at hk
    simp at hk
  objects ob hob := by
    change (∅ : AList (Obj Row)).lookup j = some ob at hob
    simp at hob

omit [∀ k, DecidableEq (Row k)] [Table Row] in
lemma lock (h : s.Without j) : (s.lock st k).Without j where
  held hd hk := by
    by_cases hkk : j = k
    · subst hkk
      rw [lookup_lock_self] at hk
      cases hold : s.held.lookup j with
      | none =>
          rw [hold] at hk
          cases hk
          exact fun hnone => hnone
      | some hd' =>
          rw [hold] at hk
          cases hk
          exact h.held hd' hold
    · rw [lookup_lock_ne st s k hkk] at hk
      exact h.held hd hk
  objects := by
    rw [lock_objects]
    exact h.objects

omit [∀ k, DecidableEq (Row k)] [Table Row] in
lemma load {v : Store Row} (h : s.Without j) : (s.load v k).Without j where
  held := by
    rw [load_held]
    exact h.held
  objects ob hob := by
    rcases lookup_load_cases v s k hob with hold | ⟨r, -, rfl⟩
    · exact h.objects ob hold
    · exact Option.some_ne_none _

omit [∀ k, DecidableEq (Row k)] [Table Row] in
lemma sync (h : s.Without j) (r : Row k) : (s.sync k r).Without j where
  held := h.held
  objects ob hob := by
    rcases lookup_sync_cases hob with hclean | ⟨-, hold⟩
    · rw [hclean]
      exact Option.some_ne_none _
    · exact h.objects ob hold

omit [∀ k, DecidableEq (Row k)] [Table Row] in
lemma follow (h : s.Without j) (m : Row k → Bool) (f : Row k → Row k) :
    (s.follow k m f).Without j := by
  rw [Session.follow]
  split
  · split
    · exact h.sync _
    · exact h
  · exact h

omit [∀ k, DecidableEq (Row k)] [Table Row] in
/-- A row that is there is written. -/
lemma write (h : s.Without j) {row : Row k} (hrow : (s.view st).lookup k = some row)
    (r : Option (Row k)) : (s.write st k r).Without j where
  held hd hk hbase := by
    by_cases hkk : j = k
    · subst hkk
      rw [lookup_write_self] at hk
      cases hk
      rw [lookup_view] at hrow
      cases hold : s.held.lookup j with
      | none =>
          rw [hold] at hrow hbase
          simp only [Option.getD_none] at hbase
          rw [hbase] at hrow
          cases hrow
      | some hd' =>
          rw [hold] at hrow hbase
          have hcur := h.held hd' hold hbase
          change hd'.cur = some row at hrow
          rw [hcur] at hrow
          cases hrow
    · rw [lookup_write_ne st s k hkk] at hk
      exact h.held hd hk hbase
  objects := h.objects

omit [∀ k, DecidableEq (Row k)] [Table Row] in
/-- Another row is written. -/
lemma write_ne (h : s.Without j) (st : Store Row) (hk : j ≠ k) (r : Option (Row k)) :
    (s.write st k r).Without j where
  held hd hkd := by
    rw [lookup_write_ne st s k hk] at hkd
    exact h.held hd hkd
  objects := h.objects

omit [∀ k, DecidableEq (Row k)] [Table Row] in
/-- Another object is set. -/
lemma object (h : s.Without j) {ob : Obj Row k} (hob : k = j → ob.loaded ≠ none) :
    Without j { s with objects := s.objects.insert k ob } where
  held := h.held
  objects ob' hob' := by
    by_cases hkk : j = k
    · subst hkk
      rw [AList.lookup_insert] at hob'
      cases hob'
      exact hob rfl
    · rw [AList.lookup_insert_ne hkk] at hob'
      exact h.objects ob' hob'

/-- **A step that spares a row does not insert it.** -/
lemma step {γ : Type} {op : Op Row Ev γ} {c : Choice} {busy : Busy Row} {b : γ}
    (hok : op.spares j) (h : s.Without j) (he : op.eval c busy st s = some (b, s')) :
    s'.Without j := by
  cases op with
  | utcnow => cases he; exact h
  | uuid4 => cases he; exact h
  | select skip rows ents locks =>
      rcases eval_select_skip he with ⟨-, rfl⟩ | ⟨-, rfl⟩
      · exact h
      · have hlocked : Session.Without j ((b.flatMap locks).foldl (Session.lock st) s) :=
          List.foldlRecOn _ _ h fun _ hu _ _ => hu.lock
        exact List.foldlRecOn _ _ hlocked fun _ hu _ _ => hu.load
  | query q => cases he; exact h
  | attrs k => cases he; exact h
  | assign k r =>
      obtain ⟨ob, hob, rfl⟩ := eval_assign he
      refine h.object fun hk => ?_
      subst hk
      exact h.objects ob hob
  | update k m f =>
      rcases eval_update he with ⟨-, rfl, -⟩ | ⟨r, -, hrow, -, rfl⟩
      · exact h.follow m f
      · exact (h.write hrow _).follow m f
  | delete k referenced =>
      rcases eval_delete he with ⟨-, rfl, -⟩ | ⟨-, -, rfl⟩
      · exact h
      · refine ⟨fun hd hk hbase => ?_, fun ob hob => ?_⟩
        · by_cases hkk : j = k
          · subst hkk
            have hself : (s.write st j none).held.lookup j = _ := lookup_write_self ..
            rw [hself] at hk
            cases hk
            rfl
          · exact (h.write_ne st hkk none).held hd hk hbase
        · by_cases hkk : j = k
          · subst hkk
            rw [AList.lookup_erase] at hob
            cases hob
          · rw [AList.lookup_erase_ne hkk] at hob
            exact h.objects ob hob
  | add k r =>
      obtain ⟨-, rfl⟩ := eval_add he
      exact h.object fun hk => absurd hk hok
  | insertNested k r =>
      rcases eval_insertNested he with ⟨-, rfl, -⟩ | ⟨-, -, -, rfl⟩
      · exact h
      · exact (h.write_ne st (Ne.symm hok) _).sync _
  | refresh k =>
      obtain ⟨r, -, rfl⟩ := eval_refresh he
      exact h.sync r
  | dirty => cases he; exact h
  | flushKey k =>
      rcases eval_flushKey he with ⟨rfl, -⟩ | ⟨ob, r, hob, hsend, rfl⟩
      · exact h
      · by_cases hkk : k = j
        · subst hkk
          cases hsend with
          | insert hnew _ => exact absurd hnew (h.objects ob hob)
          | update _ _ hrow => exact (h.write hrow _).sync _
        · exact (h.write_ne st (Ne.symm hkk) _).sync _
  | record e => cases he; exact ⟨h.held, h.objects⟩

omit [∀ k, DecidableEq (Row k)] [Table Row] in
/-- A commit of such a session leaves the row absent. -/
lemma absent (h : s.Without j) (hag : Agrees s.held st) (hnone : st.lookup j = none) :
    (merge st s.held).lookup j = none := by
  cases hk : s.held.lookup j with
  | none =>
      rw [lookup_merge_of_not_held hk]
      exact hnone
  | some hd =>
      rw [lookup_merge_of_held hk]
      exact h.held hd hk ((hag j hd hk).symm.trans hnone)

end Session.Without

/-- A program that spares a row leaves it absent. -/
lemma wp_spares {j : K} {o : Outline Row Ev} {p : Prog Row Ev Err α} {st : Store Row}
    {post : α → Store Row → Session Row Ev → Prop} (hp : p.AllOps (Op.spares j))
    (hcommit : ∀ st s, (st.lookup j = none → (merge st s.held).lookup j = none) → o.commit st s)
    (hpost : ∀ a st s, post a st s) : wp o p post st ∅ :=
  wp_of_allOps hp (fun _ _ _ _ _ _ _ _ => Session.Without.step)
    (fun st s h hag => hcommit st s (h.absent hag)) .empty (fun a st s _ => hpost a st s) .empty

/-! ### Exceptions -/

/-- Every exception of a program satisfies a condition. -/
def Prog.Raises (E : Failure Err → Prop) : Prog Row Ev Err α → Prop
  | .pure _ => True
  | .op _ k => ∀ b, (k b).Raises E
  | .raise e => E e
  | .commit k => k.Raises E
  | .publish k => k.Raises E

omit [DecidableEq K] [∀ k, DecidableEq (Row k)] [Table Row] in
lemma Prog.Raises.bind {E : Failure Err → Prop} {p : Prog Row Ev Err α}
    {f : α → Prog Row Ev Err β} (hp : p.Raises E) (hf : ∀ a, (f a).Raises E) :
    (p.bind f).Raises E := by
  induction p with
  | pure a => exact hf a
  | op o k ih => exact fun b => ih b (hp b)
  | raise e => exact hp
  | commit k ih => exact ih hp
  | publish k ih => exact ih hp

omit [DecidableEq K] [∀ k, DecidableEq (Row k)] [Table Row] in
lemma raises_of_forall {E : Failure Err → Prop} {p : Prog Row Ev Err α} (h : ∀ e, E e) :
    p.Raises E := by
  induction p with
  | pure a => trivial
  | op o k ih => exact ih
  | raise e => exact h e
  | commit k ih => exact ih
  | publish k ih => exact ih

omit [DecidableEq K] [∀ k, DecidableEq (Row k)] [Table Row] in
lemma Prog.Raises.mono {E E' : Failure Err → Prop} {p : Prog Row Ev Err α} (h : p.Raises E)
    (himp : ∀ e, E e → E' e) : p.Raises E' := by
  induction p with
  | pure a => trivial
  | op o k ih => exact fun b => ih b (h b)
  | raise e => exact himp e h
  | commit k ih => exact ih h
  | publish k ih => exact ih h

omit [DecidableEq K] [∀ k, DecidableEq (Row k)] [Table Row] in
lemma Prog.raises_flush (E : Failure Err → Prop) :
    (Prog.flush : Prog Row Ev Err Unit).Raises E := by
  intro ks
  induction ks with
  | nil => trivial
  | cons k ks ih => exact fun _ => ih

/-- A program alone fails with one of its exceptions, or because of the database. -/
lemma exec_raises {E : Failure Err → Prop} {p : Prog Row Ev Err α} (h : p.Raises E)
    {cs : ℕ → Choice} {n : ℕ} {st : Store Row} {log : List Ev} {s : Session Row Ev}
    {e : Failure Err} (he : (exec cs p n st log s).result = .error e) : E e ∨ e = .database := by
  induction p generalizing n st log s with
  | pure a => cases he
  | op op k ih =>
      rw [exec] at he
      split at he
      · exact ih _ (h _) he
      · cases he
        exact Or.inr rfl
  | raise e' =>
      cases he
      exact Or.inl h
  | commit k ih => exact ih h he
  | publish k ih => exact ih h he

end ReadCommitted
