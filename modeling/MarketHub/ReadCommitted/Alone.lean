import MarketHub.ReadCommitted.Serial
import MarketHub.ReadCommitted.Ledger

/-!
Running a program alone, statement by statement.

`exec` follows a program against a store that nobody else touches; the lemmas here say
for every statement what it answers then and how the program goes on, so that a run is
followed by rewriting. In contrast to the rules for the weakest precondition they also
reach the exceptions a program raises.

* `exec_scalar_some`, `exec_add`, `exec_flush_one`, ...: one equation for each statement.
* `Outline.alone`: the outline of a program that runs alone at one moment, and
  `exec_post`, which reads off what such a program has reached.
* `Prog.Uncommitted`: a program without a commit leaves the store and the events as
  they are (`exec_uncommitted`).
-/

namespace ReadCommitted

variable {K : Type} [DecidableEq K] {Row : K → Type} [∀ k, DecidableEq (Row k)] [Table Row]
  {Ev Err α β : Type} {cs : ℕ → Choice} {n : ℕ} {st : Store Row} {log : List Ev}
  {s : Session Row Ev} {k : K}

/-! ### One equation for each statement -/

lemma exec_utcnow (f : ℤ → Prog Row Ev Err α) :
    exec cs (Prog.utcnow.bind f) n st log s = exec cs (f (cs n).now) (n + 1) st log s := rfl

lemma exec_uuid4 (f : ℕ → Prog Row Ev Err α) :
    exec cs (Prog.uuid4.bind f) n st log s = exec cs (f (cs n).uuid) (n + 1) st log s := rfl

lemma exec_attrs (f : Option (Row k) → Prog Row Ev Err α) :
    exec cs ((Prog.attrs k).bind f) n st log s
      = exec cs (f ((s.objects.lookup k).map Obj.cur)) (n + 1) st log s := rfl

lemma exec_query (q : Store Row → β) (f : β → Prog Row Ev Err α) :
    exec cs ((Prog.query q).bind f) n st log s = exec cs (f (q (s.view st))) (n + 1) st log s := rfl

lemma exec_record (e : Ev) (f : Unit → Prog Row Ev Err α) :
    exec cs ((Prog.record e).bind f) n st log s
      = exec cs (f ()) (n + 1) st log { s with pending := s.pending ++ [e] } := rfl

/-- A `SELECT` without locks. -/
lemma exec_select {ι : Type} (rows : Store Row → List ι) (ents : ι → List K)
    (f : List ι → Prog Row Ev Err α) :
    exec cs ((Prog.lift (.select false rows ents fun _ => [])).bind f) n st log s
      = exec cs (f (rows (s.view st))) (n + 1) st log
          (((rows (s.view st)).flatMap ents).foldl (Session.load (s.view st)) s) := by
  have hnil : (rows (s.view st)).flatMap (fun _ => ([] : List K)) = [] := by simp
  refine exec_op ?_
  simp only [Op.eval, Bool.false_and, Bool.false_eq_true, if_false, hnil, List.any_nil,
    List.foldl_nil]

omit [∀ k, DecidableEq (Row k)] [Table Row] in
/-- Alone, no row is locked by another transaction. -/
lemma any_locked_nil (ks : List K) : ks.any (Busy.locked ([] : Busy Row)) = false := by
  simp [Busy.locked]

/-- A `SELECT` of at most one row that finds none. -/
lemma exec_scalar_none {stmt : Store Row → Option (List K)} (f : Option (Row k) → Prog Row Ev Err α)
    (h : stmt (s.view st) = none) :
    exec cs ((Prog.scalar k stmt).bind f) n st log s = exec cs (f none) (n + 1) st log s := by
  refine (exec_op (show _ = some ([], s) from ?_)).trans rfl
  simp [Op.eval, h]

/-- A `SELECT` of one row that finds it. -/
lemma exec_scalar_some {stmt : Store Row → Option (List K)} {locks : List K}
    (f : Option (Row k) → Prog Row Ev Err α) (h : stmt (s.view st) = some locks) :
    exec cs ((Prog.scalar k stmt).bind f) n st log s
      = exec cs (f (s.read (s.view st) k)) (n + 2) st log
          ((locks.foldl (Session.lock st) s).load (s.view st) k) := by
  have hread : (((locks.foldl (Session.lock st) s).load (s.view st) k).objects.lookup k).map Obj.cur
      = s.read (s.view st) k := by
    rw [Session.lookup_load_self, Session.read, Session.read, Session.foldl_lock_objects]
  refine (exec_op (show _ = some ([locks],
    (locks.foldl (Session.lock st) s).load (s.view st) k) from ?_)).trans ?_
  · simp [Op.eval, h, any_locked_nil]
  · change exec cs ((Prog.attrs k).bind f) (n + 1) st log _ = _
    rw [exec_attrs, hread]

/-- `session.get` of an object of the session. -/
lemma exec_get_old {ob : Obj Row k} (f : Option (Row k) → Prog Row Ev Err α)
    (h : s.objects.lookup k = some ob) :
    exec cs ((Prog.get k).bind f) n st log s = exec cs (f (some ob.cur)) (n + 1) st log s := by
  refine (exec_op (show _ = some (some ob.cur, s) from ?_)).trans rfl
  simp [Op.eval, h]

/-- `session.get` of a row that is not loaded yet. -/
lemma exec_get_new {r : Row k} (f : Option (Row k) → Prog Row Ev Err α)
    (hk : s.objects.lookup k = none) (hr : (s.view st).lookup k = some r) :
    exec cs ((Prog.get k).bind f) n st log s
      = exec cs (f (some r)) (n + 3) st log (s.load (s.view st) k) := by
  refine (exec_op (show _ = some (none, s) from ?_)).trans ?_
  · simp [Op.eval, hk]
  · have hfound : ((s.view st).lookup k).map (fun _ => ([] : List K)) = some [] := by rw [hr]; rfl
    have hscalar : exec cs ((Prog.scalar k fun v => (v.lookup k).map fun _ => []).bind f)
        (n + 1) st log s
        = exec cs (f (s.read (s.view st) k)) (n + 1 + 2) st log
            ((([] : List K).foldl (Session.lock st) s).load (s.view st) k) :=
      exec_scalar_some f hfound
    have hread : s.read (s.view st) k = some r := by rw [Session.read, hk]; exact hr
    rw [hread] at hscalar
    exact hscalar

/-- `session.get` of a row that is not there. -/
lemma exec_get_none (f : Option (Row k) → Prog Row Ev Err α) (hk : s.objects.lookup k = none)
    (hr : (s.view st).lookup k = none) :
    exec cs ((Prog.get k).bind f) n st log s = exec cs (f none) (n + 2) st log s := by
  refine (exec_op (show _ = some (none, s) from ?_)).trans ?_
  · simp [Op.eval, hk]
  · change exec cs ((Prog.scalar k fun v => (v.lookup k).map fun _ => []).bind f)
      (n + 1) st log s = _
    exact exec_scalar_none f (by rw [hr]; rfl)

/-- A new object. -/
lemma exec_add {r : Row k} (f : Unit → Prog Row Ev Err α) (h : s.objects.lookup k = none) :
    exec cs ((Prog.add k r).bind f) n st log s
      = exec cs (f ()) (n + 1) st log { s with objects := s.objects.insert k ⟨none, r⟩ } := by
  refine exec_op (b := ()) ?_
  simp [Op.eval, h]

/-- The attributes of an object are set. -/
lemma exec_assign {ob : Obj Row k} {r : Row k} (f : Unit → Prog Row Ev Err α)
    (h : s.objects.lookup k = some ob) :
    exec cs ((Prog.assign k r).bind f) n st log s
      = exec cs (f ()) (n + 1) st log
          { s with objects := s.objects.insert k ⟨ob.loaded, r⟩ } := by
  refine exec_op (b := ()) ?_
  simp [Op.eval, h]

variable (cs n st log) in
/-- An `UPDATE` of a row without an object: the other rows and the objects stay. -/
lemma exec_update {m : Row k → Bool} {u : Row k → Row k} (hk : s.objects.lookup k = none)
    (f : Bool → Prog Row Ev Err α) :
    ∃ b s', s'.objects = s.objects ∧ Extends st [] s s'
      ∧ (∀ k', k' ≠ k → (s'.view st).lookup k' = (s.view st).lookup k')
      ∧ exec cs ((Prog.update k m u).bind f) n st log s = exec cs (f b) (n + 1) st log s' := by
  have hsame : ∀ s₁ : Session Row Ev, s₁.objects = s.objects → s₁.follow k m u = s₁ := by
    intro s₁ h₁
    rw [Session.follow, h₁, hk]
  have hother : ∃ b s', (Op.update k m u).eval (cs n) [] st s = some (b, s')
      ∧ s'.objects = s.objects ∧ ∀ k', k' ≠ k → (s'.view st).lookup k' = (s.view st).lookup k' := by
    cases hr : (s.view st).lookup k with
    | none => exact ⟨false, s, by simp [Op.eval, hr, hsame s rfl], rfl, fun _ _ => rfl⟩
    | some r =>
        cases hm : m r with
        | false => exact ⟨false, s, by simp [Op.eval, hr, hm, hsame s rfl], rfl, fun _ _ => rfl⟩
        | true =>
            refine ⟨true, s.write st k (some (u r)),
              by simp [Op.eval, hr, hm, Busy.locked, hsame (s.write st k (some (u r))) rfl], rfl,
              fun k' hk' => ?_⟩
            rw [Session.lookup_view, Session.lookup_view, Session.lookup_write_ne st s k hk']
  obtain ⟨b, s', he, hobjects, hview⟩ := hother
  exact ⟨b, s', hobjects, eval_extends he, hview, exec_op he⟩

/-- An `UPDATE` of a row whose object is as it was loaded. -/
lemma exec_update_clean {m : Row k → Bool} {u : Row k → Row k} {r : Row k}
    (f : Bool → Prog Row Ev Err α) (hob : s.objects.lookup k = some ⟨some r, r⟩)
    (hr : (s.view st).lookup k = some r) (hm : m r = true) :
    exec cs ((Prog.update k m u).bind f) n st log s
      = exec cs (f true) (n + 1) st log ((s.write st k (some (u r))).sync k (u r)) := by
  refine exec_op (b := true) ?_
  have hfollow : (s.write st k (some (u r))).follow k m u
      = (s.write st k (some (u r))).sync k (u r) := by
    rw [Session.follow, Session.write_objects, hob]
    exact if_pos hm
  simp only [Op.eval, hr, hm, if_true, Busy.locked, List.any_nil, Bool.false_eq_true,
    if_false, hfollow]

/-- An object is read again. -/
lemma exec_refresh {r : Row k} (f : Unit → Prog Row Ev Err α) (hr : (s.view st).lookup k = some r) :
    exec cs ((Prog.refresh k).bind f) n st log s = exec cs (f ()) (n + 1) st log (s.sync k r) := by
  refine exec_op (b := ()) ?_
  simp only [Op.eval, hr]

/-! ### Flushes -/

omit [Table Row] in
/-- The objects that carry changes when at most one does. -/
lemma filter_isDirty_insert (hclean : ∀ k' o, k' ≠ k → s.objects.lookup k' = some o →
      o.loaded = some o.cur) {ob : Obj Row k} (hob : ob.loaded ≠ some ob.cur) :
    ((s.objects.insert k ob).keys.filter
      (Session.isDirty { s with objects := s.objects.insert k ob })) = [k] := by
  have hrest : ∀ k' ∈ s.objects.keys.erase k,
      ¬ Session.isDirty { s with objects := s.objects.insert k ob } k' = true := by
    intro k' hk' hdirty
    have hne : k' ≠ k := fun heq => s.objects.keys_nodup.not_mem_erase (heq ▸ hk')
    obtain ⟨o, ho, hchange⟩ := Session.isDirty_iff.mp hdirty
    rw [AList.lookup_insert_ne hne] at ho
    exact hchange (hclean k' o hne ho)
  have hself : Session.isDirty { s with objects := s.objects.insert k ob } k = true :=
    Session.isDirty_iff.mpr ⟨ob, AList.lookup_insert _, hob⟩
  rw [AList.keys_insert, List.filter_cons_of_pos hself, List.filter_eq_nil_iff.mpr hrest]

/-- A flush of a session without changes. -/
lemma exec_flush_clean (hclean : s.Clean) (f : Unit → Prog Row Ev Err α) :
    exec cs (Prog.flush.bind f) n st log s = exec cs (f ()) (n + 1) st log s := by
  have hnone : s.objects.keys.filter s.isDirty = [] := by
    refine List.filter_eq_nil_iff.mpr fun k _ hdirty => ?_
    obtain ⟨o, ho, hchange⟩ := Session.isDirty_iff.mp hdirty
    exact hchange (hclean k o ho)
  refine (exec_op (show _ = some (s.objects.keys.filter s.isDirty, s) from rfl)).trans ?_
  rw [hnone]
  rfl

/-- The end of a transaction that has sent its changes. -/
lemma exec_finish_clean {a : α} (hclean : s.Clean) :
    exec cs (Prog.flush.bind fun _ => (.commit (.publish (.pure a)) : Prog Row Ev Err α)) n st log s
      = ⟨.ok a, s.view st, log ++ s.pending, ∅, n + 1⟩ := by
  rw [exec_flush_clean hclean]
  rfl

/-- A flush of a session with one changed object. -/
lemma exec_flush_one {ob : Obj Row k} {r : Row k}
    (hclean : ∀ k' o, k' ≠ k → s.objects.lookup k' = some o → o.loaded = some o.cur)
    (hob : ob.loaded ≠ some ob.cur)
    (hsend : (Op.flushKey k).eval (cs (n + 1)) [] st { s with objects := s.objects.insert k ob }
      = some ((), (Session.write st { s with objects := s.objects.insert k ob } k (some r)).sync k
          ob.cur))
    (f : Unit → Prog Row Ev Err α) :
    exec cs (Prog.flush.bind f) n st log { s with objects := s.objects.insert k ob }
      = exec cs (f ()) (n + 2) st log
          ((Session.write st { s with objects := s.objects.insert k ob } k (some r)).sync k
            ob.cur) := by
  refine (exec_op (show _ = some ([k],
    { s with objects := s.objects.insert k ob }) from ?_)).trans ?_
  · simp only [Op.eval, filter_isDirty_insert hclean hob]
  · exact exec_op hsend

/-- A new row is sent that no unique index refuses. -/
lemma eval_flushKey_new {c : Choice} {ob : Obj Row k} (hob : s.objects.lookup k = some ob)
    (hnew : ob.loaded = none) (hfree : clashes (s.view st) k ob.cur = false) :
    (Op.flushKey k).eval c [] st s = some ((), (s.write st k (some ob.cur)).sync k ob.cur) := by
  simp [Op.eval, hob, hnew, hfree, Busy.clashes, Busy.locked]

/-- A changed row is sent. -/
lemma eval_flushKey_old {c : Choice} {ob : Obj Row k} {old row : Row k}
    (hob : s.objects.lookup k = some ob) (hold : ob.loaded = some old) (hne : old ≠ ob.cur)
    (hrow : (s.view st).lookup k = some row) :
    (Op.flushKey k).eval c [] st s
      = some ((), (s.write st k (some (Table.patch old ob.cur row))).sync k ob.cur) := by
  simp [Op.eval, hob, hold, hne, hrow, Busy.locked]

variable (cs n st log) in
/-- **An object is set and sent**: the session sees the new row, and is clean again. -/
lemma exec_assign_flush {r : Row k} (r' : Row k) [LawfulTable Row] (hclean : s.Clean)
    (hob : s.objects.lookup k = some ⟨some r, r⟩) (hrow : (s.view st).lookup k = some r)
    (f : Unit → Prog Row Ev Err α) :
    ∃ n' s', s'.Clean ∧ s'.pending = s.pending ∧ (s'.view st).lookup k = some r'
      ∧ (∀ k', k' ≠ k → (s'.view st).lookup k' = (s.view st).lookup k')
      ∧ (∀ k', k' ≠ k → s'.objects.lookup k' = s.objects.lookup k')
      ∧ exec cs ((Prog.assign k r').bind fun _ => Prog.flush.bind f) n st log s
        = exec cs (f ()) n' st log s' := by
  have hassign : exec cs ((Prog.assign k r').bind fun _ => Prog.flush.bind f) n st log s = _ :=
    exec_assign _ hob
  have hset : (s.objects.insert k ⟨some r, r'⟩).lookup k
      = some ⟨some r, r'⟩ := AList.lookup_insert _
  have hother : ∀ k', k' ≠ k → (s.objects.insert k ⟨some r, r'⟩).lookup k' = s.objects.lookup k' :=
    fun k' hk => AList.lookup_insert_ne hk
  -- an assignment that changes nothing sends nothing
  by_cases hsame : r = r'
  · subst hsame
    have hstill : Session.Clean { s with objects := s.objects.insert k ⟨some r, r⟩ } := by
      intro k' o ho
      by_cases hk : k' = k
      · subst hk
        rw [hset] at ho
        cases ho
        rfl
      · rw [hother k' hk] at ho
        exact hclean k' o ho
    refine ⟨n + 2, _, hstill, rfl, hrow, fun _ _ => rfl, hother, ?_⟩
    rw [hassign, exec_flush_clean hstill]
  · have hsend := eval_flushKey_old (c := cs (n + 1 + 1))
      (s := { s with objects := s.objects.insert k ⟨some r, r'⟩ }) hset rfl hsame hrow
    rw [LawfulTable.patch_self] at hsend
    refine ⟨n + 3,
      (Session.write st { s with objects := s.objects.insert k ⟨some r, r'⟩ } k
        (some r')).sync k r',
      ?_, rfl, ?_, fun k' hk => ?_, fun k' hk => ?_, ?_⟩
    · intro k' o ho
      rcases Session.lookup_sync_cases ho with hdone | ⟨hk, hold⟩
      · exact hdone
      · exact hclean k' o ((hother k' hk).symm.trans hold)
    · rw [Session.view, Session.sync_held]
      exact Session.lookup_view_write_self ..
    · rw [Session.view, Session.sync_held]
      exact Session.lookup_view_write_ne st _ k hk _
    · rw [Session.lookup_sync_ne _ _ hk]
      exact hother k' hk
    · rw [hassign, exec_flush_one (fun k' o _ ho => hclean k' o ho) (by simpa using hsame) hsend]

/-- The changes of a session are changes of rows that are there. -/
def Session.Updates (st : Store Row) (s : Session Row Ev) : Prop :=
  ∀ k o, s.objects.lookup k = some o → o.loaded ≠ some o.cur →
    ∃ old row, o.loaded = some old ∧ (s.view st).lookup k = some row

/-- A changed row of such a session can be sent, and leaves a session of this kind. -/
lemma Session.Updates.flushKey {c : Choice} (h : s.Updates st) (k : K) :
    ∃ s', (Op.flushKey k).eval c [] st s = some ((), s') ∧ s'.Updates st := by
  cases hob : s.objects.lookup k with
  | none => exact ⟨s, by simp [Op.eval, hob], h⟩
  | some ob =>
      by_cases hsame : ob.loaded = some ob.cur
      · exact ⟨s, by simp [Op.eval, hob, hsame], h⟩
      · obtain ⟨old, row, hold, hrow⟩ := h k ob hob hsame
        have hne : old ≠ ob.cur := fun heq => hsame (by rw [hold, heq])
        refine ⟨_, eval_flushKey_old hob hold hne hrow, fun k' ob' hob' hne' => ?_⟩
        rcases lookup_sync_cases hob' with hclean | ⟨hkk, hold'⟩
        · exact absurd hclean hne'
        · obtain ⟨old', row', hloaded, hrow'⟩ := h k' ob' hold' hne'
          refine ⟨old', row', hloaded, ?_⟩
          rw [lookup_view, sync_held, lookup_write_ne st s k hkk, ← lookup_view]
          exact hrow'

/-- A flush is not refused when no change is. -/
lemma result_flush_by {P : Session Row Ev → Prop}
    (hstep : ∀ (c : Choice) s k, P s → ∃ s', (Op.flushKey k).eval c [] st s = some ((), s') ∧ P s')
    (h : P s) : (exec cs (Prog.flush : Prog Row Ev Err Unit) n st log s).result = .ok () := by
  have hkeys : ∀ (ks : List K) (n : ℕ) (s : Session Row Ev), P s →
      (exec cs (ks.forM fun k => Prog.lift (.flushKey k) : Prog Row Ev Err Unit) n st log s).result
        = .ok () := by
    intro ks
    induction ks with
    | nil => exact fun _ _ _ => rfl
    | cons k ks ih =>
        intro n s h
        obtain ⟨s', he, h'⟩ := hstep (cs n) s k h
        refine Eq.trans (congrArg Outcome.result (exec_op he)) ?_
        exact ih (n + 1) s' h'
  exact hkeys _ (n + 1) s h

/-- The flush of such a session is not refused. -/
lemma result_flush (h : s.Updates st) :
    (exec cs (Prog.flush : Prog Row Ev Err Unit) n st log s).result = .ok () :=
  result_flush_by (P := Session.Updates st) (fun _ _ k h => h.flushKey k) h

omit [∀ k, DecidableEq (Row k)] in
/-- A row that stands in no other's way. -/
lemma clashes_eq_false_iff {v : Store Row} {r : Row k} : clashes v k r = false
    ↔ v.lookup k = none ∧ ∀ k' r', v.lookup k' = some r' → Table.clash k r k' r' = false := by
  rw [clashes, Bool.or_eq_false_iff, Option.isSome_eq_false_iff, Option.isNone_iff_eq_none,
    List.any_eq_false]
  refine and_congr_right fun _ => ⟨fun h k' r' hr' => ?_, fun h e he => ?_⟩
  · simpa using h ⟨k', r'⟩ (AList.mem_lookup_iff.mp hr')
  · simpa using h e.1 e.2 (AList.mem_lookup_iff.mpr he)

/-- The changes of a session are new rows, which stand in no other's way. -/
structure Session.Inserts (st : Store Row) (s : Session Row Ev) : Prop where
  free : ∀ k o, s.objects.lookup k = some o → o.loaded ≠ some o.cur →
    o.loaded = none ∧ clashes (s.view st) k o.cur = false
  apart : ∀ k o k' o', k ≠ k' → s.objects.lookup k = some o → s.objects.lookup k' = some o' →
    o.loaded ≠ some o.cur → o'.loaded ≠ some o'.cur → Table.clash k o.cur k' o'.cur = false

/-- A new row of such a session can be sent, and leaves a session of this kind. -/
lemma Session.Inserts.flushKey {c : Choice} (h : s.Inserts st) (k : K) :
    ∃ s', (Op.flushKey k).eval c [] st s = some ((), s') ∧ s'.Inserts st := by
  cases hob : s.objects.lookup k with
  | none => exact ⟨s, by simp [Op.eval, hob], h⟩
  | some ob =>
      by_cases hsame : ob.loaded = some ob.cur
      · exact ⟨s, by simp [Op.eval, hob, hsame], h⟩
      · obtain ⟨hnew, hfree⟩ := h.free k ob hob hsame
        have hold : ∀ k' o', ((s.write st k (some ob.cur)).sync k ob.cur).objects.lookup k'
            = some o' →
            o'.loaded ≠ some o'.cur → k' ≠ k ∧ s.objects.lookup k' = some o' := fun k' o' ho' hne =>
          (Session.lookup_sync_cases ho').resolve_left hne
        refine ⟨_, eval_flushKey_new hob hnew hfree, fun k' o' ho' hne => ?_,
          fun k₁ o₁ k₂ o₂ hkk ho₁ ho₂ hne₁ hne₂ =>
            h.apart k₁ o₁ k₂ o₂ hkk (hold k₁ o₁ ho₁ hne₁).2 (hold k₂ o₂ ho₂ hne₂).2 hne₁ hne₂⟩
        obtain ⟨hkk, ho⟩ := hold k' o' ho' hne
        obtain ⟨hnew', hfree'⟩ := h.free k' o' ho hne
        refine ⟨hnew', ?_⟩
        rw [clashes_eq_false_iff, Session.view, Session.sync_held] at *
        refine ⟨(Session.lookup_view_write_ne st s k hkk _).trans hfree'.1, fun k₁ r₁ hr₁ => ?_⟩
        by_cases hk₁ : k₁ = k
        · subst hk₁
          obtain rfl := Option.some.inj ((Session.lookup_view_write_self ..).symm.trans hr₁)
          exact h.apart k' o' k₁ ob hkk ho hob hne hsame
        · exact hfree'.2 k₁ r₁ ((Session.lookup_view_write_ne st s k hk₁ _).symm.trans hr₁)

/-! ### At one moment -/

/-- The outline of a program that runs alone, with an obligation for its commits. -/
def Outline.serial (Row : K → Type) (Ev : Type) (C : Store Row → Session Row Ev → Prop) :
    Outline Row Ev where
  rely _ st st' := st' = st
  commit := C
  rely_refl _ _ := rfl
  rely_trans h h' := h'.trans h

/-- The outline of a program that runs alone, with a clock that stands still. -/
def Outline.alone (Row : K → Type) (Ev : Type) (now : ℤ) : Outline Row Ev :=
  { Outline.serial Row Ev fun _ _ => True with
    guard := fun _ _ _ c => c.now = now }

/-- What a program reaches that runs alone. -/
lemma exec_post {now : ℤ} {p : Prog Row Ev Err α} {post : α → Store Row → Session Row Ev → Prop}
    (hwp : wp (Outline.alone Row Ev now) p post st ∅) (hcs : ∀ n, (cs n).now = now) {a : α}
    (ha : (exec cs p n st log ∅).result = .ok a) :
    post a (exec cs p n st log ∅).store (exec cs p n st log ∅).session :=
  (exec_ok hwp trivial (agrees_empty st) (fun _ _ _ _ n => hcs n)
    (fun _ _ _ _ _ _ => trivial)).2 a ha

/-! ### Transactions that raise -/

/-- A program that does not commit. -/
def Prog.Uncommitted : Prog Row Ev Err α → Prop
  | .pure _ => True
  | .op _ k => ∀ b, (k b).Uncommitted
  | .raise _ => True
  | .commit _ => False
  | .publish k => k.Uncommitted

lemma exec_uncommitted {p : Prog Row Ev Err α} (h : p.Uncommitted) :
    (exec cs p n st log s).store = st ∧ (exec cs p n st log s).log = log := by
  induction p generalizing n s with
  | pure a => exact ⟨rfl, rfl⟩
  | op op k ih =>
      rw [exec]
      split
      · exact ih _ (h _)
      · exact ⟨rfl, rfl⟩
  | raise e => exact ⟨rfl, rfl⟩
  | commit k ih => exact h.elim
  | publish k ih => exact ih h

namespace Prog

omit [DecidableEq K] [∀ k, DecidableEq (Row k)] [Table Row] in
@[simp] lemma uncommitted_pure (a : α) : (.pure a : Prog Row Ev Err α).Uncommitted := trivial

omit [DecidableEq K] [∀ k, DecidableEq (Row k)] [Table Row] in
@[simp] lemma uncommitted_raise (e : Failure Err) :
    (.raise e : Prog Row Ev Err α).Uncommitted := trivial

omit [DecidableEq K] [∀ k, DecidableEq (Row k)] [Table Row] in
@[simp] lemma uncommitted_throw (e : Err) :
    (throw e : Prog Row Ev Err α).Uncommitted := trivial

omit [DecidableEq K] [∀ k, DecidableEq (Row k)] [Table Row] in
@[simp] lemma uncommitted_lift (o : Op Row Ev α) :
    (lift o : Prog Row Ev Err α).Uncommitted := fun _ => trivial

omit [DecidableEq K] [∀ k, DecidableEq (Row k)] [Table Row] in
lemma Uncommitted.bind {p : Prog Row Ev Err α} {f : α → Prog Row Ev Err β} (hp : p.Uncommitted)
    (hf : ∀ a, (f a).Uncommitted) : (p.bind f).Uncommitted := by
  induction p with
  | pure a => exact hf a
  | op o k ih => exact fun b => ih b (hp b)
  | raise e => trivial
  | commit k ih => exact hp.elim
  | publish k ih => exact ih hp

omit [DecidableEq K] [∀ k, DecidableEq (Row k)] [Table Row] in
@[simp] lemma uncommitted_scalar (stmt : Store Row → Option (List K)) (skip : Bool) :
    (scalar k stmt skip : Prog Row Ev Err (Option (Row k))).Uncommitted := by
  intro rows
  dsimp only
  split
  · trivial
  · exact uncommitted_lift _

omit [DecidableEq K] [∀ k, DecidableEq (Row k)] [Table Row] in
@[simp] lemma uncommitted_flush : (flush : Prog Row Ev Err Unit).Uncommitted := by
  intro ks
  induction ks with
  | nil => trivial
  | cons k ks ih => exact fun _ => ih

end Prog

/-- The rows a program holds that runs alone are as it has found them. -/
lemma exec_agrees {p : Prog Row Ev Err α} (h : p.Uncommitted) (hag : Agrees s.held st) :
    Agrees (exec cs p n st log s).session.held st := by
  induction p generalizing n s with
  | pure a => exact hag
  | op op k ih =>
      rw [exec]
      split
      · rename_i b s' he
        exact ih _ (h _) ((eval_extends he).agrees hag)
      · exact agrees_empty st
  | raise e => exact agrees_empty st
  | commit k ih => exact h.elim
  | publish k ih => exact ih h hag

/-- A flush that is not refused, row by row. -/
lemma exec_flush_by (hresult : (exec cs (Prog.flush : Prog Row Ev Err Unit) n st log s).result
    = .ok ())
    (hag : Agrees s.held st) (f : Unit → Prog Row Ev Err α) :
    ∃ n' s', s.Flushes s' ∧ s'.Clean ∧ Agrees s'.held st
      ∧ exec cs (Prog.flush.bind f) n st log s = exec cs (f ()) n' st log s' := by
  have hwp : wp ({} : Outline Row Ev) (Prog.flush : Prog Row Ev Err Unit)
      (fun _ _ s' => s.Flushes s' ∧ s'.Clean) st s := by
    have hend : wp ({} : Outline Row Ev) (Prog.flush.bind .pure : Prog Row Ev Err Unit)
        (fun _ _ s' => s.Flushes s' ∧ s'.Clean) st s :=
      wp_flush_exact (fun _ _ => True) (fun _ => trivial) (fun _ _ _ _ _ => trivial)
        (fun _ _ _ _ => trivial) fun st' s' _ hflush hclean => fun _ _ => ⟨hflush, hclean⟩
    exact wp_mono (wp_of_bind hend) fun _ st' s' h => h st' trivial
  obtain ⟨hstore, hlog⟩ :
      (exec cs (Prog.flush : Prog Row Ev Err Unit) n st log s).store = st
        ∧ (exec cs (Prog.flush : Prog Row Ev Err Unit) n st log s).log = log :=
    exec_uncommitted Prog.uncommitted_flush
  have hagrees : Agrees (exec cs (Prog.flush : Prog Row Ev Err Unit) n st log s).session.held st :=
    exec_agrees Prog.uncommitted_flush hag
  have hpost : s.Flushes (exec cs (Prog.flush : Prog Row Ev Err Unit) n st log s).session
      ∧ (exec cs (Prog.flush : Prog Row Ev Err Unit) n st log s).session.Clean :=
    (exec_ok hwp trivial hag (fun _ _ _ _ _ => trivial) fun _ _ _ _ _ _ => trivial).2 () hresult
  refine ⟨(exec cs (Prog.flush : Prog Row Ev Err Unit) n st log s).next, _, hpost.1, hpost.2,
    hagrees, ?_⟩
  rw [exec_bind, Outcome.andThen, hresult, hstore, hlog]

variable (cs n log) in
/-- A flush that only updates rows, row by row. -/
lemma exec_flush_updates (h : s.Updates st) (hag : Agrees s.held st)
    (f : Unit → Prog Row Ev Err α) :
    ∃ n' s', s.Flushes s' ∧ s'.Clean ∧ Agrees s'.held st
      ∧ exec cs (Prog.flush.bind f) n st log s = exec cs (f ()) n' st log s' :=
  exec_flush_by (result_flush h) hag f

omit [∀ k, DecidableEq (Row k)] in
/-- A row that a flush leaves alone. -/
lemma Session.Flushes.view_kept {s' : Session Row Ev} (h : s.Flushes s')
    (hk : ∀ o, s.objects.lookup k = some o → o.loaded = some o.cur) :
    (s'.view st).lookup k = (s.view st).lookup k := by
  rw [lookup_view, lookup_view, (h.kept k hk).1]

omit [∀ k, DecidableEq (Row k)] in
/-- A new row after a flush. -/
lemma Session.Flushes.view_new {s' : Session Row Ev} (h : s.Flushes s') {r : Row k}
    (hk : s.objects.lookup k = some ⟨none, r⟩) : (s'.view st).lookup k = some r := by
  obtain ⟨-, hd, v, r', -, -, hsend, hheld⟩ := h.sent k _ hk (by simp)
  rw [lookup_view, hheld]
  cases hsend with
  | insert _ _ => rfl
  | update hold _ _ => cases hold

variable (cs n log) in
/-- A flush that only inserts rows: they are seen, and the others are as before. -/
lemma exec_flush_inserts (h : s.Inserts st) (hag : Agrees s.held st)
    (f : Unit → Prog Row Ev Err α) :
    ∃ n' s', s.Flushes s' ∧ s'.Clean ∧ Agrees s'.held st
      ∧ exec cs (Prog.flush.bind f) n st log s = exec cs (f ()) n' st log s' :=
  exec_flush_by (result_flush_by (P := Session.Inserts st) (fun _ _ k h => h.flushKey k) h) hag f

end ReadCommitted
