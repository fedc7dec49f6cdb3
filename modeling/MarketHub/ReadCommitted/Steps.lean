import MarketHub.ReadCommitted.Locks
import MarketHub.ReadCommitted.Rule

/-!
The rule of each statement.

For every step that can end in more than one way there is an inversion lemma that
says what it has done (`eval_select`, `eval_update`, `eval_flushKey`, ...), and for
the programs built from several steps a rule for the weakest precondition of what
follows them (`wp_scalar`, `wp_get`, `wp_flush`, `wp_transaction`). `Clean` is the
state a flush leaves a session in: no object carries a change.
-/

namespace ReadCommitted

variable {K : Type} [DecidableEq K] {Row : K → Type} {Ev Err : Type}

namespace Session

/-- What a statement that returns the row `k` answers: the object of the row, if there
is one, and otherwise the row itself. -/
def read (v : Store Row) (s : Session Row Ev) (k : K) : Option (Row k) :=
  match s.objects.lookup k with
  | some o => some o.cur
  | none => v.lookup k

variable (st v : Store Row) (s : Session Row Ev) (k : K)

/-- The object of a row after the row was returned. -/
lemma lookup_load_self : ((s.load v k).objects.lookup k).map Obj.cur = s.read v k := by
  rw [load, read]
  cases ho : s.objects.lookup k with
  | some o => simp [ho]
  | none =>
      cases hv : v.lookup k with
      | none => simp [ho]
      | some r => simp

lemma lookup_load_ne {k' : K} (h : k' ≠ k) :
    (s.load v k).objects.lookup k' = s.objects.lookup k' := by
  rw [load]
  split
  · exact AList.lookup_insert_ne h
  · rfl

lemma lookup_seen_load_ne {k' : K} (h : k' ≠ k) :
    (s.load v k).seen.lookup k' = s.seen.lookup k' := by
  rw [load]
  split
  · exact AList.lookup_insert_ne h
  · rfl

/-- An object after a row was returned is an old one, or in step with the row. -/
lemma lookup_load_cases {k' : K} {o : Obj Row k'}
    (h : (s.load v k).objects.lookup k' = some o) :
    s.objects.lookup k' = some o ∨ ∃ r, v.lookup k' = some r ∧ o = ⟨some r, r⟩ := by
  by_cases hk : k' = k
  · subst hk
    rw [load] at h
    split at h
    · rename_i r hnone hv
      rw [AList.lookup_insert] at h
      cases h
      exact Or.inr ⟨r, hv, rfl⟩
    · exact Or.inl h
  · rw [lookup_load_ne v s k hk] at h
    exact Or.inl h

/-- An object stays what it is when rows are returned. -/
lemma lookup_loads_of_some {k' : K} {o : Obj Row k'} (h : s.objects.lookup k' = some o)
    (ks : List K) : (ks.foldl (load v) s).objects.lookup k' = some o := by
  induction ks generalizing s with
  | nil => exact h
  | cons k ks ih =>
      refine ih (s.load v k) ?_
      by_cases hk : k' = k
      · subst hk
        rw [load]
        split
        · rename_i hnone _
          rw [hnone] at h
          cases h
        · exact h
      · rw [lookup_load_ne v s k hk, h]

/-- The object of a row that was returned for the first time. -/
lemma lookup_loads_of_mem {k' : K} {ks : List K} (h : k' ∈ ks) (hnone : s.objects.lookup k' = none)
    {r : Row k'} (hr : v.lookup k' = some r) :
    (ks.foldl (load v) s).objects.lookup k' = some ⟨some r, r⟩ := by
  induction ks generalizing s with
  | nil => cases h
  | cons k ks ih =>
      by_cases hk : k' = k
      · subst hk
        refine lookup_loads_of_some v _ ?_ ks
        rw [load, hnone, hr]
        exact AList.lookup_insert _
      · refine ih (s.load v k) (List.mem_of_ne_of_mem hk h) ?_
        rw [lookup_load_ne v s k hk, hnone]

@[simp] lemma lookup_sync_self (r : Row k) :
    (s.sync k r).objects.lookup k = some ⟨some r, r⟩ :=
  AList.lookup_insert _

lemma lookup_sync_ne {k' : K} (h : k' ≠ k) (r : Row k) :
    (s.sync k r).objects.lookup k' = s.objects.lookup k' :=
  AList.lookup_insert_ne h

lemma lookup_view :
    (s.view st).lookup k
      = match s.held.lookup k with
        | some h => h.cur
        | none => st.lookup k :=
  lookup_merge st s.held k

lemma lookup_view_lock (k' : K) :
    ((s.lock st k).view st).lookup k' = (s.view st).lookup k' := by
  rw [lookup_view, lookup_view]
  by_cases hk : k' = k
  · subst hk
    rw [lookup_lock_self]
    cases s.held.lookup k' <;> rfl
  · rw [lookup_lock_ne st s k hk]

lemma lookup_view_write_self (r : Option (Row k)) :
    ((s.write st k r).view st).lookup k = r := by
  rw [lookup_view, lookup_write_self]

lemma lookup_view_write_ne {k' : K} (h : k' ≠ k) (r : Option (Row k)) :
    ((s.write st k r).view st).lookup k' = (s.view st).lookup k' := by
  rw [lookup_view, lookup_view, lookup_write_ne st s k h]

/-! ### Sessions without changes -/

/-- No object carries a change the database has not seen. -/
def Clean (s : Session Row Ev) : Prop :=
  ∀ k o, s.objects.lookup k = some o → o.loaded = some o.cur

lemma clean_empty : Clean (∅ : Session Row Ev) := by
  intro k o h
  change (∅ : AList (Obj Row)).lookup k = some o at h
  simp at h

variable {s k}

lemma Clean.load (h : s.Clean) : (s.load v k).Clean := by
  intro k' o ho
  rcases lookup_load_cases v s k ho with hold | ⟨r, -, rfl⟩
  · exact h k' o hold
  · rfl

lemma Clean.loads (h : s.Clean) (ks : List K) : (ks.foldl (Session.load v) s).Clean := by
  induction ks generalizing s with
  | nil => exact h
  | cons k ks ih => exact ih (h.load v)

lemma Clean.lock (h : s.Clean) : (s.lock st k).Clean := by
  intro k' o ho
  rw [lock_objects] at ho
  exact h k' o ho

lemma Clean.locks (h : s.Clean) (ks : List K) : (ks.foldl (Session.lock st) s).Clean := by
  induction ks generalizing s with
  | nil => exact h
  | cons k ks ih => exact ih (h.lock st)

/-- Setting an object in step with the database leaves no change on it. -/
lemma lookup_sync_cases {r : Row k} {k' : K} {o : Obj Row k'}
    (h : (s.sync k r).objects.lookup k' = some o) :
    o.loaded = some o.cur ∨ k' ≠ k ∧ s.objects.lookup k' = some o := by
  by_cases hk : k' = k
  · subst hk
    rw [lookup_sync_self] at h
    cases h
    exact Or.inl rfl
  · rw [lookup_sync_ne s k hk] at h
    exact Or.inr ⟨hk, h⟩

lemma Clean.sync (h : s.Clean) (r : Row k) : (s.sync k r).Clean := by
  intro k' o ho
  rcases lookup_sync_cases ho with hclean | ⟨-, hold⟩
  · exact hclean
  · exact h k' o hold

lemma lookup_follow_cases {m : Row k → Bool} {f : Row k → Row k} {k' : K} {o : Obj Row k'}
    (h : (s.follow k m f).objects.lookup k' = some o) :
    o.loaded = some o.cur ∨ s.objects.lookup k' = some o := by
  rw [Session.follow] at h
  split at h
  · split at h
    · exact (lookup_sync_cases h).imp_right And.right
    · exact Or.inr h
  · exact Or.inr h

lemma lookup_follow_ne {k' : K} (h : k' ≠ k) (m : Row k → Bool) (f : Row k → Row k) :
    (s.follow k m f).objects.lookup k' = s.objects.lookup k' := by
  rw [Session.follow]
  split
  · split
    · exact lookup_sync_ne s k h _
    · rfl
  · rfl

end Session

/-- Locks do not change what a session sees. -/
lemma lookup_view_locks {st : Store Row} {s : Session Row Ev} (ks : List K) (k' : K) :
    ((ks.foldl (Session.lock st) s).view st).lookup k' = (s.view st).lookup k' := by
  induction ks generalizing s with
  | nil => rfl
  | cons k ks ih => rw [List.foldl_cons, ih, Session.lookup_view_lock]

variable [∀ k, DecidableEq (Row k)] [Table Row]

omit [Table Row] in
lemma Session.isDirty_iff {s : Session Row Ev} {k : K} :
    s.isDirty k = true ↔ ∃ o, s.objects.lookup k = some o ∧ o.loaded ≠ some o.cur := by
  rw [Session.isDirty]
  cases s.objects.lookup k with
  | none => simp
  | some o => simp

/-! ### What the steps do -/

section Inversion

variable {c : Choice} {busy : Busy Row} {st : Store Row} {s s' : Session Row Ev} {k : K}

/-- A `SELECT` that does not skip locked rows. -/
lemma eval_select {ι : Type} {rows : Store Row → List ι} {ents locks : ι → List K} {b : List ι}
    (h : (Op.select false rows ents locks).eval c busy st s = some (b, s')) :
    b = rows (s.view st)
      ∧ s' = (b.flatMap ents).foldl (Session.load (s.view st))
          ((b.flatMap locks).foldl (Session.lock st) s) := by
  simp only [Op.eval, Bool.false_and, Bool.false_eq_true, if_false] at h
  split at h
  · cases h
  · cases h
    exact ⟨rfl, rfl⟩

/-- A `SELECT` that may skip locked rows. -/
lemma eval_select_skip {ι : Type} {skip : Bool} {rows : Store Row → List ι}
    {ents locks : ι → List K} {b : List ι}
    (h : (Op.select skip rows ents locks).eval c busy st s = some (b, s')) :
    (b = [] ∧ s' = s)
      ∨ b = rows (s.view st) ∧ s' = (b.flatMap ents).foldl (Session.load (s.view st))
          ((b.flatMap locks).foldl (Session.lock st) s) := by
  simp only [Op.eval] at h
  split at h
  · cases h
    exact Or.inl ⟨rfl, rfl⟩
  · split at h
    · cases h
    · cases h
      exact Or.inr ⟨rfl, rfl⟩

/-- An `UPDATE ... WHERE`. -/
lemma eval_update {m : Row k → Bool} {f : Row k → Row k} {b : Bool}
    (h : (Op.update k m f).eval c busy st s = some (b, s')) :
    (b = false ∧ s' = s.follow k m f ∧ ∀ r, (s.view st).lookup k = some r → m r = false)
      ∨ ∃ r, b = true ∧ (s.view st).lookup k = some r ∧ m r = true
        ∧ s' = (s.write st k (some (f r))).follow k m f := by
  simp only [Op.eval] at h
  split at h
  · rename_i hv
    cases h
    refine Or.inl ⟨rfl, rfl, fun r hr => ?_⟩
    rw [hv] at hr
    cases hr
  · rename_i r hv
    split at h
    · rename_i hm
      split at h
      · cases h
      · cases h
        exact Or.inr ⟨r, rfl, hv, hm, rfl⟩
    · rename_i hm
      cases h
      refine Or.inl ⟨rfl, rfl, fun r' hr' => ?_⟩
      rw [hv] at hr'
      cases hr'
      exact Bool.not_eq_true _ ▸ hm

/-- A `DELETE`, which a row that refers to it refuses. -/
lemma eval_delete {referenced : Store Row → Bool} {b : Bool}
    (h : (Op.delete k referenced).eval c busy st s = some (b, s')) :
    (b = false ∧ s' = s ∧ referenced (s.view st) = true)
      ∨ b = true ∧ referenced (s.view st) = false
        ∧ s' = { s.write st k none with objects := s.objects.erase k } := by
  simp only [Op.eval] at h
  split at h
  · cases h
  · split at h
    · rename_i href
      cases h
      exact Or.inl ⟨rfl, rfl, href⟩
    · rename_i href
      cases h
      exact Or.inr ⟨rfl, Bool.not_eq_true _ ▸ href, rfl⟩

/-- A new object. -/
lemma eval_add {r : Row k} {b : Unit} (h : (Op.add k r).eval c busy st s = some (b, s')) :
    s.objects.lookup k = none ∧ s' = { s with objects := s.objects.insert k ⟨none, r⟩ } := by
  simp only [Op.eval] at h
  split at h
  · rename_i hnone
    cases h
    exact ⟨hnone, rfl⟩
  · cases h

/-- The attributes of an object are set. -/
lemma eval_assign {r : Row k} {b : Unit}
    (h : (Op.assign k r).eval c busy st s = some (b, s')) :
    ∃ o, s.objects.lookup k = some o
      ∧ s' = { s with objects := s.objects.insert k ⟨o.loaded, r⟩ } := by
  simp only [Op.eval] at h
  split at h
  · rename_i o ho
    cases h
    exact ⟨o, ho, rfl⟩
  · cases h

/-- An object is read again. -/
lemma eval_refresh {b : Unit} (h : (Op.refresh k).eval c busy st s = some (b, s')) :
    ∃ r, (s.view st).lookup k = some r ∧ s' = s.sync k r := by
  simp only [Op.eval] at h
  split at h
  · rename_i r hr
    cases h
    exact ⟨r, hr, rfl⟩
  · cases h

/-- An insertion in a savepoint. -/
lemma eval_insertNested {r : Row k} {b : Bool}
    (h : (Op.insertNested k r).eval c busy st s = some (b, s')) :
    (b = false ∧ s' = s ∧ clashes (s.view st) k r = true)
      ∨ b = true ∧ (s.view st).lookup k = none ∧ clashes (s.view st) k r = false
        ∧ s' = (s.write st k (some r)).sync k r := by
  simp only [Op.eval] at h
  split at h
  · cases h
  · split at h
    · rename_i hc
      cases h
      exact Or.inl ⟨rfl, rfl, hc⟩
    · rename_i hc
      cases h
      rw [Bool.not_eq_true] at hc
      refine Or.inr ⟨rfl, ?_, hc, rfl⟩
      simp only [clashes, Bool.or_eq_false_iff, Option.isSome_eq_false_iff,
        Option.isNone_iff_eq_none]
        at hc
      exact hc.1

/-- What `flushKey` sends: the row of a new object, or the changed columns of an old
one over the row as it stands. -/
inductive Sends (v : Store Row) (k : K) (o : Obj Row k) : Row k → Prop
  | insert : o.loaded = none → v.lookup k = none → Sends v k o o.cur
  | update {old r : Row k} : o.loaded = some old → old ≠ o.cur → v.lookup k = some r →
      Sends v k o (Table.patch old o.cur r)

omit [∀ k, DecidableEq (Row k)] in
/-- Only an object that carries a change is sent. -/
lemma Sends.loaded_ne {v : Store Row} {o : Obj Row k} {r : Row k} (h : Sends v k o r) :
    o.loaded ≠ some o.cur := by
  intro heq
  cases h with
  | insert hnew _ =>
      rw [hnew] at heq
      cases heq
  | update hold hne _ =>
      rw [hold] at heq
      exact hne (Option.some.inj heq)

/-- The change of one object is sent. -/
lemma eval_flushKey {b : Unit} (h : (Op.flushKey k).eval c busy st s = some (b, s')) :
    (s' = s ∧ s.isDirty k = false)
      ∨ ∃ o r, s.objects.lookup k = some o ∧ Sends (s.view st) k o r
        ∧ s' = (s.write st k (some r)).sync k o.cur := by
  simp only [Op.eval] at h
  split at h
  · rename_i hnone
    cases h
    exact Or.inl ⟨rfl, by rw [Session.isDirty, hnone]⟩
  · rename_i o ho
    split at h
    · rename_i hnew
      split at h
      · cases h
      · rename_i hfree
        cases h
        refine Or.inr ⟨o, o.cur, ho, .insert hnew ?_, rfl⟩
        simp only [clashes, Bool.or_eq_true, not_or, Bool.not_eq_true, Option.isSome_eq_false_iff,
          Option.isNone_iff_eq_none] at hfree
        exact hfree.2.1
    · rename_i old hold
      split at h
      · rename_i heq
        cases h
        refine Or.inl ⟨rfl, ?_⟩
        rw [Session.isDirty, ho]
        simp [hold, heq]
      · rename_i hne
        split at h
        · cases h
        · split at h
          · rename_i r hr
            cases h
            exact Or.inr ⟨o, _, ho, .update hold hne hr, rfl⟩
          · cases h

end Inversion

/-! ### Programs of several steps -/

section Rules

variable {o : Outline Row Ev} {α β : Type} {post : α → Store Row → Session Row Ev → Prop}
  {st : Store Row} {s : Session Row Ev} {k : K}

/-- A reading of the clock. -/
lemma wp_utcnow {f : ℤ → Prog Row Ev Err α}
    (h : ∀ st' c, o.Finds s st st' → o.guard st' s (.utcnow : Op Row Ev ℤ) c →
      wp o (f c.now) post st' s) :
    wp o (Prog.utcnow.bind f) post st s := by
  intro st' hf c busy b s' he hg
  cases he
  exact h st' c hf hg

/-- A new identifier. -/
lemma wp_uuid4 {f : ℕ → Prog Row Ev Err α}
    (h : ∀ st' id, o.Finds s st st' → wp o (f id) post st' s) :
    wp o (Prog.uuid4.bind f) post st s := by
  intro st' hf c busy b s' he hg
  cases he
  exact h st' c.uuid hf

/-- A `SELECT` of plain values. -/
lemma wp_query {q : Store Row → β} {f : β → Prog Row Ev Err α}
    (h : ∀ st', o.Finds s st st' → wp o (f (q (s.view st'))) post st' s) :
    wp o ((Prog.query q).bind f) post st s := by
  intro st' hf c busy b s' he hg
  cases he
  exact h st' hf

/-- The attributes of an object. -/
lemma wp_attrs {f : Option (Row k) → Prog Row Ev Err α}
    (h : ∀ st', o.Finds s st st' → wp o (f ((s.objects.lookup k).map Obj.cur)) post st' s) :
    wp o ((Prog.attrs k).bind f) post st s := by
  intro st' hf c busy b s' he hg
  cases he
  exact h st' hf

/-- A `SELECT` without locks. -/
lemma wp_select {ι : Type} {rows : Store Row → List ι} {ents : ι → List K}
    {f : List ι → Prog Row Ev Err α}
    (h : ∀ st', o.Finds s st st' → wp o (f (rows (s.view st'))) post st'
      (((rows (s.view st')).flatMap ents).foldl (Session.load (s.view st')) s)) :
    wp o ((Prog.lift (.select false rows ents fun _ => [])).bind f) post st s := by
  intro st' hf c busy b s' he hg
  obtain ⟨rfl, rfl⟩ := eval_select he
  have hnil : (rows (s.view st')).flatMap (fun _ => ([] : List K)) = [] := by simp
  rw [hnil]
  exact h st' hf

/-- The attributes of an object are set. -/
lemma wp_assign {r : Row k} {f : Unit → Prog Row Ev Err α}
    (h : ∀ st' ob, o.Finds s st st' → s.objects.lookup k = some ob →
      wp o (f ()) post st' { s with objects := s.objects.insert k ⟨ob.loaded, r⟩ }) :
    wp o ((Prog.assign k r).bind f) post st s := by
  intro st' hf c busy b s' he hg
  obtain ⟨ob, hob, rfl⟩ := eval_assign he
  exact h st' ob hf hob

/-- A new object. -/
lemma wp_add {r : Row k} {f : Unit → Prog Row Ev Err α}
    (h : ∀ st', o.Finds s st st' → s.objects.lookup k = none →
      wp o (f ()) post st' { s with objects := s.objects.insert k ⟨none, r⟩ }) :
    wp o ((Prog.add k r).bind f) post st s := by
  intro st' hf c busy b s' he hg
  obtain ⟨hnone, rfl⟩ := eval_add he
  exact h st' hf hnone

/-- An object is read again. -/
lemma wp_refresh {f : Unit → Prog Row Ev Err α}
    (h : ∀ st' r, o.Finds s st st' → (s.view st').lookup k = some r →
      wp o (f ()) post st' (s.sync k r)) :
    wp o ((Prog.refresh k).bind f) post st s := by
  intro st' hf c busy b s' he hg
  obtain ⟨r, hr, rfl⟩ := eval_refresh he
  exact h st' r hf hr

/-- An event is recorded. -/
lemma wp_record {e : Ev} {f : Unit → Prog Row Ev Err α}
    (h : ∀ st', o.Finds s st st' → wp o (f ()) post st' { s with pending := s.pending ++ [e] }) :
    wp o ((Prog.record e).bind f) post st s := by
  intro st' hf c busy b s' he hg
  cases he
  exact h st' hf

/-- An `UPDATE ... WHERE`. -/
lemma wp_update {m : Row k → Bool} {u : Row k → Row k} {f : Bool → Prog Row Ev Err α}
    (hno : ∀ st', o.Finds s st st' → (∀ r, (s.view st').lookup k = some r → m r = false) →
      wp o (f false) post st' (s.follow k m u))
    (hyes : ∀ st' r, o.Finds s st st' → (s.view st').lookup k = some r → m r = true →
      wp o (f true) post st' ((s.write st' k (some (u r))).follow k m u)) :
    wp o ((Prog.update k m u).bind f) post st s := by
  intro st' hf c busy b s' he hg
  rcases eval_update he with ⟨rfl, rfl, hnone⟩ | ⟨r, rfl, hr, hm, rfl⟩
  · exact hno st' hf hnone
  · exact hyes st' r hf hr hm

/-- An insertion in a savepoint. -/
lemma wp_insertNested {r : Row k} {f : Bool → Prog Row Ev Err α}
    (hclash : ∀ st', o.Finds s st st' → wp o (f false) post st' s)
    (hnew : ∀ st', o.Finds s st st' → (s.view st').lookup k = none →
      wp o (f true) post st' ((s.write st' k (some r)).sync k r)) :
    wp o ((Prog.insertNested k r).bind f) post st s := by
  intro st' hf c busy b s' he hg
  rcases eval_insertNested he with ⟨rfl, rfl, -⟩ | ⟨rfl, hnone, -, rfl⟩
  · exact hclash st' hf
  · exact hnew st' hf hnone

/-- A `SELECT` of at most one row, which may skip a locked one. -/
lemma wp_scalar_skip {skip : Bool} {stmt : Store Row → Option (List K)}
    {f : Option (Row k) → Prog Row Ev Err α}
    (hskip : ∀ st', o.Finds s st st' → skip = true → wp o (f none) post st' s)
    (hnone : ∀ st', o.Finds s st st' → stmt (s.view st') = none → wp o (f none) post st' s)
    (hsome : ∀ st' locks, o.Finds s st st' → stmt (s.view st') = some locks →
      wp o (f (s.read (s.view st') k)) post st'
        ((locks.foldl (Session.lock st') s).load (s.view st') k)) :
    wp o ((Prog.scalar k stmt skip).bind f) post st s := by
  intro st' hf c busy b s' he hg
  by_cases hsk : skip = true ∧ b = [] ∧ s' = s
  · obtain ⟨hskip', rfl, rfl⟩ := hsk
    exact hskip st' hf hskip'
  obtain ⟨rfl, rfl⟩ : b = (stmt (s.view st')).toList ∧ s' = (b.flatMap fun _ => [k]).foldl
      (Session.load (s.view st')) ((b.flatMap id).foldl (Session.lock st') s) := by
    cases skip with
    | false => exact eval_select he
    | true =>
        rcases eval_select_skip he with hnil | hrows
        · exact absurd ⟨rfl, hnil⟩ hsk
        · exact hrows
  cases hstmt : stmt (s.view st') with
  | none => exact hnone st' hf hstmt
  | some locks =>
      simp only [Option.toList_some, List.isEmpty_cons, Bool.false_eq_true, if_false,
        List.flatMap_cons, List.flatMap_nil, List.append_nil, List.foldl_cons, List.foldl_nil, id]
      intro st'' hf' c' busy' b' s'' he' hg'
      cases he'
      have hread : s.read (s.view st') k
          = (((locks.foldl (Session.lock st') s).load (s.view st') k).objects.lookup k).map
              Obj.cur := by
        rw [Session.lookup_load_self, Session.read, Session.read, Session.foldl_lock_objects]
      rw [← hread]
      exact wp_rely (hsome st' locks hf hstmt) hf'.rely

/-- A `SELECT` of at most one row. -/
lemma wp_scalar {stmt : Store Row → Option (List K)} {f : Option (Row k) → Prog Row Ev Err α}
    (hnone : ∀ st', o.Finds s st st' → stmt (s.view st') = none → wp o (f none) post st' s)
    (hsome : ∀ st' locks, o.Finds s st st' → stmt (s.view st') = some locks →
      wp o (f (s.read (s.view st') k)) post st'
        ((locks.foldl (Session.lock st') s).load (s.view st') k)) :
    wp o ((Prog.scalar k stmt).bind f) post st s := by
  refine wp_scalar_skip (fun _ _ hskip => ?_) hnone hsome
  cases hskip

/-- A `SELECT` of at most one row as the first statement of a session. -/
lemma wp_scalar_first {stmt : Store Row → Option (List K)} {f : Option (Row k) → Prog Row Ev Err α}
    (hnone : ∀ st', o.Finds ∅ st st' → stmt st' = none → wp o (f none) post st' ∅)
    (hsome : ∀ st' locks, o.Finds ∅ st st' → stmt st' = some locks →
      wp o (f (st'.lookup k)) post st' ((locks.foldl (Session.lock st') ∅).load st' k)) :
    wp o ((Prog.scalar k stmt).bind f) post st ∅ :=
  wp_scalar hnone hsome

/-- `session.get`. -/
lemma wp_get {f : Option (Row k) → Prog Row Ev Err α}
    (hnone : ∀ st', o.Finds s st st' → s.objects.lookup k = none → (s.view st').lookup k = none →
      wp o (f none) post st' s)
    (hold : ∀ st' ob, o.Finds s st st' → s.objects.lookup k = some ob →
      wp o (f (some ob.cur)) post st' s)
    (hnew : ∀ st' r, o.Finds s st st' → s.objects.lookup k = none →
      (s.view st').lookup k = some r → wp o (f (some r)) post st' (s.load (s.view st') k)) :
    wp o ((Prog.get k).bind f) post st s := by
  intro st' hf c busy b s' he hg
  cases he
  cases ho : s.objects.lookup k with
  | some ob =>
      simp only [Option.map_some]
      exact hold st' ob hf ho
  | none =>
      simp only [Option.map_none]
      refine wp_scalar (fun st'' hf' hstmt => ?_) (fun st'' locks hf' hstmt => ?_)
      · have hf'' : o.Finds s st st'' := ⟨o.rely_trans hf.rely hf'.rely, hf'.inv, hf'.agrees⟩
        exact hnone st'' hf'' ho (by simpa using hstmt)
      · have hf'' : o.Finds s st st'' := ⟨o.rely_trans hf.rely hf'.rely, hf'.inv, hf'.agrees⟩
        obtain ⟨r, hr, rfl⟩ := Option.map_eq_some_iff.mp hstmt
        rw [Session.read, ho, hr]
        exact hnew st'' r hf'' ho hr

/-- The change of the objects of a list is sent, one after the other. -/
lemma wp_flushKeys {I : Store Row → Session Row Ev → Prop}
    (hrely : ∀ st st' s, I st s → o.Finds s st st' → I st' s)
    (hstep : ∀ st s k ob r, I st s → o.Finds s st st → s.objects.lookup k = some ob →
      Sends (s.view st) k ob r → I st ((s.write st k (some r)).sync k ob.cur))
    {f : Unit → Prog Row Ev Err α} {ks : List K}
    (hend : ∀ st s, I st s → s.Clean → wp o (f ()) post st s)
    (hI : I st s) (hks : ∀ k, s.isDirty k = true → k ∈ ks) :
    wp o ((ks.forM fun k => Prog.lift (.flushKey k)).bind f) post st s := by
  induction ks generalizing st s with
  | nil =>
      refine hend st s hI fun k ob hob => ?_
      by_contra hne
      exact List.not_mem_nil (hks k (Session.isDirty_iff.mpr ⟨ob, hob, hne⟩))
  | cons k ks ih =>
      intro st' hf c busy b s' he hg
      have hI' := hrely st st' s hI hf
      rcases eval_flushKey he with ⟨rfl, hclean⟩ | ⟨ob, r, hob, hsend, rfl⟩
      · refine ih hI' fun k' hk' => ?_
        rcases List.mem_cons.mp (hks k' hk') with rfl | hmem
        · rw [hclean] at hk'
          cases hk'
        · exact hmem
      · have hnow : o.Finds s st' st' := ⟨o.rely_refl _ _, hf.inv, hf.agrees⟩
        refine ih (hstep st' s k ob r hI' hnow hob hsend) fun k' hk' => ?_
        obtain ⟨ob', hob', hne⟩ := Session.isDirty_iff.mp hk'
        rcases Session.lookup_sync_cases hob' with hclean | ⟨hkk, hold⟩
        · exact absurd hclean hne
        · rw [Session.write_objects] at hold
          rcases List.mem_cons.mp (hks k' (Session.isDirty_iff.mpr ⟨ob', hold, hne⟩))
            with rfl | hmem
          · exact absurd rfl hkk
          · exact hmem

/-- `session.flush`, with an invariant that every change sent keeps. -/
lemma wp_flush (I : Store Row → Session Row Ev → Prop)
    (hrely : ∀ st st' s, I st s → o.Finds s st st' → I st' s)
    (hstep : ∀ st s k ob r, I st s → o.Finds s st st → s.objects.lookup k = some ob →
      Sends (s.view st) k ob r → I st ((s.write st k (some r)).sync k ob.cur))
    {f : Unit → Prog Row Ev Err α} (hI : I st s)
    (hend : ∀ st s, I st s → s.Clean → wp o (f ()) post st s) :
    wp o (Prog.flush.bind f) post st s := by
  intro st' hf c busy b s' he hg
  cases he
  refine wp_flushKeys hrely hstep hend (hrely st st' s hI hf) fun k hk => ?_
  obtain ⟨ob, hob, -⟩ := Session.isDirty_iff.mp hk
  exact List.mem_filter.mpr ⟨AList.lookup_isSome.mp (by rw [hob]; rfl), hk⟩

/-- What a flush of the session `s` makes of it, row by row: a changed object is sent over
the row as the session sees it, and nothing else happens. -/
structure Session.Flushes (s s' : Session Row Ev) : Prop where
  pending : s'.pending = s.pending
  kept : ∀ k, (∀ o, s.objects.lookup k = some o → o.loaded = some o.cur) →
    s'.held.lookup k = s.held.lookup k ∧ s'.objects.lookup k = s.objects.lookup k
  sent : ∀ k o, s.objects.lookup k = some o → o.loaded ≠ some o.cur →
    s'.objects.lookup k = some ⟨some o.cur, o.cur⟩
      ∧ ∃ (h : Held Row k) (v : Store Row) (r : Row k),
        (s.held.lookup k = some h ∨ s.held.lookup k = none ∧ h.cur = h.base)
          ∧ v.lookup k = h.cur ∧ Sends v k o r ∧ s'.held.lookup k = some ⟨h.base, some r⟩

omit [∀ k, DecidableEq (Row k)] in
/-- A row that the session does not hold is sent over the row as it is stored then. -/
lemma Session.Flushes.sent_free {s s' : Session Row Ev} (h : s.Flushes s') {o : Obj Row k}
    (ho : s.objects.lookup k = some o) (hne : o.loaded ≠ some o.cur)
    (hfree : s.held.lookup k = none) :
    ∃ (v : Store Row) (r : Row k), Sends v k o r
      ∧ s'.held.lookup k = some ⟨v.lookup k, some r⟩ := by
  obtain ⟨-, hd, v, r, hold, hv, hsend, hheld⟩ := h.sent k o ho hne
  refine ⟨v, r, hsend, ?_⟩
  rcases hold with hold | ⟨-, hsame⟩
  · rw [hfree] at hold
    cases hold
  · rw [hheld, hv, hsame]

omit [∀ k, DecidableEq (Row k)] in
/-- A new object is sent where there is no row. -/
lemma Session.Flushes.absent {s s' : Session Row Ev} (h : s.Flushes s') {r : Row k}
    (ho : s.objects.lookup k = some ⟨none, r⟩) :
    ∀ hd, s.held.lookup k = some hd → hd.cur = none := by
  intro hd hk
  obtain ⟨-, hd', v, r', hold, hv, hsend, -⟩ := h.sent k _ ho (by simp)
  cases hsend with
  | update hloaded _ _ => cases hloaded
  | insert _ hrow =>
      rcases hold with hold | ⟨hnone, -⟩
      · obtain rfl := Option.some.inj (hk.symm.trans hold)
        exact hv.symm.trans hrow
      · rw [hk] at hnone
        cases hnone

omit [∀ k, DecidableEq (Row k)] in
/-- A new object is sent as an insertion, where the session holds no deletion of its row. -/
lemma Session.Flushes.inserted {s s' : Session Row Ev} (h : s.Flushes s') {r : Row k}
    (ho : s.objects.lookup k = some ⟨none, r⟩)
    (hbase : ∀ hd, s.held.lookup k = some hd → hd.cur = none → hd.base = none) :
    s'.held.lookup k = some ⟨none, some r⟩ := by
  obtain ⟨-, hd, v, r', hold, hv, hsend, hheld⟩ := h.sent k _ ho (by simp)
  cases hsend with
  | update hloaded _ _ => cases hloaded
  | insert _ hrow =>
      have hcur : hd.cur = none := hv.symm.trans hrow
      have hnone : hd.base = none := by
        rcases hold with hold | ⟨-, hsame⟩
        · exact hbase hd hold hcur
        · exact hsame.symm.trans hcur
      rw [hheld, hnone]

omit [∀ k, DecidableEq (Row k)] in
/-- A new object is sent as an insertion, where the session does not hold its row. -/
lemma Session.Flushes.inserted_free {s s' : Session Row Ev} (h : s.Flushes s') {r : Row k}
    (ho : s.objects.lookup k = some ⟨none, r⟩) (hfree : s.held.lookup k = none) :
    s'.held.lookup k = some ⟨none, some r⟩ :=
  h.inserted ho fun hd hold _ => by
    rw [hfree] at hold
    cases hold

omit [∀ k, DecidableEq (Row k)] in
/-- Where one object carries a change, nothing else is sent. -/
lemma Session.Flushes.kept_of_insert {s s' : Session Row Ev} {o : Obj Row k}
    (h : Session.Flushes { s with objects := s.objects.insert k o } s') (hclean : s.Clean) {k' : K}
    (hk : k' ≠ k) :
    s'.held.lookup k' = s.held.lookup k' ∧ s'.objects.lookup k' = s.objects.lookup k' := by
  obtain ⟨hheld, hobj⟩ := h.kept k' fun o' ho' => by
    rw [AList.lookup_insert_ne hk] at ho'
    exact hclean k' o' ho'
  exact ⟨hheld, hobj.trans (AList.lookup_insert_ne hk)⟩

omit [∀ k, DecidableEq (Row k)] in
/-- A second flush finds nothing to send. -/
lemma Session.Flushes.again {s s' s'' : Session Row Ev} (h : s.Flushes s') (hclean : s'.Clean)
    (h' : s'.Flushes s'') : s.Flushes s'' where
  pending := h'.pending.trans h.pending
  kept k hk := by
    obtain ⟨hheld, hobj⟩ := h.kept k hk
    obtain ⟨hheld', hobj'⟩ := h'.kept k fun o ho => hclean k o ho
    exact ⟨hheld'.trans hheld, hobj'.trans hobj⟩
  sent k o ho hne := by
    obtain ⟨hobj, hd, v, r, hold, hv, hsend, hheld⟩ := h.sent k o ho hne
    obtain ⟨hheld', hobj'⟩ := h'.kept k fun o ho => hclean k o ho
    exact ⟨hobj'.trans hobj, hd, v, r, hold, hv, hsend, hheld'.trans hheld⟩

omit [∀ k, DecidableEq (Row k)] in
/-- A session without changes has flushed everything. -/
lemma Session.flushes_of_clean {s : Session Row Ev} (h : s.Clean) : s.Flushes s where
  pending := rfl
  kept _ _ := ⟨rfl, rfl⟩
  sent k o ho hne := absurd (h k o ho) hne

omit [∀ k, DecidableEq (Row k)] in
/-- Events may be recorded between two flushes. -/
lemma Session.Flushes.record {s s' : Session Row Ev} (h : s.Flushes s') (events : List Ev) :
    Session.Flushes { s with pending := events } { s' with pending := events } :=
  ⟨rfl, h.kept, h.sent⟩

/-- `session.flush`, row by row. The relation `M` is one that the moves of the committed
rows keep to. -/
lemma wp_flush_exact (M : Store Row → Store Row → Prop) (hrefl : ∀ st, M st st)
    (htrans : ∀ st₁ st₂ st₃, M st₁ st₂ → M st₂ st₃ → M st₁ st₃)
    (hM : ∀ s st st', o.rely s st st' → M st st') {f : Unit → Prog Row Ev Err α}
    (hend : ∀ st' s', M st st' → s.Flushes s' → s'.Clean → wp o (f ()) post st' s') :
    wp o (Prog.flush.bind f) post st s := by
  -- on the way, every row is as it was or has been sent
  refine wp_flush (fun st' s' => M st st' ∧ s'.pending = s.pending ∧ ∀ k,
      (s'.held.lookup k = s.held.lookup k ∧ s'.objects.lookup k = s.objects.lookup k)
        ∨ ∃ o, s.objects.lookup k = some o ∧ o.loaded ≠ some o.cur
          ∧ s'.objects.lookup k = some ⟨some o.cur, o.cur⟩
          ∧ ∃ (h : Held Row k) (v : Store Row) (r : Row k),
            (s.held.lookup k = some h ∨ s.held.lookup k = none ∧ h.cur = h.base)
              ∧ v.lookup k = h.cur ∧ Sends v k o r ∧ s'.held.lookup k = some ⟨h.base, some r⟩)
    ?_ ?_ ⟨hrefl st, rfl, fun k => Or.inl ⟨rfl, rfl⟩⟩ ?_
  · rintro st₁ st₂ s' ⟨hm, hp, hk⟩ hf
    exact ⟨htrans _ _ _ hm (hM _ _ _ hf.rely), hp, hk⟩
  · rintro st₁ s' k ob r ⟨hm, hp, hk⟩ hf hob hsend
    refine ⟨hm, hp, fun k' => ?_⟩
    by_cases hkk : k' = k
    · subst hkk
      rcases hk k' with ⟨hheld, hobj⟩ | ⟨o', -, -, hobj, -⟩
      · rw [hobj] at hob
        refine Or.inr ⟨ob, hob, hsend.loaded_ne, Session.lookup_sync_self _ _ _,
          (s.held.lookup k').getD ⟨st₁.lookup k', st₁.lookup k'⟩, s'.view st₁, r, ?_, ?_, hsend, ?_⟩
        · cases s.held.lookup k' with
          | none => exact Or.inr ⟨rfl, rfl⟩
          | some h => exact Or.inl rfl
        · rw [Session.lookup_view, hheld]
          cases s.held.lookup k' <;> rfl
        · rw [Session.sync_held, Session.lookup_write_self, hheld]
      · -- an object that was sent carries no change
        rw [hobj] at hob
        cases hob
        exact absurd rfl hsend.loaded_ne
    · rcases hk k' with ⟨hheld, hobj⟩ | ⟨o', ho', hne, hobj, hsent⟩
      · refine Or.inl ⟨?_, ?_⟩
        · rw [Session.sync_held, Session.lookup_write_ne _ _ _ hkk, hheld]
        · rw [Session.lookup_sync_ne _ _ hkk, Session.write_objects, hobj]
      · refine Or.inr ⟨o', ho', hne, ?_, ?_⟩
        · rw [Session.lookup_sync_ne _ _ hkk, Session.write_objects, hobj]
        · rw [Session.sync_held, Session.lookup_write_ne _ _ _ hkk]
          exact hsent
  · rintro st' s' ⟨hm, hp, hk⟩ hclean
    refine hend st' s' hm ⟨hp, fun k hcl => ?_, fun k ob hob hne => ?_⟩ hclean
    · rcases hk k with hsame | ⟨o', ho', hne, -⟩
      · exact hsame
      · exact absurd (hcl o' ho') hne
    · rcases hk k with ⟨-, hobj⟩ | ⟨o', ho', -, hobj, hsent⟩
      · exact absurd (hclean k ob (hobj.trans hob)) hne
      · obtain rfl : o' = ob := Option.some.inj (ho'.symm.trans hob)
        exact ⟨hobj, hsent⟩

/-- The end of a transaction, row by row. -/
lemma wp_end {a : α} (M : Store Row → Store Row → Prop) (hrefl : ∀ st, M st st)
    (htrans : ∀ st₁ st₂ st₃, M st₁ st₂ → M st₂ st₃ → M st₁ st₃)
    (hM : ∀ s st st', o.rely s st st' → M st st')
    (hcommit : ∀ st' s', M st st' → s.Flushes s' → Agrees s'.held st' →
      o.commit st' s' ∧ ∀ st'', o.rely ∅ (merge st' s'.held) st'' → post a st'' ∅) :
    wp o (Prog.flush.bind fun _ => (.commit (.publish (.pure a)) : Prog Row Ev Err α)) post st s :=
  wp_flush_exact M hrefl htrans hM fun _ s₁ hm hflush _ st₂ hf =>
    hcommit st₂ s₁ (htrans _ _ _ hm (hM _ _ _ hf.rely)) hflush hf.agrees

/-- The end of a transaction that has flushed everything. -/
lemma wp_transaction_clean {a : α} (hclean : s.Clean) (hcommit : ∀ st', o.Finds s st st' →
      o.commit st' s ∧ ∀ st'', o.rely ∅ (merge st' s.held) st'' → post a st'' ∅) :
    wp o (Prog.flush.bind fun _ => (.commit (.publish (.pure a)) : Prog Row Ev Err α))
      post st s := by
  refine wp_flush (fun st' s' => s' = s ∧ o.rely s st st') ?_ ?_ ⟨rfl, o.rely_refl _ _⟩ ?_
  · rintro st₁ st₂ s' ⟨rfl, hr⟩ hf
    exact ⟨rfl, o.rely_trans hr hf.rely⟩
  · rintro st₁ s' k ob r ⟨rfl, hr⟩ hf hob hsend
    exact absurd (hclean k ob hob) hsend.loaded_ne
  · rintro st₁ s' ⟨rfl, hr⟩ -
    intro st₂ hf
    exact hcommit st₂ ⟨o.rely_trans hr hf.rely, hf.inv, hf.agrees⟩

end Rules

end ReadCommitted
