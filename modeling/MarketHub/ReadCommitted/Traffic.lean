import MarketHub.ReadCommitted.Alone
import MarketHub.ReadCommitted.Footprint

/-!
What a program that runs alone sends to the database.

* `Op.traffic`, `sentValues`: what the statements of a program write, read off the rows: a statement
  that makes the row `new` of the row `old` (of `none`, for an insertion) sends
  `sends k old new`.
* `ColumnTypes`: sent values that fit their columns make rows that fit their tables, and
  conversely. `fit_exec`: a program whose values fit leaves a store of rows that fit.
* `Prog.Proper`: a program that writes rows that fit, provided the objects it gets to see do;
  `sent_fits`: what such a program sends fits.
* `sent_get`, `sent_scalar_some`, ...: statements that send nothing, one equation each.
  `sent_flush_iff`, `sent_update_iff`: whether everything fits that a proper program sends
  after one write.
-/

namespace ReadCommitted

variable {K : Type} [DecidableEq K] {Row : K → Type} [∀ k, DecidableEq (Row k)] [Table Row]
  {Ev Err α β ν : Type} {cs : ℕ → Choice} {n : ℕ} {st : Store Row} {log : List Ev}
  {s s' : Session Row Ev} {k : K}

/-! ### What is sent -/

section Sent

variable (sends : ∀ k : K, Option (Row k) → Row k → List ν)

/-- What one statement sends. -/
def Op.traffic : {γ : Type} → Op Row Ev γ → Store Row → Session Row Ev → List ν
  | _, .update k matches_ set_, st, s =>
      match (s.view st).lookup k with
      | some r => if matches_ r then sends k (some r) (set_ r) else []
      | none => []
  | _, .insertNested k r, _, _ => sends k none r
  | _, .flushKey k, _, s =>
      match s.objects.lookup k with
      | some o => if o.loaded = some o.cur then [] else sends k o.loaded o.cur
      | none => []
  | _, _, _, _ => []

/-- What the statements of a program send that runs alone. -/
def sentValues (cs : ℕ → Choice) : Prog Row Ev Err α → ℕ → Store Row → Session Row Ev → List ν
  | .pure _, _, _, _ => []
  | .op op k, n, st, s =>
      op.traffic sends st s ++
        match op.eval (cs n) [] st s with
        | some (b, s') => sentValues cs (k b) (n + 1) st s'
        | none => []
  | .raise _, _, _, _ => []
  | .commit k, n, st, s => sentValues cs k n (merge st s.held) ∅
  | .publish k, n, st, s => sentValues cs k n st s

lemma sent_op {γ : Type} {op : Op Row Ev γ} {f : γ → Prog Row Ev Err α} {b : γ}
    (h : op.eval (cs n) [] st s = some (b, s')) :
    sentValues sends cs (.op op f) n st s
      = op.traffic sends st s ++ sentValues sends cs (f b) (n + 1) st s' := by
  rw [sentValues, h]

end Sent

/-! ### Column types -/

/-- The rows of a store fit their tables. -/
def Stored (Fit : ∀ k : K, Row k → Prop) (st : Store Row) : Prop :=
  ∀ k r, st.lookup k = some r → Fit k r

/-- What is sent fits the columns when the rows fit the tables, and conversely. -/
structure ColumnTypes (sends : ∀ k : K, Option (Row k) → Row k → List ν) (fits : ν → Prop)
    (Fit : ∀ k : K, Row k → Prop) : Prop where
  sends_fit : ∀ {k old new}, Fit k new → ∀ x ∈ sends k old new, fits x
  insert_fit : ∀ {k new}, (∀ x ∈ sends k none new, fits x) → Fit k new
  update_fit : ∀ {k old new}, Fit k old → (∀ x ∈ sends k (some old) new, fits x) → Fit k new
  patch_fit : ∀ {k old new base}, Fit k base → (∀ x ∈ sends k (some old) new, fits x) →
    Fit k (Table.patch old new base)

section Types

variable {sends : ∀ k : K, Option (Row k) → Row k → List ν} {fits : ν → Prop}
  {Fit : ∀ k : K, Row k → Prop}

omit [∀ k, DecidableEq (Row k)] [Table Row] in
/-- A written row fits. -/
lemma stored_view_write {r : Option (Row k)} (h : Stored Fit (s.view st))
    (hr : ∀ row, r = some row → Fit k row) : Stored Fit ((s.write st k r).view st) := by
  intro k' row hrow
  by_cases hk : k' = k
  · subst hk
    rw [Session.lookup_view_write_self] at hrow
    exact hr row hrow
  · rw [Session.lookup_view_write_ne st s k hk] at hrow
    exact h k' row hrow

omit [∀ k, DecidableEq (Row k)] [Table Row] in
/-- A session that holds the same rows. -/
lemma Stored.of_held (h : Stored Fit (s.view st)) (hs : s'.held = s.held) :
    Stored Fit (s'.view st) := by
  rw [Session.view, hs]
  exact h

omit [∀ k, DecidableEq (Row k)] [Table Row] in
/-- Rows are locked. -/
lemma stored_view_locks (h : Stored Fit (s.view st)) (ks : List K) :
    Stored Fit ((ks.foldl (Session.lock st) s).view st) := fun k' row hrow =>
  h k' row (by rwa [lookup_view_locks] at hrow)

/-- A statement that sends what fits leaves a session that sees rows that fit. -/
lemma ColumnTypes.step (ht : ColumnTypes sends fits Fit) {γ : Type} {op : Op Row Ev γ} {c : Choice}
    {b : γ} (h : Stored Fit (s.view st)) (hsent : ∀ x ∈ op.traffic sends st s, fits x)
    (he : op.eval c [] st s = some (b, s')) : Stored Fit (s'.view st) := by
  cases op with
  | utcnow => cases he; exact h
  | uuid4 => cases he; exact h
  | select skip rows ents locks =>
      rcases eval_select_skip he with ⟨-, rfl⟩ | ⟨-, rfl⟩
      · exact h
      · exact (stored_view_locks h _).of_held (Session.foldl_load_held _ _ _)
  | query q => cases he; exact h
  | attrs k => cases he; exact h
  | assign k r =>
      obtain ⟨o, -, rfl⟩ := eval_assign he
      exact h
  | update k m f =>
      -- what the UPDATE sends are the numbers of `f r`
      rcases eval_update he with ⟨-, rfl, -⟩ | ⟨r, -, hr, hm, rfl⟩
      · exact h.of_held (Session.follow_held _ _ _ _)
      · refine (stored_view_write h fun row hrow => ?_).of_held (Session.follow_held _ _ _ _)
        cases hrow
        refine ht.update_fit (h k r hr) fun x hx => hsent x ?_
        rw [Op.traffic, hr]
        dsimp only
        rwa [if_pos hm]
  | delete k referenced =>
      rcases eval_delete he with ⟨-, rfl, -⟩ | ⟨-, -, rfl⟩
      · exact h
      · exact (stored_view_write (r := none) h fun _ hrow => by cases hrow).of_held rfl
  | add k r =>
      obtain ⟨-, rfl⟩ := eval_add he
      exact h
  | insertNested k r =>
      rcases eval_insertNested he with ⟨-, rfl, -⟩ | ⟨-, -, -, rfl⟩
      · exact h
      · refine (stored_view_write h fun row hrow => ?_).of_held rfl
        cases hrow
        exact ht.insert_fit hsent
  | refresh k =>
      obtain ⟨r, -, rfl⟩ := eval_refresh he
      exact h
  | dirty => cases he; exact h
  | flushKey k =>
      -- an insert sends the whole row, an update its changed columns
      rcases eval_flushKey he with ⟨rfl, -⟩ | ⟨o, r, ho, hsend, rfl⟩
      · exact h
      · have hall : ∀ x ∈ sends k o.loaded o.cur, fits x := fun x hx => hsent x (by
          rw [Op.traffic, ho]
          dsimp only
          rwa [if_neg hsend.loaded_ne])
        refine (stored_view_write h fun row hrow => ?_).of_held rfl
        cases hrow
        cases hsend with
        | insert hnew _ =>
            rw [hnew] at hall
            exact ht.insert_fit hall
        | update hold _ hbase =>
            rw [hold] at hall
            exact ht.patch_fit (h k _ hbase) hall
  | record e => cases he; exact h

/-- **A program whose values fit** leaves a store of rows that fit. -/
theorem fit_exec (ht : ColumnTypes sends fits Fit) {p : Prog Row Ev Err α}
    (hsent : ∀ x ∈ sentValues sends cs p n st s, fits x) (h : Stored Fit st)
    (hview : Stored Fit (s.view st)) :
    Stored Fit (exec cs p n st log s).store
      ∧ Stored Fit ((exec cs p n st log s).session.view (exec cs p n st log s).store) := by
  induction p generalizing n st log s with
  | pure a => exact ⟨h, hview⟩
  | op op k ih =>
      cases he : op.eval (cs n) [] st s with
      | none =>
          rw [exec, he]
          exact ⟨h, h⟩
      | some bs =>
          obtain ⟨b, s'⟩ := bs
          rw [sent_op sends he] at hsent
          rw [exec_op he]
          refine ih b (fun x hx => hsent x (List.mem_append_right _ hx)) h ?_
          exact ht.step hview (fun x hx => hsent x (List.mem_append_left _ hx)) he
  | raise e => exact ⟨h, h⟩
  | commit k ih => exact ih hsent hview hview
  | publish k ih => exact ih hsent h hview

end Types

/-! ### Programs that write rows that fit -/

/-- A step that writes rows that fit. -/
def Op.proper (Fit : ∀ k : K, Row k → Prop) : {γ : Type} → Op Row Ev γ → Prop
  | _, .assign k r => Fit k r
  | _, .update k m f => ∀ r, Fit k r → m r = true → Fit k (f r)
  | _, .add k r => Fit k r
  | _, .insertNested k r => Fit k r
  | _, _ => True

/-- An answer of a step while the objects fit. -/
def Op.tells (Fit : ∀ k : K, Row k → Prop) : {γ : Type} → Op Row Ev γ → γ → Prop
  | _, .attrs k, r => ∀ row, r = some row → Fit k row
  | _, _, _ => True

namespace Prog

/-- A program that writes rows that fit and answers with `Q`, provided the objects fit. -/
def Proper (Fit : ∀ k : K, Row k → Prop) (Q : α → Prop) : Prog Row Ev Err α → Prop
  | .pure a => Q a
  | .op o k => o.proper Fit ∧ ∀ b, o.tells Fit b → (k b).Proper Fit Q
  | .raise _ => True
  | .commit k => k.Proper Fit Q
  | .publish k => k.Proper Fit Q

variable {Fit : ∀ k : K, Row k → Prop} {Q : α → Prop} {R : β → Prop}

omit [DecidableEq K] [∀ k, DecidableEq (Row k)] [Table Row] in
lemma Proper.bind {p : Prog Row Ev Err α} {f : α → Prog Row Ev Err β} (hp : p.Proper Fit Q)
    (hf : ∀ a, Q a → (f a).Proper Fit R) : (p.bind f).Proper Fit R := by
  induction p with
  | pure a => exact hf a hp
  | op o k ih => exact ⟨hp.1, fun b hb => ih b (hp.2 b hb)⟩
  | raise e => trivial
  | commit k ih => exact ih hp
  | publish k ih => exact ih hp

omit [DecidableEq K] [∀ k, DecidableEq (Row k)] [Table Row] in
/-- A program that writes no table whose rows might not fit. -/
lemma AllOps.proper {F : K → Prop} {p : Prog Row Ev Err α} (hp : p.AllOps (Op.within F))
    (hF : ∀ k r, F k → Fit k r) : p.Proper Fit fun _ => True := by
  induction p with
  | pure a => trivial
  | op o f ih =>
      refine ⟨?_, fun b _ => ih b (hp.2 b)⟩
      have hwithin := hp.1
      cases o with
      | assign k r => exact hF k r hwithin
      | update k m u => exact fun r _ _ => hF k (u r) hwithin
      | add k r => exact hF k r hwithin
      | insertNested k r => exact hF k r hwithin
      | _ => trivial
  | raise e => trivial
  | commit k ih => exact ih hp
  | publish k ih => exact ih hp

omit [DecidableEq K] [∀ k, DecidableEq (Row k)] [Table Row] in
lemma proper_flush : (flush : Prog Row Ev Err Unit).Proper Fit fun _ => True := by
  refine ⟨trivial, fun ks _ => ?_⟩
  induction ks with
  | nil => trivial
  | cons k ks ih => exact ⟨trivial, fun _ _ => ih trivial⟩

omit [DecidableEq K] [∀ k, DecidableEq (Row k)] [Table Row] in
/-- The row of a statement fits. -/
lemma proper_scalar (k : K) (stmt : Store Row → Option (List K)) (skip : Bool := false) :
    (scalar k stmt skip : Prog Row Ev Err (Option (Row k))).Proper Fit
      fun row => ∀ r, row = some r → Fit k r := by
  refine ⟨trivial, fun rows _ => ?_⟩
  dsimp only
  split
  · exact fun r hr => nomatch hr
  · exact ⟨trivial, fun _ hrow => hrow⟩

omit [∀ k, DecidableEq (Row k)] [Table Row] in
/-- The row of `session.get` fits. -/
lemma proper_get (k : K) : (get k : Prog Row Ev Err (Option (Row k))).Proper Fit
    fun row => ∀ r, row = some r → Fit k r := by
  refine ⟨trivial, fun row hrow => ?_⟩
  dsimp only
  split
  · rename_i r
    intro r' hr'
    cases hr'
    exact hrow r rfl
  · exact proper_scalar _ _

end Prog

section Proper

variable {sends : ∀ k : K, Option (Row k) → Row k → List ν} {fits : ν → Prop}
  {Fit : ∀ k : K, Row k → Prop} {Q : α → Prop}

/-- The objects of a session fit. -/
def Session.ObjectsFit (Fit : ∀ k : K, Row k → Prop) (s : Session Row Ev) : Prop :=
  ∀ k o, s.objects.lookup k = some o → Fit k o.cur

namespace Session.ObjectsFit

variable {v : Store Row}

omit [∀ k, DecidableEq (Row k)] [Table Row] in
lemma empty : ObjectsFit Fit (∅ : Session Row Ev) := by
  intro k o ho
  change (∅ : AList (Obj Row)).lookup k = some o at ho
  simp at ho

omit [∀ k, DecidableEq (Row k)] [Table Row] in
lemma loads (h : s.ObjectsFit Fit) (hv : Stored Fit v) (ks : List K) :
    (ks.foldl (Session.load v) s).ObjectsFit Fit := by
  induction ks generalizing s with
  | nil => exact h
  | cons k ks ih =>
      refine ih fun k' o ho => ?_
      rcases lookup_load_cases v s k ho with hold | ⟨r, hr, rfl⟩
      · exact h k' o hold
      · exact hv k' r hr

omit [∀ k, DecidableEq (Row k)] [Table Row] in
lemma insert (h : s.ObjectsFit Fit) {o : Obj Row k} (ho : Fit k o.cur) :
    ObjectsFit Fit { s with objects := s.objects.insert k o } := by
  intro k' o' ho'
  by_cases hk : k' = k
  · subst hk
    rw [AList.lookup_insert] at ho'
    cases ho'
    exact ho
  · rw [AList.lookup_insert_ne hk] at ho'
    exact h k' o' ho'

omit [∀ k, DecidableEq (Row k)] [Table Row] in
lemma follow (h : s.ObjectsFit Fit) {m : Row k → Bool} {f : Row k → Row k}
    (hf : ∀ r, Fit k r → m r = true → Fit k (f r)) : (s.follow k m f).ObjectsFit Fit := by
  rw [Session.follow]
  split
  · rename_i o ho
    split
    · rename_i hm
      exact h.insert (hf o.cur (h k o ho) hm)
    · exact h
  · exact h

/-- A proper step keeps the objects fit, and answers accordingly. -/
lemma step {γ : Type} {op : Op Row Ev γ} {c : Choice} {b : γ} (h : s.ObjectsFit Fit)
    (hview : Stored Fit (s.view st)) (hok : op.proper Fit)
    (he : op.eval c [] st s = some (b, s')) : s'.ObjectsFit Fit ∧ op.tells Fit b := by
  -- what a session holds it was told by the store, or was given by a proper operation
  cases op with
  | utcnow => cases he; exact ⟨h, trivial⟩
  | uuid4 => cases he; exact ⟨h, trivial⟩
  | select skip rows ents locks =>
      rcases eval_select_skip he with ⟨-, rfl⟩ | ⟨-, rfl⟩
      · exact ⟨h, trivial⟩
      · refine ⟨loads (fun k o ho => h k o ?_) hview _, trivial⟩
        rwa [Session.foldl_lock_objects] at ho
  | query q => cases he; exact ⟨h, trivial⟩
  | attrs k =>
      cases he
      refine ⟨h, fun row hrow => ?_⟩
      obtain ⟨o, ho, rfl⟩ := Option.map_eq_some_iff.mp hrow
      exact h k o ho
  | assign k r =>
      obtain ⟨o, -, rfl⟩ := eval_assign he
      exact ⟨h.insert hok, trivial⟩
  | update k m f =>
      rcases eval_update he with ⟨-, rfl, -⟩ | ⟨r, -, -, -, rfl⟩
      · exact ⟨h.follow hok, trivial⟩
      · exact ⟨follow (s := s.write st k (some (f r))) h hok, trivial⟩
  | delete k referenced =>
      rcases eval_delete he with ⟨-, rfl, -⟩ | ⟨-, -, rfl⟩
      · exact ⟨h, trivial⟩
      · refine ⟨fun k' o ho => ?_, trivial⟩
        by_cases hk : k' = k
        · subst hk
          rw [AList.lookup_erase] at ho
          cases ho
        · rw [AList.lookup_erase_ne hk] at ho
          exact h k' o ho
  | add k r =>
      obtain ⟨-, rfl⟩ := eval_add he
      exact ⟨h.insert hok, trivial⟩
  | insertNested k r =>
      rcases eval_insertNested he with ⟨-, rfl, -⟩ | ⟨-, -, -, rfl⟩
      · exact ⟨h, trivial⟩
      · exact ⟨insert (s := s.write st k (some r)) h hok, trivial⟩
  | refresh k =>
      obtain ⟨r, hr, rfl⟩ := eval_refresh he
      exact ⟨h.insert (hview k r hr), trivial⟩
  | dirty => cases he; exact ⟨h, trivial⟩
  | flushKey k =>
      rcases eval_flushKey he with ⟨rfl, -⟩ | ⟨o, r, ho, -, rfl⟩
      · exact ⟨h, trivial⟩
      · exact ⟨insert (s := s.write st k (some r)) h (h k o ho), trivial⟩
  | record e => cases he; exact ⟨h, trivial⟩

end Session.ObjectsFit

/-- A proper step sends what fits. -/
lemma ColumnTypes.traffic_fits (ht : ColumnTypes sends fits Fit) {γ : Type} {op : Op Row Ev γ}
    (hview : Stored Fit (s.view st)) (h : s.ObjectsFit Fit) (hok : op.proper Fit) :
    ∀ x ∈ op.traffic sends st s, fits x := by
  cases op with
  | update k m f =>
      intro x hx
      rw [Op.traffic] at hx
      split at hx
      · rename_i r hr
        split at hx
        · rename_i hm
          exact ht.sends_fit (hok r (hview k r hr) hm) x hx
        · cases hx
      · cases hx
  | insertNested k r => exact ht.sends_fit hok
  | flushKey k =>
      intro x hx
      rw [Op.traffic] at hx
      split at hx
      · rename_i o ho
        split at hx
        · cases hx
        · exact ht.sends_fit (h k o ho) x hx
      · cases hx
  | _ => exact fun x hx => nomatch hx

/-- **What a proper program sends fits.** -/
theorem sent_fits (ht : ColumnTypes sends fits Fit) {p : Prog Row Ev Err α} (hp : p.Proper Fit Q)
    (h : Stored Fit st) (hview : Stored Fit (s.view st)) (hobjects : s.ObjectsFit Fit) :
    ∀ x ∈ sentValues sends cs p n st s, fits x := by
  induction p generalizing n st s with
  | pure a => exact fun x hx => nomatch hx
  | op op k ih =>
      have htraffic := ht.traffic_fits hview hobjects hp.1
      cases he : op.eval (cs n) [] st s with
      | none =>
          rw [sentValues, he, List.append_nil]
          exact htraffic
      | some bs =>
          obtain ⟨b, s'⟩ := bs
          obtain ⟨hobjects', htells⟩ := hobjects.step hview hp.1 he
          have hrest := ih b (n := n + 1) (hp.2 b htells) h (ht.step hview htraffic he) hobjects'
          rw [sent_op sends he]
          intro x hx
          rcases List.mem_append.mp hx with hx | hx
          · exact htraffic x hx
          · exact hrest x hx
  | raise e => exact fun x hx => nomatch hx
  | commit k ih => exact ih hp hview hview .empty
  | publish k ih => exact ih hp h hview hobjects

end Proper

/-! ### One statement after the other -/

section Statements

variable {sends : ∀ k : K, Option (Row k) → Row k → List ν}

lemma sent_utcnow (f : ℤ → Prog Row Ev Err α) :
    sentValues sends cs (Prog.utcnow.bind f) n st s = sentValues sends cs (f (cs n).now)
      (n + 1) st s := rfl

lemma sent_uuid4 (f : ℕ → Prog Row Ev Err α) :
    sentValues sends cs (Prog.uuid4.bind f) n st s = sentValues sends cs (f (cs n).uuid)
      (n + 1) st s := rfl

/-- A `SELECT` of at most one row that finds none. -/
lemma sent_scalar_none {stmt : Store Row → Option (List K)} (f : Option (Row k) → Prog Row Ev Err α)
    (h : stmt (s.view st) = none) :
    sentValues sends cs ((Prog.scalar k stmt).bind f) n st s = sentValues sends cs (f none)
      (n + 1) st s := by
  refine (sent_op sends (show _ = some ([], s) from ?_)).trans rfl
  simp [Op.eval, h]

/-- A `SELECT` of one row that finds it. -/
lemma sent_scalar_some {stmt : Store Row → Option (List K)} {locks : List K}
    (f : Option (Row k) → Prog Row Ev Err α) (h : stmt (s.view st) = some locks) :
    sentValues sends cs ((Prog.scalar k stmt).bind f) n st s
      = sentValues sends cs (f (s.read (s.view st) k)) (n + 2) st
          ((locks.foldl (Session.lock st) s).load (s.view st) k) := by
  have hread : (((locks.foldl (Session.lock st) s).load (s.view st) k).objects.lookup k).map Obj.cur
      = s.read (s.view st) k := by
    rw [Session.lookup_load_self, Session.read, Session.read, Session.foldl_lock_objects]
  refine (sent_op sends (show _ = some ([locks],
    (locks.foldl (Session.lock st) s).load (s.view st) k) from ?_)).trans ?_
  · simp [Op.eval, h, any_locked_nil]
  · change sentValues sends cs
      (f ((((locks.foldl (Session.lock st) s).load (s.view st) k).objects.lookup
      k).map Obj.cur)) (n + 2) st _ = _
    rw [hread]

variable (sends cs n st s) in
/-- `session.get` of a row without an object. -/
lemma sent_get (f : Option (Row k) → Prog Row Ev Err α) (h : s.objects.lookup k = none) :
    ∃ n', sentValues sends cs ((Prog.get k).bind f) n st s
      = sentValues sends cs (f ((s.view st).lookup k)) n' st (s.load (s.view st) k) := by
  have hfirst : sentValues sends cs ((Prog.get k).bind f) n st s
      = sentValues sends cs ((Prog.scalar k fun v => (v.lookup k).map fun _ =>
        ([] : List K)).bind f)
          (n + 1) st s := by
    refine (sent_op sends (show _ = some (none, s) from ?_)).trans rfl
    simp [Op.eval, h]
  cases hv : (s.view st).lookup k with
  | none =>
      refine ⟨n + 2, ?_⟩
      have hload : s.load (s.view st) k = s := by rw [Session.load, h, hv]
      rw [hfirst, sent_scalar_none f (by rw [hv]; rfl), hload]
  | some r =>
      refine ⟨n + 3, ?_⟩
      have hnone : ((s.view st).lookup k).map (fun _ => ([] : List K)) = some [] := by rw [hv]; rfl
      rw [hfirst, sent_scalar_some f hnone, Session.read, h, hv]
      rfl

lemma sent_add {r : Row k} (f : Unit → Prog Row Ev Err α) (h : s.objects.lookup k = none) :
    sentValues sends cs ((Prog.add k r).bind f) n st s
      = sentValues sends cs (f ()) (n + 1) st
        { s with objects := s.objects.insert k ⟨none, r⟩ } := by
  refine sent_op sends (b := ()) ?_
  simp [Op.eval, h]

lemma sent_assign {ob : Obj Row k} {r : Row k} (f : Unit → Prog Row Ev Err α)
    (h : s.objects.lookup k = some ob) :
    sentValues sends cs ((Prog.assign k r).bind f) n st s
      = sentValues sends cs (f ()) (n + 1) st
          { s with objects := s.objects.insert k ⟨ob.loaded, r⟩ } := by
  refine sent_op sends (b := ()) ?_
  simp [Op.eval, h]

variable {fits : ν → Prop} {Fit : ∀ k : K, Row k → Prop} {Q : α → Prop}

/-- A flush of a changed object, the only one, before a proper program. -/
lemma sent_flush_one_iff (ht : ColumnTypes sends fits Fit) {ob : Obj Row k}
    (hob : ob.loaded ≠ some ob.cur) (hold : ∀ old, ob.loaded = some old → Fit k old)
    (hclean : ∀ k' o, k' ≠ k → s.objects.lookup k' = some o → o.loaded = some o.cur)
    (hobjects : ∀ k' o, k' ≠ k → s.objects.lookup k' = some o → Fit k' o.cur)
    (h : Stored Fit st) (hview : Stored Fit (s.view st)) {f : Unit → Prog Row Ev Err α}
    (hf : (f ()).Proper Fit Q) :
    (∀ x ∈ sentValues sends cs (Prog.flush.bind f) n st { s with objects := s.objects.insert k ob },
      fits x)
      ↔ ∀ x ∈ sends k ob.loaded ob.cur, fits x := by
  -- only the object of `k` is dirty
  have htraffic : (Op.flushKey k : Op Row Ev Unit).traffic sends st
      { s with objects := s.objects.insert k ob } = sends k ob.loaded ob.cur := by
    rw [Op.traffic]
    dsimp only
    rw [AList.lookup_insert]
    dsimp only
    rw [if_neg hob]
  have hflush : sentValues sends cs (Prog.flush.bind f) n st
      { s with objects := s.objects.insert k ob }
      = sentValues sends cs (.op (.flushKey k) f) (n + 1) st
          { s with objects := s.objects.insert k ob } := by
    refine (sent_op sends (show _ = some ([k], { s with objects := s.objects.insert k ob })
      from ?_)).trans rfl
    simp only [Op.eval, filter_isDirty_insert hclean hob]
  rw [hflush, sentValues, htraffic]
  refine ⟨fun hall x hx => hall x (List.mem_append_left _ hx), fun hall x hx => ?_⟩
  rcases List.mem_append.mp hx with hx | hx
  · exact hall x hx
  · -- what follows the flush is proper
    cases he : (Op.flushKey k).eval (cs (n + 1)) [] st
      { s with objects := s.objects.insert k ob } with
    | none =>
        rw [he] at hx
        cases hx
    | some bs =>
        obtain ⟨b, s'⟩ := bs
        rw [he] at hx
        have hfit : Fit k ob.cur := by
          cases hloaded : ob.loaded with
          | none =>
              rw [hloaded] at hall
              exact ht.insert_fit hall
          | some old =>
              rw [hloaded] at hall
              exact ht.update_fit (hold old hloaded) hall
        have hobjects' : Session.ObjectsFit Fit { s with objects := s.objects.insert k ob } := by
          intro k' o ho
          by_cases hk : k' = k
          · subst hk
            rw [AList.lookup_insert] at ho
            cases ho
            exact hfit
          · rw [AList.lookup_insert_ne hk] at ho
            exact hobjects k' o hk ho
        have hview' : Stored Fit (Session.view
            { s with objects := s.objects.insert k ob } st) := hview
        have hok : (Op.flushKey k : Op Row Ev Unit).proper Fit := trivial
        exact sent_fits ht hf h (ht.step hview' (by rwa [htraffic]) he)
          (hobjects'.step hview' hok he).1 x hx

/-- A flush in which at most one object is changed, before a proper program. -/
lemma sent_flush_iff (ht : ColumnTypes sends fits Fit) {ob : Obj Row k}
    (hold : ∀ old, ob.loaded = some old → Fit k old)
    (hclean : ∀ k' o, k' ≠ k → s.objects.lookup k' = some o → o.loaded = some o.cur)
    (hobjects : ∀ k' o, k' ≠ k → s.objects.lookup k' = some o → Fit k' o.cur)
    (h : Stored Fit st) (hview : Stored Fit (s.view st)) {f : Unit → Prog Row Ev Err α}
    (hf : (f ()).Proper Fit Q) :
    (∀ x ∈ sentValues sends cs (Prog.flush.bind f) n st { s with objects := s.objects.insert k ob },
        fits x)
      ↔ ∀ x ∈ sends k ob.loaded ob.cur, fits x := by
  by_cases hob : ob.loaded = some ob.cur
  · have hfit : Fit k ob.cur := hold _ hob
    refine iff_of_true (sent_fits ht (Prog.proper_flush.bind fun _ _ => hf) h hview ?_)
      (ht.sends_fit hfit)
    intro k' o ho
    by_cases hk : k' = k
    · subst hk
      rw [AList.lookup_insert] at ho
      cases ho
      exact hfit
    · rw [AList.lookup_insert_ne hk] at ho
      exact hobjects k' o hk ho
  · exact sent_flush_one_iff ht hob hold hclean hobjects h hview hf

/-- An `UPDATE` of a row without an object, before a proper program. -/
lemma sent_update_iff (ht : ColumnTypes sends fits Fit) {m : Row k → Bool} {u : Row k → Row k}
    (hk : s.objects.lookup k = none) (hobjects : s.ObjectsFit Fit)
    (h : Stored Fit st) (hview : Stored Fit (s.view st)) {f : Bool → Prog Row Ev Err α}
    (hf : ∀ b, (f b).Proper Fit Q) :
    (∀ x ∈ sentValues sends cs ((Prog.update k m u).bind f) n st s, fits x)
      ↔ ∀ r, (s.view st).lookup k = some r → m r = true → ∀ x ∈ sends k (some r) (u r), fits x := by
  have htraffic : ∀ {P : ν → Prop},
      (∀ x ∈ (Op.update k m u : Op Row Ev Bool).traffic sends st s, P x)
        ↔ ∀ r, (s.view st).lookup k = some r → m r = true → ∀ x ∈ sends k (some r) (u r), P x := by
    intro P
    rw [Op.traffic]
    cases hr : (s.view st).lookup k with
    | none => simp
    | some r =>
        cases hm : m r <;> simp [hm]
  change (∀ x ∈ sentValues sends cs (.op (.update k m u) f) n st s, fits x) ↔ _
  rw [sentValues, ← htraffic]
  refine ⟨fun hall x hx => hall x (List.mem_append_left _ hx), fun hall x hx => ?_⟩
  rcases List.mem_append.mp hx with hx | hx
  · exact hall x hx
  · cases he : (Op.update k m u).eval (cs n) [] st s with
    | none =>
        rw [he] at hx
        cases hx
    | some bs =>
        obtain ⟨b, s'⟩ := bs
        rw [he] at hx
        -- no object is there to follow the update
        have hsame : s'.objects = s.objects := by
          have hnone : ∀ s₁ : Session Row Ev, s₁.objects = s.objects → s₁.follow k m u = s₁ := by
            intro s₁ h₁
            rw [Session.follow, h₁, hk]
          rcases eval_update he with ⟨-, rfl, -⟩ | ⟨r, -, -, -, rfl⟩
          · rw [hnone s rfl]
          · rw [hnone (s.write st k (some (u r))) rfl]
            rfl
        have hobjects' : s'.ObjectsFit Fit := by
          intro k' o ho
          rw [hsame] at ho
          exact hobjects k' o ho
        exact sent_fits ht (hf b) h (ht.step hview hall he) hobjects' x hx

end Statements

end ReadCommitted
