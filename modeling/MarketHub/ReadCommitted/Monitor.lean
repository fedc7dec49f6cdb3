import MarketHub.ReadCommitted.Alone
import MarketHub.ReadCommitted.Footprint
import MarketHub.ReadCommitted.System

/-!
What the threads of a system are watched to do.

* `Monitor`: a record kept beside every thread, begun anew with each transaction and
  continued at each step; `Watched` are the reachable states with these records.
* `Contract`: what is assumed when a program makes a step, and what is asked of its steps,
  of its exceptions and of its commits; `Prog.Obeys` says that a program keeps to it.
* `Prog.Fails`: a program that can only end in an exception of a kind, and gets there.
* `Watched.obeys`: programs that obey their contracts when they are started do so in every
  state of a run.
-/

namespace ReadCommitted

variable {K : Type} {Row : K → Type} {Ev Err W α β ι : Type}

/-- A record kept beside a thread: what it begins with, and how a step continues it. -/
structure Monitor {K : Type} (Row : K → Type) (Ev W : Type) where
  start : W
  next : {β : Type} → Store Row → Session Row Ev → Op Row Ev β → β → W → W

/-- What is assumed at the steps of a program, and what is asked of its steps, of the
exceptions of the application, and of its commits. -/
structure Contract {K : Type} (Row : K → Type) (Ev Err W : Type) where
  assume : {β : Type} → Store Row → Session Row Ev → Op Row Ev β → Prop := fun _ _ _ => True
  ask : {β : Type} → W → Session Row Ev → Op Row Ev β → Prop := fun _ _ _ => True
  raise : W → Failure Err → Prop := fun _ _ => True
  commit : W → Session Row Ev → Prop := fun _ _ => True

variable [DecidableEq K] [∀ k, DecidableEq (Row k)] [Table Row]

/-- A program keeps to a contract, whatever its steps find, and leaves `post`. -/
def Prog.Obeys (M : Monitor Row Ev W) (C : Contract Row Ev Err W) :
    Prog Row Ev Err α → (α → W → Session Row Ev → Prop) → W → Session Row Ev → Prop
  | .pure a, post, w, s => post a w s
  | .op o k, post, w, s =>
      C.ask w s o ∧ ∀ st c busy b s', Agrees s.held st → C.assume st s o →
        o.eval c busy st s = some (b, s') → (k b).Obeys M C post (M.next st s o b w) s'
  | .raise e, _, w, _ => C.raise w e
  | .commit k, post, w, s => C.commit w s ∧ k.Obeys M C post M.start ∅
  | .publish k, post, w, s => k.Obeys M C post w s

/-- A program ends in an exception of the kind `E` without a commit: as long as its steps find
what is assumed of them, each of them can be made, and that is where they lead. -/
def Prog.Fails (assume : {β : Type} → Store Row → Session Row Ev → Op Row Ev β → Prop)
    (E : Failure Err → Prop) : Prog Row Ev Err α → Session Row Ev → Prop
  | .pure _, _ => False
  | .op o k, s =>
      ∀ st c busy, Agrees s.held st → assume st s o →
        ∃ b s', o.eval c busy st s = some (b, s') ∧ (k b).Fails assume E s'
  | .raise e, _ => E e
  | .commit _, _ => False
  | .publish k, s => k.Fails assume E s

section Rules

variable {M : Monitor Row Ev W} {C : Contract Row Ev Err W} {p : Prog Row Ev Err α}
  {post post' : α → W → Session Row Ev → Prop} {w : W} {s : Session Row Ev}

lemma Prog.Obeys.mono (h : p.Obeys M C post w s) (himp : ∀ a w s, post a w s → post' a w s) :
    p.Obeys M C post' w s := by
  induction p generalizing w s with
  | pure a => exact himp a w s h
  | op op k ih =>
      exact ⟨h.1, fun st c busy b s' hag ha he => ih b (h.2 st c busy b s' hag ha he)⟩
  | raise e => exact h
  | commit k ih => exact ⟨h.1, ih h.2⟩
  | publish k ih => exact ih h

/-- Sequential composition. -/
lemma Prog.Obeys.bind {f : α → Prog Row Ev Err β} {post : β → W → Session Row Ev → Prop}
    (h : p.Obeys M C (fun a w s => (f a).Obeys M C post w s) w s) :
    (p.bind f).Obeys M C post w s := by
  induction p generalizing w s with
  | pure a => exact h
  | op op k ih =>
      exact ⟨h.1, fun st c busy b s' hag ha he => ih b (h.2 st c busy b s' hag ha he)⟩
  | raise e => exact h
  | commit k ih => exact ⟨h.1, ih h.2⟩
  | publish k ih => exact ih h

/-- A condition that the steps of a program keep. -/
lemma Prog.Obeys.of_allOps {ok : {γ : Type} → Op Row Ev γ → Prop} {I : W → Session Row Ev → Prop}
    (hp : p.AllOps ok) (hun : p.Uncommitted)
    (hraise : p.Raises fun e => ∀ w s, I w s → C.raise w e)
    (hask : ∀ {γ : Type} (op : Op Row Ev γ) w s, ok op → I w s → C.ask w s op)
    (hstep : ∀ {γ : Type} (op : Op Row Ev γ) w st c busy b s s', ok op → I w s →
      op.eval c busy st s = some (b, s') → I (M.next st s op b w) s')
    (hI : I w s) : p.Obeys M C (fun _ w s => I w s) w s := by
  induction p generalizing w s with
  | pure a => exact hI
  | op op k ih =>
      exact ⟨hask op w s hp.1 hI, fun st c busy b s' _ _ he =>
        ih b (hp.2 b) (hun b) (hraise b) (hstep op w st c busy b s s' hp.1 hI he)⟩
  | raise e => exact hraise w s hI
  | commit k ih => exact hun.elim
  | publish k ih => exact ih hp hun hraise hI

/-- A program whose record says that it will fail, when its contract lets it neither wait, commit
nor answer then. -/
lemma Prog.Obeys.fails {R : W → Prop} {E : Failure Err → Prop}
    (hask : ∀ {β : Type} (o : Op Row Ev β) w s, C.ask w s o → R w → ∀ st c busy,
      Agrees s.held st → C.assume st s o → (o.eval c busy st s).isSome)
    (hnext : ∀ {β : Type} (o : Op Row Ev β) (b : β) w st s, R w → R (M.next st s o b w))
    (hraise : ∀ e w, C.raise w e → R w → E e) (hcommit : ∀ w s, C.commit w s → ¬ R w)
    (hpost : ∀ a w s, post a w s → ¬ R w) (h : p.Obeys M C post w s) (hw : R w) :
    p.Fails C.assume E s := by
  induction p generalizing w s with
  | pure a => exact hpost a w s h hw
  | op o k ih =>
      intro st c busy hag hassume
      obtain ⟨⟨b, s'⟩, he⟩ := Option.isSome_iff_exists.mp (hask o w s h.1 hw st c busy hag hassume)
      exact ⟨b, s', he, ih b (h.2 st c busy b s' hag hassume he) (hnext o b w st s hw)⟩
  | raise e => exact hraise e w h hw
  | commit k ih => exact hcommit w s h.1 hw
  | publish k ih => exact ih h hw

end Rules

/-! ### Watched runs -/

/-- The records after an action. A transaction that is rolled back for its own exception keeps
its record. -/
def Monitor.after (M : Monitor Row Ev W) (s : Sys Row Ev Err α) (w : ℕ → W) :
    Action Row Ev Err α → ℕ → W
  | .start t _ => Function.update w t M.start
  | .abort t =>
      match (s.threads.lookup t).map Thread.prog with
      | some (.raise _) => w
      | _ => Function.update w t M.start
  | .run t c =>
      match s.threads.lookup t with
      | none => w
      | some th =>
          match th.prog with
          | .op op _ =>
              match op.eval c (s.busy t) s.committed th.session with
              | none => w
              | some (b, _) => Function.update w t (M.next s.committed th.session op b (w t))
          | .commit _ => Function.update w t M.start
          | _ => w

/-- The states reached from `s₀` by programs of the class `P`, every action being taken in a
state that satisfies `H`, with the records of the threads. -/
inductive Watched (M : Monitor Row Ev W) (P : Prog Row Ev Err α → Prop)
    (H : Sys Row Ev Err α → Prop) (s₀ : Sys Row Ev Err α) : Sys Row Ev Err α → (ℕ → W) → Prop
  | init : Watched M P H s₀ s₀ fun _ => M.start
  | step {s s' : Sys Row Ev Err α} {w : ℕ → W} {a : Action Row Ev Err α} : Watched M P H s₀ s w →
      a.Starts P → H s → Sys.step a s = some s' → Watched M P H s₀ s' (M.after s w a)

/-- The state after a sequence of actions in states that pass a check, with the records of the
threads. -/
def Monitor.run (M : Monitor Row Ev W) (check : Sys Row Ev Err α → Bool) :
    List (Action Row Ev Err α) → Sys Row Ev Err α → (ℕ → W) → Option (Sys Row Ev Err α × (ℕ → W))
  | [], s, w => some (s, w)
  | a :: as, s, w =>
      if check s then (Sys.step a s).bind fun s' => M.run check as s' (M.after s w a) else none

section Runs

variable {M : Monitor Row Ev W} {P : Prog Row Ev Err α → Prop} {H : Sys Row Ev Err α → Prop}
  {s₀ s s' : Sys Row Ev Err α} {w : ℕ → W} {st₀ : Store Row}

lemma Watched.reachable (h : Watched M P H s₀ s w) : Reachable P (fun s _ => H s) s₀ s := by
  induction h with
  | init => exact .init
  | step _ hP hH hstep ih => exact ih.step hP hH hstep

/-- The threads of every run can be watched. -/
lemma Reachable.watched (M : Monitor Row Ev W) {G : Sys Row Ev Err α → Action Row Ev Err α → Prop}
    (hG : ∀ s a, G s a → H s) (h : Reachable P G s₀ s) : ∃ w, Watched M P H s₀ s w := by
  induction h with
  | init => exact ⟨_, .init⟩
  | step _ hP hguard hstep ih =>
      obtain ⟨w, hw⟩ := ih
      exact ⟨_, hw.step hP (hG _ _ hguard) hstep⟩

/-- The threads of a run have been started with programs that were admitted for them. -/
lemma Reachable.started {G : Sys Row Ev Err α → Action Row Ev Err α → Prop}
    {Q : ℕ → Prog Row Ev Err α → Prop} (hQ : ∀ s t p, P p → G s (.start t p) → Q t p)
    (h : Reachable P G (Sys.rest st₀) s) : ∀ t th, s.threads.lookup t = some th →
    Q t th.origin := by
  induction h with
  | init =>
      intro t th hl
      simp [Sys.rest] at hl
  | @step s s' a _ hP hG hstep ih =>
      have hset : ∀ t th, Q t th.origin → ∀ t' th', (s.threads.insert t th).lookup t' = some th' →
          Q t' th'.origin := by
        intro t th hth t' th' hl
        rcases Sys.thread_cases hl with ⟨rfl, rfl⟩ | ⟨-, hl⟩
        · exact hth
        · exact ih t' th' hl
      cases Sys.stepTo_of_step hstep with
      | start _ => exact hset _ _ (hQ s _ _ hP hG)
      | op hth _ _ =>
          have horigin := ih _ _ hth
          exact hset _ _ horigin
      | commit hth _ =>
          have horigin := ih _ _ hth
          exact hset _ _ horigin
      | publish hth _ =>
          have horigin := ih _ _ hth
          exact hset _ _ horigin
      | abort hth =>
          have horigin := ih _ _ hth
          exact hset _ _ horigin

/-- A run of explicit actions reaches its last state. -/
lemma watched_of_run {check : Sys Row Ev Err α → Bool} (hH : ∀ s, check s = true → H s) :
    ∀ {as : List (Action Row Ev Err α)} {s : Sys Row Ev Err α} {w : ℕ → W} {r},
    Watched M P H s₀ s w →
      (∀ a ∈ as, a.Starts P) → M.run check as s w = some r → Watched M P H s₀ r.1 r.2
  | [], s, w, r, h, _, hrun => by
      cases hrun
      exact h
  | a :: as, s, w, r, h, hP, hrun => by
      simp only [Monitor.run] at hrun
      split at hrun
      · rename_i hcheck
        obtain ⟨s₁, hs₁, hrest⟩ := Option.bind_eq_some_iff.mp hrun
        exact watched_of_run hH (h.step (hP a List.mem_cons_self) (hH s hcheck) hs₁)
          (fun a' ha' => hP a' (List.mem_cons_of_mem _ ha')) hrest
      · cases hrun

/-- The records do not affect a run. -/
lemma Monitor.run_sys {check : Sys Row Ev Err α → Bool} :
    ∀ {as : List (Action Row Ev Err α)} {s : Sys Row Ev Err α} {w : ℕ → W} {r},
      M.run check as s w = some r → Sys.run as s = some r.1
  | [], s, w, r, hrun => by
      cases hrun
      rfl
  | a :: as, s, w, r, hrun => by
      simp only [Monitor.run] at hrun
      split at hrun
      · obtain ⟨s₁, hs₁, hrest⟩ := Option.bind_eq_some_iff.mp hrun
        rw [Sys.run, hs₁]
        exact run_sys hrest
      · cases hrun

/-- In every reachable state the locks exclude each other and agree with the committed rows. -/
lemma Watched.ok (h : Watched M P H (Sys.rest st₀) s w) :
    s.Ok ({} : Outline Row Ev) fun _ _ _ => True :=
  h.reachable.ok ⟨fun _ _ _ _ _ _ => trivial, fun _ _ _ _ _ _ _ _ _ => trivial⟩ trivial
    (fun _ _ _ _ _ => wp_of_forall (fun _ _ => trivial) fun _ _ _ => trivial)
    fun _ _ _ _ _ _ _ _ _ _ => trivial

omit [DecidableEq K] [∀ k, DecidableEq (Row k)] [Table Row] in
/-- A condition on a thread and its record, after this thread or another is replaced. -/
lemma thread_update {q : Thread Row Ev Err α → W → Prop} {t t₁ : ℕ} {th : Thread Row Ev Err α}
    {v : W} (h : ∀ th, s.threads.lookup t = some th → q th (w t)) (hth : t = t₁ → q th v) :
    ∀ th', (s.threads.insert t₁ th).lookup t = some th' → q th' (Function.update w t₁ v t) := by
  intro th' hl
  rcases Sys.thread_cases hl with ⟨rfl, rfl⟩ | ⟨htt, hl⟩
  · rw [Function.update_self]
    exact hth rfl
  · rw [Function.update_of_ne htt]
    exact h th' hl

variable (M) in
/-- What is left of a thread keeps to the contract of the program it was started with. -/
def Thread.Bound (prog : ι → Prog Row Ev Err α) (C : ι → Contract Row Ev Err W)
    (post : ι → α → W → Session Row Ev → Prop) (th : Thread Row Ev Err α) (v : W) : Prop :=
  ∀ i, th.origin = prog i → th.prog.Obeys M (C i) (post i) v th.session

/-- **Contracts are kept in every run** by a thread that finds at its steps what its contract
assumes. -/
theorem Watched.obeys (t : ℕ) (prog : ι → Prog Row Ev Err α) (C : ι → Contract Row Ev Err W)
    (post : ι → α → W → Session Row Ev → Prop)
    (hprog : ∀ i, (prog i).Obeys M (C i) (post i) M.start ∅)
    (hcut : ∀ i, (C i).raise M.start .database)
    (hassume : ∀ s th i, H s → s.threads.lookup t = some th → th.origin = prog i →
      ∀ (β : Type) (op : Op Row Ev β) k, th.prog = .op op k →
      (C i).assume s.committed th.session op)
    (h : Watched M P H (Sys.rest st₀) s w) :
    ∀ th, s.threads.lookup t = some th → th.Bound M prog C post (w t) := by
  induction h with
  | init =>
      intro th hl
      simp [Sys.rest] at hl
  | @step s s' w a hw _ hH hstep ih =>
      cases a with
      | start t₁ p =>
          cases Sys.stepTo_of_step hstep with
          | start hnone =>
              refine thread_update (q := Thread.Bound M prog C post) ih fun _ i hi => ?_
              obtain rfl : p = prog i := hi
              exact hprog i
      | abort t₁ =>
          simp only [Sys.step] at hstep
          split at hstep
          · cases hstep
          · rename_i th hth
            split at hstep
            · cases hstep
            · -- rolled back for its own exception
              rename_i e hp
              cases hstep
              have hafter : M.after s w (.abort t₁) = Function.update w t₁ (w t₁) := by
                simp only [Monitor.after, hth, Option.map_some, hp, Function.update_eq_self]
              rw [hafter]
              refine thread_update (q := Thread.Bound M prog C post) ih fun htt i hi => ?_
              subst htt
              have hraise := ih th hth i hi
              rw [hp] at hraise
              exact hraise
            · -- cut off
              rename_i hpure hraise
              cases hstep
              have hafter : M.after s w (.abort t₁) = Function.update w t₁ M.start := by
                simp only [Monitor.after, hth, Option.map_some]
                split
                · rename_i e heq
                  exact absurd (Option.some.inj heq) (hraise e)
                · rfl
              rw [hafter]
              exact thread_update (q := Thread.Bound M prog C post) ih fun _ i _ => hcut i
      | run t₁ c =>
          cases Sys.stepTo_of_step hstep with
          | @op _ _ th β op k b se hth hp he =>
              have hafter : M.after s w (.run t₁ c)
                  = Function.update w t₁ (M.next s.committed th.session op b (w t₁)) := by
                simp only [Monitor.after, hth, hp, he]
              rw [hafter]
              refine thread_update (q := Thread.Bound M prog C post) ih fun htt i hi => ?_
              subst htt
              have hobeys := ih th hth i hi
              rw [hp] at hobeys
              exact hobeys.2 _ c _ b se (hw.ok.agrees t th hth)
                (hassume s th i hH hth hi β op k hp) he
          | @commit _ _ th k hth hp =>
              have hafter : M.after s w (.run t₁ c) = Function.update w t₁ M.start := by
                simp only [Monitor.after, hth, hp]
              rw [hafter]
              refine thread_update (q := Thread.Bound M prog C post) ih fun htt i hi => ?_
              subst htt
              have hobeys := ih th hth i hi
              rw [hp] at hobeys
              exact hobeys.2
          | @publish _ _ th k hth hp =>
              have hafter : M.after s w (.run t₁ c) = Function.update w t₁ (w t₁) := by
                simp only [Monitor.after, hth, hp, Function.update_eq_self]
              rw [hafter]
              refine thread_update (q := Thread.Bound M prog C post) ih fun htt i hi => ?_
              subst htt
              have hobeys := ih th hth i hi
              rw [hp] at hobeys
              exact hobeys

end Runs

end ReadCommitted
