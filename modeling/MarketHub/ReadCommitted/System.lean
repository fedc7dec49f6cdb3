import MarketHub.ReadCommitted.Locks
import MarketHub.ReadCommitted.Rule

/-!
Any number of transactions interleaved statement by statement.

* `Thread`, `Sys`, `Action`, `Sys.step`: a thread runs a program in its current
  session; an action starts a thread, lets it make its next step with a given
  `Choice`, or aborts it. A commit puts the held rows into the committed store,
  releases them and hands the recorded events over for publication.
* `Reachable`: the states reached from an initial one when the started programs
  come from a given class and every action meets a condition on the run.
* `Reachable.ok`: the proof rule. When every program of the class meets the weakest
  precondition of an outline, when a commit that meets the outline keeps its
  invariant, and when such a commit is one that the other sessions rely on, then
  the invariant holds in every reachable state and every thread still meets the
  weakest precondition of what is left of its program.
-/

namespace ReadCommitted

variable {K : Type} {Row : K → Type} {Ev Err α : Type}

/-- A running program: what is left of it, its open session, and the program the thread was
started with. -/
structure Thread {K : Type} (Row : K → Type) (Ev Err α : Type) where
  prog : Prog Row Ev Err α
  session : Session Row Ev
  origin : Prog Row Ev Err α

/-- A thread at the beginning of a transaction. -/
def Thread.fresh (origin p : Prog Row Ev Err α) : Thread Row Ev Err α where
  prog := p
  session := ∅
  origin := origin

/-- A database with the programs that run on it: the committed rows, the threads,
the events of committed transactions still to be published, the published events,
and the events of all committed transactions. -/
structure Sys {K : Type} (Row : K → Type) (Ev Err α : Type) where
  committed : Store Row
  threads : AList (fun _ : ℕ => Thread Row Ev Err α) := ∅
  outbox : List (ℕ × List Ev) := []
  published : List Ev := []
  log : List Ev := []

/-- What may happen next: a thread starts, makes a step, or is aborted. -/
inductive Action {K : Type} (Row : K → Type) (Ev Err α : Type) : Type 1
  | start (t : ℕ) (p : Prog Row Ev Err α)
  | run (t : ℕ) (c : Choice)
  | abort (t : ℕ)

namespace Sys

/-- The rows held by the threads other than `t`. -/
def busy (s : Sys Row Ev Err α) (t : ℕ) : Busy Row :=
  (s.threads.erase t).entries.flatMap fun e => e.2.session.held.entries

/-- The system with the thread `t` replaced. -/
def set (s : Sys Row Ev Err α) (t : ℕ) (th : Thread Row Ev Err α) : Sys Row Ev Err α :=
  { s with threads := s.threads.insert t th }

variable [DecidableEq K]

/-- The commit of thread `t`, which goes on with the program `k`. -/
def commitThread (s : Sys Row Ev Err α) (t : ℕ) (th : Thread Row Ev Err α)
    (k : Prog Row Ev Err α) : Sys Row Ev Err α :=
  { s with
    committed := merge s.committed th.session.held
    threads := s.threads.insert t (.fresh th.origin k)
    outbox := s.outbox ++ [(t, th.session.pending)]
    log := s.log ++ th.session.pending }

/-- The publication of the events thread `t` has handed over. -/
def publishThread (s : Sys Row Ev Err α) (t : ℕ) (th : Thread Row Ev Err α)
    (k : Prog Row Ev Err α) : Sys Row Ev Err α :=
  { s with
    threads := s.threads.insert t { th with prog := k }
    outbox := s.outbox.filter fun e => e.1 ≠ t
    published := s.published ++ (s.outbox.filter fun e => e.1 = t).flatMap Prod.snd }

variable [∀ k, DecidableEq (Row k)] [Table Row]

/-- The state after an action; `none` when the action is not possible. -/
def step : Action Row Ev Err α → Sys Row Ev Err α → Option (Sys Row Ev Err α)
  | .start t p, s =>
      match s.threads.lookup t with
      | some _ => none
      | none => some (s.set t (.fresh p p))
  | .run t c, s =>
      match s.threads.lookup t with
      | none => none
      | some th =>
          match th.prog with
          | .pure _ => none
          | .raise _ => none
          | .op op k =>
              match op.eval c (s.busy t) s.committed th.session with
              | none => none
              | some (b, se) => some (s.set t { th with prog := k b, session := se })
          | .commit k => some (s.commitThread t th k)
          | .publish k => some (s.publishThread t th k)
  | .abort t, s =>
      match s.threads.lookup t with
      | none => none
      | some th =>
          match th.prog with
          | .pure _ => none
          | .raise e => some (s.set t (.fresh th.origin (.raise e)))
          | _ => some (s.set t (.fresh th.origin (.raise .database)))

/-- The state after a sequence of actions. -/
def run : List (Action Row Ev Err α) → Sys Row Ev Err α → Option (Sys Row Ev Err α)
  | [], s => some s
  | a :: as, s => (step a s).bind (run as)

end Sys

/-- A thread makes `n` steps, with clock readings and identifiers from `m` on. -/
def Action.steps (t n m : ℕ) : List (Action Row Ev Err α) :=
  (List.range n).map fun i => .run t ⟨((m + i : ℕ) : ℤ), m + i, false⟩

/-- The actions that start a program of the class `P` or go on with a started one. -/
def Action.Starts (P : Prog Row Ev Err α → Prop) : Action Row Ev Err α → Prop
  | .start _ p => P p
  | _ => True

lemma Action.starts_of_mem_steps {P : Prog Row Ev Err α → Prop} {t n m : ℕ}
    {a : Action Row Ev Err α} (h : a ∈ Action.steps t n m) : a.Starts P := by
  obtain ⟨i, -, rfl⟩ := List.mem_map.mp h
  trivial

variable [DecidableEq K] [∀ k, DecidableEq (Row k)] [Table Row]

/-- The states reached from `s₀` by programs of the class `P`, every action meeting
the condition `G` in the state it is taken in. -/
inductive Reachable (P : Prog Row Ev Err α → Prop)
    (G : Sys Row Ev Err α → Action Row Ev Err α → Prop) (s₀ : Sys Row Ev Err α) :
    Sys Row Ev Err α → Prop
  | init : Reachable P G s₀ s₀
  | step {s s' : Sys Row Ev Err α} {a : Action Row Ev Err α} : Reachable P G s₀ s →
      a.Starts P → G s a → Sys.step a s = some s' → Reachable P G s₀ s'

/-- A system at rest: nothing runs and nothing waits for publication. -/
def Sys.rest (st : Store Row) : Sys Row Ev Err α := { committed := st }

/-! ### What an action can do -/

/-- The five things an action can have done. -/
inductive Sys.StepTo (s : Sys Row Ev Err α) : Action Row Ev Err α → Sys Row Ev Err α → Prop
  | start {t : ℕ} {p : Prog Row Ev Err α} : s.threads.lookup t = none →
      StepTo s (.start t p) (s.set t (.fresh p p))
  | op {t : ℕ} {c : Choice} {th : Thread Row Ev Err α} {β : Type} {op : Op Row Ev β}
      {k : β → Prog Row Ev Err α} {b : β} {se : Session Row Ev} :
      s.threads.lookup t = some th → th.prog = .op op k →
      op.eval c (s.busy t) s.committed th.session = some (b, se) →
      StepTo s (.run t c) (s.set t { th with prog := k b, session := se })
  | commit {t : ℕ} {c : Choice} {th : Thread Row Ev Err α} {k : Prog Row Ev Err α} :
      s.threads.lookup t = some th → th.prog = .commit k →
      StepTo s (.run t c) (s.commitThread t th k)
  | publish {t : ℕ} {c : Choice} {th : Thread Row Ev Err α} {k : Prog Row Ev Err α} :
      s.threads.lookup t = some th → th.prog = .publish k →
      StepTo s (.run t c) (s.publishThread t th k)
  | abort {t : ℕ} {th : Thread Row Ev Err α} {e : Failure Err} :
      s.threads.lookup t = some th →
      StepTo s (.abort t) (s.set t (.fresh th.origin (.raise e)))

lemma Sys.stepTo_of_step {s s' : Sys Row Ev Err α} {a : Action Row Ev Err α}
    (h : Sys.step a s = some s') : s.StepTo a s' := by
  cases a with
  | start t p =>
      simp only [Sys.step] at h
      split at h
      · cases h
      · rename_i hnone
        cases h
        exact .start hnone
  | run t c =>
      simp only [Sys.step] at h
      split at h
      · cases h
      · rename_i th hth
        split at h
        · cases h
        · cases h
        · rename_i β op k hp
          split at h
          · cases h
          · rename_i b se he
            cases h
            exact .op hth hp he
        · rename_i k hp
          cases h
          exact .commit hth hp
        · rename_i k hp
          cases h
          exact .publish hth hp
  | abort t =>
      simp only [Sys.step] at h
      split at h
      · cases h
      · rename_i th hth
        split at h
        · cases h
        · cases h
          exact .abort hth
        · cases h
          exact .abort hth

/-! ### The rows of the other threads -/

omit [DecidableEq K] [∀ k, DecidableEq (Row k)] [Table Row] in
/-- The rows of another thread are busy. -/
lemma Sys.mem_busy {s : Sys Row Ev Err α} {t t' : ℕ} {th : Thread Row Ev Err α} {k : K}
    {h : Held Row k} [DecidableEq K] (hne : t' ≠ t) (hth : s.threads.lookup t' = some th)
    (hk : th.session.held.lookup k = some h) : (⟨k, h⟩ : Sigma (Held Row)) ∈ s.busy t := by
  refine List.mem_flatMap.mpr ⟨⟨t', th⟩, ?_, AList.mem_lookup_iff.mp hk⟩
  exact AList.mem_lookup_iff.mp (by rw [AList.lookup_erase_ne hne]; exact hth)

omit [∀ k, DecidableEq (Row k)] [Table Row] in
lemma Sys.locked_of_held {s : Sys Row Ev Err α} {t t' : ℕ} {th : Thread Row Ev Err α} {k : K}
    (hne : t' ≠ t) (hth : s.threads.lookup t' = some th)
    (hk : th.session.held.lookup k ≠ none) : (s.busy t).locked k = true := by
  obtain ⟨h, hk'⟩ := Option.ne_none_iff_exists'.mp hk
  exact List.any_eq_true.mpr ⟨_, Sys.mem_busy hne hth hk', beq_self_eq_true k⟩

/-! ### The proof rule -/

omit [DecidableEq K] [∀ k, DecidableEq (Row k)] [Table Row] in
/-- A thread, after one of them is set: the one that was set, or another one. -/
lemma Sys.thread_cases {s : Sys Row Ev Err α} {t t' : ℕ} {th th' : Thread Row Ev Err α}
    (hl : (s.threads.insert t th).lookup t' = some th') :
    t' = t ∧ th = th' ∨ t' ≠ t ∧ s.threads.lookup t' = some th' := by
  by_cases htt : t' = t
  · subst htt
    rw [AList.lookup_insert] at hl
    exact Or.inl ⟨rfl, Option.some.inj hl⟩
  · rw [AList.lookup_insert_ne htt] at hl
    exact Or.inr ⟨htt, hl⟩

omit [DecidableEq K] [∀ k, DecidableEq (Row k)] [Table Row] in
/-- A condition on the threads, after one of them is replaced. -/
lemma Sys.forall_threads_set {q : Thread Row Ev Err α → Prop} {s : Sys Row Ev Err α} {t : ℕ}
    {th : Thread Row Ev Err α} (h : ∀ t th, s.threads.lookup t = some th → q th) (hth : q th) :
    ∀ t' th', (s.threads.insert t th).lookup t' = some th' → q th' := by
  intro t' th' hl
  rcases Sys.thread_cases hl with ⟨rfl, rfl⟩ | ⟨-, hl⟩
  · exact hth
  · exact h t' th' hl

/-- The invariant of a system under an outline: the invariant of the committed
state, locks that exclude each other and agree with it, and for every thread the
weakest precondition of what is left of its program. -/
structure Sys.Ok (o : Outline Row Ev) (post : α → Store Row → Session Row Ev → Prop)
    (s : Sys Row Ev Err α) : Prop where
  inv : o.inv s.committed s.log
  thread : ∀ t th, s.threads.lookup t = some th → wp o th.prog post s.committed th.session
  agrees : ∀ t th, s.threads.lookup t = some th → Agrees th.session.held s.committed
  apart : ∀ t t' th th', t ≠ t' → s.threads.lookup t = some th → s.threads.lookup t' = some th' →
    Apart th.session.held th'.session.held

/-- What a development owes the proof rule. -/
structure Outline.Sound (o : Outline Row Ev) : Prop where
  keeps : ∀ st log s, o.inv st log → Agrees s.held st → o.commit st s →
    o.inv (merge st s.held) (log ++ s.pending)
  relied : ∀ st log s u, o.inv st log → Agrees s.held st → Agrees u.held st →
    Apart s.held u.held → o.commit st s → o.rely u st (merge st s.held)

variable {o : Outline Row Ev} {post : α → Store Row → Session Row Ev → Prop}

/-- A thread is put back with a session that extends its old one, or with an empty
one; nothing else changes. -/
lemma Sys.Ok.set {s : Sys Row Ev Err α} (h : s.Ok o post) {t : ℕ} {th : Thread Row Ev Err α}
    (hwp : wp o th.prog post s.committed th.session) (hag : Agrees th.session.held s.committed)
    (hap : ∀ t' th', t' ≠ t → s.threads.lookup t' = some th' →
      Apart th.session.held th'.session.held) : (s.set t th).Ok o post where
  inv := h.inv
  thread t' th' hl := by
    rcases Sys.thread_cases hl with ⟨rfl, rfl⟩ | ⟨-, hl⟩
    · exact hwp
    · exact h.thread t' th' hl
  agrees t' th' hl := by
    rcases Sys.thread_cases hl with ⟨rfl, rfl⟩ | ⟨-, hl⟩
    · exact hag
    · exact h.agrees t' th' hl
  apart t₁ t₂ th₁ th₂ hne h₁ h₂ := by
    rcases Sys.thread_cases h₁ with ⟨rfl, rfl⟩ | ⟨ht₁, hold₁⟩
    · rcases Sys.thread_cases h₂ with ⟨rfl, -⟩ | ⟨ht₂, hold₂⟩
      · exact absurd rfl hne
      · exact hap t₂ th₂ ht₂ hold₂
    · rcases Sys.thread_cases h₂ with ⟨rfl, rfl⟩ | ⟨-, hold₂⟩
      · exact (hap t₁ th₁ ht₁ hold₁).symm
      · exact h.apart t₁ t₂ th₁ th₂ hne hold₁ hold₂

/-- A thread may always be put back with an empty session. -/
lemma Sys.Ok.set_empty {s : Sys Row Ev Err α} (h : s.Ok o post) {t : ℕ}
    {p q : Prog Row Ev Err α} (hwp : wp o p post s.committed ∅) :
    (s.set t (.fresh q p)).Ok o post :=
  h.set hwp (agrees_empty _) fun _ _ _ _ => (apart_empty _).symm

/-- One commit under the proof rule. -/
lemma Sys.Ok.commit {s : Sys Row Ev Err α} (hs : o.Sound) (h : s.Ok o post) {t : ℕ}
    {th : Thread Row Ev Err α} {k : Prog Row Ev Err α} (hth : s.threads.lookup t = some th)
    (hp : th.prog = .commit k) : (s.commitThread t th k).Ok o post := by
  have hwp := h.thread t th hth
  have hag := h.agrees t th hth
  rw [hp] at hwp
  obtain ⟨hcommit, hnext⟩ := hwp s.committed ⟨o.rely_refl _ _, ⟨s.log, h.inv⟩, hag⟩
  -- what the thread holds is locked, so the others hold nothing of it
  have hother : ∀ t' th', t' ≠ t → s.threads.lookup t' = some th' →
      Apart th.session.held th'.session.held := fun t' th' hne hl =>
    h.apart t t' th th' (Ne.symm hne) hth hl
  refine ⟨hs.keeps _ _ _ h.inv hag hcommit, fun t' th' hl => ?_, fun t' th' hl => ?_,
    fun t₁ t₂ th₁ th₂ hne h₁ h₂ => ?_⟩
  · rcases Sys.thread_cases hl with ⟨rfl, rfl⟩ | ⟨htt, hl⟩
    · exact hnext
    · exact wp_rely (h.thread t' th' hl)
        (hs.relied _ _ _ _ h.inv hag (h.agrees t' th' hl) (hother t' th' htt hl) hcommit)
  · rcases Sys.thread_cases hl with ⟨rfl, rfl⟩ | ⟨htt, hl⟩
    · exact agrees_empty _
    · exact (h.agrees t' th' hl).merge_of_apart (hother t' th' htt hl).symm
  · rcases Sys.thread_cases h₁ with ⟨-, rfl⟩ | ⟨-, h₁⟩
    · exact (apart_empty _).symm
    · rcases Sys.thread_cases h₂ with ⟨-, rfl⟩ | ⟨-, h₂⟩
      · exact apart_empty _
      · exact h.apart t₁ t₂ th₁ th₂ hne h₁ h₂

/-- One action under the proof rule. -/
lemma Sys.Ok.step {s s' : Sys Row Ev Err α} {a : Action Row Ev Err α} (hs : o.Sound)
    (h : s.Ok o post)
    (hstart : ∀ t p, a = .start t p → wp o p post s.committed ∅)
    (hguard : ∀ t c th, a = .run t c → s.threads.lookup t = some th →
      ∀ (β : Type) (op : Op Row Ev β) k, th.prog = .op op k → o.guard s.committed th.session op c)
    (hstep : Sys.step a s = some s') : s'.Ok o post := by
  cases Sys.stepTo_of_step hstep with
  | start hnone => exact h.set_empty (hstart _ _ rfl)
  | @op t c th β op k b se hth hp he =>
      have hwp := h.thread t th hth
      have hext := eval_extends he
      rw [hp] at hwp
      refine h.set ?_ (hext.agrees (h.agrees t th hth)) fun t' th' hne hl => ?_
      · exact hwp s.committed ⟨o.rely_refl _ _, ⟨s.log, h.inv⟩, h.agrees t th hth⟩ c _ b se he
          (hguard t c th rfl hth β op k hp)
      · exact hext.apart (h.apart t t' th th' (Ne.symm hne) hth hl) fun k hk =>
          Sys.locked_of_held hne hl hk
  | commit hth hp => exact h.commit hs hth hp
  | @publish t c th k hth hp =>
      have hwp := h.thread t th hth
      rw [hp] at hwp
      have hset : (s.set t { th with prog := k }).Ok o post :=
        h.set hwp (h.agrees t th hth) fun t' th' hne hl =>
          h.apart t t' th th' (Ne.symm hne) hth hl
      exact ⟨hset.inv, hset.thread, hset.agrees, hset.apart⟩
  | abort hth => exact h.set_empty trivial

/-- **The proof rule.** -/
theorem Reachable.ok {P : Prog Row Ev Err α → Prop}
    {G : Sys Row Ev Err α → Action Row Ev Err α → Prop} {st₀ : Store Row} {s : Sys Row Ev Err α}
    (hs : o.Sound) (hinit : o.inv st₀ [])
    (hprog : ∀ p, P p → ∀ st log, o.inv st log → wp o p post st ∅)
    (hguard : ∀ s t c th, G s (.run t c) → s.threads.lookup t = some th →
      ∀ (β : Type) (op : Op Row Ev β) k, th.prog = .op op k → o.guard s.committed th.session op c)
    (h : Reachable P G (Sys.rest st₀) s) : s.Ok o post := by
  induction h with
  | init =>
      refine ⟨hinit, fun t th hl => ?_, fun t th hl => ?_, fun t t' th th' _ hl _ => ?_⟩ <;>
        simp [Sys.rest] at hl
  | @step s s' a _ hP hG hstep ih =>
      refine ih.step hs (fun t p ha => ?_) (fun t c th ha hth => ?_) hstep
      · subst ha
        exact hprog p hP _ _ ih.inv
      · subst ha
        exact hguard s t c th hG hth

omit [∀ k, DecidableEq (Row k)] [Table Row] in
lemma Reachable.trans [∀ k, DecidableEq (Row k)] [Table Row] {P : Prog Row Ev Err α → Prop}
    {G : Sys Row Ev Err α → Action Row Ev Err α → Prop} {s₀ s s' : Sys Row Ev Err α}
    (h : Reachable P G s₀ s) (h' : Reachable P G s s') : Reachable P G s₀ s' := by
  induction h' with
  | init => exact h
  | step _ hP hG hstep ih => exact ih.step hP hG hstep

/-- A relation that every commit keeps to relates the committed rows of a state and of
any later one. -/
theorem Reachable.moves {P : Prog Row Ev Err α → Prop}
    {G : Sys Row Ev Err α → Action Row Ev Err α → Prop} {st₀ : Store Row}
    {s s' : Sys Row Ev Err α} {M : Store Row → Store Row → Prop} (hrefl : ∀ st, M st st)
    (htrans : ∀ st₁ st₂ st₃, M st₁ st₂ → M st₂ st₃ → M st₁ st₃)
    (hM : ∀ st s, Agrees s.held st → o.commit st s → M st (merge st s.held))
    (hok : ∀ s, Reachable P G (Sys.rest st₀) s → s.Ok o post) (h : Reachable P G (Sys.rest st₀) s)
    (h' : Reachable P G s s') : M s.committed s'.committed := by
  induction h' with
  | init => exact hrefl _
  | @step s₁ s₂ a hr _ _ hstep ih =>
      cases Sys.stepTo_of_step hstep with
      | start _ => exact ih
      | op _ _ _ => exact ih
      | @commit t c th k hth hp =>
          have hthis := hok s₁ (h.trans hr)
          have hwp := hthis.thread t th hth
          rw [hp] at hwp
          have hag := hthis.agrees t th hth
          have hcommit := (hwp s₁.committed ⟨o.rely_refl _ _, ⟨_, hthis.inv⟩, hag⟩).1
          exact htrans _ _ _ ih (hM _ _ hag hcommit)
      | publish _ _ => exact ih
      | abort _ => exact ih

/-- The outline that asks for another condition at a commit. -/
def Outline.at (o : Outline Row Ev) (commit : Store Row → Session Row Ev → Prop) :
    Outline Row Ev :=
  { o with commit := commit }

/-- **The proof rule, with a condition on the commits of each program.** When the
commits of every program `p` of the class meet a condition `C p` that implies the one of
the outline, then every thread of a reachable state is still bound to the condition of
the program it was started with. -/
theorem Reachable.bound {P : Prog Row Ev Err α → Prop}
    {G : Sys Row Ev Err α → Action Row Ev Err α → Prop} {st₀ : Store Row} {s : Sys Row Ev Err α}
    {C : Prog Row Ev Err α → Store Row → Session Row Ev → Prop}
    (hs : o.Sound) (hinit : o.inv st₀ [])
    (hC : ∀ p, P p → ∀ st s, C p st s → o.commit st s)
    (hprog : ∀ p, P p → ∀ st log, o.inv st log → wp (o.at (C p)) p post st ∅)
    (hguard : ∀ s t c th, G s (.run t c) → s.threads.lookup t = some th →
      ∀ (β : Type) (op : Op Row Ev β) k, th.prog = .op op k → o.guard s.committed th.session op c)
    (h : Reachable P G (Sys.rest st₀) s) :
    s.Ok o post ∧ ∀ t th, s.threads.lookup t = some th →
      P th.origin ∧ wp (o.at (C th.origin)) th.prog post s.committed th.session := by
  have hok : ∀ s, Reachable P G (Sys.rest st₀) s → s.Ok o post := fun s hr =>
    hr.ok hs hinit (fun p hp st log hinv => wp_commit_mono (hC p hp)
      (hprog p hp st log hinv)) hguard
  -- the precondition of each thread is kept by its own steps and relied on under the others'
  refine ⟨hok s h, ?_⟩
  induction h with
  | init =>
      intro t th hl
      simp [Sys.rest] at hl
  | @step s s' a hr hP hG hstep ih =>
      have hthis := hok s hr
      cases Sys.stepTo_of_step hstep with
      | start _ =>
          exact Sys.forall_threads_set ih ⟨hP, hprog _ hP _ _ hthis.inv⟩
      | @op t c th β op k b se hth hp he =>
          obtain ⟨horigin, hwp⟩ := ih t th hth
          rw [hp] at hwp
          refine Sys.forall_threads_set ih ⟨horigin, ?_⟩
          exact hwp s.committed ⟨o.rely_refl _ _, ⟨s.log, hthis.inv⟩,
            hthis.agrees t th hth⟩ c _ b se he
            (hguard s t c th hG hth β op k hp)
      | @commit t c th k hth hp =>
          obtain ⟨horigin, hwp⟩ := ih t th hth
          rw [hp] at hwp
          have hag := hthis.agrees t th hth
          obtain ⟨hcommit, hnext⟩ := hwp s.committed ⟨o.rely_refl _ _, ⟨s.log, hthis.inv⟩, hag⟩
          intro t' th' hl
          rcases Sys.thread_cases hl with ⟨rfl, rfl⟩ | ⟨htt, hl⟩
          · exact ⟨horigin, hnext⟩
          · obtain ⟨horigin', hwp'⟩ := ih t' th' hl
            have hap := hthis.apart t t' th th' (Ne.symm htt) hth hl
            exact ⟨horigin', wp_rely hwp'
              (hs.relied _ _ _ _ hthis.inv hag (hthis.agrees t' th' hl) hap
              (hC _ horigin _ _ hcommit))⟩
      | @publish t c th k hth hp =>
          obtain ⟨horigin, hwp⟩ := ih t th hth
          rw [hp] at hwp
          exact Sys.forall_threads_set ih ⟨horigin, hwp⟩
      | @abort t th e hth =>
          exact Sys.forall_threads_set ih ⟨(ih t th hth).1, trivial⟩

/-- A thread that is about to commit meets the condition of the program it was started
with. -/
lemma commit_of_bound {C : Store Row → Session Row Ev → Prop} {s : Sys Row Ev Err α}
    (hok : s.Ok o post) {t : ℕ} {th : Thread Row Ev Err α} {k : Prog Row Ev Err α}
    (hth : s.threads.lookup t = some th) (hp : th.prog = .commit k)
    (hwp : wp (o.at C) th.prog post s.committed th.session) : C s.committed th.session := by
  rw [hp] at hwp
  exact (hwp s.committed ⟨o.rely_refl _ _, ⟨s.log, hok.inv⟩, hok.agrees t th hth⟩).1

/-- A run of explicit actions that are admitted reaches its last state. -/
lemma reachable_of_admitted {P : Prog Row Ev Err α → Prop}
    {G : Sys Row Ev Err α → Action Row Ev Err α → Prop} {s₀ s' : Sys Row Ev Err α} :
    ∀ {as : List (Action Row Ev Err α)} {s : Sys Row Ev Err α}, Reachable P G s₀ s →
      (∀ a ∈ as, a.Starts P) → (∀ a ∈ as, ∀ s, G s a) → Sys.run as s = some s' → Reachable P G s₀ s'
  | [], s, h, _, _, hrun => by
      cases hrun
      exact h
  | a :: as, s, h, hP, hG, hrun => by
      obtain ⟨s₁, hs₁, hrest⟩ := Option.bind_eq_some_iff.mp hrun
      exact reachable_of_admitted (h.step (hP a List.mem_cons_self) (hG a List.mem_cons_self s) hs₁)
        (fun a' ha' => hP a' (List.mem_cons_of_mem _ ha'))
        (fun a' ha' => hG a' (List.mem_cons_of_mem _ ha')) hrest

/-- A run of explicit actions reaches its last state. -/
lemma reachable_of_run {P : Prog Row Ev Err α → Prop}
    {G : Sys Row Ev Err α → Action Row Ev Err α → Prop} (hG : ∀ s a, G s a)
    {s₀ s' : Sys Row Ev Err α} {as : List (Action Row Ev Err α)} {s : Sys Row Ev Err α}
    (h : Reachable P G s₀ s) (hP : ∀ a ∈ as, a.Starts P) (hrun : Sys.run as s = some s') :
    Reachable P G s₀ s' :=
  reachable_of_admitted h hP (fun a _ s => hG s a) hrun

/-- The state after a sequence of actions that all pass a check. -/
def Sys.runIf (check : Sys Row Ev Err α → Action Row Ev Err α → Bool) :
    List (Action Row Ev Err α) → Sys Row Ev Err α → Option (Sys Row Ev Err α)
  | [], s => some s
  | a :: as, s => if check s a then (step a s).bind (runIf check as) else none

/-- A run of explicit actions that pass a check reaches its last state. -/
lemma reachable_of_runIf {P : Prog Row Ev Err α → Prop}
    {G : Sys Row Ev Err α → Action Row Ev Err α → Prop}
    {check : Sys Row Ev Err α → Action Row Ev Err α → Bool}
    (hG : ∀ s a, check s a = true → G s a) {s₀ s' : Sys Row Ev Err α} :
    ∀ {as : List (Action Row Ev Err α)} {s : Sys Row Ev Err α}, Reachable P G s₀ s →
      (∀ a ∈ as, a.Starts P) → Sys.runIf check as s = some s' → Reachable P G s₀ s'
  | [], s, h, _, hrun => by
      cases hrun
      exact h
  | a :: as, s, h, hP, hrun => by
      simp only [Sys.runIf] at hrun
      split at hrun
      · rename_i hcheck
        obtain ⟨s₁, hs₁, hrest⟩ := Option.bind_eq_some_iff.mp hrun
        exact reachable_of_runIf hG (h.step (hP a List.mem_cons_self) (hG s a hcheck) hs₁)
          (fun a' ha' => hP a' (List.mem_cons_of_mem _ ha')) hrest
      · cases hrun

lemma Sys.run_append (as bs : List (Action Row Ev Err α)) (s : Sys Row Ev Err α) :
    Sys.run (as ++ bs) s = (Sys.run as s).bind (Sys.run bs) := by
  induction as generalizing s with
  | nil => rfl
  | cons a as ih =>
      simp only [List.cons_append, Sys.run, Option.bind_assoc]
      exact congrArg _ (funext ih)

/-- A thread keeps the program it was started with. -/
lemma Sys.origin_of_run {s' : Sys Row Ev Err α} {t : ℕ} {p : Prog Row Ev Err α} :
    ∀ {as : List (Action Row Ev Err α)} {s : Sys Row Ev Err α}, Sys.run as s = some s' →
      (∃ th, s.threads.lookup t = some th ∧ th.origin = p) →
      ∃ th, s'.threads.lookup t = some th ∧ th.origin = p
  | [], s, hrun, h => by
      cases hrun
      exact h
  | a :: as, s, hrun, ⟨th, hth, horigin⟩ => by
      obtain ⟨s₁, hs₁, hrest⟩ := Option.bind_eq_some_iff.mp hrun
      refine origin_of_run hrest ?_
      have hset : ∀ t' th', (t' = t → th'.origin = p) →
          ∃ th'', (s.threads.insert t' th').lookup t = some th'' ∧ th''.origin = p := by
        intro t' th' h'
        by_cases htt : t = t'
        · subst htt
          exact ⟨th', AList.lookup_insert _, h' rfl⟩
        · exact ⟨th, by rw [AList.lookup_insert_ne htt, hth], horigin⟩
      cases Sys.stepTo_of_step hs₁ with
      | start hnone =>
          refine hset _ _ fun htt => ?_
          rw [htt, hth] at hnone
          cases hnone
      | op hl _ _ | commit hl _ | publish hl _ | abort hl =>
          refine hset _ _ fun htt => ?_
          rw [htt, hth] at hl
          cases hl
          exact horigin

lemma Sys.origin_of_start {s s' : Sys Row Ev Err α} {as bs : List (Action Row Ev Err α)} {t : ℕ}
    {p : Prog Row Ev Err α} (h : Sys.run (as ++ .start t p :: bs) s = some s') :
    ∃ th, s'.threads.lookup t = some th ∧ th.origin = p := by
  rw [Sys.run_append] at h
  obtain ⟨s₁, -, hrest⟩ := Option.bind_eq_some_iff.mp h
  obtain ⟨s₂, hs₂, hbs⟩ := Option.bind_eq_some_iff.mp hrest
  refine Sys.origin_of_run hbs ?_
  cases Sys.stepTo_of_step hs₂ with
  | start _ => exact ⟨_, AList.lookup_insert _, rfl⟩

/-- Splitting a list by a test keeps what it contributes. -/
lemma count_flatMap_filter [DecidableEq Ev] (e : Ev) (t : ℕ) (l : List (ℕ × List Ev)) :
    ((l.filter fun x => x.1 = t).flatMap Prod.snd).count e
        + ((l.filter fun x => x.1 ≠ t).flatMap Prod.snd).count e
      = (l.flatMap Prod.snd).count e := by
  induction l with
  | nil => rfl
  | cons x l ih =>
      by_cases hx : x.1 = t <;> simp [hx] at ih ⊢ <;> omega

/-- Every event of a committed transaction is published at most once. -/
lemma Reachable.count_published [DecidableEq Ev] {P : Prog Row Ev Err α → Prop}
    {G : Sys Row Ev Err α → Action Row Ev Err α → Prop} {st₀ : Store Row} {s : Sys Row Ev Err α}
    (h : Reachable P G (Sys.rest st₀) s) (e : Ev) :
    s.published.count e + (s.outbox.flatMap Prod.snd).count e = s.log.count e := by
  induction h with
  | init => rfl
  | @step s₁ _ _ _ _ _ hstep ih =>
      cases Sys.stepTo_of_step hstep with
      | start _ => exact ih
      | op _ _ _ => exact ih
      | commit _ _ =>
          simp only [Sys.commitThread, List.flatMap_append, List.flatMap_cons, List.flatMap_nil,
            List.append_nil, List.count_append]
          omega
      | @publish t c th k _ _ =>
          have hsplit := count_flatMap_filter e t s₁.outbox
          simp only [Sys.publishThread, List.count_append]
          omega
      | abort _ => exact ih

end ReadCommitted
