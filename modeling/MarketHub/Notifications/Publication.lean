import MarketHub.Notifications.Bridge

/-!
Commit, events and jobs.

* `committedEvents`, `sentJobs`: what a transaction has to publish and to enqueue.
* `AgreesWithCommit`: what `session_transaction` leaves behind agrees with its commit.
* `agrees_iff`: it does unless the queue has to be built for a committed transaction with
  events and cannot be.
* `publication_agrees_iff`: the same for every sequence of transactions.
-/

namespace MarketHub

open ReadCommitted

variable {α : Type}

/-! ### One transaction -/

/-- The work returns and the commit succeeds. -/
def Work.committed (work : Work α) (outside : Outside) (p : Process) : Bool :=
  (work.flushed outside p).result.isOk && outside.commits

/-- The events of the transaction, if it commits. -/
def Work.committedEvents (work : Work α) (outside : Outside) (p : Process) : List Event :=
  if work.committed outside p then (work.flushed outside p).session.pending else []

/-- The jobs of the notifiable events, from the place `j` on, whose send succeeds. -/
def sentJobs (outside : Outside) (j : ℕ) (events : List Event) : List NotifyJob :=
  (events.zipIdx j).filterMap fun e =>
    if outside.sends e.2 then jobFromEvent (outside.now e.2) e.1 else none

/-- What `session_transaction` leaves behind agrees with its commit. -/
structure AgreesWithCommit (outside : Outside) (work : Work α) (p : Process) : Prop where
  published : (sessionTransaction outside work p).1.published
    = p.published ++ work.committedEvents outside p
  enqueued : (sessionTransaction outside work p).1.queue
    = p.queue ++ sentJobs outside 0 (work.committedEvents outside p)
  rolledBack : work.committed outside p = false → (sessionTransaction outside work p).1 = p
    ∧ ∃ e, (sessionTransaction outside work p).2 = .error e
  reported : work.committed outside p = true → ∃ a, (sessionTransaction outside work p).2 = .ok a

/-- A transaction that commits events has a queue, or can build it. -/
def QueueReady (outside : Outside) (work : Work α) (p : Process) : Prop :=
  work.committedEvents outside p ≠ [] → p.connected = true ∨ outside.builds = true

section Publication

variable {outside : Outside} {work : Work α} {p : Process} {events : List Event}

/-- The publisher keeps the order of the events. -/
lemma foldl_publish : events.foldl Process.publish p
    = { p with published := p.published ++ events } := by
  induction events generalizing p with
  | nil => rw [List.foldl_nil, List.append_nil]
  | cons event events ih =>
      rw [List.foldl_cons, ih, Process.publish, List.append_assoc]
      rfl

/-- The loop enqueues the jobs whose send succeeds, in the order of their events. -/
lemma enqueueEach_eq (j : ℕ) : enqueueEach outside j events p
    = { p with queue := p.queue ++ sentJobs outside j events } := by
  induction events generalizing j p with
  | nil => simp [enqueueEach, sentJobs]
  | cons event events ih =>
      have hrest : sentJobs outside j (event :: events)
          = (if outside.sends j then (jobFromEvent (outside.now j) event).toList else [])
            ++ sentJobs outside (j + 1) events := by
        rw [sentJobs, List.zipIdx_cons, List.filterMap_cons]
        cases outside.sends j <;> cases jobFromEvent (outside.now j) event <;> rfl
      rw [enqueueEach]
      cases hjob : jobFromEvent (outside.now j) event with
      | none =>
          rw [hrest, hjob]
          cases outside.sends j <;> exact ih (j + 1)
      | some job =>
          rw [hrest, hjob]
          cases outside.sends j with
          | false => exact ih (j + 1)
          | true =>
              refine (ih (j + 1)).trans ?_
              simp

/-- The events are published whatever becomes of the queue, and the rows are left alone. -/
lemma publishPending_published : (publishPending outside events p).1.published
    = p.published ++ events
    ∧ (publishPending outside events p).1.store = p.store := by
  rw [publishPending, foldl_publish, enqueueNotifiable, getJobQueue]
  cases p.connected <;> cases outside.builds <;> cases events <;> simp [enqueueEach_eq]

/-- What is published and enqueued when the queue is there or can be built. -/
lemma publishPending_ready (h : events ≠ [] → p.connected = true ∨ outside.builds = true) :
    (publishPending outside events p).1.published = p.published ++ events
      ∧ (publishPending outside events p).1.queue = p.queue ++ sentJobs outside 0 events
      ∧ (publishPending outside events p).2 = .ok () := by
  rw [publishPending, foldl_publish]
  cases events with
  | nil => simp [sentJobs]
  | cons event events =>
      rw [List.isEmpty_cons, if_neg Bool.false_ne_true, enqueueNotifiable, getJobQueue]
      rcases h (List.cons_ne_nil _ _) with hconnected | hbuilds
      · simp [hconnected, enqueueEach_eq]
      · cases hconnected : p.connected <;> simp [hbuilds, enqueueEach_eq]

/-- Without a queue that can be built, the publication of an event raises. -/
lemma publishPending_error (hevents : events ≠ []) (hconnected : p.connected = false)
    (hbuilds : outside.builds = false) :
    (publishPending outside events p).2 = .error .jobQueue := by
  rw [publishPending, foldl_publish,
    if_neg (by simpa using hevents), enqueueNotifiable, getJobQueue]
  simp [hconnected, hbuilds]

/-- A transaction that commits: its rows are stored, and its events are published. -/
lemma sessionTransaction_committed (h : work.committed outside p = true) :
    ∃ a, sessionTransaction outside work p
      = ((publishPending outside (work.committedEvents outside p)
          { p with store := merge p.store (work.flushed outside p).session.held }).1,
        (publishPending outside (work.committedEvents outside p)
          { p with store := merge p.store (work.flushed outside p).session.held }).2.map fun _ =>
          a) := by
  rw [Work.committedEvents, if_pos h]
  rw [Work.committed, Bool.and_eq_true] at h
  obtain ⟨hok, hcommits⟩ := h
  cases hresult : (work.flushed outside p).result with
  | error e => simp [hresult, Except.isOk, Except.toBool] at hok
  | ok a =>
      refine ⟨a, ?_⟩
      simp only [sessionTransaction, hresult, hcommits, if_true]
      generalize publishPending outside (work.flushed outside p).session.pending
        { p with store := merge p.store (work.flushed outside p).session.held } = r
      obtain ⟨p', _ | _⟩ := r <;> rfl

/-- A transaction that does not commit leaves nothing behind, and raises. -/
lemma sessionTransaction_rolledBack (h : work.committed outside p = false) :
    (sessionTransaction outside work p).1 = p
      ∧ ∃ e, (sessionTransaction outside work p).2 = .error e := by
  rw [Work.committed] at h
  cases hresult : (work.flushed outside p).result with
  | error e =>
      rw [sessionTransaction]
      simp [hresult]
  | ok a =>
      rw [hresult] at h
      have hcommits : outside.commits = false := h
      rw [sessionTransaction]
      simp [hresult, hcommits]

/-- **One transaction** agrees with its commit exactly if its events find a queue. -/
theorem agrees_iff : AgreesWithCommit outside work p ↔ QueueReady outside work p := by
  cases hcommitted : work.committed outside p with
  | false =>
      -- nothing is committed
      have hnone : work.committedEvents outside p = [] := by
        rw [Work.committedEvents, if_neg (by simp [hcommitted])]
      obtain ⟨hsame, herror⟩ := sessionTransaction_rolledBack hcommitted
      refine iff_of_true ⟨?_, ?_, fun _ => ⟨hsame, herror⟩, fun h => ?_⟩ fun h => absurd hnone h
      · rw [hsame, hnone, List.append_nil]
      · rw [hsame, hnone, sentJobs, List.zipIdx_nil, List.filterMap_nil, List.append_nil]
      · rw [hcommitted] at h
        cases h
  | true =>
      obtain ⟨a, hrun⟩ := sessionTransaction_committed hcommitted
      constructor
      · intro h hevents
        by_contra hnot
        simp only [not_or, Bool.not_eq_true] at hnot
        obtain ⟨b, hreported⟩ := h.reported hcommitted
        have herror := publishPending_error
          (p := { p with store := merge p.store (work.flushed outside p).session.held })
          hevents hnot.1 hnot.2
        rw [hrun, herror] at hreported
        cases hreported
      · intro h
        obtain ⟨hpublished, hqueue, hok⟩ := publishPending_ready
          (p := { p with store := merge p.store (work.flushed outside p).session.held }) h
        refine ⟨?_, ?_, fun hnot => ?_, fun _ => ⟨a, ?_⟩⟩
        · rw [hrun]
          exact hpublished
        · rw [hrun]
          exact hqueue
        · rw [hcommitted] at hnot
          cases hnot
        · rw [hrun, hok]
          rfl

/-- With a queue at hand this is the transaction of the programs: the same rows and events. -/
lemma sessionTransaction_exec (hcommits : outside.commits = true) :
    (sessionTransaction outside work p).1.store
        = (exec outside.choices (Prog.transaction work.body) 0 p.store p.published ∅).store
      ∧ (sessionTransaction outside work p).1.published
        = (exec outside.choices (Prog.transaction work.body) 0 p.store p.published ∅).log := by
  have hassoc : (Prog.transaction work.body : Txn α)
      = (work.body.bind fun a => Prog.flush.bind fun _ => .pure a).bind fun a =>
        .commit (.publish (.pure a)) := by
    simp only [Prog.transaction, Prog.bind_assoc]
    rfl
  have hexec : exec outside.choices (Prog.transaction work.body) 0 p.store p.published ∅
      = (work.flushed outside p).andThen outside.choices fun a => .commit (.publish (.pure a)) := by
    rw [hassoc, exec_bind, Work.flushed]
  have hbody : (work.body.bind fun a => Prog.flush.bind fun _ => (.pure a : Txn α)).Uncommitted :=
    work.uncommitted.bind fun _ => Prog.uncommitted_flush.bind fun _ => trivial
  have hstill : (work.flushed outside p).store = p.store
      ∧ (work.flushed outside p).log = p.published :=
    exec_uncommitted hbody
  rw [hexec, Outcome.andThen]
  cases hresult : (work.flushed outside p).result with
  | error e =>
      rw [(sessionTransaction_rolledBack (by simp [Work.committed, hresult, Except.isOk,
        Except.toBool])).1]
      exact ⟨hstill.1.symm, hstill.2.symm⟩
  | ok a =>
      have hcommitted : work.committed outside p = true := by
        simp [Work.committed, hresult, hcommits, Except.isOk, Except.toBool]
      obtain ⟨b, hrun⟩ := sessionTransaction_committed hcommitted
      rw [hrun]
      refine ⟨publishPending_published.2.trans ?_, publishPending_published.1.trans ?_⟩
      · change _ = merge (work.flushed outside p).store (work.flushed outside p).session.held
        rw [hstill.1]
      · change _ = (work.flushed outside p).log ++ (work.flushed outside p).session.pending
        rw [hstill.2, Work.committedEvents, if_pos hcommitted]

end Publication

/-! ### Sequences of transactions -/

/-- A transaction with what happens around it. -/
abbrev Attempt (α : Type) := Outside × Work α

/-- The process after a transaction. -/
def Process.after (p : Process) (attempt : Attempt α) : Process :=
  (sessionTransaction attempt.1 attempt.2 p).1

/-- The events of the committed transactions of a sequence. -/
def allEvents : Process → List (Attempt α) → List Event
  | _, [] => []
  | p, attempt :: attempts =>
      attempt.2.committedEvents attempt.1 p ++ allEvents (p.after attempt) attempts

/-- The jobs of a sequence whose send succeeds. -/
def allJobs : Process → List (Attempt α) → List NotifyJob
  | _, [] => []
  | p, attempt :: attempts =>
      sentJobs attempt.1 0 (attempt.2.committedEvents attempt.1 p) ++ allJobs
        (p.after attempt) attempts

/-- Commits, publication and outcomes agree over a sequence of transactions: each of them
agrees with its commit, and together they have published the committed events and enqueued the
jobs that were sent, in order. -/
structure AllAgree (p : Process) (attempts : List (Attempt α)) : Prop where
  each : Along Process.after (fun p attempt => AgreesWithCommit attempt.1 attempt.2 p) p attempts
  published : (attempts.foldl Process.after p).published = p.published ++ allEvents p attempts
  enqueued : (attempts.foldl Process.after p).queue = p.queue ++ allJobs p attempts

section Sequences

variable {p : Process} {attempts : List (Attempt α)}

/-- What every transaction adds adds up. -/
lemma allAgree_of_each
    (h : Along Process.after (fun p attempt => AgreesWithCommit attempt.1 attempt.2 p) p attempts) :
    AllAgree p attempts := by
  refine ⟨h, ?_, ?_⟩
  · induction attempts generalizing p with
    | nil => exact (List.append_nil _).symm
    | cons attempt attempts ih =>
        rw [List.foldl_cons, ih h.2, Process.after, h.1.published, List.append_assoc]
        rfl
  · induction attempts generalizing p with
    | nil => exact (List.append_nil _).symm
    | cons attempt attempts ih =>
        rw [List.foldl_cons, ih h.2, Process.after, h.1.enqueued, List.append_assoc]
        rfl

/-- **Commit, events and outcome agree** over a sequence of transactions exactly if each of them
that commits events has a queue or can build it. -/
theorem publication_agrees_iff (p : Process) (attempts : List (Attempt α)) :
    AllAgree p attempts
      ↔ Along Process.after (fun p attempt => QueueReady attempt.1 attempt.2 p) p attempts := by
  have hiff : Along Process.after (fun p attempt =>
      AgreesWithCommit attempt.1 attempt.2 p) p attempts
      ↔ Along Process.after (fun p attempt => QueueReady attempt.1 attempt.2 p) p attempts :=
    along_congr (I := fun _ => True) (fun _ _ _ => ⟨trivial, agrees_iff⟩) trivial attempts
  exact ⟨fun h => hiff.mp h.each, fun h => allAgree_of_each (hiff.mpr h)⟩

end Sequences

/-! ### A queue that cannot be built -/

/-- The seller closes a conversation, and no queue can be built. -/
def closing : Attempt Unit :=
  (⟨fun _ => ⟨0, 0, false⟩, true, false, fun _ => true, fun _ => 0⟩,
    ⟨Prog.record (.conversationClosed 8 .manual), fun _ => trivial⟩)

/-- With a queue at hand, the closure is published and enqueued as it is committed. -/
theorem publication_agrees_iff_connected :
    AllAgree ⟨∅, [], true, []⟩ [closing]
      ∧ (Process.after ⟨∅, [], true, []⟩ closing).published
        = (exec closing.1.choices (Prog.transaction closing.2.body) 0 ∅ [] ∅).log := by
  refine ⟨(publication_agrees_iff _ _).mpr ⟨?_, trivial⟩, (sessionTransaction_exec rfl).2⟩
  exact fun _ => .inl rfl

/-- **A committed transaction is reported as failed**: the queue is built outside of the `try`
that forgives a failed send. -/
theorem committed_reported_as_failed :
    ¬ ∀ (p : Process) (attempts : List (Attempt Unit)), AllAgree p attempts := by
  intro hall
  obtain ⟨⟨hagrees, -⟩, -, -⟩ := hall ⟨∅, [], false, []⟩ [closing]
  obtain ⟨a, ha⟩ := hagrees.reported rfl
  cases ha

end MarketHub
