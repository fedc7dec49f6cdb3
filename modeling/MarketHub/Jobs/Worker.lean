import Mathlib.Algebra.Order.Ring.Rat
import Mathlib.Tactic.Linarith
import MarketHub.Jobs.Registry
import MarketHub.Python.JsonRoundTrip

/-!
The loop of the worker and its ticker (`app/jobs/worker.py` and `app/jobs/enqueue.py`).

* `step`: one statement of `run_worker`, or what happens around it meanwhile. Others enqueue and
  remove messages, the clock goes on, and every call may raise.
* `Spaced`: the ticker's sends are an interval apart, in every run.
* `Guarded`: what makes its messages pile up.
* `reconcile_ticker`: at most one of them is undeleted, in every run that avoids that.
-/

namespace MarketHub.Worker

open Python

/-! ### The state -/

/-- A message in the queue. `own` says that the ticker of this worker has sent it. -/
structure QueueMessage where
  id : ℕ
  body : Text
  own : Bool
  deriving DecidableEq

/-- Where the loop is. -/
inductive Phase where
  /-- Before `process_once`. -/
  | top
  | received (message : QueueMessage)
  /-- Behind `on_job`. -/
  | started (message : QueueMessage)
  | handled (message : QueueMessage)
  /-- Behind `process_once`. -/
  | processed
  /-- The ticker is about to send. -/
  | sending
  /-- The ticker has sent. -/
  | sent
  /-- In the handler of `worker loop error`. -/
  | failed
  deriving DecidableEq

/-- The variables of `run_worker`, the queue and the clock; and, as a record, when the ticker has
sent and whether a reconcile job has started since it last did. -/
structure State where
  phase : Phase
  pendingReconcile : Bool
  lastEnqueuedAt : ℚ
  queue : List QueueMessage
  next : ℕ
  now : ℚ
  sends : List ℚ
  restarted : Bool
  deriving DecidableEq

/-- What happens next. -/
inductive Act where
  /-- The clock goes on. -/
  | wait (seconds : ℚ)
  /-- Someone else sends a message. -/
  | enqueue (body : Text)
  /-- A message goes to the dead letters, or another worker deletes it. -/
  | remove (id : ℕ)
  /-- `queue.receive()` gives an undeleted message, or none. -/
  | receive (id : Option ℕ)
  | receiveRaises
  /-- `parse_job` and `on_job`. -/
  | start
  /-- The handler returns, or it raises. -/
  | handle (returns : Bool)
  | delete (returns : Bool)
  /-- The condition of the ticker. -/
  | check
  | send (returns : Bool)
  /-- `pending_reconcile` and `last_enqueued_at` are set. -/
  | note
  /-- `time.sleep(1)` is over. -/
  | resume

/-- The body that `enqueue_reconcile` sends. -/
def enqueueReconcileBody : Text :=
  (dumps (.obj [(text "job_type", .str reconcilePriorities)])).getD []

/-- The messages of the ticker that are undeleted. -/
def State.undeleted (s : State) : List QueueMessage := s.queue.filter fun m => m.own

/-- `clock() - last_enqueued_at >= interval`. -/
def State.Due (interval : ℤ) (s : State) : Prop := s.now - s.lastEnqueuedAt ≥ interval

instance (interval : ℤ) (s : State) : Decidable (s.Due interval) :=
  inferInstanceAs (Decidable (_ ≥ _))

/-- `on_job`. -/
def State.onJob (s : State) (job : Job) : State :=
  if job.jobType = reconcilePriorities then { s with pendingReconcile := false, restarted := true }
  else s

/-- The message at the end of the queue. -/
def State.enqueue (s : State) (body : Text) (own : Bool) : State :=
  { s with queue := s.queue ++ [⟨s.next, body, own⟩], next := s.next + 1 }

/-- The queue without a message. -/
def State.remove (s : State) (id : ℕ) : State :=
  { s with queue := s.queue.filter fun m => m.id ≠ id }

/-- One statement of `run_worker`, or what happens around it. An exception of `process_once` ends
it; one of `receive`, `delete` or `send` goes to the loop. -/
def step (interval : ℤ) (s : State) : Act → Option State
  | .wait seconds => if 0 ≤ seconds then some { s with now := s.now + seconds } else none
  | .enqueue body => some (s.enqueue body false)
  | .remove id => some (s.remove id)
  | .receive none => if s.phase = .top then some { s with phase := .processed } else none
  | .receive (some id) =>
      if s.phase = .top then
        (s.queue.find? fun m => m.id = id).map fun m => { s with phase := .received m }
      else none
  | .receiveRaises => if s.phase = .top then some { s with phase := .failed } else none
  | .start =>
      match s.phase with
      | .received message =>
          match parseJob message.body with
          | .error _ => some { s with phase := .processed }
          | .ok job => some { s.onJob job with phase := .started message }
      | _ => none
  | .handle returns =>
      match s.phase with
      | .started message => some {
            s with phase := if returns then .handled message else .processed }
      | _ => none
  | .delete returns =>
      match s.phase with
      | .handled message =>
          some (if returns then { s.remove message.id with phase := .processed }
            else { s with phase := .failed })
      | _ => none
  | .check =>
      if s.phase = .processed then
        some { s with
          phase := if 0 < interval ∧ ¬ s.pendingReconcile ∧ s.Due interval then .sending else .top }
      else none
  | .send returns =>
      if s.phase = .sending then
        some (if returns then { s.enqueue enqueueReconcileBody true with
            phase := .sent, sends := s.now :: s.sends, restarted := false }
          else { s with phase := .failed })
      else none
  | .note =>
      if s.phase = .sent then
        some { s with phase := .top, pendingReconcile := true, lastEnqueuedAt := s.now }
      else none
  | .resume => if s.phase = .failed then some { s with phase := .top } else none

/-- The first lines of `run_worker`. Nothing in the queue is from its ticker yet. -/
structure Started (interval : ℤ) (s : State) : Prop where
  phase : s.phase = .top
  pendingReconcile : s.pendingReconcile = false
  lastEnqueuedAt : s.lastEnqueuedAt = s.now - max interval 0
  undeleted : s.undeleted = []
  sends : s.sends = []
  restarted : s.restarted = false

/-- The states of the runs whose steps meet a condition. -/
inductive Reached (interval : ℤ) (P : State → Act → Prop) (s₀ : State) : State → Prop
  | start : Reached interval P s₀ s₀
  | step {s s' a} : Reached interval P s₀ s → P s a → step interval s a = some s' →
      Reached interval P s₀ s'

/-! ### What a statement does -/

section Steps

variable {interval : ℤ} {s s' : State} {a : Act}

/-- A statement that is not the ticker's. It may take away its messages, and a job that starts may
reset the flag. -/
structure Quiet (s s' : State) : Prop where
  sends : s'.sends = s.sends
  now : s.now ≤ s'.now
  lastEnqueuedAt : s'.lastEnqueuedAt = s.lastEnqueuedAt
  undeleted : s'.undeleted.Sublist s.undeleted
  flag : s'.pendingReconcile = s.pendingReconcile ∧ s'.restarted = s.restarted
    ∨ s.phase ≠ .sent ∧ s'.pendingReconcile = false ∧ s'.restarted = true
  sent : s'.phase = .sent ↔ s.phase = .sent
  sending : s'.phase = .sending → s.phase = .sending

/-- The loop goes on. -/
lemma Quiet.phase {p : Phase} (hsent : s.phase ≠ .sent) (hp : p ≠ .sent) (hp' : p ≠ .sending) :
    Quiet s { s with phase := p } where
  sends := rfl
  now := le_rfl
  lastEnqueuedAt := rfl
  undeleted := List.Sublist.refl _
  flag := .inl ⟨rfl, rfl⟩
  sent := iff_of_false hp hsent
  sending := fun h => absurd h hp'

lemma undeleted_remove (s : State) (id : ℕ) : (s.remove id).undeleted.Sublist s.undeleted :=
  List.filter_sublist.filter _

lemma undeleted_enqueue (s : State) (body : Text) (own : Bool) :
    (s.enqueue body own).undeleted = s.undeleted ++ if own then [⟨s.next, body, own⟩] else [] := by
  rw [State.undeleted, State.enqueue, List.filter_append, State.undeleted]
  cases own <;> rfl

/-! #### Around the loop -/

lemma quiet_wait {seconds : ℚ} (h : step interval s (.wait seconds) = some s') : Quiet s s' := by
  simp only [step] at h
  split at h
  · rename_i hseconds
    cases h
    exact ⟨rfl, by simpa using hseconds, rfl, .refl _, .inl ⟨rfl, rfl⟩, Iff.rfl, id⟩
  · cases h

/-- A message of another sender. -/
lemma quiet_enqueue {body : Text} (h : step interval s (.enqueue body) = some s') : Quiet s s' := by
  cases h
  refine ⟨rfl, le_rfl, rfl, ?_, .inl ⟨rfl, rfl⟩, Iff.rfl, id⟩
  simp [undeleted_enqueue]

lemma quiet_remove {id' : ℕ} (h : step interval s (.remove id') = some s') : Quiet s s' := by
  cases h
  exact ⟨rfl, le_rfl, rfl, undeleted_remove s id', .inl ⟨rfl, rfl⟩, Iff.rfl, id⟩

/-! #### `process_once` -/

/-- From the top of the loop to a message, or past it. -/
lemma quiet_receive {id' : Option ℕ} (h : step interval s (.receive id') = some s') :
    Quiet s s' := by
  cases id' with
  | none =>
      simp only [step] at h
      split at h
      · rename_i htop
        cases h
        exact .phase (by simp [htop]) (by simp) (by simp)
      · cases h
  | some id' =>
      simp only [step] at h
      split at h
      · rename_i htop
        obtain ⟨m, -, rfl⟩ := Option.map_eq_some_iff.mp h
        exact .phase (by simp [htop]) (by simp) (by simp)
      · cases h

lemma quiet_receiveRaises (h : step interval s .receiveRaises = some s') : Quiet s s' := by
  simp only [step] at h
  split at h
  · rename_i htop
    cases h
    exact .phase (by simp [htop]) (by simp) (by simp)
  · cases h

/-- A job that starts resets the flag if it is a reconcile job. -/
lemma quiet_start (h : step interval s .start = some s') : Quiet s s' := by
  simp only [step] at h
  split at h
  · rename_i message hphase
    split at h
    · cases h
      exact .phase (by simp [hphase]) (by simp) (by simp)
    · rename_i job hjob
      cases h
      rw [State.onJob]
      split
      · exact ⟨rfl, le_rfl, rfl, .refl _,
          .inr ⟨by simp [hphase], rfl, rfl⟩, by simp [hphase], by simp⟩
      · exact .phase (by simp [hphase]) (by simp) (by simp)
  · cases h

lemma quiet_handle {returns : Bool} (h : step interval s (.handle returns) = some s') :
    Quiet s s' := by
  simp only [step] at h
  split at h
  · rename_i message hphase
    cases h
    cases returns
    · exact .phase (by simp [hphase]) (by simp) (by simp)
    · exact .phase (by simp [hphase]) (by simp) (by simp)
  · cases h

/-- The message that is deleted may be the ticker's. -/
lemma quiet_delete {returns : Bool} (h : step interval s (.delete returns) = some s') :
    Quiet s s' := by
  simp only [step] at h
  split at h
  · rename_i message hphase
    cases h
    cases returns
    · exact .phase (by simp [hphase]) (by simp) (by simp)
    · exact ⟨rfl, le_rfl, rfl, undeleted_remove s message.id,
        .inl ⟨rfl, rfl⟩, by simp [hphase], by simp⟩
  · cases h

/-! #### The ticker -/

/-- The condition of the ticker holds, or the loop goes on. -/
lemma check_cases (h : step interval s .check = some s') :
    Quiet s s' ∨ s.phase = .processed ∧ s.pendingReconcile = false ∧ s.Due interval
      ∧ s' = { s with phase := .sending } := by
  simp only [step] at h
  split at h
  · rename_i hphase
    cases h
    by_cases hcheck : 0 < interval ∧ ¬ s.pendingReconcile ∧ s.Due interval
    · rw [if_pos hcheck]
      exact .inr ⟨hphase, by simpa using hcheck.2.1, hcheck.2.2, rfl⟩
    · rw [if_neg hcheck]
      exact .inl (.phase (by simp [hphase]) (by simp) (by simp))
  · cases h

lemma send_cases {returns : Bool} (h : step interval s (.send returns) = some s') :
    Quiet s s' ∨ s.phase = .sending ∧ s' = { s.enqueue enqueueReconcileBody true with
      phase := .sent, sends := s.now :: s.sends, restarted := false } := by
  simp only [step] at h
  split at h
  · rename_i hphase
    cases h
    cases returns
    · exact .inl (.phase (by simp [hphase]) (by simp) (by simp))
    · exact .inr ⟨hphase, rfl⟩
  · cases h

lemma of_note (h : step interval s .note = some s') : s.phase = .sent
    ∧ s' = { s with phase := .top, pendingReconcile := true, lastEnqueuedAt := s.now } := by
  simp only [step] at h
  split at h
  · rename_i hphase
    cases h
    exact ⟨hphase, rfl⟩
  · cases h

lemma quiet_resume (h : step interval s .resume = some s') : Quiet s s' := by
  simp only [step] at h
  split at h
  · rename_i hphase
    cases h
    exact .phase (by simp [hphase]) (by simp) (by simp)
  · cases h

/-- **What a statement does**: something that is not the ticker's, or one of the ticker's. -/
lemma step_cases (h : step interval s a = some s') :
    Quiet s s'
      ∨ (a = .check ∧ s.phase = .processed ∧ s.pendingReconcile = false ∧ s.Due interval
        ∧ s' = { s with phase := .sending })
      ∨ (s.phase = .sending ∧ s' = { s.enqueue enqueueReconcileBody true with
        phase := .sent, sends := s.now :: s.sends, restarted := false })
      ∨ (s.phase = .sent
        ∧ s' = { s with phase := .top, pendingReconcile := true, lastEnqueuedAt := s.now }) := by
  cases a with
  | wait seconds => exact .inl (quiet_wait h)
  | enqueue body => exact .inl (quiet_enqueue h)
  | remove id' => exact .inl (quiet_remove h)
  | receive id' => exact .inl (quiet_receive h)
  | receiveRaises => exact .inl (quiet_receiveRaises h)
  | start => exact .inl (quiet_start h)
  | handle returns => exact .inl (quiet_handle h)
  | delete returns => exact .inl (quiet_delete h)
  | check => exact (check_cases h).imp_right fun hcheck => .inl ⟨rfl, hcheck⟩
  | send returns => exact (send_cases h).imp_right fun hsend => .inr (.inl hsend)
  | note => exact .inr (.inr (.inr (of_note h)))
  | resume => exact .inl (quiet_resume h)

/-! ### The sends are an interval apart -/

/-- The ticker's sends so far: each was noted before the next was due. -/
structure Spaced (interval : ℤ) (s : State) : Prop where
  apart : s.sends.Pairwise fun later earlier => earlier + (interval : ℚ) ≤ later
  past : ∀ t ∈ s.sends, t ≤ s.now
  noted : s.phase ≠ .sent → ∀ t ∈ s.sends, t ≤ s.lastEnqueuedAt
  due : s.phase = .sending → ∀ t ∈ s.sends, t + (interval : ℚ) ≤ s.now

/-- **One statement keeps the sends spaced.** -/
lemma Spaced.step (h : Spaced interval s) (hstep : step interval s a = some s') :
    Spaced interval s' := by
  rcases step_cases hstep with hquiet | ⟨-, hphase, -, hdue, rfl⟩ | ⟨hphase, rfl⟩ | ⟨hphase, rfl⟩
  · refine ⟨?_, ?_, ?_, ?_⟩
    · rw [hquiet.sends]
      exact h.apart
    · rw [hquiet.sends]
      exact fun t ht => (h.past t ht).trans hquiet.now
    · rw [hquiet.sends, hquiet.lastEnqueuedAt]
      exact fun hne => h.noted fun heq => hne (hquiet.sent.mpr heq)
    · rw [hquiet.sends]
      exact fun heq t ht => (h.due (hquiet.sending heq) t ht).trans hquiet.now
  · have hnoted := h.noted (by simp [hphase])
    refine ⟨h.apart, h.past, fun _ => hnoted, fun _ t ht => ?_⟩
    have hlast := hnoted t ht
    rw [State.Due] at hdue
    change t + (interval : ℚ) ≤ s.now
    linarith
  · refine ⟨List.pairwise_cons.mpr ⟨h.due hphase, h.apart⟩, ?_, fun hne => absurd rfl hne,
      fun heq => by cases heq⟩
    intro t ht
    rcases List.mem_cons.mp ht with rfl | ht
    · exact le_rfl
    · exact h.past t ht
  · exact ⟨h.apart, h.past, fun _ => h.past, fun heq => by cases heq⟩

/-! ### The messages of the ticker -/

/-- A check of the ticker is due while one of its messages is undeleted and a reconcile job has
started since it was sent: its own, which failed or was not deleted, or another's. -/
def Guarded (interval : ℤ) (s : State) (a : Act) : Prop :=
  a = .check → s.Due interval → s.undeleted ≠ [] → s.restarted = false

/-- The flag tells whether a reconcile job has started since the last send. -/
structure Flagged (s : State) : Prop where
  reset : s.restarted = true → s.pendingReconcile = false
  pending : s.phase ≠ .sent → s.pendingReconcile = false → s.undeleted ≠ [] → s.restarted = true
  sent : s.phase = .sent → s.restarted = false

/-- **One statement keeps the flag.** -/
lemma Flagged.step (h : Flagged s) (hstep : step interval s a = some s') : Flagged s' := by
  rcases step_cases hstep with hquiet | ⟨-, hphase, hflag, -, rfl⟩ | ⟨hphase, rfl⟩ | ⟨hphase, rfl⟩
  · have hne : s'.undeleted ≠ [] → s.undeleted ≠ [] := fun hne hnil =>
      hne (List.eq_nil_of_subset_nil (hnil ▸ hquiet.undeleted.subset))
    rcases hquiet.flag with ⟨hpending, hrestarted⟩ | ⟨hsent, hpending, hrestarted⟩
    · refine ⟨?_, ?_, ?_⟩
      · rw [hpending, hrestarted]
        exact h.reset
      · rw [hpending, hrestarted]
        exact fun hphase hfalse hmine =>
          h.pending (fun heq => hphase (hquiet.sent.mpr heq)) hfalse (hne hmine)
      · rw [hrestarted]
        exact fun heq => h.sent (hquiet.sent.mp heq)
    · exact ⟨fun _ => hpending, fun _ _ _ => hrestarted,
        fun heq => absurd (hquiet.sent.mp heq) hsent⟩
  · exact ⟨h.reset, fun _ => h.pending (by simp [hphase]), fun heq => by cases heq⟩
  · exact ⟨fun htrue => (by cases htrue), fun hne => absurd rfl hne, fun _ => rfl⟩
  · refine ⟨fun htrue => ?_, fun _ hfalse => (by cases hfalse), fun heq => (by cases heq)⟩
    exact absurd (htrue.symm.trans (h.sent hphase)) (by decide)

/-- The ticker sends only when none of its messages is left. -/
structure Single (s : State) : Prop where
  one : s.undeleted.length ≤ 1
  sending : s.phase = .sending → s.undeleted = []

/-- **One statement leaves at most one message**, if it is not a check of a reset flag. -/
lemma Single.step (h : Single s) (hflagged : Flagged s) (hguarded : Guarded interval s a)
    (hstep : step interval s a = some s') : Single s' := by
  rcases step_cases hstep
    with hquiet | ⟨rfl, hphase, hflag, hdue, rfl⟩ | ⟨hphase, rfl⟩ | ⟨hphase, rfl⟩
  · refine ⟨hquiet.undeleted.length_le.trans h.one, fun heq => ?_⟩
    exact List.eq_nil_of_subset_nil (h.sending (hquiet.sending heq) ▸ hquiet.undeleted.subset)
  · refine ⟨h.one, fun _ => ?_⟩
    by_contra hmine
    have hrestarted := hflagged.pending (by simp [hphase]) hflag hmine
    exact absurd (hrestarted.symm.trans (hguarded rfl hdue hmine)) (by decide)
  · refine ⟨?_, fun heq => by cases heq⟩
    change ((s.enqueue enqueueReconcileBody true).undeleted).length ≤ 1
    rw [undeleted_enqueue, h.sending hphase]
    exact le_rfl
  · exact ⟨h.one, fun heq => by cases heq⟩

end Steps

/-! ### Runs -/

section Runs

variable {interval : ℤ} {P : State → Act → Prop} {s₀ s : State}

/-- What every statement keeps holds in every state of a run. -/
lemma Reached.induct {J : State → Prop} (h : Reached interval P s₀ s) (hstart : J s₀)
    (hstep : ∀ s s' a, P s a → J s → Worker.step interval s a = some s' → J s') : J s := by
  induction h with
  | start => exact hstart
  | step _ hp hs ih => exact hstep _ _ _ hp ih hs

lemma Started.spaced (h : Started interval s) : Spaced interval s := by
  refine ⟨?_, ?_, ?_, ?_⟩ <;> simp [h.sends]

lemma Started.flagged (h : Started interval s) : Flagged s where
  reset := fun _ => h.pendingReconcile
  pending := fun _ _ hmine => absurd h.undeleted hmine
  sent := fun _ => h.restarted

lemma Started.single (h : Started interval s) : Single s where
  one := by simp [h.undeleted]
  sending := fun _ => h.undeleted

/-- **The reconcile ticker.** Its sends are an interval apart in every run; at most one of its
messages is undeleted in every run whose checks are guarded; and where a check is not, the
ticker's next send makes two. -/
theorem reconcile_ticker (hinterval : 0 < interval) (hstart : Started interval s₀) :
    (∀ s, Reached interval (fun _ _ => True) s₀ s →
        s.sends.Pairwise fun later earlier => earlier + (interval : ℚ) ≤ later)
      ∧ (∀ s, Reached interval (Guarded interval) s₀ s → s.undeleted.length ≤ 1)
      ∧ ∀ s, Reached interval (fun _ _ => True) s₀ s → s.phase = .processed →
        ¬ Guarded interval s .check →
        ∃ s₁ s₂, step interval s .check = some s₁ ∧ step interval s₁ (.send true) = some s₂
          ∧ 2 ≤ s₂.undeleted.length := by
  refine ⟨fun s hs => ?_, fun s hs => ?_, fun s hs hphase hnot => ?_⟩
  · exact (hs.induct hstart.spaced fun _ _ _ _ h hstep => h.step hstep).apart
  · exact (hs.induct (J := fun s => Flagged s ∧ Single s) ⟨hstart.flagged, hstart.single⟩
      fun _ _ _ hguarded h hstep => ⟨h.1.step hstep, h.2.step h.1 hguarded hstep⟩).2.one
  · have hflagged : Flagged s := hs.induct hstart.flagged fun _ _ _ _ h hstep => h.step hstep
    simp only [Guarded, true_implies, Classical.not_imp, Bool.not_eq_false] at hnot
    obtain ⟨hdue, hmine, hrestarted⟩ := hnot
    have hcheck : 0 < interval ∧ ¬ s.pendingReconcile ∧ s.Due interval :=
      ⟨hinterval, by simp [hflagged.reset hrestarted], hdue⟩
    have hstep : step interval s .check = some { s with phase := .sending } := by
      simp only [step]
      rw [if_pos hphase, if_pos hcheck]
    refine ⟨_, _, hstep, rfl, ?_⟩
    have htwo : s.undeleted.length + 1 = (State.undeleted
        (({ s with phase := .sending } : State).enqueue enqueueReconcileBody true)).length := by
      rw [undeleted_enqueue, List.length_append]
      rfl
    have hpos := List.length_pos_iff.mpr hmine
    exact (show 2 ≤ s.undeleted.length + 1 by omega).trans_eq htwo

end Runs

/-! ### A run in which they pile up -/

/-- The state after some acts. -/
def run (interval : ℤ) : State → List Act → Option State
  | s, [] => some s
  | s, a :: acts => (step interval s a).bind fun s' => run interval s' acts

lemma reached_run {interval : ℤ} {s₀ s s' : State} {acts : List Act}
    (h : Reached interval (fun _ _ => True) s₀ s) (hrun : run interval s acts = some s') :
    Reached interval (fun _ _ => True) s₀ s' := by
  induction acts generalizing s with
  | nil =>
      cases hrun
      exact h
  | cons a acts ih =>
      obtain ⟨s₁, hstep, hrun⟩ := Option.bind_eq_some_iff.mp hrun
      exact ih (h.step trivial hstep) hrun

/-- A worker that starts with an empty queue and an interval of a minute. -/
def idle : State := ⟨.top, false, -60, [], 0, 0, [], false⟩

lemma idle_started : Started 60 idle := by
  refine ⟨rfl, rfl, ?_, rfl, rfl, rfl⟩
  norm_num [idle]

/-- The run of an idle worker that has sent its first message. -/
theorem reconcile_ticker_idle :
    (∀ s, Reached 60 (Guarded 60) idle s → s.undeleted.length ≤ 1)
      ∧ ∃ s, Reached 60 (fun _ _ => True) idle s ∧ s.sends = [0]
        ∧ s.sends.Pairwise fun later earlier => earlier + ((60 : ℤ) : ℚ) ≤ later := by
  have hrun : ∃ s, run 60 idle [.receive none, .check, .send true] = some s ∧ s.sends = [0] := by
    decide +kernel
  obtain ⟨s, hrun, hsends⟩ := hrun
  have hreached := reached_run .start hrun
  have hticker := reconcile_ticker (by decide) idle_started
  exact ⟨hticker.2.1, s, hreached, hsends, hticker.1 s hreached⟩

lemma parseJob_enqueueReconcileBody :
    parseJob enqueueReconcileBody = .ok ⟨reconcilePriorities, []⟩ := by
  have hlevel : BodyLevel enqueueReconcileBody [(text "job_type", .str reconcilePriorities)] :=
    ⟨_, rfl, .last (.value fun s hs => by cases hs) (by simp [get_cons])⟩
  rw [hlevel.parseJob_eq]
  rfl

/-- **A failed handler.** The ticker's message starts, which resets the flag, and it fails: a
minute later the ticker sends another. -/
theorem reconcile_ticker_piles_up : ¬ ∀ (interval : ℤ) (s₀ s : State), 0 < interval →
    Started interval s₀ → Reached interval (fun _ _ => True) s₀ s → s.undeleted.length ≤ 1 := by
  intro hticker
  have hsent : ∃ s, run 60 idle [.receive none, .check, .send true, .note, .receive (some 0)]
      = some s
      ∧ s = ⟨.received ⟨0, enqueueReconcileBody, true⟩, true, 0,
        [⟨0, enqueueReconcileBody, true⟩], 1, 0,
        [0], false⟩ := by
    decide +kernel
  obtain ⟨s₁, hrun₁, rfl⟩ := hsent
  have hstart : step 60 ⟨.received ⟨0, enqueueReconcileBody, true⟩, true, 0,
      [⟨0, enqueueReconcileBody, true⟩], 1, 0, [0], false⟩ .start
      = some ⟨.started ⟨0, enqueueReconcileBody, true⟩, false, 0,
        [⟨0, enqueueReconcileBody, true⟩], 1, 0,
        [0], true⟩ := by
    simp only [step]
    rw [parseJob_enqueueReconcileBody]
    rfl
  have hfailed : ∃ s, run 60 ⟨.started ⟨0, enqueueReconcileBody, true⟩, false, 0,
      [⟨0, enqueueReconcileBody, true⟩], 1, 0, [0], true⟩
      [.handle false, .check, .wait 60, .receive none, .check, .send true] = some s
      ∧ s.undeleted.length = 2 := by
    decide +kernel
  obtain ⟨s₂, hrun₂, htwo⟩ := hfailed
  have hreached := reached_run ((reached_run .start hrun₁).step trivial hstart) hrun₂
  have hone := hticker 60 idle s₂ (by decide) idle_started hreached
  omega

end MarketHub.Worker
