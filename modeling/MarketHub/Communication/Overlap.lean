import MarketHub.Communication.Maintenance
import MarketHub.Communication.Staleness

/-!
Reconciliations that overlap.

A run of `run_reconcile` reads its moment once and keeps it for all of its pages. Between two
of its pages another run, or a refresh by Ops, may calculate a priority at a later moment.

* `Forward`: the stored priority was kept, or calculated again at a time that is not earlier.
* `Maintenance`, `Maintenance.take`: runs in progress over one database and one clock.
* `Applies.allForward_iff`: a page goes back in time exactly when it takes a conversation whose
  priority was calculated after the moment of its run.
* `snapshots_forward_iff`: the same for whole runs; `snapshots_go_back` is a run that does.
-/

namespace MarketHub

open ReadCommitted Session

/-! ### Snapshots that move forward -/

/-- The stored priority is as it was, or was calculated at a time that is not before the one
it replaces. -/
inductive Forward (b b' : Conversation) : Prop
  | kept : b'.reason = b.reason → b'.createdAt = b.createdAt →
      b'.calculatedPriority = b.calculatedPriority →
      b'.priorityCalculatedAt = b.priorityCalculatedAt → Forward b b'
  | calculated {t : DateTime} (item : OrderItem) : b'.priorityCalculatedAt = some t →
      b'.calculatedPriority
        = calculatePriority b'.reason item.status b'.createdAt item.purchasePrice t →
      (∀ p, b.priorityCalculatedAt = some p → p ≤ t) → Forward b b'

/-- Every stored priority moves forward. -/
def AllForward (st st' : Db) : Prop :=
  ∀ c b, Db.conversation st c = some b → ∃ b', Db.conversation st' c = some b' ∧ Forward b b'

/-- The stored priorities were calculated by the time `t`. -/
def Stamped (t : DateTime) (v : Db) : Prop :=
  ∀ c b p, Db.conversation v c = some b → b.priorityCalculatedAt = some p → p ≤ t

section Forward

variable {b b' b'' : Conversation} {st st' st'' : Db} {t t' : DateTime}

lemma Forward.refl (b : Conversation) : Forward b b := .kept rfl rfl rfl rfl

/-- `priority_calculated_at` does not decrease. -/
lemma Forward.later (h : Forward b b') {p : DateTime} (hp : b.priorityCalculatedAt = some p) :
    ∃ p', b'.priorityCalculatedAt = some p' ∧ p ≤ p' := by
  cases h with
  | kept _ _ _ hsame => exact ⟨p, hsame.trans hp, le_rfl⟩
  | calculated item hat _ hle => exact ⟨_, hat, hle p hp⟩

lemma Forward.trans (h : Forward b b') (h' : Forward b' b'') : Forward b b'' := by
  cases h' with
  | kept hreason hcreated hvalue hat =>
      cases h with
      | kept hreason' hcreated' hvalue' hat' =>
          exact .kept (hreason.trans hreason') (hcreated.trans hcreated') (hvalue.trans hvalue')
            (hat.trans hat')
      | calculated item hat' hvalue' hle =>
          refine .calculated item (hat.trans hat') ?_ hle
          rw [hvalue, hvalue', hreason, hcreated]
  | calculated item hat hvalue hle =>
      refine .calculated item hat hvalue fun p hp => ?_
      obtain ⟨p', hp', hpp⟩ := h.later hp
      exact hpp.trans (hle p' hp')

/-- A calculation at a time that is not before the stored one. -/
lemma forward_recalculate {item : OrderItem} (h : ∀ p, b.priorityCalculatedAt = some p → p ≤ t) :
    Forward b (recalculate b item t) :=
  .calculated item recalculate_priorityCalculatedAt (by
    rw [recalculate_calculatedPriority, recalculate_reason, recalculate_createdAt]) h

lemma AllForward.refl (st : Db) : AllForward st st := fun _ b hb => ⟨b, hb, .refl b⟩

lemma AllForward.trans (h : AllForward st st') (h' : AllForward st' st'') : AllForward st st'' := by
  intro c b hb
  obtain ⟨b', hb', hmoved⟩ := h c b hb
  obtain ⟨b'', hb'', hmoved'⟩ := h' c b' hb'
  exact ⟨b'', hb'', hmoved.trans hmoved'⟩

lemma Stamped.later (h : Stamped t st) (ht : t ≤ t') : Stamped t' st :=
  fun c b p hb hp => (h c b p hb hp).trans ht

end Forward

/-! ### Single steps -/

section Steps

variable {settings : Settings} {t moment : DateTime} {st st' : Db} {c : UUID}
  {rows : List StaleRow}

/-- A deed at a time that no stored priority is after. -/
lemma Deed.forward {b : Conversation} {row : Option Conversation} {news : Option (UUID × Message)}
    {events : List Event} (hstamped : ∀ p, b.priorityCalculatedAt = some p → p ≤ t)
    (hb : Db.conversation st c = some b)
    (h : Deed (aloneTerms t) settings st c (some b) row news events) :
    ∃ b', row = some b' ∧ Forward b b'
      ∧ ∀ p, b'.priorityCalculatedAt = some p → p ≤ t := by
  cases h with
  | nothing => exact ⟨b, rfl, .refl b, hstamped⟩
  | messaged id user content now hclock hopen hauthor =>
      exact ⟨_, rfl, .kept rfl rfl rfl rfl, hstamped⟩
  | @expired x seen _ id now hclock hopen hinactive hexpired =>
      refine ⟨_, rfl, .kept ?_ ?_ ?_ ?_, fun p hp => hstamped p ?_⟩
      · simp [Conversation.patch, column, Conversation.expire, Conversation.touch]
      · simp [Conversation.patch, column, Conversation.expire, Conversation.touch]
      · simp [Conversation.patch, column, Conversation.expire, Conversation.touch]
      · simp [Conversation.patch, column, Conversation.expire, Conversation.touch]
      · simpa [Conversation.patch, column, Conversation.expire, Conversation.touch] using hp
  | shut now hclock hopen => exact ⟨_, rfl, .kept rfl rfl rfl rfl, hstamped⟩
  | @recalculated v x item _ now hclock hmoved hx hitem =>
      obtain rfl : now = t := hclock
      obtain rfl : st = v := hmoved
      obtain rfl : b = x := Option.some.inj (hb.symm.trans hx)
      rw [Conversation.patch_self]
      refine ⟨_, rfl, forward_recalculate hstamped, fun p hp => ?_⟩
      rw [recalculate_priorityCalculatedAt] at hp
      exact (Option.some.inj hp).ge
  | overridden _ override now hclock => exact ⟨_, rfl, .kept rfl rfl rfl rfl, hstamped⟩

/-- A new conversation at a time. -/
lemma Deed.new_stamp {b : Conversation} {news : Option (UUID × Message)} {events : List Event}
    (h : Deed (aloneTerms t) settings st c none (some b) news events) :
    ∀ p, b.priorityCalculatedAt = some p → p ≤ t := by
  cases h with
  | @created _ item itemId reason now hclock _ _ =>
      obtain rfl : now = t := hclock
      exact fun p hp => (Option.some.inj hp).ge

/-- **What a page does to the snapshots**: they move forward exactly if none of its rows was
calculated after the moment of the page. -/
theorem Applies.allForward_iff (h : Applies moment rows st st')
    (hrows : ∀ row ∈ rows, Db.conversation st row.1.1 = some row.1.2) :
    AllForward st st'
      ↔ ∀ row ∈ rows, ∀ p, row.1.2.priorityCalculatedAt = some p → p ≤ moment := by
  constructor
  · intro hforward row hrow p hp
    obtain ⟨b', hb', hmoved⟩ := hforward row.1.1 row.1.2 (hrows row hrow)
    obtain rfl := Option.some.inj ((h.written row hrow).symm.trans hb')
    obtain ⟨p', hp', hle⟩ := hmoved.later hp
    rw [recalculate_priorityCalculatedAt] at hp'
    exact hle.trans (Option.some.inj hp').ge
  · intro hintime c b hb
    by_cases hc : ∃ row ∈ rows, c = row.1.1
    · obtain ⟨row, hrow, rfl⟩ := hc
      obtain rfl := Option.some.inj ((hrows row hrow).symm.trans hb)
      exact ⟨_, h.written row hrow, forward_recalculate (hintime row hrow)⟩
    · push Not at hc
      refine ⟨b, ?_, .refl b⟩
      rw [Db.conversation, h.rest (.conversation c) fun row hrow => by simpa using hc row hrow]
      exact hb

/-- A page stamps its rows with its moment. -/
lemma Stamped.applies (hstamped : Stamped t st) (hmoment : moment ≤ t)
    (h : Applies moment rows st st') : Stamped t st' := by
  intro c b p hb hp
  by_cases hc : ∃ row ∈ rows, c = row.1.1
  · obtain ⟨row, hrow, rfl⟩ := hc
    obtain rfl := Option.some.inj ((h.written row hrow).symm.trans hb)
    rw [recalculate_priorityCalculatedAt] at hp
    exact (Option.some.inj hp).ge.trans hmoment
  · push Not at hc
    rw [Db.conversation, h.rest (.conversation c) fun row hrow => by simpa using hc row hrow] at hb
    exact hstamped c b p hb hp

/-- A request that runs alone at a time that no stored priority is after. -/
lemma turn_forward (settings : Settings) (log : List Event) (turn : Turn ServiceRequest)
    (hat : TurnAt turn t) (hstamped : Stamped t st) :
    AllForward st (takeTurn (ServiceRequest.run settings) (st, log) turn).1
      ∧ Stamped t (takeTurn (ServiceRequest.run settings) (st, log) turn).1 := by
  refine exec_keeps (I := fun v _ => AllForward st v ∧ Stamped t v) hat.choices (wp_at hat _ st) ?_
    ⟨.refl st, hstamped⟩
  rintro v log s ⟨hforward, hv⟩ hag ⟨⟨news, hdeeds⟩, -⟩
  refine ⟨hforward.trans fun c b hb => ?_, fun c b p hb hp => ?_⟩
  · have hdeed := hdeeds.conversation c
    rw [hb] at hdeed
    obtain ⟨b', hb', hmoved, -⟩ := hdeed.forward (fun p hp => hv c b p hb hp) hb
    exact ⟨b', hb', hmoved⟩
  · have hdeed := hdeeds.conversation c
    cases hbefore : Db.conversation v c with
    | none =>
        rw [hbefore, hb] at hdeed
        exact hdeed.new_stamp p hp
    | some b₀ =>
        rw [hbefore] at hdeed
        obtain ⟨b', hb', -, hstamp⟩ := hdeed.forward (fun p hp => hv c b₀ p hbefore hp) hbefore
        obtain rfl := Option.some.inj (hb.symm.trans hb')
        exact hstamp p hp

end Steps

/-! ### Runs that overlap -/

/-- A call of `run_reconcile` between two of its pages. -/
structure ActiveRun where
  moment : DateTime
  pageSize : ℕ
  afterId : Option UUID
  result : ReconcileResult

/-- Runs in progress, with the rows, the events and the clock they share. -/
structure Maintenance where
  store : Db
  log : List Event
  clock : DateTime
  runs : List ActiveRun

/-- One step, `delay` after the one before it. -/
inductive MaintenanceStep where
  /-- `run_reconcile` is called and reads its moment. -/
  | start (delay : ℕ) (settings : Settings) (pageSize : Option ℕ)
  /-- The next page transaction of a run. -/
  | page (delay : ℕ) (run : ℕ)
  /-- A refresh by Ops. -/
  | refresh (delay : ℕ) (conversationId : UUID) (ops : CurrentUser)

/-- A clock that stands still. -/
def standing (t : DateTime) (_ : ℕ) : Choice := ⟨t, 0, false⟩

/-- What the next page transaction of a run leaves behind. -/
def ActiveRun.page (run : ActiveRun) (t : DateTime) (st : Db) (log : List Event) :
    Outcome Row Event DomainError (Option (UUID × ReconcileResult)) :=
  exec (standing t)
    (Prog.transaction (reconcilePage run.moment run.pageSize run.afterId run.result)) 0 st log ∅

/-- The run after a page: it goes on after the last row, and has returned after an empty page. -/
def ActiveRun.goOn (run : ActiveRun) :
    Except (Failure DomainError) (Option (UUID × ReconcileResult)) → List ActiveRun
  | .ok (some (last, result)) => [{ run with afterId := some last, result := result }]
  | _ => []

namespace Maintenance

/-- The time of a step. -/
def time (s : Maintenance) : MaintenanceStep → DateTime
  | .start delay _ _ => s.clock + delay
  | .page delay _ => s.clock + delay
  | .refresh delay _ _ => s.clock + delay

/-- One step. -/
def take (s : Maintenance) (step : MaintenanceStep) : Maintenance :=
  match step with
  | .start _ settings pageSize =>
      { s with
        clock := s.time step
        runs := s.runs ++ [⟨s.time step, ReconcileCall.size ⟨settings, none, pageSize, standing 0⟩,
          none, {}⟩] }
  | .page _ i =>
      match s.runs[i]? with
      | none => { s with clock := s.time step }
      | some run =>
          let r := run.page (s.time step) s.store s.log
          ⟨r.store, r.log, s.time step, s.runs.take i ++ run.goOn r.result ++ s.runs.drop (i + 1)⟩
  | .refresh _ c ops =>
      let r := exec (standing (s.time step))
        (OpsRequest.run (.refreshOpsConversationPriority c ops)) 0 s.store s.log ∅
      ⟨r.store, r.log, s.time step, s.runs⟩

/-- Before any run, nothing was calculated in the future. -/
structure Starts (s : Maintenance) : Prop where
  idle : s.runs = []
  stamped : Stamped s.clock s.store

/-- The step does not take a conversation whose priority was calculated after the moment of
its run. -/
def InTime (s : Maintenance) : MaintenanceStep → Prop
  | .page _ i => ∀ run, s.runs[i]? = some run →
      ∀ row ∈ stalePage run.moment run.pageSize run.afterId s.store,
        ∀ p, row.1.2.priorityCalculatedAt = some p → p ≤ run.moment
  | _ => True

/-- The snapshots go forward in a step. -/
def GoesForward (s : Maintenance) (step : MaintenanceStep) : Prop :=
  AllForward s.store (s.take step).store

/-- The moments of the runs and the calculations are not after the clock. -/
structure Past (s : Maintenance) : Prop where
  moments : ∀ run ∈ s.runs, run.moment ≤ s.clock
  stamped : Stamped s.clock s.store

variable {s : Maintenance} {step : MaintenanceStep}

lemma Starts.past (h : s.Starts) : s.Past where
  moments run hrun := by
    rw [h.idle] at hrun
    cases hrun
  stamped := h.stamped

/-- The clock does not go back. -/
lemma clock_le_time : s.clock ≤ s.time step := by
  cases step <;> simp [time]

/-- A run goes on at its moment. -/
lemma moment_goOn {run run' : ActiveRun} {answer : Except (Failure DomainError)
    (Option (UUID × ReconcileResult))} (h : run' ∈ run.goOn answer) : run'.moment = run.moment := by
  rw [ActiveRun.goOn.eq_def] at h
  split at h
  · rw [List.mem_singleton.mp h]
  · cases h

/-- What a page transaction writes. -/
lemma page_applies (run : ActiveRun) (t : DateTime) (st : Db) (log : List Event) :
    Applies run.moment (stalePage run.moment run.pageSize run.afterId st) st
      (run.page t st log).store := by
  obtain ⟨st', n', happ, hpage⟩ := exec_reconcilePage
    (standing t) run.moment run.pageSize run.afterId
    run.result 0 st log
  rw [ActiveRun.page, hpage]
  exact happ

/-- **One step** goes forward exactly if it is in time, and nothing gets ahead of the clock. -/
theorem Past.take (h : s.Past) (step : MaintenanceStep) :
    (s.take step).Past ∧ (s.GoesForward step ↔ s.InTime step) := by
  have hclock : s.clock ≤ s.time step := clock_le_time
  have hstamped : Stamped (s.time step) s.store := h.stamped.later hclock
  have hmoments : ∀ run ∈ s.runs, run.moment ≤ s.time step := fun run hrun =>
    (h.moments run hrun).trans hclock
  cases step with
  | start delay settings pageSize =>
      refine ⟨⟨fun run hrun => ?_, hstamped⟩, iff_of_true (.refl _) trivial⟩
      rcases List.mem_append.mp hrun with hold | hnew
      · exact hmoments run hold
      · obtain rfl := List.mem_singleton.mp hnew
        exact le_rfl
  | page delay i =>
      simp only [Maintenance.take, InTime, GoesForward]
      cases hrun : s.runs[i]? with
      | none => exact ⟨⟨hmoments, hstamped⟩, iff_of_true (.refl _) fun _ h => by cases h⟩
      | some run =>
          have hmem : run ∈ s.runs := List.mem_of_getElem? hrun
          have happ := page_applies run (s.time (.page delay i)) s.store s.log
          refine ⟨⟨fun run' hrun' => ?_, hstamped.applies (hmoments run hmem) happ⟩, ?_⟩
          · rcases List.mem_append.mp hrun' with hrun' | hrun'
            · rcases List.mem_append.mp hrun' with hrun' | hrun'
              · exact hmoments run' (List.mem_of_mem_take hrun')
              · rw [moment_goOn hrun']
                exact hmoments run hmem
            · exact hmoments run' (List.mem_of_mem_drop hrun')
          · rw [happ.allForward_iff fun row hrow => (mem_stalePage hrow).1]
            simp
  | refresh delay c ops =>
      have hturn := turn_forward {} s.log
        ⟨.ops (.refreshOpsConversationPriority c ops), standing (s.time (.refresh delay c ops))⟩
        ⟨fun _ => rfl, fun _ h => by cases h⟩ hstamped
      exact ⟨⟨hmoments, hturn.2⟩, iff_of_true hturn.1 trivial⟩

/-- **When the snapshots go forward.** Whatever runs overlap, with refreshes between their pages:
no snapshot goes back in time exactly when no page takes a conversation whose priority was
calculated after the moment of its run. -/
theorem snapshots_forward_iff (h : s.Starts) (steps : List MaintenanceStep) :
    Along Maintenance.take GoesForward s steps ↔ Along Maintenance.take InTime s steps :=
  along_congr (I := Past) (fun _ step hs => hs.take step) h.past steps

/-! ### Two runs around a boundary of the ages -/

/-- Two complaints of the first hour, and nobody at work. -/
def quiet : Maintenance := ⟨twoComplaints, [], 0, []⟩

lemma quiet_starts : quiet.Starts where
  idle := rfl
  stamped c b p hb hp := by
    have hall : ∀ row ∈ Db.conversations twoComplaints, row.2.priorityCalculatedAt = none := by
      decide
    rw [hall (c, b) (mem_conversations.mpr hb)] at hp
    cases hp

/-- A run is called at the third hour and one at the fifth; the page of the second comes
first. -/
def overlapping : List MaintenanceStep :=
  [.start (3 * 3600000000) {} none, .start (2 * 3600000000) {} none, .page 0 1, .page 0 0]

theorem snapshots_forward_iff_complaints :
    Along Maintenance.take GoesForward quiet overlapping
      ↔ Along Maintenance.take InTime quiet overlapping :=
  snapshots_forward_iff quiet_starts overlapping

/-- **A snapshot goes back** from the fifth hour to the third: the ages at the two moments are
in different buckets, which is all that the older run asks. -/
theorem snapshots_go_back : ¬ ∀ s : Maintenance, s.Starts → ∀ steps,
    Along Maintenance.take GoesForward s steps := by
  intro hall
  obtain ⟨-, -, -, hlast, -⟩ := hall quiet quiet_starts overlapping
  have hbefore : ((Db.conversation (((quiet.take (.start (3 * 3600000000) {} none)).take
      (.start (2 * 3600000000) {} none)).take (.page 0 1)).store 8).map
        Conversation.priorityCalculatedAt) = some (some (hours 5)) := by
    decide +kernel
  have hafter : ((Db.conversation ((((quiet.take (.start (3 * 3600000000) {} none)).take
      (.start (2 * 3600000000) {} none)).take (.page 0 1)).take (.page 0 0)).store 8).map
        Conversation.priorityCalculatedAt) = some (some (hours 3)) := by
    decide +kernel
  obtain ⟨b, hb, hat⟩ := Option.map_eq_some_iff.mp hbefore
  obtain ⟨b', hb', hmoved⟩ := hlast 8 b hb
  obtain ⟨p, hp, hle⟩ := hmoved.later hat
  rw [hb', Option.map_some] at hafter
  obtain rfl : p = hours 3 := Option.some.inj (hp.symm.trans (Option.some.inj hafter))
  exact absurd hle (by decide)

end Maintenance

end MarketHub
