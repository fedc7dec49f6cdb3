import MarketHub.Atomic

/-!
The event log of priorities.

The requests run one after another, the jobs included. `priorityChanges` reads off the
published events how the effective priority of a conversation changed.

* `Deed.priority`: the events of a deed lead from the effective priority before it to the one
  after it.
* `PriorityChain`: the changes lead from a priority to the one the conversation has now; it is
  kept by every turn (`PriorityChain.turn`).
* `priority_log_replays`: the chain of a conversation starts at the priority it was created
  with.
-/

namespace MarketHub

open ReadCommitted Session

/-- The changes of the effective priority of a conversation, in the order of their events. -/
def priorityChanges (conversationId : UUID) (events : List Event) : List (Priority × Priority) :=
  events.filterMap fun
    | .conversationPriorityChanged id before after _ =>
        if id = conversationId then some (before, after) else none
    | _ => none

section Reading

variable {c : UUID} {events events' : List Event}

lemma priorityChanges_append :
    priorityChanges c (events ++ events') = priorityChanges c events ++ priorityChanges c events' :=
  List.filterMap_append

/-- The events about a conversation tell its priorities. -/
lemma priorityChanges_concerned :
    priorityChanges c (events.filter (Event.concerns c)) = priorityChanges c events := by
  rw [priorityChanges, priorityChanges, List.filterMap_filter]
  refine List.filterMap_congr fun e _ => ?_
  cases e <;> simp [Event.concerns]

/-- The events of a change are a trail of at most one step. -/
lemma trail_priorityEvents {before after : Priority} {now : DateTime} :
    Trail (· ≠ ·) before (priorityChanges c (priorityEvents c before after now)) after := by
  by_cases h : after = before
  · subst h
    simpa [priorityEvents, priorityChanges] using trail_nil
  · simpa [priorityEvents, priorityChanges, h] using trail_single (Ne.symm h)

end Reading

/-! ### One deed -/

section Deeds

variable {settings : Settings} {st : Db} {c : UUID} {news : Option (UUID × Message)}
  {events : List Event}

/-- A closing sends no priority. -/
lemma patch_expire_priority {x b : Conversation} {now : DateTime} :
    (Conversation.patch x (x.expire now) b).effectivePriority = b.effectivePriority := by
  simp [Conversation.effectivePriority, Conversation.patch, column, Conversation.expire,
    Conversation.touch]

/-- **The events of a deed** lead from the priority of the row before it to the one after. -/
lemma Deed.priority {b : Conversation} {b' : Option Conversation}
    (hb : Db.conversation st c = some b)
    (h : Deed serialTerms settings st c (some b) b' news events) :
    ∃ b₁, b' = some b₁
      ∧ Trail (· ≠ ·) b.effectivePriority (priorityChanges c events) b₁.effectivePriority := by
  cases h with
  | nothing => exact ⟨b, rfl, trail_nil⟩
  | messaged id user content now _ _ _ => exact ⟨_, rfl, trail_nil⟩
  | expired b id now _ _ _ _ =>
      refine ⟨_, rfl, ?_⟩
      rw [patch_expire_priority]
      simpa [priorityChanges] using trail_nil
  | shut now _ _ => exact ⟨_, rfl, trail_nil⟩
  | @recalculated v x item b now _ hmoved hx _ =>
      obtain rfl : st = v := hmoved
      obtain rfl : b = x := Option.some.inj (hb.symm.trans hx)
      refine ⟨_, rfl, ?_⟩
      rw [Conversation.patch_self]
      exact trail_priorityEvents
  | overridden b override now _ => exact ⟨_, rfl, trail_priorityEvents⟩

/-- A deed that creates a conversation changes no priority. -/
lemma Deed.no_priority {b' : Option Conversation}
    (h : Deed serialTerms settings st c none b' news events) : priorityChanges c events = [] := by
  cases h with
  | nothing => rfl
  | created itemId reason now _ _ _ => simp [priorityChanges]

end Deeds

/-! ### Turns -/

/-- The changes in the log lead from the priority `p` to the effective priority that the
conversation has now. -/
def PriorityChain (c : UUID) (p : Priority) (y : Db × List Event) : Prop :=
  ∃ b, Db.conversation y.1 c = some b
    ∧ Trail (· ≠ ·) p (priorityChanges c y.2) b.effectivePriority

/-- A conversation that does not exist, and of which nothing is told. -/
def Unborn (c : UUID) (y : Db × List Event) : Prop :=
  Db.conversation y.1 c = none ∧ priorityChanges c y.2 = []

section Turns

variable {settings : Settings} {c : UUID} {p : Priority} {x : Db × List Event}

/-- A commit continues the chain of a conversation. -/
lemma PriorityChain.commit {st : Db} {log : List Event} {s : AppSession}
    (h : PriorityChain c p (st, log)) (hdid : Did serialTerms settings st s) :
    PriorityChain c p (merge st s.held, log ++ s.pending) := by
  obtain ⟨b, hb, htrail⟩ := h
  obtain ⟨news, hdeeds⟩ := hdid
  have hdeed := hdeeds.conversation c
  rw [show Db.conversation st c = some b from hb] at hdeed
  obtain ⟨b₁, hb₁, hstep⟩ := hdeed.priority hb
  rw [priorityChanges_concerned] at hstep
  refine ⟨b₁, hb₁, ?_⟩
  rw [priorityChanges_append]
  exact htrail.append hstep

/-- A commit over a conversation that does not exist tells nothing of it. -/
lemma Unborn.commit {st : Db} {log : List Event} {s : AppSession} (h : Unborn c (st, log))
    (hdid : Did serialTerms settings st s) : priorityChanges c (log ++ s.pending) = [] := by
  obtain ⟨news, hdeeds⟩ := hdid
  have hdeed := hdeeds.conversation c
  rw [show Db.conversation st c = none from h.1] at hdeed
  have hnone := hdeed.no_priority
  rw [priorityChanges_concerned] at hnone
  rw [priorityChanges_append, hnone, List.append_nil]
  exact h.2

/-- **A turn continues the chain of a conversation.** -/
theorem PriorityChain.turn (h : PriorityChain c p x) (turn : Turn ServiceRequest) :
    PriorityChain c p (takeTurn (ServiceRequest.run settings) x turn) :=
  exec_keeps (I := fun st log => PriorityChain c p (st, log)) (G := fun _ => True)
    (fun _ => trivial) (wp_keeping (fun _ _ => trivial) (fun _ _ _ _ => trivial) _ turn.request
      (fun _ _ => trivial) x.1)
    (fun _ _ _ hI _ hdid => hI.commit hdid.1) h

/-- A turn before a conversation exists leaves it so, or creates it. -/
lemma Unborn.turn (h : Unborn c x) (turn : Turn ServiceRequest) :
    Unborn c (takeTurn (ServiceRequest.run settings) x turn)
      ∨ ∃ b, Db.conversation (takeTurn (ServiceRequest.run settings) x turn).1 c = some b
        ∧ priorityChanges c (takeTurn (ServiceRequest.run settings) x turn).2 = [] := by
  by_cases hsingle : turn.request.single
  · -- one transaction
    rw [takeTurn]
    cases ServiceRequest.settles settings hsingle turn.choices 0 x.1 x.2 with
    | undone hresult hstore hlog =>
        rw [hstore, hlog]
        exact Or.inl h
    | @committed a s hresult hag hdid hstore hlog =>
        rw [hstore, hlog]
        have hnone := Unborn.commit h hdid
        rcases Option.eq_none_or_eq_some (Db.conversation (merge x.1 s.held) c) with hb | ⟨b, hb⟩
        · exact Or.inl ⟨hb, hnone⟩
        · exact Or.inr ⟨b, hb, hnone⟩
  · -- a job creates no conversation, in whatever of its transactions
    have hdid : wp (Outline.keeping (fun _ => True) (fun st log => Unborn c (st, log)) fun st s =>
        Did serialTerms settings st s ∧ Kept turn.request.tables st s)
        (turn.request.run settings) (fun _ _ _ => True) x.1 ∅ :=
      wp_keeping (fun _ _ => trivial) (fun _ _ _ _ => trivial) _ turn.request
        (fun _ _ => trivial) x.1
    have hspares : wp (Outline.keeping (fun _ => True)
        (fun st log => Unborn c (st, log)) fun st s =>
        st.lookup (.conversation c) = none → (merge st s.held).lookup (.conversation c) = none)
        (turn.request.run settings) (fun _ _ _ => True) x.1 ∅ :=
      wp_spares ((ServiceRequest.run_job settings hsingle).mono (jobOp_spares c))
        (fun _ _ habsent => habsent)
        fun _ _ _ => trivial
    have hboth := wp_and (o := Outline.keeping (fun _ => True) _ fun _ _ => True) hdid hspares
    refine Or.inl (exec_keeps (fun _ => trivial) hboth ?_ h)
    rintro st log s hI - ⟨⟨hdid, -⟩, habsent⟩
    exact ⟨habsent hI.1, Unborn.commit hI hdid⟩

/-- A refused turn changes nothing, and neither does a single one that fails. -/
lemma turn_refused {turn : Turn ServiceRequest} {e : Failure DomainError}
    (he : turn.request.single ∨ ∃ d, e = .domain d)
    (h : (exec turn.choices (turn.request.run settings) 0 x.1 x.2 ∅).result = .error e) :
    takeTurn (ServiceRequest.run settings) x turn = x := by
  by_cases hsingle : turn.request.single
  · cases ServiceRequest.settles settings hsingle turn.choices 0 x.1 x.2 with
    | undone hresult hstore hlog => exact Prod.ext hstore hlog
    | committed hresult hag hdid hstore hlog =>
        rw [hresult] at h
        cases h
  · obtain ⟨d, rfl⟩ := he.resolve_left hsingle
    rcases exec_raises (ServiceRequest.run_raises settings hsingle) h with hd | hd <;> cases hd

end Turns

/-! ### Runs -/

section Runs

variable {settings : Settings} {st₀ : Db} {c : UUID}

/-- A conversation that did not exist at the start: it still does not, or there is the turn
that created it, and the chain starts from the priority it had then. -/
lemma chain_from_creation (hnone : Db.conversation st₀ c = none)
    (turns : List (Turn ServiceRequest)) :
    Unborn c (afterTurns settings st₀ turns)
      ∨ ∃ turns₁ turn turns₂ b₁, turns = turns₁ ++ turn :: turns₂
        ∧ Db.conversation (afterTurns settings st₀ turns₁).1 c = none
        ∧ Db.conversation (afterTurns settings st₀ (turns₁ ++ [turn])).1 c = some b₁
        ∧ PriorityChain c b₁.effectivePriority (afterTurns settings st₀ turns) := by
  induction turns using List.reverseRecOn with
  | nil => exact Or.inl ⟨hnone, rfl⟩
  | append_singleton turns turn ih =>
      rcases ih with hunborn | ⟨turns₁, first, turns₂, b₁, rfl, habsent, hcreated, hchain⟩
      · rcases hunborn.turn turn with hstill | ⟨b, hb, hchanges⟩
        · rw [afterTurns_append]
          exact Or.inl hstill
        · refine Or.inr ⟨turns, turn, [], b, rfl, hunborn.1, ?_, ?_⟩
          · rw [afterTurns_append]
            exact hb
          · rw [afterTurns_append]
            exact ⟨b, hb, by rw [hchanges]; exact trail_nil⟩
      · refine Or.inr ⟨turns₁, first, turns₂ ++ [turn], b₁, by simp, habsent, hcreated, ?_⟩
        rw [afterTurns_append]
        exact hchain.turn turn

/-- **The priority log replays.** Whatever requests run one after another, also refused ones
and the jobs: the changes of the effective priority of a conversation form a chain, from the
one it had when it was created, or at the start, to the one it has now. Refused requests
publish nothing and change nothing. -/
theorem priority_log_replays (settings : Settings) (st₀ : Db)
    (turns : List (Turn ServiceRequest)) :
    (∀ c b₀, Db.conversation st₀ c = some b₀ →
        PriorityChain c b₀.effectivePriority (afterTurns settings st₀ turns))
      ∧ (∀ c, Db.conversation st₀ c = none → Unborn c (afterTurns settings st₀ turns)
          ∨ ∃ turns₁ turn turns₂ b₁, turns = turns₁ ++ turn :: turns₂
            ∧ Db.conversation (afterTurns settings st₀ turns₁).1 c = none
            ∧ Db.conversation (afterTurns settings st₀ (turns₁ ++ [turn])).1 c = some b₁
            ∧ PriorityChain c b₁.effectivePriority (afterTurns settings st₀ turns))
      ∧ ∀ turn e, turn.request.single ∨ (∃ d, e = .domain d) →
          (exec turn.choices (turn.request.run settings) 0 (afterTurns settings st₀ turns).1
            (afterTurns settings st₀ turns).2 ∅).result = .error e →
          afterTurns settings st₀ (turns ++ [turn]) = afterTurns settings st₀ turns := by
  refine ⟨fun c b₀ hb₀ => ?_, fun c hnone => chain_from_creation hnone turns,
    fun turn e he herror => ?_⟩
  · exact serially_inv (I := fun st log => PriorityChain c b₀.effectivePriority (st, log))
      (fun turn _ _ hx => hx.turn turn) ⟨b₀, hb₀, trail_nil⟩
  · rw [afterTurns_append]
    exact turn_refused he herror

end Runs

end MarketHub
