import MarketHub.Communication.Uniqueness

/-!
What the requests that create or reuse a conversation answer.

A part of a run goes from one reachable state to another. In it no open conversation of the item is
closed (`Undisturbed`).

* `Reports`, `ends_opening`: how the events of a `create_conversation` agree with its answer.
* `Answered.openFor`: who has started in the part answers with a conversation that is open.
* `Openings`: how the item has come to its open conversation in the part.
* `creates_agree`: all of them give the same conversation, and at most one has created it.
-/

namespace MarketHub

open ReadCommitted Session

section Runs

variable {index : Bool} {settings : Settings} {st₀ : Db}
    {s : Sys Row Event DomainError OpeningAnswer}
  {G : Sys Row Event DomainError OpeningAnswer → Action Row Event DomainError OpeningAnswer → Prop}

/-! ### Answers -/

/-- A `create_conversation` for an item. -/
def IsOpening (itemId : UUID) (p : Txn OpeningAnswer) : Prop :=
  ∃ reason user, p = ending (createConversation itemId reason user) some

/-- How the events of a `create_conversation` agree with its answer. -/
def Reports (itemId : UUID) : OpeningAnswer → List Event → Prop
  | some a, events => events = if a.2 then [.conversationCreated a.1.id itemId] else []
  | none, _ => False

/-- A step that records no event. -/
def silent {γ : Type} (op : Op Row Event γ) : Prop := op.recorded = []

lemma silent_flush : (Prog.flush : Txn Unit).AllOps silent := Prog.allOps_flush rfl fun _ => rfl

lemma silent_openForItem (itemId : UUID) : (openForItem itemId).AllOps silent := by
  refine Prog.AllOps.bind ⟨rfl, fun _ => trivial⟩ fun ids => ?_
  split
  · trivial
  · exact ⟨rfl, fun _ => trivial⟩

lemma silent_seekConversation (itemId : UUID) (reason : ConversationReason) (user : CurrentUser) :
    (seekConversation itemId reason user).AllOps silent := by
  have hloadOr : ∀ {k : Key} (e : DomainError) (row : Option (Row k)),
      (loadOr e row).AllOps silent := by
    intro k e row
    cases row <;> trivial
  have hload : (loadParticipantItem itemId user true).AllOps silent := by
    rw [loadParticipantItem]
    split
    · exact Prog.AllOps.bind (Prog.allOps_scalar rfl rfl) fun _ => hloadOr _ _
    · exact Prog.AllOps.bind (Prog.allOps_scalar rfl rfl) fun _ => hloadOr _ _
    · trivial
  refine hload.bind fun _ => (silent_openForItem itemId).bind fun existing => ?_
  cases existing with
  | some existing => trivial
  | none =>
      have hget : (Prog.get (Key.orderItem itemId) : Txn (Option OrderItem)).AllOps silent :=
        Prog.allOps_get rfl rfl
      exact ⟨rfl, fun now => hget.bind fun item => (hloadOr _ _).bind fun item =>
        ⟨rfl, fun id => trivial⟩⟩

/-- **`create_conversation` reports a conversation as created exactly when it says so.** -/
lemma ends_opening {itemId : UUID} {p : Txn OpeningAnswer} (h : IsOpening itemId p) :
    p.Ends (Reports itemId) [] := by
  obtain ⟨reason, user, rfl⟩ := h
  have hend : ∀ a events, Reports itemId (some a) events →
      (Prog.flush.bind fun _ => (.commit (.publish (.pure (some a))) : Txn OpeningAnswer)).Ends
        (Reports itemId) events := fun a events ha =>
    Prog.Ends.behind silent_flush Prog.uncommitted_flush fun _ => ⟨some a, rfl, ha⟩
  rw [ending, createConversation_eq, Prog.bind_assoc]
  refine Prog.Ends.behind (silent_seekConversation itemId reason user)
    (body_seekConversation itemId reason user).uncommitted fun found => ?_
  rcases found with ⟨id, conversation⟩ | ⟨id, conversation⟩
  · exact hend _ _ rfl
  · intro inserted
    cases inserted with
    | true => exact fun _ => hend _ _ rfl
    | false =>
        change (((openForItem itemId).bind _).bind _).Ends _ _
        rw [Prog.bind_assoc]
        refine Prog.Ends.behind (silent_openForItem itemId)
          (body_openForItem (F := fun _ => False) itemId).uncommitted fun existing => ?_
        rcases existing with _ | ⟨id, conversation⟩
        · trivial
        · exact hend _ _ rfl

/-- How the commits of a program open conversations. -/
def CommitOf (p : Txn OpeningAnswer) (st : Db) (s : AppSession) : Prop :=
  OpensNone st s ∨ ∃ itemId id, OpensFor itemId id st s ∧ IsOpening itemId p

/-- Every thread is bound to what its request may commit. -/
lemma ReachableOn.commitOf (hstart : OneOpen st₀)
    (h : ReachableOn index settings G (Sys.rest st₀) s) {t : ℕ}
    {th : Thread Row Event DomainError OpeningAnswer} {k : Txn OpeningAnswer}
    (hth : s.threads.lookup t = some th) (hp : th.prog = .commit k) :
    CommitOf th.origin s.committed th.session := by
  let _ := openIndex index
  have hprog : ∀ p, IsAnswering settings p → ∀ st log, openingOutline.inv st log →
      wp (openingOutline.at (CommitOf p)) p (fun _ _ _ => True) st ∅ := by
    rintro p ⟨r, rfl⟩ st log -
    refine wp_answering (M := fun _ _ => True) index r (fun _ _ _ hnone => .inl hnone)
      (fun _ _ => trivial)
      (fun itemId reason user hr => ?_) fun _ _ _ _ _ _ _ _ _ => trivial
    have hrules := openingOutline_rules itemId
    exact ⟨hrules.refl, hrules.trans, hrules.moved, hrules.same, hrules.locked,
      fun _ _ hnone => .inl hnone, fun _ _ id hopens => .inr ⟨itemId, id, hopens, reason, user, by
        rw [hr]
        rfl⟩⟩
  have hbound := Reachable.bound (C := CommitOf) openingOutline_sound hstart
    (fun _ _ _ _ hC => hC.imp_right fun h => h.imp fun _ h => h.imp fun _ h => h.1) hprog
    (fun _ _ _ _ _ _ _ _ _ _ => trivial) h
  exact commit_of_bound hbound.1 hth hp (hbound.2 t th hth).2

/-! ### Parts of runs -/

/-- A request has created or reused a conversation of the item, and gives this answer. -/
def Answered (itemId : UUID) (s : Sys Row Event DomainError OpeningAnswer) (t : ℕ)
    (a : ConversationResponse × Bool) : Prop :=
  ∃ th, s.threads.lookup t = some th ∧ IsOpening itemId th.origin
    ∧ (th.prog = .publish (.pure (some a)) ∨ th.prog = .pure (some a))

/-- An action that closes no open conversation of the item, and does not cut off a request between
its commit and its answer. -/
structure Undisturbed (index : Bool) (itemId : UUID) (s : Sys Row Event DomainError OpeningAnswer)
    (a : Action Row Event DomainError OpeningAnswer) : Prop where
  still_open : letI := openIndex index
    ∀ s', Sys.step a s = some s' → ∀ c, OpenFor s.committed itemId c → OpenFor s'.committed itemId c
  still_answered : ∀ t th b, a = .abort t → s.threads.lookup t = some th →
    th.prog ≠ .publish (.pure b)

lemma ReachableOn.trans {s₁ : Sys Row Event DomainError OpeningAnswer} {itemId : UUID}
    (h₁ : ReachableOn index settings (fun _ _ => True) (Sys.rest st₀) s₁)
    (h : ReachableOn index settings (Undisturbed index itemId) s₁ s) :
    ReachableOn index settings (fun _ _ => True) (Sys.rest st₀) s := by
  let _ := openIndex index
  exact Reachable.trans h₁ (Reachable.mono (fun _ _ _ => trivial) h)

/-- What a request may rely on in a part of a run that closes no conversation of the item. -/
def keptOutline (itemId : UUID) : Outline Row Event where
  inv v _ := OneOpen v
  rely s v v' := openingOutline.rely s v v' ∧ ∀ c, OpenFor v itemId c → OpenFor v' itemId c
  rely_refl s v := ⟨openingOutline.rely_refl s v, fun _ h => h⟩
  rely_trans h h' := ⟨openingOutline.rely_trans h.1 h'.1, fun c hc => h'.2 c (h.2 c hc)⟩

lemma keptOutline_rules (itemId : UUID) : OpeningRules (keptOutline itemId)
    (fun v v' => ∀ c, OpenFor v itemId c → OpenFor v' itemId c) itemId where
  refl _ _ h := h
  trans _ _ _ h h' c hc := h' c (h c hc)
  moved _ _ _ h := h.2
  same _ _ h _ hc := hc.congr h
  locked _ _ _ h := h.1 itemId
  none _ _ _ := trivial
  opens _ _ _ _ := trivial

section Parts

variable {s₁ s' : Sys Row Event DomainError OpeningAnswer} {itemId : UUID} {t : ℕ}
  {a : ConversationResponse × Bool}

/-- **What is answered is open.** In a part of a run that closes no conversation of the item, the
conversation that a request of this part answers with is open for the item. -/
lemma Answered.openFor (hstart : OneOpen st₀)
    (h₁ : ReachableOn index settings (fun _ _ => True) (Sys.rest st₀) s₁)
    (h : ReachableOn index settings (Undisturbed index itemId) s₁ s)
    (hnew : s₁.threads.lookup t = none) (ha : Answered itemId s t a) :
    OpenFor s.committed itemId a.1.id := by
  let _ := openIndex index
  obtain ⟨th, hth, horigin, hprog⟩ := ha
  -- from the start of the thread to the answer its precondition holds, under every other step
  have hwp := Reachable.window (I := fun p st prog se => IsOpening itemId p →
    wp (keptOutline itemId) prog (fun a st _ => ∀ r, a = some r → OpenFor st itemId r.1.id) st se)
    ?_ ?_ ?_ ?_ ?_ ?_ h t th hnew hth horigin
  · rcases hprog with hprog | hprog
    · rw [hprog] at hwp
      exact hwp _ ((keptOutline itemId).rely_refl _ _) a rfl
    · rw [hprog] at hwp
      exact hwp _ ((keptOutline itemId).rely_refl _ _) a rfl
  · rintro s p - - ⟨reason, user, rfl⟩
    refine wp_opening (keptOutline_rules itemId) reason user fun a v st hv hm r hr => ?_
    cases hr
    exact hm _ hv
  · intro s t c th γ op k b se hr hth hp _ he hI horigin
    have hok := ReachableOn.ok hstart (ReachableOn.trans h₁ hr)
    have hwp := hI horigin
    rw [hp] at hwp
    exact hwp _ ⟨(keptOutline itemId).rely_refl _ _, ⟨[], hok.inv⟩, hok.agrees t th hth⟩ c _ b se he
      trivial
  · intro s t c th k hr hth hp _ hI horigin
    have hok := ReachableOn.ok hstart (ReachableOn.trans h₁ hr)
    have hwp := hI horigin
    rw [hp] at hwp
    exact (hwp _ ⟨(keptOutline itemId).rely_refl _ _, ⟨[], hok.inv⟩, hok.agrees t th hth⟩).2
  · intro s t c th k t' th' hr hth hp hG hne hth' hI horigin
    have hok := ReachableOn.ok hstart (ReachableOn.trans h₁ hr)
    have hcommit := hok.thread t th hth
    rw [hp] at hcommit
    refine wp_rely (hI horigin) ⟨?_, ?_⟩
    · exact openingOutline_sound.relied _ _ _ _ hok.inv (hok.agrees t th hth)
        (hok.agrees t' th' hth') (hok.apart t t' th th' hne.symm hth hth')
        (hcommit s.committed ⟨openingOutline.rely_refl _ _, ⟨_, hok.inv⟩, hok.agrees t th hth⟩).1
    · refine hG.still_open (s.commitThread t th k) ?_
      simp only [Sys.step, hth, hp]
  · exact fun _ _ _ _ hI horigin => hI horigin
  · exact fun _ _ _ _ => trivial

/-- A request gives its answer from its commit on. -/
lemma answered_of_step (h : ReachableOn index settings G (Sys.rest st₀) s)
    {act : Action Row Event DomainError OpeningAnswer}
    (hstep : letI := openIndex index
      Sys.step act s = some s') (ha : Answered itemId s' t a) :
    Answered itemId s t a ∨ ∃ c th, act = .run t c ∧ s.threads.lookup t = some th
      ∧ th.prog = .commit (.publish (.pure (some a)))
        ∧ Reports itemId (some a) th.session.pending := by
  let _ := openIndex index
  obtain ⟨th', hth', horigin, hprog⟩ := ha
  have hending := Reachable.ending (E := IsOpening itemId) (fun _ => ends_opening) h
  -- what has not committed yet has no answer
  have hnot : ∀ {p : Txn OpeningAnswer} {events : List Event}, p.Ends (Reports itemId) events →
      ¬ (p = .publish (.pure (some a)) ∨ p = .pure (some a)) := by
    rintro p events hends (rfl | rfl)
    · exact hends
    · exact hends
  -- a step of another thread changes no answer
  have hset : ∀ {t' : ℕ} {new : Thread Row Event DomainError OpeningAnswer},
      (s.threads.insert t' new).lookup t = some th' → t ≠ t' ∧ Answered itemId s t a ∨
        t = t' ∧ th' = new := by
    intro t' new hl
    rcases Sys.thread_cases hl with ⟨htt, hnew⟩ | ⟨htt, hold⟩
    · exact .inr ⟨htt, hnew.symm⟩
    · exact .inl ⟨htt, th', hold, horigin, hprog⟩
  cases Sys.stepTo_of_step hstep with
  | start hnone =>
      rcases hset hth' with ⟨-, hold⟩ | ⟨rfl, rfl⟩
      · exact .inl hold
      · exact absurd hprog (hnot (ends_opening horigin))
  | @op t' c th γ op k b se hth hp he =>
      rcases hset hth' with ⟨-, hold⟩ | ⟨rfl, rfl⟩
      · exact .inl hold
      · have hthis := hending t th hth horigin
        rw [hp] at hthis
        rcases hthis with hends | ⟨a', hpub | hpure⟩
        · exact absurd hprog (hnot (hends b))
        · cases hpub
        · cases hpure
  | @commit t' c th k hth hp =>
      rcases hset hth' with ⟨-, hold⟩ | ⟨rfl, rfl⟩
      · exact .inl hold
      · have hthis := hending t th hth horigin
        rw [hp] at hthis
        rcases hthis with ⟨a', rfl, hreports⟩ | ⟨a', hpub | hpure⟩
        · rcases hprog with hprog | hprog
          · cases hprog
            exact .inr ⟨c, th, rfl, hth, hp, hreports⟩
          · cases hprog
        · cases hpub
        · cases hpure
  | @publish t' c th k hth hp =>
      rcases hset hth' with ⟨-, hold⟩ | ⟨rfl, rfl⟩
      · exact .inl hold
      · have hthis := hending t th hth horigin
        rw [hp] at hthis
        rcases hthis with hends | ⟨a', hpub | hpure⟩
        · exact absurd hprog (hnot hends)
        · cases hpub
          rcases hprog with hprog | hprog
          · cases hprog
          · cases hprog
            exact .inl ⟨th, hth, horigin, .inl hp⟩
        · cases hpure
  | abort hth =>
      rcases hset hth' with ⟨-, hold⟩ | ⟨rfl, rfl⟩
      · exact .inl hold
      · rcases hprog with hprog | hprog <;> cases hprog

/-- An answer stays. -/
lemma Answered.step {act : Action Row Event DomainError OpeningAnswer}
    (hact : Undisturbed index itemId s act)
    (hstep : letI := openIndex index
      Sys.step act s = some s') (ha : Answered itemId s t a) : Answered itemId s' t a := by
  let _ := openIndex index
  obtain ⟨th, hth, horigin, hprog⟩ := ha
  -- the answer stays unless its own thread takes the step
  have hset : ∀ {t' : ℕ} {new : Thread Row Event DomainError OpeningAnswer},
      (t' = t → IsOpening itemId new.origin
        ∧ (new.prog = .publish (.pure (some a)) ∨ new.prog = .pure (some a))) →
      ∃ th', (s.threads.insert t' new).lookup t = some th' ∧ IsOpening itemId th'.origin
        ∧ (th'.prog = .publish (.pure (some a)) ∨ th'.prog = .pure (some a)) := by
    intro t' new hnew
    by_cases htt : t = t'
    · subst htt
      exact ⟨new, AList.lookup_insert _, hnew rfl⟩
    · exact ⟨th, by rw [AList.lookup_insert_ne htt, hth], horigin, hprog⟩
  cases Sys.stepTo_of_step hstep with
  | start hnone =>
      refine hset fun htt => ?_
      rw [htt, hth] at hnone
      cases hnone
  | @op t' c th' γ op k b se hth' hp he =>
      refine hset fun htt => ?_
      rw [htt, hth] at hth'
      cases hth'
      rw [hp] at hprog
      rcases hprog with hprog | hprog <;> cases hprog
  | @commit t' c th' k hth' hp =>
      refine hset fun htt => ?_
      rw [htt, hth] at hth'
      cases hth'
      rw [hp] at hprog
      rcases hprog with hprog | hprog <;> cases hprog
  | @publish t' c th' k hth' hp =>
      refine hset fun htt => ?_
      rw [htt, hth] at hth'
      cases hth'
      rw [hp] at hprog
      rcases hprog with hprog | hprog
      · cases hprog
        exact ⟨horigin, .inr rfl⟩
      · cases hprog
  | @abort t' th' e hth' =>
      refine hset fun htt => ?_
      rw [htt, hth] at hth'
      cases hth'
      rcases hprog with hprog | hprog
      · exact absurd hprog (hact.still_answered t' th _ rfl (htt ▸ hth))
      · -- a request that has answered cannot be cut off
        subst htt
        simp only [Sys.step, hth, hprog] at hstep
        cases hstep

/-- A `ConversationCreated` of the item. -/
def Event.createsFor (itemId : UUID) : Event → Bool
  | .conversationCreated _ i => i = itemId
  | _ => false

/-- How the item has come to its open conversation in a part of a run, given the events about new
conversations of the item that were committed in it. -/
inductive Openings (itemId : UUID) (s₁ s : Sys Row Event DomainError OpeningAnswer) :
    List Event → Prop
  /-- It has not got one, and no request says so. -/
  | none : (HasOpen s.committed itemId → HasOpen s₁.committed itemId) →
      (∀ t a, Answered itemId s t a → a.2 = true → Answered itemId s₁ t a) → Openings itemId s₁ s []
  /-- It has got one, by one request that says so. -/
  | one {t : ℕ} {a : ConversationResponse × Bool} : ¬ HasOpen s₁.committed itemId →
      OpenFor s.committed itemId a.1.id → Answered itemId s t a → a.2 = true →
      ¬ Answered itemId s₁ t a →
      (∀ t' a', Answered itemId s t' a' → a'.2 = true → t' = t ∨ Answered itemId s₁ t' a') →
      Openings itemId s₁ s [.conversationCreated a.1.id itemId]

/-- An action that changes neither the rows nor the answers. -/
lemma Openings.same {events : List Event} (h : Openings itemId s₁ s events)
    (hrows : s'.committed = s.committed) (hsame : ∀ t a, Answered itemId s' t a
      ↔ Answered itemId s t a) :
    Openings itemId s₁ s' events := by
  cases h with
  | none hopen hnone =>
      refine .none ?_ fun t a ha => hnone t a ((hsame t a).mp ha)
      rw [hrows]
      exact hopen
  | one hnot hopen ha hcreated hfirst honly =>
      refine .one hnot ?_ ((hsame _ _).mpr ha) hcreated hfirst fun t' a' ha' =>
        honly t' a' ((hsame t' a').mp ha')
      rw [hrows]
      exact hopen

/-- The answers at the beginning of a part are still there. -/
lemma Answered.later (h : ReachableOn index settings (Undisturbed index itemId) s₁ s)
    (ha : Answered itemId s₁ t a) : Answered itemId s t a := by
  let _ := openIndex index
  induction h with
  | init => exact ha
  | step _ _ hact hstep ih => exact ih.step hact hstep

/-- A request gives one answer. -/
lemma Answered.unique {a' : ConversationResponse × Bool} (ha : Answered itemId s t a)
    (ha' : Answered itemId s t a') : a = a' := by
  obtain ⟨th, hth, -, hprog⟩ := ha
  obtain ⟨th', hth', -, hprog'⟩ := ha'
  rw [hth] at hth'
  cases hth'
  rcases hprog with hprog | hprog <;> rcases hprog' with hprog' | hprog' <;>
    rw [hprog] at hprog' <;> cases hprog' <;> rfl

/-- What is open at the beginning of a part is still open. -/
lemma OpenFor.later (h : ReachableOn index settings (Undisturbed index itemId) s₁ s) {c : UUID}
    (hc : OpenFor s₁.committed itemId c) : OpenFor s.committed itemId c := by
  let _ := openIndex index
  induction h with
  | init => exact hc
  | step _ _ hact hstep ih => exact hact.still_open _ hstep c ih

/-- One commit. -/
lemma Openings.commit {events : List Event} (hstart : OneOpen st₀)
    (h₁ : ReachableOn index settings (fun _ _ => True) (Sys.rest st₀) s₁)
    (h : ReachableOn index settings (Undisturbed index itemId) s₁ s)
    {th : Thread Row Event DomainError OpeningAnswer} {k : Txn OpeningAnswer} {c : Choice}
    (hth : s.threads.lookup t = some th) (hp : th.prog = .commit k)
    (hact : Undisturbed index itemId s (.run t c)) (hI : Openings itemId s₁ s events) :
    Openings itemId s₁ (s.commitThread t th k)
      (events ++ th.session.pending.filter (Event.createsFor itemId)) := by
  let _ := openIndex index
  have hr := h₁.trans h
  have hstep : Sys.step (.run t c) s = some (s.commitThread t th k) := by
    simp only [Sys.step, hth, hp]
  -- an answer of this step is the answer of the thread that commits
  have hanswers : ∀ t' a', Answered itemId (s.commitThread t th k) t' a' → a'.2 = true →
      (t' = t ∧ .conversationCreated a'.1.id itemId ∈ th.session.pending)
        ∨ Answered itemId s t' a' := by
    intro t' a' ha' hcreated
    rcases answered_of_step hr hstep ha' with hold | ⟨c', th', hrun, hth', -, hreports⟩
    · exact .inr hold
    · cases hrun
      rw [hth] at hth'
      cases hth'
      rw [Reports, if_pos hcreated] at hreports
      exact .inl ⟨rfl, by rw [hreports]; exact List.mem_singleton_self _⟩
  -- a commit that does not concern the item
  have hquiet : (∀ c, OpenFor (merge s.committed th.session.held) itemId c →
      OpenFor s.committed itemId c) →
      (∀ c, Event.conversationCreated c itemId ∉ th.session.pending) →
      Openings itemId s₁ (s.commitThread t th k)
        (events ++ th.session.pending.filter (Event.createsFor itemId)) := by
    intro hopen hreported
    have hfilter : th.session.pending.filter (Event.createsFor itemId) = [] := by
      refine List.filter_eq_nil_iff.mpr fun e he hfor => ?_
      cases e with
      | conversationCreated c i =>
          obtain rfl : i = itemId := of_decide_eq_true hfor
          exact hreported c he
      | _ => cases hfor
    have hold : ∀ t' a', Answered itemId (s.commitThread t th k) t' a' → a'.2 = true →
        Answered itemId s t' a' := fun t' a' ha' hcreated =>
      (hanswers t' a' ha' hcreated).resolve_left fun h => hreported _ h.2
    rw [hfilter, List.append_nil]
    cases hI with
    | none hopen' hnone =>
        have hopen'' : HasOpen (s.commitThread t th k).committed itemId →
            HasOpen s₁.committed itemId := by
          rintro ⟨c, hc⟩
          exact hopen' ⟨c, hopen c hc⟩
        exact .none hopen'' fun t' a' ha' hcreated => hnone t' a' (hold t' a' ha' hcreated) hcreated
    | one hnot hopen' ha hcreated hfirst honly =>
        exact .one hnot (hact.still_open _ hstep _ hopen') (ha.step hact hstep) hcreated hfirst
          fun t' a' ha' hcreated' => honly t' a' (hold t' a' ha' hcreated') hcreated'
  -- a commit opens one conversation at most
  rcases hr.commitOf hstart hth hp with hnone | ⟨i, id, hopens, horigin⟩
  · exact hquiet (hnone.open_before itemId) fun c => hnone.not_reported c itemId
  · by_cases hi : i = itemId
    · -- the item gets its open conversation here
      subst hi
      cases hI with
      -- two open conversations of one item are shut out by the index
      | one _ hopen _ _ _ _ => exact absurd ⟨_, hopen⟩ hopens.none_open
      | none hopen hnone =>
          have hending := Reachable.ending (E := IsOpening i)
            (fun _ => ends_opening) hr t th hth horigin
          rw [hp] at hending
          rcases hending with ⟨answer, rfl, hreports⟩ | ⟨answer, hpub | hpure⟩
          · -- the thread reports what it posts, so it answers that it created the conversation
            obtain ⟨a, rfl, hcreated, rfl⟩ : ∃ a, answer = some a ∧ a.2 = true ∧ a.1.id = id := by
              rw [hopens.pending] at hreports
              rcases answer with _ | a
              · exact hreports.elim
              · rw [Reports] at hreports
                by_cases hcreated : a.2 = true
                · rw [if_pos hcreated] at hreports
                  cases hreports
                  exact ⟨a, rfl, hcreated, rfl⟩
                · rw [if_neg hcreated] at hreports
                  cases hreports
            have hfilter : th.session.pending.filter (Event.createsFor i)
                = [.conversationCreated a.1.id i] := by
              rw [hopens.pending]
              simp [Event.createsFor]
            have hnone_open : ¬ ∃ c, OpenFor s₁.committed i c := by
              rintro ⟨c, hc⟩
              exact hopens.none_open ⟨c, hc.later h⟩
            rw [hfilter, List.nil_append]
            refine .one (t := t) hnone_open hopens.opened
              ⟨_, AList.lookup_insert _, horigin, .inl rfl⟩ hcreated (fun ha => ?_)
              fun t' a' ha' hcreated' => ?_
            · obtain ⟨th', hth', -, hprog⟩ := ha.later h
              rw [hth] at hth'
              cases hth'
              rw [hp] at hprog
              rcases hprog with hprog | hprog <;> cases hprog
            · exact (hanswers t' a' ha' hcreated').imp (fun h => h.1) fun hold =>
                hnone t' a' hold hcreated'
          · cases hpub
          · cases hpure
    · refine hquiet (fun c hc => (hopens.openFor hc).resolve_right fun h => hi h.1.symm)
        fun c hc => ?_
      rw [hopens.pending, List.mem_singleton] at hc
      cases hc
      exact hi rfl

/-- **A part of a run.** What it commits about new conversations of the item. -/
lemma ReachableOn.openings (hstart : OneOpen st₀)
    (h₁ : ReachableOn index settings (fun _ _ => True) (Sys.rest st₀) s₁)
    (h : ReachableOn index settings (Undisturbed index itemId) s₁ s) :
    ∃ news, s.log = s₁.log ++ news
      ∧ Openings itemId s₁ s (news.filter (Event.createsFor itemId)) := by
  let _ := openIndex index
  induction h with
  | init => exact ⟨[], (List.append_nil _).symm, .none id fun _ _ ha _ => ha⟩
  | @step s s' act hr hP hact hstep ih =>
      obtain ⟨news, hlog, hI⟩ := ih
      have hsame : (∀ t c th k, act = .run t c → s.threads.lookup t = some th →
          th.prog ≠ .commit k) →
          ∀ t a, Answered itemId s' t a ↔ Answered itemId s t a := by
        intro hnot t a
        refine ⟨fun ha => ?_, fun ha => ha.step hact hstep⟩
        rcases answered_of_step (ReachableOn.trans h₁ hr) hstep ha
          with hold | ⟨c, th, hrun, hth, hp, -⟩
        · exact hold
        · exact absurd hp (hnot t c th _ hrun hth)
      cases Sys.stepTo_of_step hstep with
      | @commit t c th k hth hp =>
          refine ⟨news ++ th.session.pending, by rw [← List.append_assoc, ← hlog]; rfl, ?_⟩
          rw [List.filter_append]
          exact Openings.commit hstart h₁ hr hth hp hact hI
      | start hnone =>
          exact ⟨news, hlog, hI.same rfl (hsame fun _ _ _ _ hrun => (by cases hrun))⟩
      | @op t c th γ op k b se hth hp he =>
          refine ⟨news, hlog, hI.same rfl (hsame fun t' c' th' k' hrun hth' hp' => ?_)⟩
          cases hrun
          rw [hth] at hth'
          cases hth'
          rw [hp] at hp'
          cases hp'
      | @publish t c th k hth hp =>
          refine ⟨news, hlog, hI.same rfl (hsame fun t' c' th' k' hrun hth' hp' => ?_)⟩
          cases hrun
          rw [hth] at hth'
          cases hth'
          rw [hp] at hp'
          cases hp'
      | abort hth =>
          exact ⟨news, hlog, hI.same rfl (hsame fun _ _ _ _ hrun => (by cases hrun))⟩

/-- **All creates agree.** In a part of a run in which no open conversation of the item is closed,
and no request is cut off between its commit and its answer, all requests that start in it and
answer give the same conversation. At most one of the requests that commit in it says that it has
created the conversation: `ConversationCreated` is committed for the item exactly when one says so,
and with its conversation. When none was open before, exactly one does as soon as one request of the
part has answered. -/
theorem creates_agree (index : Bool) (settings : Settings) {st₀ : Db}
    {s₁ s : Sys Row Event DomainError OpeningAnswer} {itemId : UUID} (hstart : OneOpen st₀)
    (h₁ : ReachableOn index settings (fun _ _ => True) (Sys.rest st₀) s₁)
    (h : ReachableOn index settings (Undisturbed index itemId) s₁ s) :
    (∀ t t' a a', s₁.threads.lookup t = none → s₁.threads.lookup t' = none →
        Answered itemId s t a → Answered itemId s t' a' → a.1.id = a'.1.id)
      ∧ ∃ news, s.log = s₁.log ++ news ∧ (news.filter (Event.createsFor itemId)).length ≤ 1
        ∧ (∀ t a, Answered itemId s t a → a.2 = true → ¬ Answered itemId s₁ t a →
            news.filter (Event.createsFor itemId) = [.conversationCreated a.1.id itemId]
              ∧ ∀ t' a', Answered itemId s t' a' → a'.2 = true →
                ¬ Answered itemId s₁ t' a' → t' = t)
        ∧ (∀ e ∈ news.filter (Event.createsFor itemId), ∃ t a, Answered itemId s t a ∧ a.2 = true
          ∧ ¬ Answered itemId s₁ t a ∧ e = .conversationCreated a.1.id itemId)
        ∧ (¬ HasOpen s₁.committed itemId →
            (∃ t a, s₁.threads.lookup t = none ∧ Answered itemId s t a) →
            ∃ t a, Answered itemId s t a ∧ a.2 = true ∧ ¬ Answered itemId s₁ t a) := by
  have hone := one_open index settings hstart (h₁.trans h)
  refine ⟨fun t t' a a' ht ht' ha ha' => ?_, ?_⟩
  · exact hone.unique (ha.openFor hstart h₁ h ht) (ha'.openFor hstart h₁ h ht')
  obtain ⟨news, hlog, hI⟩ := ReachableOn.openings hstart h₁ h
  refine ⟨news, hlog, ?_⟩
  generalize news.filter (Event.createsFor itemId) = events at hI ⊢
  cases hI with
  | none hopen hnone =>
      refine ⟨Nat.zero_le _, fun t a ha hcreated hfirst => absurd (hnone t a ha hcreated) hfirst,
        fun e he => absurd he List.not_mem_nil, ?_⟩
      rintro hnot ⟨t, a, ht, ha⟩
      exact absurd (hopen ⟨_, ha.openFor hstart h₁ h ht⟩) hnot
  | @one t₀ a₀ hnot hopen ha₀ hcreated₀ hfirst₀ honly =>
      have hthread : ∀ t a, Answered itemId s t a → a.2 = true →
          ¬ Answered itemId s₁ t a → t = t₀ :=
        fun t a ha hcreated hfirst => (honly t a ha hcreated).resolve_right hfirst
      refine ⟨le_refl 1, fun t a ha hcreated hfirst => ?_, fun e he => ?_,
        fun _ _ => ⟨t₀, a₀, ha₀, hcreated₀, hfirst₀⟩⟩
      · obtain rfl := hthread t a ha hcreated hfirst
        exact ⟨by rw [ha.unique ha₀], hthread⟩
      · exact ⟨t₀, a₀, ha₀, hcreated₀, hfirst₀, List.mem_singleton.mp he⟩

end Parts

end Runs

/-! ### Two creates -/

/-- The stored conversations are not changed, and nobody is cut off. -/
def keepsRows (s : Sys Row Event DomainError OpeningAnswer)
    (a : Action Row Event DomainError OpeningAnswer) : Bool :=
  match a with
  | .abort _ => false
  | a => letI := openIndex false
      match Sys.step a s with
      | none => true
      | some s' => (Db.conversations s.committed).all fun c =>
          Db.conversation s'.committed c.1 == some c.2

lemma undisturbed_of_keepsRows (s : Sys Row Event DomainError OpeningAnswer)
    (a : Action Row Event DomainError OpeningAnswer) (h : keepsRows s a = true) :
    Undisturbed false 5 s a := by
  refine ⟨fun s' hstep c => ?_, fun t th b ha _ => ?_⟩
  · rintro ⟨r, hr, hitem, hopen⟩
    have hall : ((Db.conversations s.committed).all fun c =>
        Db.conversation s'.committed c.1 == some c.2) = true := by
      cases a with
      | abort t => cases h
      | start t p => simpa only [keepsRows, hstep] using h
      | run t ch => simpa only [keepsRows, hstep] using h
    exact ⟨r, beq_iff_eq.mp (List.all_eq_true.mp hall (c, r) (mem_conversations.mpr hr)),
      hitem, hopen⟩
  · subst ha
    cases h

lemma twoCreates_reachable {s : Sys Row Event DomainError OpeningAnswer}
    (h : letI := openIndex false
      Sys.runIf keepsRows twoCreates (Sys.rest mugOrder) = some s) :
    ReachableOn false {} (Undisturbed false 5) (Sys.rest mugOrder) s := by
  let _ := openIndex false
  exact reachable_of_runIf undisturbed_of_keepsRows .init twoCreates_starts h

/-- Who is shown to have answered has answered. -/
lemma answered_of_shown {s : Sys Row Event DomainError OpeningAnswer} {t id : ℕ} {created : Bool}
    {user : CurrentUser} (as bs : List (Action Row Event DomainError OpeningAnswer))
    (hrun : letI := openIndex false
      Sys.run (as ++ .start t (createMugs user) :: bs) (Sys.rest mugOrder) = some s)
    (h : (match (s.threads.lookup t).map Thread.prog with
      | some (.pure (some a)) => some (a.1.id, a.2)
      | _ => none) = some (id, created)) :
    ∃ a, Answered 5 s t a ∧ a.1.id = id ∧ a.2 = created := by
  let _ := openIndex false
  obtain ⟨th, hth, horigin⟩ := Sys.origin_of_start hrun
  rw [hth, Option.map_some] at h
  split at h
  · rename_i a hprog
    cases h
    refine ⟨a, ⟨th, hth, ⟨.reclamacao, user, ?_⟩, .inr (Option.some.inj hprog)⟩, rfl, rfl⟩
    rw [horigin]
    rfl
  · cases h

theorem creates_agree_mugs : ∃ s a a', Answered 5 s 1 a ∧ Answered 5 s 2 a'
    ∧ a.2 = true ∧ a'.2 = false ∧ a.1.id = a'.1.id
    ∧ (s.log.filter (Event.createsFor 5)).length ≤ 1 := by
  let _ := openIndex false
  have hshown : (Sys.runIf keepsRows twoCreates (Sys.rest mugOrder)).map shownCreates
      = some ([105], some (105, true), some (105, false)) := by decide +kernel
  obtain ⟨s, hs, hmugs⟩ := Option.map_eq_some_iff.mp hshown
  have hrun : Sys.run ([] ++ .start 1 (createMugs ⟨7, .buyer, none⟩)
      :: .start 2 (createMugs ⟨8, .seller, some 1⟩) :: (Action.steps 1 11 100
      ++ Action.steps 2 7 200)) (Sys.rest mugOrder) = some s := Sys.run_of_runIf hs
  have hrun' : Sys.run ([.start 1 (createMugs ⟨7, .buyer, none⟩)]
      ++ .start 2 (createMugs ⟨8, .seller, some 1⟩) :: (Action.steps 1 11 100
      ++ Action.steps 2 7 200)) (Sys.rest mugOrder) = some s := Sys.run_of_runIf hs
  obtain ⟨a, ha, hid, hcreated⟩ := answered_of_shown [] _ hrun (congrArg (fun x => x.2.1) hmugs)
  obtain ⟨a', ha', hid', hcreated'⟩ := answered_of_shown [_] _ hrun'
    (congrArg (fun x => x.2.2) hmugs)
  obtain ⟨hsame, news, hlog, hlength, -⟩ := creates_agree false {} mugOrder_oneOpen .init
    (twoCreates_reachable hs)
  obtain rfl : s.log = news := hlog
  exact ⟨s, a, a', ha, ha', hcreated, hcreated', hsame 1 2 a a' rfl rfl ha ha', hlength⟩

end MarketHub
