import MarketHub.Service
import MarketHub.Communication.History

/-!
A conversation closes at most once.

* `closures`, `systemMessages`: the closing events and the system messages of a
  conversation.
* `CurrentReadings`: no step of a run judges by a stale object a conversation whose
  locked row is closed already.
* `Accounted`: every closure has one event, and every inactivity closure one message.
* `closes_once`: in a run with `CurrentReadings` a conversation closes at most once and
  nothing is added to it afterwards.
* `closes_twice`: two lists that take turns close a conversation twice.
-/

namespace MarketHub

open ReadCommitted Session

/-! ### Closures -/

/-- The closing events of a conversation. -/
def closures (c : UUID) (events : List Event) : ℕ :=
  events.count (.conversationClosed c .manual) + events.count (.conversationClosed c .inactivity)

/-- A message of the system in a conversation. -/
def Message.isSystem (c : UUID) (m : Message) : Bool :=
  m.conversationId == c && m.authorType == .system

/-- The number of system messages of a conversation. -/
def systemMessages (c : UUID) (v : Db) : ℕ := (Db.messages v).countP fun m => m.2.isSystem c

/-- A conversation is closed. -/
def Closed (c : UUID) (v : Db) : Prop :=
  ∃ r, Db.conversation v c = some r ∧ r.status = .closed

/-- A closed conversation counts one. -/
def closedCount : Option Conversation → ℕ
  | some r => if r.status = .closed then 1 else 0
  | none => 0

lemma closedCount_le (b : Option Conversation) : closedCount b ≤ 1 := by
  rcases b with _ | r
  · exact Nat.zero_le 1
  · dsimp only [closedCount]
    split <;> omega

/-- The weight of the system messages of a conversation. -/
def systemWeight (c : UUID) : (k : Key) → Row k → ℤ
  | .message _, m => if m.isSystem c then 1 else 0
  | _, _ => 0

lemma total_systemWeight (c : UUID) (v : Db) : total (systemWeight c) v = systemMessages c v := by
  rw [total, systemMessages, Db.messages]
  induction v.entries with
  | nil => rfl
  | cons e l ih =>
      obtain ⟨k, r⟩ := e
      rw [List.map_cons, List.sum_cons, ih]
      cases k with
      | message id =>
          simp only [List.filterMap_cons, List.countP_cons, systemWeight]
          split <;> simp [add_comm]
      | _ => simp [systemWeight]

/-! ### What a deed adds -/

/-- The terms of the closing account: an inactivity closure is of a row that is open. -/
def lifeTerms (settings : Settings) : Terms where
  moved _ _ := True
  clock _ := True
  expired b x seen := isInactiveAt settings x seen = true → b.status = .opened
  moved_refl _ := trivial
  moved_trans _ _ _ _ _ := trivial

section Deeds

variable {T : Terms} {settings : Settings} {st st' : Db} {c : UUID} {b b' : Option Conversation}
  {news : Option (UUID × Message)} {events : List Event}

/-- A closing of an open object is sent. -/
lemma patch_expire_status {x b : Conversation} {now : DateTime} (h : x.status = .opened) :
    (Conversation.patch x (x.expire now) b).status = .closed := by
  simp [Conversation.patch, column, Conversation.expire, Conversation.touch, h]

/-- A recalculation does not send the status. -/
lemma patch_recalculate_status {x b : Conversation} {item : OrderItem} {now : DateTime} :
    (Conversation.patch x (recalculate x item now) b).status = b.status := by
  simp [Conversation.patch, column]

lemma priorityEvents_count {before after : Priority} {now : DateTime} {by_ : ClosedBy} :
    (priorityEvents c before after now).count (.conversationClosed c by_) = 0 := by
  rw [priorityEvents]
  split <;> simp

/-- A deed closes as often as it says. -/
lemma Deed.closures (h : Deed (lifeTerms settings) settings st c b b' news events) :
    closures c events + closedCount b = closedCount b' := by
  cases h with
  | nothing b => simp [MarketHub.closures]
  | created itemId reason now _ _ _ => simp [MarketHub.closures, closedCount, newConversation]
  | messaged id user content now _ hopen _ =>
      simp [MarketHub.closures, closedCount, Conversation.touch, hopen]
  | expired b id now _ hopen hinactive hexpired =>
      have hb : b.status = .opened := hexpired hinactive
      simp [MarketHub.closures, closedCount, patch_expire_status hopen, hb]
  | shut now _ hopen => simp [MarketHub.closures, closedCount, Conversation.shut, hopen]
  | recalculated b now _ _ _ _ =>
      simp [MarketHub.closures, closedCount, patch_recalculate_status, priorityEvents_count]
  | overridden b override now _ =>
      rw [MarketHub.closures, priorityEvents_count, priorityEvents_count]
      exact Nat.zero_add _

/-- The message of a deed is a message of its conversation, and one of the system exactly
for an inactivity closure. -/
lemma Deed.message (h : Deed T settings st c b b' news events) :
    (∀ id m, news = some (id, m) → m.conversationId = c)
      ∧ (news.elim 0 fun m => if m.2.isSystem c then 1 else 0)
        = events.count (.conversationClosed c .inactivity) := by
  cases h with
  | nothing b => exact ⟨fun _ _ hm => (by cases hm), rfl⟩
  | created itemId reason now _ _ _ => exact ⟨fun _ _ hm => (by cases hm), by simp⟩
  | messaged id user content now _ _ hauthor =>
      refine ⟨fun _ _ hm => ?_, ?_⟩
      · cases hm
        rfl
      · simp [Message.isSystem, hauthor]
  | expired b id now _ _ _ _ =>
      refine ⟨fun _ _ hm => ?_, ?_⟩
      · cases hm
        rfl
      · simp [Message.isSystem, closingMessage]
  | shut now _ _ => exact ⟨fun _ _ hm => (by cases hm), by simp⟩
  | recalculated b now _ _ _ _ =>
      exact ⟨fun _ _ hm => (by cases hm), by rw [priorityEvents_count]; rfl⟩
  | overridden b override now _ =>
      exact ⟨fun _ _ hm => (by cases hm), by rw [priorityEvents_count]; rfl⟩

/-- A closed conversation stays closed and gets no message. -/
lemma Deed.closed (h : Deed (lifeTerms settings) settings st c b b' news events)
    (hb : ∃ r, b = some r ∧ r.status = .closed) :
    (∃ r, b' = some r ∧ r.status = .closed) ∧ news = none := by
  obtain ⟨r, hr, hclosed⟩ := hb
  cases h with
  | nothing b => exact ⟨⟨r, hr, hclosed⟩, rfl⟩
  | created _ _ _ _ _ _ => cases hr
  | messaged _ _ _ _ _ hopen _ =>
      cases hr
      rw [hopen] at hclosed
      cases hclosed
  | expired b _ _ _ _ hinactive hexpired =>
      cases hr
      rw [hexpired hinactive] at hclosed
      cases hclosed
  | shut _ _ hopen =>
      cases hr
      rw [hopen] at hclosed
      cases hclosed
  | recalculated b _ _ _ _ _ =>
      cases hr
      exact ⟨⟨_, rfl, patch_recalculate_status.trans hclosed⟩, rfl⟩
  | overridden b _ _ _ =>
      cases hr
      exact ⟨⟨_, rfl, hclosed⟩, rfl⟩

/-- The closing events among those about a conversation. -/
lemma closures_filter (c : UUID) (events : List Event) :
    closures c (events.filter (Event.concerns c)) = closures c events := by
  rw [closures, closures, List.count_filter (by simp [Event.concerns]),
    List.count_filter (by simp [Event.concerns])]

variable {newsOf : UUID → Option (UUID × Message)}

/-- The messages of a conversation, after what a transaction has done. -/
lemma Deeds.message_iff (h : Deeds T settings newsOf st st' events) {id : UUID} {m : Message} :
    Db.message st' id = some m ↔
      Db.message st id = some m ∨ newsOf m.conversationId = some (id, m) := by
  by_cases hsent : ∃ c m', newsOf c = some (id, m')
  · obtain ⟨c, m', hm'⟩ := hsent
    obtain ⟨hold, hnew⟩ := h.sent c id m' hm'
    have hconv := (h.conversation c).message.1 id m' hm'
    rw [hold, hnew]
    constructor
    · rintro ⟨⟩
      rw [hconv]
      exact Or.inr hm'
    · rintro (hnone | hm)
      · cases hnone
      · exact hnew.symm.trans (h.sent _ id m hm).2
  · have hno : ∀ c m', newsOf c ≠ some (id, m') := fun c m' hm' => hsent ⟨c, m', hm'⟩
    rw [h.kept id hno]
    exact (or_iff_left fun hm => hno _ _ hm).symm

/-- The system messages of a conversation, after what a transaction has done. -/
lemma Deeds.systemMessages (h : Deeds T settings newsOf st st' events) (c : UUID) :
    systemMessages c st'
      = systemMessages c st + events.count (.conversationClosed c .inactivity) := by
  have hnews := (h.conversation c).message
  rw [List.count_filter (by simp [Event.concerns])] at hnews
  -- only the message of the conversation itself carries weight
  have hsame : ∀ id, (∀ m, newsOf c ≠ some (id, m)) →
      weigh (systemWeight c) (.message id) (st'.lookup (.message id))
        = weigh (systemWeight c) (.message id) (st.lookup (.message id)) := by
    intro id hno
    by_cases hsent : ∃ c' m', newsOf c' = some (id, m')
    · obtain ⟨c', m', hm'⟩ := hsent
      obtain ⟨hold, hnew⟩ := h.sent c' id m' hm'
      have hconv := (h.conversation c').message.1 id m' hm'
      have hne : c' ≠ c := fun hcc => hno m' (hcc ▸ hm')
      rw [show st.lookup (.message id) = none from hold,
        show st'.lookup (.message id) = some m' from hnew]
      simp [systemWeight, Message.isSystem, hconv, hne]
    · rw [show st'.lookup (.message id) = st.lookup (.message id) from
        h.kept id fun c' m' hm' => hsent ⟨c', m', hm'⟩]
  -- no other row is a message
  have hother : ∀ k, (∀ id, k ≠ .message id) →
      weigh (systemWeight c) k (st'.lookup k) = weigh (systemWeight c) k (st.lookup k) := by
    intro k hk
    cases k with
    | message id => exact absurd rfl (hk id)
    | _ => cases st'.lookup _ <;> cases st.lookup _ <;> rfl
  -- so the total grows by the message that was sent, if it is the system's
  have htotal : total (systemWeight c) st' = total (systemWeight c) st
      + ((newsOf c).elim 0 fun m => if m.2.isSystem c then 1 else 0 : ℕ) := by
    cases hc : newsOf c with
    | none =>
        rw [Option.elim_none, Nat.cast_zero, add_zero]
        refine total_eq_of_weigh fun k => ?_
        by_cases hk : ∃ id, k = .message id
        · obtain ⟨id, rfl⟩ := hk
          exact hsame id fun m hm => by rw [hc] at hm; cases hm
        · exact hother k fun id heq => hk ⟨id, heq⟩
    | some new =>
        obtain ⟨id, m⟩ := new
        obtain ⟨hold, hnew⟩ := h.sent c id m hc
        have hsub : total (systemWeight c) st' - weigh (systemWeight c) (.message id) _
            = total (systemWeight c) st - _ := total_sub_eq_of_weigh fun k hk => by
            by_cases hk' : ∃ id', k = .message id'
            · obtain ⟨id', rfl⟩ := hk'
              refine hsame id' fun m' hm' => hk ?_
              rw [hc] at hm'
              cases hm'
              rfl
            · exact hother k fun id' heq => hk' ⟨id', heq⟩
        rw [show st.lookup (.message id) = none from hold,
          show st'.lookup (.message id) = some m from hnew] at hsub
        simp only [weigh_some, weigh_none, systemWeight, sub_zero] at hsub
        rw [Option.elim_some, ← hsub]
        split <;> simp
  rw [hnews.2, total_systemWeight, total_systemWeight] at htotal
  exact_mod_cast htotal

end Deeds

/-! ### The closing account -/

/-- A session that reads the clock does not hold a conversation whose row is closed while
its object of it is still open and, by this reading, inactive. -/
def CurrentReading (settings : Settings) (s : AppSession) (c : Choice) : Prop :=
  ∀ id (b x : Conversation), s.held.lookup (.conversation id) = some ⟨some b, some b⟩ →
    s.objects.lookup (.conversation id) = some ⟨some x, x⟩ →
    isInactiveAt settings x c.now = true → b.status = .opened

/-- The same for the thread that makes the next step of a run. -/
def CurrentReadings (settings : Settings) (s : Sys Row Event DomainError Unit)
    (a : Action Row Event DomainError Unit) : Prop :=
  ∀ t c th k, a = .run t c → s.threads.lookup t = some th →
    th.prog = .op (.utcnow : Op Row Event ℤ) k → CurrentReading settings th.session c

/-- Every closure since the rows were `st₀` has one event, and every inactivity closure
one system message. -/
structure Accounted (st₀ st : Db) (log : List Event) : Prop where
  closures : ∀ c, closures c log + closedCount (Db.conversation st₀ c)
    = closedCount (Db.conversation st c)
  messages : ∀ c, systemMessages c st
    = systemMessages c st₀ + log.count (.conversationClosed c .inactivity)

/-- The assumptions and obligations of the closing account. -/
def lifeOutline (settings : Settings) (st₀ : Db) : Outline Row Event where
  inv := Accounted st₀
  guard := fun {_} _ s op c =>
    match op with
    | .utcnow => CurrentReading settings s c
    | _ => True
  commit := Did (lifeTerms settings) settings

lemma life_tells (settings : Settings) (st₀ : Db) :
    Tells (lifeOutline settings st₀) (lifeTerms settings) where
  moved _ _ _ _ := trivial
  clock _ _ _ _ := trivial
  expired _ _ _ c b x hg hheld hobj := hg c b x hheld hobj

lemma accounted_refl (st : Db) : Accounted st st [] :=
  ⟨fun _ => Nat.zero_add _, fun _ => rfl⟩

lemma lifeOutline_sound (settings : Settings) (st₀ : Db) : (lifeOutline settings st₀).Sound where
  keeps st log s hinv _ hdid := by
    obtain ⟨news, hdeeds⟩ := hdid
    refine ⟨fun c => ?_, fun c => ?_⟩
    · have hold := hinv.closures c
      have hnew := (hdeeds.conversation c).closures
      rw [closures_filter] at hnew
      simp only [MarketHub.closures, List.count_append] at hold hnew ⊢
      omega
    · have hold := hinv.messages c
      have hnew := hdeeds.systemMessages c
      rw [List.count_append]
      omega
  relied _ _ _ _ _ _ _ _ _ := trivial

/-- The programs of the requests around conversations. -/
def IsConversationRequest (settings : Settings) (p : Txn Unit) : Prop :=
  ∃ r : ConversationRequest, p = r.run settings

/-- A conversation closes at most once on the way from the rows `st₀` over the state `s` to
the state `s'`. -/
structure ClosesOnce (c : UUID) (st₀ : Db) (s s' : Sys Row Event DomainError Unit) : Prop where
  /-- At most one closing event of it is published. -/
  event : closures c s'.published ≤ 1
  /-- None is if it was closed at the start. -/
  closed : Closed c st₀ → closures c s'.published = 0
  /-- At most one message of the system is added to it. -/
  message : systemMessages c s'.committed ≤ systemMessages c st₀ + 1
  /-- Once it is closed it stays closed and gets no message. -/
  settled : Closed c s.committed → Closed c s'.committed ∧ ∀ id m, m.conversationId = c →
    (Db.message s'.committed id = some m ↔ Db.message s.committed id = some m)

section Runs

variable {settings : Settings} {st₀ : Db} {s s' : Sys Row Event DomainError Unit}

lemma life_ok (h : Reachable (IsConversationRequest settings) (CurrentReadings settings)
    (Sys.rest st₀) s) : s.Ok (lifeOutline settings st₀) (fun _ _ _ => True) := by
  refine h.ok (lifeOutline_sound settings st₀) (accounted_refl st₀) ?_ ?_
  · rintro p ⟨r, rfl⟩ st log -
    exact wp_conversationRequest (life_tells settings st₀) (fun _ _ hdid => hdid)
      (fun _ _ => trivial) r
  · intro s t c th hG hth β op k hp
    cases op with
    | utcnow => exact hG t c th k rfl hth hp
    | _ => trivial

/-- What is published of a conversation's closures has been recorded. -/
lemma closures_published {P : Txn Unit → Prop}
    {G : Sys Row Event DomainError Unit → Action Row Event DomainError Unit → Prop}
    (h : Reachable P G (Sys.rest st₀) s) (c : UUID) :
    closures c s.published ≤ closures c s.log := by
  have hmanual := h.count_published (.conversationClosed c .manual)
  have hinactivity := h.count_published (.conversationClosed c .inactivity)
  simp only [closures]
  omega

/-- Between two states of a run, a closed conversation stays closed and gets no message. -/
def Settles (st st' : Db) : Prop :=
  ∀ c, Closed c st → Closed c st' ∧ ∀ id m, m.conversationId = c →
    (Db.message st' id = some m ↔ Db.message st id = some m)

lemma settles_trans (st₁ st₂ st₃ : Db) (h : Settles st₁ st₂) (h' : Settles st₂ st₃) :
    Settles st₁ st₃ := by
  intro c hc
  obtain ⟨hc₂, hm₂⟩ := h c hc
  obtain ⟨hc₃, hm₃⟩ := h' c hc₂
  exact ⟨hc₃, fun id m hm => (hm₃ id m hm).trans (hm₂ id m hm)⟩

lemma Did.settles {st : Db} {u : AppSession} (h : Did (lifeTerms settings) settings st u) :
    Settles st (merge st u.held) := by
  obtain ⟨news, hdeeds⟩ := h
  intro c hc
  obtain ⟨hclosed, hnone⟩ := (hdeeds.conversation c).closed hc
  refine ⟨hclosed, fun id m hm => ?_⟩
  rw [hdeeds.message_iff, hm, hnone]
  simp

/-- **A conversation closes at most once**, in a run of requests around conversations in
which no step judges a closed row by a stale object. -/
theorem closes_once (h : Reachable (IsConversationRequest settings) (CurrentReadings settings)
      (Sys.rest st₀) s)
    (h' : Reachable (IsConversationRequest settings) (CurrentReadings settings) s s') (c : UUID) :
    ClosesOnce c st₀ s s' := by
  have hreach := h.trans h'
  obtain ⟨hclosures, hmessages⟩ := (life_ok hreach).inv
  have hpublished := closures_published hreach c
  have hone := closedCount_le (Db.conversation s'.committed c)
  have hc := hclosures c
  have hm := hmessages c
  refine ⟨by omega, ?_, ?_, ?_⟩
  · rintro ⟨r, hr, hclosed⟩
    have hstart : closedCount (Db.conversation st₀ c) = 1 := by
      rw [hr, closedCount, if_pos hclosed]
    omega
  · simp only [closures] at hc
    omega
  · exact h.moves (M := Settles) (fun _ _ hc => ⟨hc, fun _ _ _ => Iff.rfl⟩) settles_trans
      (fun _ _ _ hdid => Did.settles hdid) (fun _ hr => life_ok hr) h' c

end Runs

/-! ### Two runs -/

/-- Every conversation that the thread of the next step holds is open in the row it has
locked. -/
def holdsOpened (s : Sys Row Event DomainError Unit) : Action Row Event DomainError Unit → Bool
  | .run t _ =>
      match s.threads.lookup t with
      | none => true
      | some th => th.session.held.entries.all fun e =>
          match e with
          | ⟨.conversation _, ⟨some b, _⟩⟩ => b.status == .opened
          | _ => true
  | _ => true

lemma currentReadings_of_holdsOpened {settings : Settings} (s : Sys Row Event DomainError Unit)
    (a : Action Row Event DomainError Unit) (h : holdsOpened s a = true) :
    CurrentReadings settings s a := by
  rintro t c th k rfl hth - id b x hheld - -
  simp only [holdsOpened, hth, List.all_eq_true] at h
  exact beq_iff_eq.mp (h _ (AList.mem_lookup_iff.mp hheld))

/-- The buyer of the mugs lists the conversations of the item. -/
def listMugs : Txn Unit := (ConversationRequest.listConversations 5 ⟨7, .buyer, none⟩).run {}

/-- A list that begins at hour 184, and while it goes on another one. -/
def oneList : List (Action Row Event DomainError Unit) :=
  [.start 0 listMugs, .start 1 listMugs] ++ Action.steps 0 3 662400000000
    ++ Action.steps 1 21 662400000100

/-- The first list goes on, with the conversation as it has loaded it. -/
def twoLists : List (Action Row Event DomainError Unit) :=
  oneList ++ Action.steps 0 18 662400000200

lemma oneList_starts : ∀ a ∈ oneList, a.Starts (IsConversationRequest {}) := by
  intro a ha
  simp only [oneList, List.mem_append, List.mem_cons, List.not_mem_nil, or_false] at ha
  rcases ha with ((rfl | rfl) | h) | h
  · exact ⟨_, rfl⟩
  · exact ⟨_, rfl⟩
  · exact Action.starts_of_mem_steps h
  · exact Action.starts_of_mem_steps h

theorem closes_once_mugs : ∃ s, Sys.runIf holdsOpened oneList (Sys.rest mugThread) = some s
    ∧ closures 6 s.published = 1 ∧ ClosesOnce 6 mugThread (Sys.rest mugThread) s := by
  have hcount : (Sys.runIf holdsOpened oneList (Sys.rest mugThread)).map
      (fun s => closures 6 s.published) = some 1 := by decide +kernel
  obtain ⟨s, hs, hone⟩ := Option.map_eq_some_iff.mp hcount
  exact ⟨s, hs, hone, closes_once .init
    (reachable_of_runIf currentReadings_of_holdsOpened .init oneList_starts hs) 6⟩

/-- Two lists that take turns close the conversation twice: each of them publishes a
closing event and leaves a closing message. -/
theorem closes_twice : ¬ ∀ (settings : Settings) (st₀ : Db)
    (s s' : Sys Row Event DomainError Unit),
    Reachable (IsConversationRequest settings) (fun _ _ => True) (Sys.rest st₀) s →
    Reachable (IsConversationRequest settings) (fun _ _ => True) s s' →
    ∀ c, ClosesOnce c st₀ s s' := by
  intro h
  have hcount : (Sys.run twoLists (Sys.rest mugThread)).map
      (fun s => (closures 6 s.published, systemMessages 6 s.committed)) = some (2, 2) := by
    decide +kernel
  obtain ⟨s, hs, hpair⟩ := Option.map_eq_some_iff.mp hcount
  have hreach : Reachable (IsConversationRequest {}) (fun _ _ => True) (Sys.rest mugThread) s := by
    refine reachable_of_run (fun _ _ => trivial) .init (fun a ha => ?_) hs
    rcases List.mem_append.mp ha with hone | hrest
    · exact oneList_starts a hone
    · exact Action.starts_of_mem_steps hrest
  have hevent := (h {} mugThread _ s .init hreach 6).event
  have htwo : closures 6 s.published = 2 := congrArg Prod.fst hpair
  omega

end MarketHub
