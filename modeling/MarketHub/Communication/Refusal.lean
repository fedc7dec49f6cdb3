import MarketHub.Communication.Once
import MarketHub.Communication.Answers

/-!
Refusals because a conversation is closed.

* `Explained`: every closed conversation was closed by its seller, or for inactivity with
  its message and its event; `explained_of_reachable` has it of every reachable state.
* `refusal_agrees_iff`: a refusal agrees with the stored state exactly when it is not the
  request itself that has found the conversation inactive, since the closure it has made
  on the way is rolled back with it.
* `refusal_undone`: a message to a conversation left for six days is refused, and the
  conversation stays open.
-/

namespace MarketHub

open ReadCommitted Session

/-! ### Why a conversation is closed -/

/-- A closed conversation has been closed by its seller, or for inactivity with the
closing message and the event. -/
def ClosedFor (c : UUID) (st : Db) (log : List Event) : Prop :=
  .conversationClosed c .manual ∈ log
    ∨ .conversationClosed c .inactivity ∈ log
      ∧ ∃ id now, Db.message st id = some (closingMessage c now)

/-- Every closed conversation has been closed by someone. -/
def Explained (st : Db) (log : List Event) : Prop := ∀ c, Closed c st → ClosedFor c st log

/-- The terms of an account that asks nothing of the clock. -/
def freeTerms : Terms where
  moved _ _ := True
  clock _ := True
  expired _ _ _ := True
  moved_refl _ := trivial
  moved_trans _ _ _ _ _ := trivial

lemma free_tells (o : Outline Row Event) : Tells o freeTerms where
  moved _ _ _ _ := trivial
  clock _ _ _ _ := trivial
  expired _ _ _ _ _ _ _ _ _ := trivial

/-- The assumptions and obligations of the explanations. -/
def explainedOutline (settings : Settings) : Outline Row Event where
  inv := Explained
  commit := Did freeTerms settings

lemma explained_tells (settings : Settings) : Tells (explainedOutline settings) freeTerms where
  moved _ _ _ _ := trivial
  clock _ _ _ _ := trivial
  expired _ _ _ _ _ _ _ _ _ := trivial

/-- A conversation that a deed leaves closed was closed before or is closed by it. -/
lemma Deed.closedFor {T : Terms} {settings : Settings} {st : Db} {c : UUID}
    {b b' : Option Conversation} {news : Option (UUID × Message)} {events : List Event}
    (h : Deed T settings st c b b' news events) (hb' : ∃ r, b' = some r ∧ r.status = .closed) :
    (∃ r, b = some r ∧ r.status = .closed) ∨ .conversationClosed c .manual ∈ events
      ∨ .conversationClosed c .inactivity ∈ events
        ∧ ∃ id now, news = some (id, closingMessage c now) := by
  obtain ⟨r, hr, hclosed⟩ := hb'
  cases h with
  | nothing b => exact Or.inl ⟨r, hr, hclosed⟩
  | created _ _ _ _ _ _ =>
      cases hr
      cases hclosed
  | messaged _ _ _ _ _ hopen _ =>
      cases hr
      exact absurd (hopen.symm.trans hclosed) (by decide)
  | expired b id now _ _ _ _ => exact Or.inr (Or.inr ⟨by simp, id, now, rfl⟩)
  | shut now _ _ => exact Or.inr (Or.inl (by simp))
  | recalculated b _ _ _ _ _ =>
      cases hr
      exact Or.inl ⟨b, rfl, patch_recalculate_status.symm.trans hclosed⟩
  | overridden b _ _ _ =>
      cases hr
      exact Or.inl ⟨b, rfl, hclosed⟩

lemma explainedOutline_sound (settings : Settings) : (explainedOutline settings).Sound where
  keeps st log s hinv _ hdid c hclosed := by
    obtain ⟨news, hdeeds⟩ := hdid
    have hmem : ∀ e, e ∈ s.pending.filter (Event.concerns c) → e ∈ log ++ s.pending := fun e he =>
      List.mem_append_right _ (List.mem_of_mem_filter he)
    rcases (hdeeds.conversation c).closedFor hclosed with hold | hmanual | ⟨hevent, id, now, hnews⟩
    · rcases hinv c hold with hmanual | ⟨hevent, id, now, hmessage⟩
      · exact Or.inl (List.mem_append_left _ hmanual)
      · exact Or.inr ⟨List.mem_append_left _ hevent, id, now,
          hdeeds.message_iff.mpr (Or.inl hmessage)⟩
    · exact Or.inl (hmem _ hmanual)
    · exact Or.inr ⟨hmem _ hevent, id, now, (hdeeds.sent c id _ hnews).2⟩
  relied _ _ _ _ _ _ _ _ _ := trivial

/-- The programs of the requests to the service. -/
def IsServiceRequest (settings : Settings) (p : Txn Unit) : Prop :=
  ∃ r : ServiceRequest, p = r.run settings

/-- Where nothing is closed at the start, every closed conversation of a reachable state
has been closed by someone. -/
lemma explained_of_reachable {settings : Settings} {st₀ : Db} {s : Sys Row Event DomainError Unit}
    (hstart : ∀ c, ¬ Closed c st₀)
    (h : Reachable (IsServiceRequest settings) (fun _ _ => True) (Sys.rest st₀) s) :
    Explained s.committed s.log := by
  have hok : s.Ok (explainedOutline settings) (fun _ _ _ => True) := by
    refine h.ok (explainedOutline_sound settings) (fun c hc => absurd hc (hstart c)) ?_ ?_
    · rintro p ⟨r, rfl⟩ st log -
      exact wp_serviceRequest (explained_tells settings) (fun _ _ hdid => hdid)
        (fun _ _ => trivial) r fun _ _ => trivial
    · intros
      trivial
  exact hok.inv

/-! ### Refusals -/

/-- The events that are published once those waiting for it are. A request that is cut off between
its commit and its publication leaves its events waiting for good; they count here. -/
def announced (s : Sys Row Event DomainError Unit) : List Event :=
  s.published ++ s.outbox.flatMap Prod.snd

/-- The events of the committed transactions are the announced ones. -/
lemma mem_announced {P : Txn Unit → Prop}
    {G : Sys Row Event DomainError Unit → Action Row Event DomainError Unit → Prop} {st₀ : Db}
    {s : Sys Row Event DomainError Unit} (h : Reachable P G (Sys.rest st₀) s) (e : Event) :
    e ∈ announced s ↔ e ∈ s.log := by
  have hcount := h.count_published e
  rw [announced, ← List.count_pos_iff, ← List.count_pos_iff, List.count_append]
  omega

/-- The requests that are refused when the conversation is closed. -/
def ConversationRequest.refusable (c : UUID) (user : CurrentUser) : ConversationRequest → Prop
  | .createMessage id _ u => id = c ∧ u = user
  | .closeConversation id u => id = c ∧ u = user
  | _ => False

/-- The participants a request admits. -/
def ConversationRequest.admits (user : CurrentUser) : ConversationRequest → Prop
  | .closeConversation _ _ => user.role = .seller
  | _ => True

/-- The stored state is the one a refusal speaks of: the conversation is closed, and where
it was not its seller who closed it, its closing message and its event are there. -/
structure RefusalAgrees (c : UUID) (r : Outcome Row Event DomainError Unit) : Prop where
  closed : Closed c r.store
  cause : ClosedFor c r.store r.log

section Refusal

variable {settings : Settings} {cs : ℕ → Choice} {st : Db} {log : List Event} {c : UUID}
  {user : CurrentUser} {conversation : Conversation}

/-- A failure that is not a refusal. -/
def NoRefusal (e : Failure DomainError) : Prop := ∀ msg, e ≠ .domain (.invalidTransition msg)

/-- What follows the inactivity rule in a request: it refuses a closed conversation, and
does not refuse an open one. -/
structure Refuses (f : Conversation → Txn Unit) : Prop where
  closed : ∃ msg, ∀ conversation, conversation.status ≠ .opened →
    f conversation = Prog.throw (.invalidTransition msg)
  opened : ∀ conversation, conversation.status = .opened → (f conversation).Raises NoRefusal

/-- The end of a transaction does not refuse. -/
lemma raises_end (a : Unit) : (Prog.flush.bind fun _ =>
    (.commit (.publish (.pure a)) : Txn Unit)).Raises NoRefusal :=
  (Prog.raises_flush NoRefusal).bind fun _ => trivial

lemma raises_sendMessage (authorType : AuthorType) (authorUserId : Option UUID) (content : String)
    (now : DateTime) :
    (sendMessage c authorType authorUserId content now).Raises NoRefusal :=
  fun _ _ => (Prog.raises_flush NoRefusal).bind fun _ => trivial

/-- A request that refuses and is admitted goes through the inactivity rule first. -/
lemma exec_refusable (settings : Settings) {r : ConversationRequest}
    (htakes : TakesPart c user conversation st) (hr : r.refusable c user)
    (hadmits : r.admits user) :
    ∃ f, Refuses f ∧ ∀ cs log, exec cs (r.run settings) 0 st log ∅
      = exec cs ((maybeCloseInactive settings c conversation).bind f) 2 st log
          (opening st (.conversation c)) := by
  cases r with
  -- both requests load the conversation, apply the rule, then look whether it is open
  | createMessage id content u =>
      obtain ⟨rfl, rfl⟩ := hr
      refine ⟨?f, ?refuses, fun cs log => ?run⟩
      case run =>
        rw [ConversationRequest.run, transaction_ignore]
        simp only [ending, createMessage, addMessage, Prog.bind_eq, Prog.pure_eq, Prog.bind_assoc]
        rw [exec_loadParticipantConversation htakes]
      case refuses =>
        refine ⟨⟨"Conversation is closed", fun conversation h => ?_⟩, fun conversation h => ?_⟩
        · rw [if_pos h]
          rfl
        · rw [if_neg (not_not.mpr h)]
          have hauthor : (authorTypeFor u).Raises NoRefusal := by
            rw [authorTypeFor]
            split
            · trivial
            · trivial
            · rintro msg ⟨⟩
          refine Prog.Raises.bind (fun now => hauthor.bind fun authorType =>
            (raises_sendMessage _ _ _ _).bind fun messageId => ?_) fun _ => raises_end ()
          exact fun _ _ => trivial
  | closeConversation id u =>
      obtain ⟨rfl, rfl⟩ := hr
      obtain ⟨sellerId, hseller⟩ : ∃ sellerId, u.sellerId = some sellerId := by
        obtain ⟨-, item, order, offer, -, -, -, hscope⟩ := htakes
        rw [show u.role = .seller from hadmits] at hscope
        split at hscope
        · rename_i sellerId _ hseller
          exact ⟨sellerId, hseller⟩
        · rename_i hrole
          cases hrole
        · exact hscope.elim
      refine ⟨?f, ?refuses, fun cs log => ?run⟩
      case run =>
        have hrequire : requireSeller u = .pure sellerId := by
          rw [requireSeller, show u.role = .seller from hadmits, hseller]
          rfl
        rw [ConversationRequest.run, transaction_ignore]
        simp only [ending, closeConversation, hrequire, closeBySeller, Prog.bind_eq, Prog.pure_eq,
          Prog.bind_assoc]
        change exec cs ((loadSellerConversation id sellerId).bind _) 0 st log ∅ = _
        rw [exec_loadSellerConversation htakes hadmits hseller]
      case refuses =>
        refine ⟨⟨"Conversation is already closed", fun conversation h => ?_⟩,
          fun conversation h => ?_⟩
        · rw [if_pos h]
          rfl
        · rw [if_neg (not_not.mpr h)]
          exact Prog.Raises.bind (fun _ _ _ => trivial) fun conversation => raises_end ()
  | _ => exact hr.elim

/-- A request that does not admit the participant is not refused for a closed
conversation. -/
lemma exec_not_admitted {r : ConversationRequest} (hr : r.refusable c user)
    (hadmits : ¬ r.admits user) {msg : String} :
    (exec cs (r.run settings) 0 st log ∅).result ≠ .error (.domain (.invalidTransition msg)) := by
  cases r with
  | createMessage id content u => exact absurd trivial hadmits
  | closeConversation id u =>
      obtain ⟨rfl, rfl⟩ := hr
      have hrequire : requireSeller u = Prog.throw (.forbidden "Seller role required") := by
        rw [requireSeller]
        split
        · rename_i hrole _
          exact absurd hrole hadmits
        · rfl
      rw [ConversationRequest.run, transaction_ignore]
      simp only [ending, closeConversation, hrequire, Prog.bind_eq, Prog.bind_assoc]
      rintro ⟨⟩
  | _ => exact hr.elim

/-- **When a refusal agrees with the stored state.** In every reachable state, a
participant's request that is refused because the conversation is closed leaves it stored
as closed, by its seller or for inactivity with message and event, exactly when it is not
the request itself that has found the stored conversation open and inactive. -/
theorem refusal_agrees_iff {st₀ : Db} {s : Sys Row Event DomainError Unit}
    (hstart : ∀ c, ¬ Closed c st₀)
    (h : Reachable (IsServiceRequest settings) (fun _ _ => True) (Sys.rest st₀) s)
    (htakes : TakesPart c user conversation s.committed) {r : ConversationRequest}
    (hr : r.refusable c user) (hfresh : ∀ n, Db.message s.committed (cs n).uuid = none) :
    (∀ msg, (exec cs (r.run settings) 0 s.committed (announced s) ∅).result
          = .error (.domain (.invalidTransition msg)) →
        RefusalAgrees c (exec cs (r.run settings) 0 s.committed (announced s) ∅))
      ↔ ¬ (r.admits user ∧ isInactiveAt settings conversation (cs 2).now = true) := by
  by_cases hadmits : r.admits user
  swap
  · exact ⟨fun _ hboth => hadmits hboth.1,
      fun _ msg herr => absurd herr (exec_not_admitted hr hadmits)⟩
  obtain ⟨f, hf, hexec⟩ := exec_refusable settings htakes hr hadmits
  obtain ⟨msg, hthrow⟩ := hf.closed
  have hs := opening_opened htakes.1
  rw [hexec, and_iff_right hadmits]
  cases hinactive : isInactiveAt settings conversation (cs 2).now with
  | true =>
      -- the closure is undone by the refusal
      have hopen : conversation.status = .opened := by
        rw [isInactiveAt, Bool.and_eq_true] at hinactive
        exact of_decide_eq_true hinactive.1
      obtain ⟨n', s', hrun⟩ := exec_maybeCloseInactive_expired (announced s) hs hinactive
        (opening_objects (by simp)) (opening_view.trans (hfresh _)) f
      rw [hthrow _ (show (conversation.expire (cs 3).now).status ≠ .opened by rintro ⟨⟩)] at hrun
      rw [hrun]
      refine ⟨fun hagrees => ?_, fun hno => absurd rfl hno⟩
      obtain ⟨b, hb, hclosed⟩ := (hagrees msg rfl).closed
      have hsame : conversation = b := Option.some.inj (htakes.1.symm.trans hb)
      rw [hsame, hclosed] at hopen
      cases hopen
  -- no closure is attempted, so the refusal is due to a stored one
  | false =>
      rw [exec_maybeCloseInactive_active hinactive]
      refine ⟨fun _ => Bool.false_ne_true, fun _ msg' herr => ?_⟩
      by_cases hopen : conversation.status = .opened
      · rcases exec_raises (hf.opened conversation hopen) herr with hno | hdb
        · exact absurd rfl (hno msg')
        · cases hdb
      · rw [hthrow conversation hopen]
        have hclosed : Closed c s.committed := by
          refine ⟨conversation, htakes.1, ?_⟩
          cases hstatus : conversation.status with
          | opened => exact absurd hstatus hopen
          | closed => rfl
        refine ⟨hclosed, ?_⟩
        -- what closed it has been announced
        have hcause := explained_of_reachable hstart h c hclosed
        exact hcause.imp (mem_announced h _).mpr (And.imp_left (mem_announced h _).mpr)

end Refusal

/-! ### A message that comes late -/

lemma mugThread_open (c : UUID) : ¬ Closed c mugThread := by
  rintro ⟨r, hr, hclosed⟩
  by_cases hc : c = 6
  · subst hc
    cases hr
    cases hclosed
  · have hne : Key.conversation c ≠ .conversation 6 := by simpa using hc
    simp [Db.conversation, mugThread, AList.lookup_insert_ne, -AList.insert_empty, hne] at hr

/-- The seller closes the conversation at hour 44. -/
def closedThread : List (Action Row Event DomainError Unit) :=
  .start 1 ((ServiceRequest.conversation (.closeConversation 6 ⟨8, .seller, some 1⟩)).run {})
    :: List.replicate 10 (.run 1 ⟨hours 44, 200, false⟩)

lemma closedThread_starts : ∀ a ∈ closedThread, a.Starts (IsServiceRequest {}) := by
  intro a ha
  rcases List.mem_cons.mp ha with rfl | h
  · exact ⟨_, rfl⟩
  · rw [(List.mem_replicate.mp h).2]
    trivial

/-- The buyer writes to the conversation. -/
def lateMessage : ConversationRequest := .createMessage 6 "Olá" ⟨7, .buyer, none⟩

/-- The message is refused as one to a closed conversation. -/
def messageRefused (st : Db) (log : List Event) : Bool :=
  match (exec (fun n => ⟨hours 48, 100 + n, false⟩) (lateMessage.run {}) 0 st log ∅).result with
  | .error (.domain (.invalidTransition msg)) => msg == "Conversation is closed"
  | _ => false

lemma result_of_messageRefused {st : Db} {log : List Event} (h : messageRefused st log = true) :
    (exec (fun n => ⟨hours 48, 100 + n, false⟩) (lateMessage.run {}) 0 st log ∅).result
      = .error (.domain (.invalidTransition "Conversation is closed")) := by
  rw [messageRefused] at h
  split at h
  · rename_i msg hresult
    rw [hresult, beq_iff_eq.mp h]
  · cases h

/-- No message has an identifier from 100 on. -/
def messagesBelow (st : Db) : Bool :=
  st.entries.all fun e => match e.1 with
    | .message id => decide (id < 100)
    | _ => true

lemma fresh_of_messagesBelow {st : Db} (h : messagesBelow st = true) (n : ℕ) :
    Db.message st (100 + n) = none := by
  rw [Option.eq_none_iff_forall_ne_some]
  intro r hr
  have hlt := List.all_eq_true.mp h ⟨.message (100 + n), r⟩ (AList.mem_lookup_iff.mp hr)
  simp at hlt

theorem refusal_agrees_iff_mugs : ∃ s, Sys.run closedThread (Sys.rest mugThread) = some s
    ∧ (exec (fun n => ⟨hours 48, 100 + n, false⟩) (lateMessage.run {}) 0 s.committed
      (announced s) ∅).result
      = .error (.domain (.invalidTransition "Conversation is closed"))
    ∧ RefusalAgrees 6 (exec (fun n => ⟨hours 48, 100 + n, false⟩) (lateMessage.run {}) 0 s.committed
      (announced s) ∅) := by
  have hrun : (Sys.run closedThread (Sys.rest mugThread)).any (fun s =>
      decide (Db.conversation s.committed 6
            = some { mugConversation with status := .closed, updatedAt := hours 44 }
          ∧ Db.orderItem s.committed 5 = some ⟨4, 3, 1, 2, 1000, .placed, 0, 0, 0⟩
          ∧ Db.order s.committed 4 = some ⟨1001, 7, 0, 0⟩
          ∧ Db.offer s.committed 3 = some ⟨2, 1, 1000, 5, true⟩)
        && messagesBelow s.committed && messageRefused s.committed (announced s)) = true := by
    decide +kernel
  obtain ⟨s, hs, hall⟩ := (Option.any_eq_true _ _).mp hrun
  simp only [Bool.and_eq_true, decide_eq_true_eq] at hall
  obtain ⟨⟨⟨hconversation, hitem, horder, hoffer⟩, hbelow⟩, hrefused⟩ := hall
  have htakes : TakesPart 6 ⟨7, .buyer, none⟩
      { mugConversation with status := .closed, updatedAt := hours 44 } s.committed :=
    ⟨hconversation, _, _, _, hitem, horder, hoffer, rfl⟩
  have hresult := result_of_messageRefused hrefused
  refine ⟨s, hs, hresult, (refusal_agrees_iff (r := lateMessage) mugThread_open
    (reachable_of_run (fun _ _ => trivial) .init closedThread_starts hs) htakes ⟨rfl, rfl⟩
    (fresh_of_messagesBelow hbelow)).mpr ?_ _ hresult⟩
  rintro ⟨-, hinactive⟩
  exact absurd hinactive (by decide)

/-- At hour 184 a message to the conversation is refused because it is closed, and the
conversation stays open. -/
theorem refusal_undone : ¬ ∀ (settings : Settings) (st₀ : Db)
    (s : Sys Row Event DomainError Unit) (c : UUID) (user : CurrentUser)
    (conversation : Conversation) (r : ConversationRequest) (cs : ℕ → Choice) (msg : String),
    (∀ c, ¬ Closed c st₀) →
    Reachable (IsServiceRequest settings) (fun _ _ => True) (Sys.rest st₀) s →
    TakesPart c user conversation s.committed → r.refusable c user →
    (∀ n, Db.message s.committed (cs n).uuid = none) →
    (exec cs (r.run settings) 0 s.committed (announced s) ∅).result
      = .error (.domain (.invalidTransition msg)) →
    RefusalAgrees c (exec cs (r.run settings) 0 s.committed (announced s) ∅) := by
  intro h
  have hthrow : (exec (fun n => ⟨hours 184, 100 + n, false⟩) ((ConversationRequest.createMessage 6
      "Olá" ⟨7, .buyer, none⟩).run {}) 0 mugThread [] ∅).result
      = .error (.domain (.invalidTransition "Conversation is closed")) := rfl
  have hstore : (Db.conversation (exec (fun n => ⟨hours 184, 100 + n, false⟩)
      ((ConversationRequest.createMessage 6 "Olá" ⟨7, .buyer, none⟩).run {}) 0 mugThread [] ∅).store
        6).map Conversation.status = some .opened := rfl
  obtain ⟨b, hb, hclosed⟩ := (h {} mugThread (Sys.rest mugThread) 6
    ⟨7, .buyer, none⟩ mugConversation
    (.createMessage 6 "Olá" ⟨7, .buyer, none⟩) (fun n => ⟨hours 184, 100 + n, false⟩) _
      mugThread_open
    .init mugThread_takesPart ⟨rfl, rfl⟩ mugThread_fresh hthrow).closed
  have hstatus := (congrArg (Option.map Conversation.status) hb).symm.trans hstore
  rw [Option.map_some, hclosed] at hstatus
  cases hstatus

end MarketHub
