import MarketHub.Communication.History
import MarketHub.Communication.Opening

/-!
Using the conversation that `create_conversation` hands out.

`create_conversation` hands out the open conversation of the item as it is stored,
without the inactivity rule that every other way to a conversation applies first.

* `exec_createMessage`: a participant's message to an open and active conversation is
  accepted.
* `created_usable_iff`: the conversation handed out can be used exactly when the stored
  one is not inactive, or a new one has time to live.
* `reuse_inactive`: a conversation left for six days is handed out and refuses messages.
-/

namespace MarketHub

open ReadCommitted Session

/-! ### A request at one moment -/

/-- What is known of a request that runs alone at one moment. -/
def aloneTerms (now : DateTime) : Terms where
  moved v v' := v' = v
  clock t := t = now
  expired _ _ seen := seen = now
  moved_refl _ := rfl
  moved_trans _ _ _ h h' := h'.trans h

lemma alone_tells (now : DateTime) : Tells (Outline.alone Row Event now) (aloneTerms now) where
  moved _ _ _ h := h
  clock _ _ _ h := h
  expired _ _ _ _ _ _ h _ _ := h

/-! ### Messages to an active conversation -/

/-- A participant's message to an open and active conversation is accepted. -/
lemma exec_createMessage {cs : ℕ → Choice} {st : Db} {conversationId : UUID}
    {conversation : Conversation} {user : CurrentUser} {settings : Settings} {content : String}
    (htakes : TakesPart conversationId user conversation st)
    (hopen : conversation.status = .opened)
    (hactive : ∀ n, isInactiveAt settings conversation (cs n).now = false)
    (hfresh : ∀ n, Db.message st (cs n).uuid = none) :
    ∃ id, (exec cs (Prog.transaction (createMessage settings conversationId content user))
      0 st [] ∅).result = .ok id := by
  have hs := opening_opened htakes.1
  have hauthor : ∃ authorType, authorTypeFor user = pure authorType := by
    obtain ⟨-, item, order, offer, -, -, -, hscope⟩ := htakes
    rw [authorTypeFor]
    split at hscope
    · rename_i hrole _
      exact ⟨.seller, by rw [hrole]⟩
    · rename_i hrole
      exact ⟨.buyer, by rw [hrole]⟩
    · exact hscope.elim
  obtain ⟨authorType, hauthor⟩ := hauthor
  simp only [Prog.transaction, createMessage, addMessage, Prog.bind_eq, Prog.pure_eq,
    Prog.bind_assoc, hauthor]
  rw [exec_loadParticipantConversation htakes, exec_maybeCloseInactive_active (hactive _),
    if_neg (not_not.mpr hopen)]
  simp only [Prog.bind_assoc]
  rw [exec_utcnow]
  change ∃ id, (exec cs ((sendMessage conversationId authorType (some user.id) content _).bind _)
    _ _ _ _).result = _
  rw [exec_sendMessage hs.clean (opening_objects (by simp)) (opening_view.trans (hfresh _)),
    exec_assign _ ((sent_objects (by simp)).trans hs.object)]
  refine ⟨_, exec_finish (sent_clean hs.clean _ _) ?_⟩
  rw [sent_view (by simp), opening_view]
  exact htakes.1

/-! ### The conversation handed out -/

/-- The content of a `CreateMessageRequest` that its column takes. -/
structure AdmittedContent (content : String) : Prop where
  not_empty : 1 ≤ content.length
  fits : content.length ≤ 2000
  storable : Storable content

/-- The conversation under an identifier can be used at a moment: it is open and not
inactive, and accepts what a participant sends, under any identifier no message has. -/
structure Usable (settings : Settings) (st : Db) (id : UUID) (now : DateTime) : Prop where
  active : ∃ conversation, Db.conversation st id = some conversation
    ∧ conversation.status = .opened ∧ isInactiveAt settings conversation now = false
  accepts : ∀ user conversation content (cs : ℕ → Choice), AdmittedContent content →
    TakesPart id user conversation st → (∀ n, (cs n).now = now) →
    (∀ n, Db.message st (cs n).uuid = none) →
    ∃ messageId, (exec cs (Prog.transaction (createMessage settings id content user))
      0 st [] ∅).result = .ok messageId

lemma usable_iff {settings : Settings} {st : Db} {id : UUID} {conversation : Conversation}
    {now : DateTime} (hconv : Db.conversation st id = some conversation)
    (hopen : conversation.status = .opened) :
    Usable settings st id now ↔ isInactiveAt settings conversation now = false := by
  constructor
  · rintro ⟨⟨conversation', hconv', -, hactive⟩, -⟩
    obtain rfl : conversation' = conversation := Option.some.inj (hconv'.symm.trans hconv)
    exact hactive
  · intro hactive
    refine ⟨⟨conversation, hconv, hopen, hactive⟩,
      fun user conversation' content cs _ htakes hcs hfresh => ?_⟩
    obtain rfl : conversation' = conversation := Option.some.inj (htakes.1.symm.trans hconv)
    exact exec_createMessage htakes hopen (fun n => by rw [hcs n, hactive]) hfresh

/-- A new conversation is inactive only if there is no time to live at all. -/
lemma newConversation_active {settings : Settings} (itemId : UUID) (reason : ConversationReason)
    (item : OrderItem) (now : DateTime) :
    isInactiveAt settings (newConversation itemId reason item now) now = false
      ↔ 0 < settings.conversationInactivityHours := by
  rw [show isInactiveAt settings (newConversation itemId reason item now) now
    = decide (now ≤ now - settings.conversationInactivityHours * 3600000000) from Bool.true_and _]
  constructor
  · intro h
    have hlt := lt_of_not_ge (of_decide_eq_false h)
    linarith
  · intro h
    refine decide_eq_false (not_le_of_gt ?_)
    linarith

/-- **When the conversation handed out can be used.** Whatever is stored: the conversation
that `create_conversation` answers with is open, active and accepts the messages of the
participants at that moment exactly when the open conversation of the item it has found
is not inactive, or, if it has found none, conversations have a time to live. -/
theorem created_usable_iff {settings : Settings} {st : Db} {itemId : UUID}
    {reason : ConversationReason} {user : CurrentUser} {cs : ℕ → Choice} {now : DateTime}
    {answer : ConversationResponse × Bool} (hcs : ∀ n, (cs n).now = now)
    (h : (exec cs (Prog.transaction (createConversation itemId reason user)) 0 st [] ∅).result
      = .ok answer) :
    Usable settings
        (exec cs (Prog.transaction (createConversation itemId reason user)) 0 st [] ∅).store
        answer.1.id now
      ↔ match openConversation itemId st with
        | some (_, conversation) => isInactiveAt settings conversation now = false
        | none => 0 < settings.conversationInactivityHours := by
  have hwp : wp (Outline.alone Row Event now) (ending (createConversation itemId reason user) id)
      (fun a st' _ => Handed (aloneTerms now) itemId reason st st' a) st ∅ :=
    wp_createConversation (alone_tells now)
      (fun _ _ (_ : Did (aloneTerms now) settings _ _) => trivial)
      fun _ _ ha => ha
  have hpost := exec_post hwp hcs h
  change (exec cs (ending (createConversation itemId reason user) id) 0 st [] ∅).result = _ at h
  change Usable settings (exec cs (ending (createConversation itemId reason user) id) 0
    st [] ∅).store
    answer.1.id now ↔ _
  generalize (exec cs (ending (createConversation itemId reason user) id) 0 st [] ∅).store = st'
    at hpost ⊢
  cases hpost with
  -- the open conversation is handed out as it is stored
  | @reused v w u id conversation hv hopen hw hsame hu =>
      have hv : v = st := hv
      have hw : w = v := hw
      have hu : st' = u := hu
      rw [hv] at hopen hw
      obtain ⟨hconv, -, hopened⟩ := openConversation_spec hopen
      rw [hopen]
      refine usable_iff ?_ hopened
      rw [hu, hsame, hw]
      exact hconv
  -- a new one has just been used
  | @created v u id item moment hv hopen hclock hrow hu =>
      have hv : v = st := hv
      have hclock : moment = now := hclock
      have hu : st' = u := hu
      rw [hv] at hopen
      rw [hopen, ← newConversation_active itemId reason item now]
      refine usable_iff ?_ rfl
      rw [hu, ← hclock]
      exact hrow

/-! ### A conversation left for six days -/

/-- The answer of `create_conversation` to the buyer of the mugs at an hour. -/
def mugReuse (hour : ℤ) : Outcome Row Event DomainError (ConversationResponse × Bool) :=
  exec (fun n => ⟨hours hour, 100 + n, false⟩)
    (Prog.transaction (createConversation 5 .atraso ⟨7, .buyer, none⟩)) 0 mugThread [] ∅

lemma mugReuse_result (hour : ℤ) : ∃ answer, (mugReuse hour).result = .ok answer
    ∧ answer.1.id = 6 :=
  ⟨_, rfl, rfl⟩

theorem created_usable_iff_mugs : ∃ answer, (mugReuse 48).result = .ok answer
    ∧ (Usable {} (mugReuse 48).store answer.1.id (hours 48)
      ↔ match openConversation 5 mugThread with
        | some (_, conversation) => isInactiveAt {} conversation (hours 48) = false
        | none => (0 : ℤ) < ({} : Settings).conversationInactivityHours) := by
  obtain ⟨answer, h, -⟩ := mugReuse_result 48
  exact ⟨answer, h, created_usable_iff (fun _ => rfl) h⟩

/-- At hour 184 the conversation that was last used at hour 40 is handed out, and a
message to it is refused. -/
theorem reuse_inactive : ¬ ∀ (st : Db) (itemId : UUID) (reason : ConversationReason)
    (user : CurrentUser) (cs : ℕ → Choice) (now : DateTime) (answer : ConversationResponse × Bool),
    (∀ n, (cs n).now = now) →
    (exec cs (Prog.transaction (createConversation itemId reason user)) 0 st [] ∅).result
      = .ok answer →
    Usable {} (exec cs (Prog.transaction (createConversation itemId reason user)) 0 st [] ∅).store
      answer.1.id now := by
  intro h
  obtain ⟨answer, hanswer, hid⟩ := mugReuse_result 184
  have husable := h mugThread 5 .atraso ⟨7, .buyer, none⟩ (fun n => ⟨hours 184, 100 + n, false⟩)
    (hours 184) answer (fun _ => rfl) hanswer
  rw [hid] at husable
  have hcontent : AdmittedContent "Olá" := ⟨by decide, by decide, by simp [Storable]⟩
  obtain ⟨messageId, hsent⟩ := husable.accepts ⟨7, .buyer, none⟩ mugConversation "Olá"
    (fun n => ⟨hours 184, 100 + n, false⟩) hcontent mugThread_takesPart
    (fun _ => rfl) mugThread_fresh
  have hrefused : (exec (fun n => ⟨hours 184, 100 + n, false⟩)
      (Prog.transaction (createMessage {} 6 "Olá" ⟨7, .buyer, none⟩)) 0 (mugReuse 184).store [] ∅
      ).result.toOption = none := by
    decide +kernel
  rw [mugReuse, hsent] at hrefused
  cases hrefused

end MarketHub
