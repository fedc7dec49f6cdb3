import MarketHub.Communication.Deeds
import MarketHub.ReadCommitted.Alone

/-!
The conversation routes, followed alone.

* `TakesPart`: the user is the buyer or the seller of a conversation, which is when
  the scoped statement finds it (`exec_loadParticipantConversation`).
* `exec_isInactive` and `exec_maybeCloseInactive_active`: the inactivity rule and the
  readings of the clock it takes.
* `exec_sendMessage`: a message under a new identifier is stored.
-/

namespace MarketHub

open ReadCommitted Session

/-! ### The tables as a session sees them -/

/-- A reading of the entries that passes over the rows a session holds does not see them. -/
lemma filterMap_foldr_put {β : Type} (sel : Sigma Row → Option β) (st : Db)
    (l : List (Sigma (Held Row))) (h : ∀ e ∈ l, ∀ r, sel ⟨e.1, r⟩ = none) :
    (l.foldr put st).entries.filterMap sel = st.entries.filterMap sel := by
  have hkerase : ∀ (k : Key) (es : List (Sigma Row)), (∀ r, sel ⟨k, r⟩ = none) →
      (es.kerase k).filterMap sel = es.filterMap sel := by
    intro k es hk
    induction es with
    | nil => rfl
    | cons e es ih =>
        obtain ⟨k', r⟩ := e
        by_cases hkk : k = k'
        · subst hkk
          rw [List.kerase_cons_eq (s := ⟨k, r⟩) rfl, List.filterMap_cons_none (hk r)]
        · rw [List.kerase_cons_ne hkk, List.filterMap_cons, List.filterMap_cons, ih]
  induction l with
  | nil => rfl
  | cons e l ih =>
      have hl := ih fun e' he' => h e' (List.mem_cons_of_mem _ he')
      have he := h e List.mem_cons_self
      rw [List.foldr_cons, put]
      split
      · rename_i r hr
        rw [AList.entries_insert, List.filterMap_cons_none (he r), hkerase _ _ he, hl]
      · exact (hkerase _ _ he).trans hl

/-- A key of the table `messages`. -/
def Key.isMessage : Key → Bool
  | .message _ => true
  | _ => false

/-- A session that holds no message sees the messages of the store. -/
lemma messages_view {st : Db} {s : AppSession}
    (h : ∀ k, k.isMessage = true → s.held.lookup k = none) :
    Db.messages (s.view st) = Db.messages st := by
  refine filterMap_foldr_put _ st s.held.entries fun e he r => ?_
  obtain ⟨k, hd⟩ := e
  cases k with
  | message id =>
      have hnone := h (.message id) rfl
      rw [AList.mem_lookup_iff.mpr he] at hnone
      cases hnone
  | _ => rfl

/-! ### Scoped conversations -/

/-- The user takes part in a conversation: as the seller of the offer or as the buyer of
the order that its item belongs to. -/
def TakesPart (conversationId : UUID) (user : CurrentUser) (conversation : Conversation)
    (v : Db) : Prop :=
  Db.conversation v conversationId = some conversation
    ∧ ∃ item order offer, Db.orderItem v conversation.orderItemId = some item
      ∧ Db.order v item.orderId = some order ∧ Db.offer v item.offerId = some offer
      ∧ match user.role, user.sellerId with
        | .seller, some sellerId => offer.sellerId = sellerId
        | .buyer, _ => order.buyerId = user.id
        | _, _ => False

/-- The session that has locked and loaded the row `k`. -/
def opening (st : Db) (k : Key) : AppSession := ((∅ : AppSession).lock st k).load st k

lemma opening_opened {st : Db} {k : Key} {r : Row k} (h : st.lookup k = some r) :
    (opening st k).Opened k r :=
  opened_of_locks (List.mem_cons_self : k ∈ [k]) h

lemma opening_held {st : Db} {k k' : Key} (h : k' ≠ k) : (opening st k).held.lookup k' = none := by
  rw [opening, load_held, lookup_lock_ne _ _ _ h]
  rfl

lemma opening_objects {st : Db} {k k' : Key} (h : k' ≠ k) :
    (opening st k).objects.lookup k' = none := by
  rw [opening, lookup_load_ne _ _ _ h, lock_objects]
  rfl

lemma opening_view {st : Db} {k k' : Key} : ((opening st k).view st).lookup k' = st.lookup k' := by
  rw [lookup_view]
  by_cases h : k' = k
  · subst h
    rw [opening, load_held, lookup_lock_self]
    rfl
  · rw [opening_held h]

section Exec

variable {α : Type} {cs : ℕ → Choice} {n : ℕ} {st : Db} {log : List Event} {s : AppSession}
  {conversationId : UUID} {conversation : Conversation} {user : CurrentUser} {settings : Settings}

lemma exec_loadParticipantConversation (h : TakesPart conversationId user conversation st)
    (f : Conversation → Txn α) :
    exec cs ((loadParticipantConversation conversationId user).bind f) n st log ∅
      = exec cs (f conversation) (n + 2) st log (opening st (.conversation conversationId)) := by
  obtain ⟨hconv, item, order, offer, hitem, horder, hoffer, hscope⟩ := h
  have hfound : ∀ scope : Order → Offer → Bool, scope order offer = true →
      exec cs (((Prog.scalar (.conversation conversationId)
          (conversationScope conversationId scope)).bind fun row =>
        loadOr (k := .conversation conversationId) (.resourceNotFound "Conversation not found")
          row).bind f) n st log ∅
        = exec cs (f conversation) (n + 2) st log (opening st (.conversation conversationId)) := by
    intro scope hs
    have hstmt : conversationScope conversationId scope ((∅ : AppSession).view st)
        = some [.conversation conversationId] := by
      change conversationScope conversationId scope st = _
      simp [conversationScope, hconv, hitem, horder, hoffer, hs]
    have hread : (∅ : AppSession).read ((∅ : AppSession).view st) (.conversation conversationId)
        = some conversation := hconv
    rw [Prog.bind_assoc, exec_scalar_some _ hstmt, hread]
    rfl
  obtain ⟨userId, role, seller⟩ := user
  rw [loadParticipantConversation]
  cases role with
  | buyer => exact hfound (fun order _ => order.buyerId == userId) (beq_iff_eq.mpr hscope)
  | seller =>
      cases seller with
      | some sellerId =>
          exact hfound (fun _ offer => offer.sellerId == sellerId) (beq_iff_eq.mpr hscope)
      | none => exact hscope.elim
  | ops => exact hscope.elim

lemma exec_loadSellerConversation {sellerId : UUID}
    (h : TakesPart conversationId user conversation st) (hrole : user.role = .seller)
    (hseller : user.sellerId = some sellerId) (f : Conversation → Txn α) :
    exec cs ((loadSellerConversation conversationId sellerId).bind f) n st log ∅
      = exec cs (f conversation) (n + 2) st log (opening st (.conversation conversationId)) := by
  obtain ⟨hconv, item, order, offer, hitem, horder, hoffer, hscope⟩ := h
  rw [hrole, hseller] at hscope
  have hstmt : sellerConversationStatement conversationId sellerId ((∅ : AppSession).view st)
      = some [.conversation conversationId] := by
    change sellerConversationStatement conversationId sellerId st = _
    simp [sellerConversationStatement, hconv, hitem, hoffer, hscope]
  have hread : (∅ : AppSession).read ((∅ : AppSession).view st) (.conversation conversationId)
      = some conversation := hconv
  rw [loadSellerConversation, Prog.bind_eq, Prog.bind_assoc, exec_scalar_some _ hstmt, hread]
  rfl

/-! ### The inactivity rule -/

/-- The readings of the clock that the inactivity rule takes. -/
def inactiveReadings (conversation : Conversation) : ℕ :=
  if conversation.status = .opened then 1 else 0

lemma exec_isInactive (f : Bool → Txn α) :
    exec cs ((isInactive settings conversation).bind f) n st log s
      = exec cs (f (isInactiveAt settings conversation (cs n).now))
          (n + inactiveReadings conversation) st log s := by
  by_cases hopen : conversation.status = .opened
  · rw [isInactive, inactiveReadings, if_neg (not_not.mpr hopen), if_pos hopen]
    rfl
  · rw [isInactive, inactiveReadings, if_pos hopen, if_neg hopen, isInactiveAt,
      decide_eq_false hopen]
    rfl

/-- An active conversation is left alone. -/
lemma exec_maybeCloseInactive_active
    (h : isInactiveAt settings conversation (cs n).now = false) (f : Conversation → Txn α) :
    exec cs ((maybeCloseInactive settings conversationId conversation).bind f) n st log s
      = exec cs (f conversation) (n + inactiveReadings conversation) st log s := by
  rw [maybeCloseInactive, Prog.bind_eq, Prog.bind_assoc, exec_isInactive, h]
  rfl

/-! ### New messages -/

/-- A message breaks no unique index but that of its identifier. -/
lemma clashes_message {v : Db} {id : UUID} {m : Message} (h : v.lookup (.message id) = none) :
    clashes v (.message id) m = false := by
  have hany : (v.entries.any fun e => Table.clash (.message id) m e.1 e.2) = false := by
    refine List.any_eq_false.mpr fun e _ => ?_
    obtain ⟨k, r⟩ := e
    cases k <;> simp [Table.clash, uniqueClash]
  rw [clashes, h, hany]
  rfl

/-- The session `s` after it has sent a new message. -/
def sent (st : Db) (s : AppSession) (id : UUID) (m : Message) : AppSession :=
  (Session.write st { s with objects := s.objects.insert (.message id) ⟨none, m⟩ } (.message id)
    (some m)).sync (.message id) m

lemma sent_objects {id : UUID} {m : Message} {k : Key} (h : k ≠ .message id) :
    (sent st s id m).objects.lookup k = s.objects.lookup k := by
  rw [sent, lookup_sync_ne _ _ h, write_objects, AList.lookup_insert_ne h]

lemma sent_held {id : UUID} {m : Message} {k : Key} (h : k ≠ .message id) :
    (sent st s id m).held.lookup k = s.held.lookup k := by
  rw [sent, sync_held, lookup_write_ne _ _ _ h]

lemma sent_view {id : UUID} {m : Message} {k : Key} (h : k ≠ .message id) :
    ((sent st s id m).view st).lookup k = (s.view st).lookup k := by
  rw [lookup_view, lookup_view, sent_held h]

lemma sent_clean (hclean : s.Clean) (id : UUID) (m : Message) : (sent st s id m).Clean := by
  intro k o ho
  by_cases h : k = .message id
  · subst h
    rw [sent, lookup_sync_self] at ho
    cases ho
    rfl
  · rw [sent_objects h] at ho
    exact hclean k o ho

/-- A message under a new identifier is sent. -/
lemma exec_sendMessage {authorType : AuthorType} {authorUserId : Option UUID} {content : String}
    {now : DateTime} (hclean : s.Clean)
    (hid : s.objects.lookup (.message (cs n).uuid) = none)
    (hfresh : (s.view st).lookup (.message (cs n).uuid) = none) (f : UUID → Txn α) :
    exec cs ((sendMessage conversationId authorType authorUserId content now).bind f) n st log s
      = exec cs (f (cs n).uuid) (n + 4) st log
          (sent st s (cs n).uuid ⟨conversationId, authorType, authorUserId, content, now⟩) := by
  simp only [sendMessage, Prog.bind_eq, Prog.pure_eq, Prog.bind_assoc]
  rw [exec_uuid4, exec_add _ hid,
    exec_flush_one (r := (⟨conversationId, authorType, authorUserId, content, now⟩ : Message))
      (fun k o _ ho => hclean k o ho) (by simp)]
  · rfl
  · have hsend := eval_flushKey_new (c := cs (n + 2))
      (s := { s with
        objects := s.objects.insert (.message (cs n).uuid)
          ⟨none, (⟨conversationId, authorType, authorUserId, content, now⟩ : Message)⟩ })
      (AList.lookup_insert _) rfl (clashes_message hfresh)
    exact hsend

/-- An inactive conversation is closed on the way. -/
lemma exec_maybeCloseInactive_expired (log : List Event)
    (hs : s.Opened (.conversation conversationId) conversation)
    (hinactive : isInactiveAt settings conversation (cs n).now = true)
    (hid : s.objects.lookup (.message (cs (n + 2)).uuid) = none)
    (hfresh : (s.view st).lookup (.message (cs (n + 2)).uuid) = none) (f : Conversation → Txn α) :
    ∃ n' s', exec cs ((maybeCloseInactive settings conversationId conversation).bind f) n st log s
      = exec cs (f (conversation.expire (cs (n + 1)).now)) n' st log s' := by
  have hopen : conversation.status = .opened := by
    rw [isInactiveAt, Bool.and_eq_true] at hinactive
    exact of_decide_eq_true hinactive.1
  have hreadings : inactiveReadings conversation = 1 := if_pos hopen
  simp only [maybeCloseInactive, Prog.bind_eq, Prog.bind_assoc]
  rw [exec_isInactive, hinactive, hreadings]
  simp only [if_true, Prog.bind_assoc, closeForInactivity, if_neg (not_not.mpr hopen),
    Prog.bind_eq, Prog.pure_eq]
  rw [exec_utcnow, exec_sendMessage hs.clean hid hfresh, exec_assign,
    exec_record, exec_record]
  · exact ⟨_, _, rfl⟩
  · rw [sent_objects (by simp), hs.object]

/-- The end of a transaction in which one object over a held row was set. -/
lemma exec_finish {a : α} {k : Key} {r r' : Row k} {pending : List Event} (hclean : s.Clean)
    (hview : (s.view st).lookup k = some r) :
    (exec cs (Prog.flush.bind fun _ => (.commit (.publish (.pure a)) : Txn α)) n st log
      { s with objects := s.objects.insert k ⟨some r, r'⟩, pending := pending }).result
      = .ok a := by
  by_cases hsame : r = r'
  · subst hsame
    rw [exec_flush_clean]
    · rfl
    · intro k' o ho
      by_cases hk : k' = k
      · subst hk
        rw [AList.lookup_insert] at ho
        cases ho
        rfl
      · rw [AList.lookup_insert_ne hk] at ho
        exact hclean k' o ho
  · have hset : (s.objects.insert k ⟨some r, r'⟩).lookup k = some ⟨some r, r'⟩ :=
      AList.lookup_insert _
    have hsend := eval_flushKey_old (c := cs (n + 1))
      (s := { s with objects := s.objects.insert k ⟨some r, r'⟩, pending := pending })
      hset rfl hsame hview
    rw [exec_flush_one (s := { s with pending := pending }) (fun k' o _ ho => hclean k' o ho)
      (by simpa using hsame) hsend]
    rfl

end Exec

end MarketHub
