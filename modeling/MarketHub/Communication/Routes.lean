import MarketHub.Communication.Lifecycle

/-!
Conversations: scoped loading, routes and the closing job (`app/communication/access.py`,
`app/communication/routes.py`, `app/communication/close_inactive.py`).

The scoped statements lock the conversation only (`FOR UPDATE OF conversations`).
`listConversations` first loads the conversations of an item and then locks the open
ones, one by one, in the same session.
-/

namespace MarketHub

open ReadCommitted

/-! ### Scoped loading -/

/-- `load_participant_item`. -/
def loadParticipantItem (itemId : UUID) (user : CurrentUser) (forUpdate : Bool := false) :
    Txn OrderItem :=
  match user.role, user.sellerId with
  | .seller, some sellerId => loadSellerItem itemId sellerId forUpdate
  | .buyer, _ => loadBuyerItem itemId user.id forUpdate
  | _, _ => Prog.throw (.resourceNotFound "Order item not found")

/-- The joins of a scoped conversation: its item with the order and the offer of it. -/
def conversationScope (conversationId : UUID) (scope : Order → Offer → Bool) (v : Db) :
    Option (List Key) := do
  let conversation ← Db.conversation v conversationId
  let item ← Db.orderItem v conversation.orderItemId
  let order ← Db.order v item.orderId
  let offer ← Db.offer v item.offerId
  if scope order offer then some [.conversation conversationId] else none

/-- `load_participant_conversation` with `for_update=True`. -/
def loadParticipantConversation (conversationId : UUID) (user : CurrentUser) :
    Txn Conversation := do
  let scope : Order → Offer → Bool ←
    match user.role, user.sellerId with
    | .seller, some sellerId => pure fun _ offer => offer.sellerId == sellerId
    | .buyer, _ => pure fun order _ => order.buyerId == user.id
    | _, _ => Prog.throw (.resourceNotFound "Conversation not found")
  let conversation ← Prog.scalar (.conversation conversationId)
    (conversationScope conversationId scope)
  loadOr (k := .conversation conversationId) (.resourceNotFound "Conversation not found")
    conversation

/-- The joins of `load_seller_conversation`: the item of the conversation and its
offer. -/
def sellerConversationStatement (conversationId sellerId : UUID) (v : Db) :
    Option (List Key) := do
  let conversation ← Db.conversation v conversationId
  let item ← Db.orderItem v conversation.orderItemId
  let offer ← Db.offer v item.offerId
  if offer.sellerId == sellerId then some [.conversation conversationId] else none

/-- `load_seller_conversation` with `for_update=True`. -/
def loadSellerConversation (conversationId sellerId : UUID) : Txn Conversation := do
  let conversation ← Prog.scalar (.conversation conversationId)
    (sellerConversationStatement conversationId sellerId)
  loadOr (k := .conversation conversationId) (.resourceNotFound "Conversation not found")
    conversation

/-- The statement that locks one conversation by its identifier. -/
def conversationStatement (conversationId : UUID) (v : Db) : Option (List Key) :=
  (Db.conversation v conversationId).map fun _ => [.conversation conversationId]

/-! ### Routes -/

/-- `ConversationResponse`. -/
structure ConversationResponse where
  id : UUID
  orderItemId : UUID
  reason : ConversationReason
  status : ConversationStatus
  createdAt : DateTime
  updatedAt : DateTime
  lastInteractionAt : DateTime
  effectivePriority : Priority
  deriving DecidableEq

/-- `_to_conversation_response`. -/
def toConversationResponse (id : UUID) (conversation : Conversation) : ConversationResponse where
  id := id
  orderItemId := conversation.orderItemId
  reason := conversation.reason
  status := conversation.status
  createdAt := conversation.createdAt
  updatedAt := conversation.updatedAt
  lastInteractionAt := conversation.lastInteractionAt
  effectivePriority := conversation.effectivePriority

/-- `create_conversation`: the response, and whether the conversation is new. -/
def createConversation (itemId : UUID) (reason : ConversationReason) (user : CurrentUser) :
    Txn (ConversationResponse × Bool) := do
  let _ ← loadParticipantItem itemId user true
  let ((id, conversation), created) ← getOrCreateConversation itemId reason
  return (toConversationResponse id conversation, created)

/-- The conversations of an item, the latest interaction first: their objects are
loaded. -/
def selectConversations (itemId : UUID) : Txn (List UUID) :=
  Prog.lift (.select false
    (fun v => (((Db.conversations v).filter fun c => c.2.orderItemId == itemId).insertionSort
      fun a b => b.2.lastInteractionAt ≤ a.2.lastInteractionAt).map Prod.fst)
    (fun id => [.conversation id]) (fun _ => []))

/-- One turn of the closing loop of `list_conversations`. -/
def closeListed (settings : Settings) (id : UUID) : Txn Unit := do
  let conversation : Option Conversation ← Prog.attrs (Key.conversation id)
  match conversation with
  | none => pure ()
  | some conversation =>
      if conversation.status = .opened then
        let locked : Option Conversation ←
          Prog.scalar (Key.conversation id) (conversationStatement id)
        match locked with
        | none => pure ()
        | some locked => let _ ← maybeCloseInactive settings id locked
      else pure ()

/-- The closing loop of `list_conversations`. -/
def closeAllListed (settings : Settings) : List UUID → Txn Unit
  | [] => pure ()
  | id :: ids => do
      closeListed settings id
      closeAllListed settings ids

/-- The responses for the objects of the given conversations. -/
def listResponses : List UUID → Txn (List ConversationResponse)
  | [] => pure []
  | id :: ids => do
      let conversation : Option Conversation ← Prog.attrs (Key.conversation id)
      let responses ← listResponses ids
      return (conversation.map (toConversationResponse id)).toList ++ responses

/-- `list_conversations`. -/
def listConversations (settings : Settings) (itemId : UUID) (user : CurrentUser) :
    Txn (List ConversationResponse) := do
  let _ ← loadParticipantItem itemId user
  let conversations ← selectConversations itemId
  closeAllListed settings conversations
  let conversations ← selectConversations itemId
  listResponses conversations

/-- `get_conversation`. -/
def getConversation (settings : Settings) (conversationId : UUID) (user : CurrentUser) :
    Txn ConversationResponse := do
  let conversation ← loadParticipantConversation conversationId user
  let conversation ← maybeCloseInactive settings conversationId conversation
  return toConversationResponse conversationId conversation

/-- `close_conversation`. -/
def closeConversation (settings : Settings) (conversationId : UUID) (seller : CurrentUser) :
    Txn ConversationResponse := do
  let sellerId ← requireSeller seller
  let conversation ← loadSellerConversation conversationId sellerId
  let conversation ← closeBySeller settings conversationId conversation
  return toConversationResponse conversationId conversation

/-- `create_message`. -/
def createMessage (settings : Settings) (conversationId : UUID) (content : String)
    (user : CurrentUser) : Txn UUID := do
  let conversation ← loadParticipantConversation conversationId user
  addMessage settings conversationId conversation user content

/-- `MessageListResponse`. -/
structure MessageListResponse where
  items : List (UUID × Message)
  lower : DateTime
  upper : DateTime
  hasOlder : Bool
  deriving DecidableEq

/-- The filters of `list_messages`. -/
def MessageWindow.contains (window : MessageWindow) (t : DateTime) : Bool :=
  window.lower ≤ t && if window.exclusiveTo then t < window.upper else t ≤ window.upper

/-- The messages of a conversation in a window, in the order of their creation. -/
def selectMessages (conversationId : UUID) (window : MessageWindow) (v : Db) :
    List (UUID × Message) :=
  ((Db.messages v).filter fun m =>
    m.2.conversationId == conversationId && window.contains m.2.createdAt).insertionSort
      fun a b => a.2.createdAt ≤ b.2.createdAt

/-- Whether a conversation has messages before a window. -/
def existsOlder (conversationId : UUID) (window : MessageWindow) (v : Db) : Bool :=
  (Db.messages v).any fun m => m.2.conversationId == conversationId && m.2.createdAt < window.lower

/-- `list_messages`. -/
def listMessages (settings : Settings) (conversationId : UUID) (user : CurrentUser)
    (before : Option QueryDateTime) : Txn MessageListResponse := do
  let parsedBefore ← validateBefore before
  let conversation ← loadParticipantConversation conversationId user
  let _ ← maybeCloseInactive settings conversationId conversation
  let now ← Prog.utcnow
  let window := messageWindow parsedBefore now
  let items ← Prog.lift (.select false (selectMessages conversationId window)
    (fun m => [.message m.1]) (fun _ => []))
  let hasOlder ← Prog.query (existsOlder conversationId window)
  return { items := items, lower := window.lower, upper := window.upper, hasOlder := hasOlder }

/-! ### The closing job -/

/-- `_eligible_ids`. -/
def eligibleIds (settings : Settings) : Txn (List UUID) := do
  let now ← Prog.utcnow
  Prog.query fun v => ((Db.conversations v).filter fun c =>
    c.2.status == .opened && decide (c.2.lastInteractionAt ≤ inactivityCutoff settings now)).map
      Prod.fst

/-- `close_one_inactive`. -/
def closeOneInactive (settings : Settings) (conversationId : UUID) : Txn Bool := do
  let conversation : Option Conversation ←
    Prog.scalar (Key.conversation conversationId) (conversationStatement conversationId) true
  match conversation with
  | none => return false
  | some conversation =>
      let inactive ← isInactive settings conversation
      if inactive then
        let (closed, _) ← closeForInactivity conversationId conversation
        return closed
      else return false

/-- The transactions of `run_close_inactive`, one for each conversation: how many they
closed. -/
def closeEach (settings : Settings) : List UUID → Txn ℕ
  | [] => pure 0
  | id :: ids => do
      let closed ← Prog.transaction (closeOneInactive settings id)
      let rest ← closeEach settings ids
      return if closed then rest + 1 else rest

/-- `run_close_inactive`. -/
def runCloseInactive (settings : Settings) : Txn ℕ := do
  let ids ← Prog.transaction (eligibleIds settings)
  closeEach settings ids

/-! ### Requests -/

/-- The requests around conversations, and the closing job. -/
inductive ConversationRequest where
  | createConversation (itemId : UUID) (reason : ConversationReason) (user : CurrentUser)
  | listConversations (itemId : UUID) (user : CurrentUser)
  | getConversation (conversationId : UUID) (user : CurrentUser)
  | closeConversation (conversationId : UUID) (seller : CurrentUser)
  | createMessage (conversationId : UUID) (content : String) (user : CurrentUser)
  | listMessages (conversationId : UUID) (user : CurrentUser) (before : Option QueryDateTime)
  | runCloseInactive

/-- The transaction of a request; the closing job has one for each conversation. -/
def ConversationRequest.run (settings : Settings) : ConversationRequest → Txn Unit
  | .createConversation itemId reason user =>
      Prog.transaction do let _ ← MarketHub.createConversation itemId reason user
  | .listConversations itemId user =>
      Prog.transaction do let _ ← MarketHub.listConversations settings itemId user
  | .getConversation conversationId user =>
      Prog.transaction do let _ ← MarketHub.getConversation settings conversationId user
  | .closeConversation conversationId seller =>
      Prog.transaction do let _ ← MarketHub.closeConversation settings conversationId seller
  | .createMessage conversationId content user =>
      Prog.transaction do let _ ← MarketHub.createMessage settings conversationId content user
  | .listMessages conversationId user before =>
      Prog.transaction do let _ ← MarketHub.listMessages settings conversationId user before
  | .runCloseInactive => do let _ ← MarketHub.runCloseInactive settings

end MarketHub
