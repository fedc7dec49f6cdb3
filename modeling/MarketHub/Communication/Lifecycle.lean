import MarketHub.Communication.Priority

/-!
The life of a conversation (`app/communication/lifecycle.py`).

`isInactiveAt` is the inactivity rule at a given reading of the clock. The functions
that apply it on the way (`maybeCloseInactive`) read the clock once for the rule and
once more for the closure. A conversation is passed around with the attribute values
its object has.
-/

namespace MarketHub

open ReadCommitted

/-- `SYSTEM_CLOSE_MESSAGE`. -/
def systemCloseMessage : String :=
  "Esta conversa foi encerrada automaticamente após 5 dias sem novas mensagens. " ++
  "Se precisar de ajuda novamente, inicie uma nova conversa."

/-- `MESSAGE_WINDOW`. -/
def messageWindowLength : ℤ := hours 24

/-- `inactivity_cutoff`. -/
def inactivityCutoff (settings : Settings) (now : DateTime) : DateTime :=
  now - hours settings.conversationInactivityHours

/-- `is_inactive` at a given reading of the clock. -/
def isInactiveAt (settings : Settings) (conversation : Conversation) (now : DateTime) : Bool :=
  conversation.status = .opened &&
    conversation.lastInteractionAt ≤ inactivityCutoff settings now

/-- `is_inactive`: the clock is read only for an open conversation. -/
def isInactive (settings : Settings) (conversation : Conversation) : Txn Bool := do
  if conversation.status ≠ .opened then return false
  else
    let now ← Prog.utcnow
    return isInactiveAt settings conversation now

/-- `_touch`. -/
def Conversation.touch (conversation : Conversation) (now : DateTime) : Conversation :=
  { conversation with updatedAt := now, lastInteractionAt := now }

/-- `_open_for_item`: the object of the open conversation of an item. -/
def openForItem (orderItemId : UUID) : Txn (Option (UUID × Conversation)) := do
  let ids ← Prog.lift (.select false
    (fun v => ((Db.conversations v).filter fun c =>
      c.2.orderItemId == orderItemId && c.2.status == .opened).map Prod.fst)
    (fun id => [.conversation id]) (fun _ => []))
  match ids.head? with
  | none => return none
  | some id =>
      let conversation : Option Conversation ← Prog.attrs (Key.conversation id)
      return conversation.map fun conversation => (id, conversation)

/-- The conversation `get_or_create_conversation` inserts. -/
def newConversation (orderItemId : UUID) (reason : ConversationReason) (item : OrderItem)
    (now : DateTime) : Conversation where
  orderItemId := orderItemId
  reason := reason
  status := .opened
  createdAt := now
  updatedAt := now
  lastInteractionAt := now
  calculatedPriority := calculatePriority reason item.status now item.purchasePrice now
  opsOverride := none
  priorityCalculatedAt := some now

/-- `get_or_create_conversation`. -/
def getOrCreateConversation (orderItemId : UUID) (reason : ConversationReason) :
    Txn ((UUID × Conversation) × Bool) := do
  let existing ← openForItem orderItemId
  match existing with
  | some existing => return (existing, false)
  | none =>
      let now ← Prog.utcnow
      let item : Option OrderItem ← Prog.get (Key.orderItem orderItemId)
      let item ← loadOr (k := .orderItem orderItemId)
        (.resourceNotFound "Order item not found") item
      let id ← Prog.uuid4
      let conversation := newConversation orderItemId reason item now
      let inserted ← Prog.insertNested (.conversation id) conversation
      if inserted then
        Prog.record (.conversationCreated id orderItemId)
        return ((id, conversation), true)
      else
        let existing ← openForItem orderItemId
        match existing with
        | some existing => return (existing, false)
        | none => .raise .database

/-- A new message, sent at once; `now` is its `created_at`. -/
def sendMessage (conversationId : UUID) (authorType : AuthorType) (authorUserId : Option UUID)
    (content : String) (now : DateTime) : Txn UUID := do
  let id ← Prog.uuid4
  Prog.add (.message id)
    { conversationId := conversationId
      authorType := authorType
      authorUserId := authorUserId
      content := content
      createdAt := now }
  Prog.flush
  return id

/-- `close_for_inactivity`: whether it closed the conversation, and its attributes
afterwards. -/
def closeForInactivity (conversationId : UUID) (conversation : Conversation) :
    Txn (Bool × Conversation) := do
  if conversation.status ≠ .opened then return (false, conversation)
  else
    let now ← Prog.utcnow
    let messageId ← sendMessage conversationId .system none systemCloseMessage now
    let closed := { conversation with status := .closed }.touch now
    Prog.assign (.conversation conversationId) closed
    Prog.record (.messageCreated messageId conversationId)
    Prog.record (.conversationClosed conversationId .inactivity)
    return (true, closed)

/-- `maybe_close_inactive`. -/
def maybeCloseInactive (settings : Settings) (conversationId : UUID)
    (conversation : Conversation) : Txn Conversation := do
  let inactive ← isInactive settings conversation
  if inactive then
    let (_, conversation) ← closeForInactivity conversationId conversation
    return conversation
  else return conversation

/-- `close_by_seller`. -/
def closeBySeller (settings : Settings) (conversationId : UUID) (conversation : Conversation) :
    Txn Conversation := do
  let conversation ← maybeCloseInactive settings conversationId conversation
  if conversation.status ≠ .opened then
    Prog.throw (.invalidTransition "Conversation is already closed")
  else
    let now ← Prog.utcnow
    let closed := { conversation with status := .closed, updatedAt := now }
    Prog.assign (.conversation conversationId) closed
    Prog.record (.conversationClosed conversationId .manual)
    return closed

/-- `author_type_for`. -/
def authorTypeFor (user : CurrentUser) : Txn AuthorType :=
  match user.role with
  | .seller => pure .seller
  | .buyer => pure .buyer
  | .ops => Prog.throw (.forbidden "Buyer or Seller role required")

/-- `add_message`. -/
def addMessage (settings : Settings) (conversationId : UUID) (conversation : Conversation)
    (user : CurrentUser) (content : String) : Txn UUID := do
  let conversation ← maybeCloseInactive settings conversationId conversation
  if conversation.status ≠ .opened then
    Prog.throw (.invalidTransition "Conversation is closed")
  else
    let now ← Prog.utcnow
    let authorType ← authorTypeFor user
    let messageId ← sendMessage conversationId authorType (some user.id) content now
    Prog.assign (.conversation conversationId) (conversation.touch now)
    Prog.record (.messageCreated messageId conversationId)
    return messageId

/-- What `message_window` returns: `from`, `to`, and whether `to` is excluded. -/
structure MessageWindow where
  lower : DateTime
  upper : DateTime
  exclusiveTo : Bool
  deriving DecidableEq

/-- `message_window`. -/
def messageWindow (before : Option DateTime) (now : DateTime) : MessageWindow :=
  match before with
  | none => ⟨now - messageWindowLength, now, false⟩
  | some before => ⟨before - messageWindowLength, before, true⟩

/-- `validate_before`, with the location that `_parse_before` adds to its errors. -/
def validateBefore (before : Option QueryDateTime) : Txn (Option DateTime) :=
  match before with
  | none => pure none
  | some before => do
      if !before.aware then
        Prog.throw (.requestValidation ["query", "before"] "before must be timezone-aware")
      else
        let moment ← Prog.utcnow
        if before.instant > moment then
          Prog.throw (.requestValidation ["query", "before"] "before cannot be in the future")
        else return some before.instant

end MarketHub
