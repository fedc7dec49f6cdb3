import MarketHub.Communication.Lifecycle

/-!
Priorities in the hands of Ops (`app/support/priority_ops.py`, `app/support/comments.py`,
`app/support/access.py` and the priority routes of `app/support/routes.py`).

The routes lock the conversation; its item is read without a lock.
-/

namespace MarketHub

open ReadCommitted

/-- `load_ops_item`. -/
def loadOpsItem (itemId : UUID) : Txn OrderItem := do
  let item ← Prog.get (.orderItem itemId)
  loadOr (k := .orderItem itemId) (.resourceNotFound "Order item not found") item

/-- `load_ops_conversation` with `for_update=True`. -/
def loadOpsConversation (conversationId : UUID) : Txn Conversation := do
  let conversation ← Prog.scalar (.conversation conversationId)
    (fun v => (Db.conversation v conversationId).map fun _ => [.conversation conversationId])
  loadOr (k := .conversation conversationId) (.resourceNotFound "Conversation not found")
    conversation

/-- `author_type_for` of comments. -/
def commentAuthorTypeFor (user : CurrentUser) : Txn AuthorType :=
  match user.role with
  | .seller => pure .seller
  | .ops => pure .ops
  | .buyer => Prog.throw (.forbidden "Seller or Ops role required")

/-- `create_comment`. -/
def createComment (orderItemId : UUID) (user : CurrentUser) (content : String) : Txn UUID := do
  let authorType ← commentAuthorTypeFor user
  let id ← Prog.uuid4
  let createdAt ← Prog.utcnow
  Prog.add (.internalComment id)
    { orderItemId := orderItemId
      authorId := user.id
      authorType := authorType
      content := content
      createdAt := createdAt }
  Prog.flush
  Prog.record (.internalCommentCreated id orderItemId)
  return id

/-- `refresh_calculated_priority`. -/
def refreshCalculatedPriority (conversationId : UUID) (conversation : Conversation) :
    Txn Conversation := do
  let item ← loadOpsItem conversation.orderItemId
  let now ← Prog.utcnow
  let _ ← applyCalculatedPriority conversationId conversation item now
  Prog.flush
  return recalculate conversation item now

/-- A new override of Ops, with the time of the change. -/
def setOverride (conversationId : UUID) (conversation : Conversation)
    (override : Option Priority) : Txn Conversation := do
  let now ← Prog.utcnow
  let changed := { conversation with opsOverride := override, updatedAt := now }
  Prog.assign (.conversation conversationId) changed
  recordPriorityChange conversationId conversation.effectivePriority changed.effectivePriority now
  Prog.flush
  return changed

/-- `apply_critical`. -/
def applyCritical (conversationId : UUID) (conversation : Conversation) (user : CurrentUser)
    (justification : String) : Txn Conversation := do
  if conversation.opsOverride = some .critical then
    Prog.throw (.invalidTransition "Conversation is already critical")
  else
    let _ ← createComment conversation.orderItemId user justification
    setOverride conversationId conversation (some .critical)

/-- `remove_critical`. -/
def removeCritical (conversationId : UUID) (conversation : Conversation) : Txn Conversation :=
  if conversation.opsOverride = none then
    Prog.throw (.invalidTransition "Conversation has no critical override")
  else setOverride conversationId conversation none

/-- `refresh_ops_conversation_priority`. -/
def refreshOpsConversationPriority (conversationId : UUID) (ops : CurrentUser) :
    Txn Conversation := do
  requireOps ops
  let conversation ← loadOpsConversation conversationId
  refreshCalculatedPriority conversationId conversation

/-- `mark_conversation_critical`. -/
def markConversationCritical (conversationId : UUID) (justification : String)
    (ops : CurrentUser) : Txn Conversation := do
  requireOps ops
  let conversation ← loadOpsConversation conversationId
  applyCritical conversationId conversation ops justification

/-- `remove_conversation_critical`. -/
def removeConversationCritical (conversationId : UUID) (ops : CurrentUser) :
    Txn Conversation := do
  requireOps ops
  let conversation ← loadOpsConversation conversationId
  removeCritical conversationId conversation

/-- The requests of Ops that change a priority. -/
inductive OpsRequest where
  | refreshOpsConversationPriority (conversationId : UUID) (ops : CurrentUser)
  | markConversationCritical (conversationId : UUID) (justification : String) (ops : CurrentUser)
  | removeConversationCritical (conversationId : UUID) (ops : CurrentUser)

/-- The transaction of a request. -/
def OpsRequest.run : OpsRequest → Txn Unit
  | .refreshOpsConversationPriority conversationId ops =>
      Prog.transaction do let _ ← MarketHub.refreshOpsConversationPriority conversationId ops
  | .markConversationCritical conversationId justification ops =>
      Prog.transaction do
        let _ ← MarketHub.markConversationCritical conversationId justification ops
  | .removeConversationCritical conversationId ops =>
      Prog.transaction do let _ ← MarketHub.removeConversationCritical conversationId ops

end MarketHub
