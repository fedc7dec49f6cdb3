import MarketHub.Orders.Listing
import MarketHub.Support.PriorityOps

/-!
The listings of Ops: all order items (`app/support/listing.py`, `ops_list_statement` of
`app/support/access.py`) and the queue of open conversations (`_queue_statement`,
`list_open_queue` and `preview_open_queue` of `app/support/priority_ops.py`).

The queue orders by `PriorityRank` of the SQL expression `EffectivePriority`; the items it
shows carry the effective priority of `effective_priority`.
-/

namespace MarketHub

open ReadCommitted OffsetPaging

/-! ### All order items -/

/-- An order item in the eyes of Ops. -/
structure OpsItemContext where
  context : ItemContext
  seller : Seller
  deriving DecidableEq

/-- The further join with the seller. -/
def opsItemContext (v : Db) (id : UUID) (item : OrderItem) : Option OpsItemContext := do
  let context ← itemContext v id item
  let seller ← Db.seller v context.offer.sellerId
  return { context := context, seller := seller }

/-- The entities of a row. -/
def OpsItemContext.entities (row : OpsItemContext) : List Key :=
  row.context.entities ++ [.seller row.context.offer.sellerId]

/-- `ops_list_statement`. -/
def opsListStatement (v : Db) : List OpsItemContext :=
  (Db.orderItems v).filterMap fun item => opsItemContext v item.1 item.2

/-- `created_at DESC`. -/
def OpsItemContext.newestFirst (row : OpsItemContext) : DateTimeᵒᵈ := row.context.newestFirst

/-- `OpsOrderItemListItem`. -/
structure OpsOrderItemListItem where
  orderItemId : UUID
  number : String
  productId : UUID
  productName : String
  quantity : ℕ
  purchasePrice : String
  status : OrderItemStatus
  createdAt : DateTime
  buyerId : UUID
  buyerName : String
  sellerId : UUID
  sellerName : String
  orderId : UUID
  deriving DecidableEq

/-- `_list_item`. -/
def OpsItemContext.listItem (row : OpsItemContext) : OpsOrderItemListItem where
  orderItemId := row.context.id
  number := itemNumber row.context.order.number row.context.item.line
  productId := row.context.offer.productId
  productName := row.context.product.name
  quantity := row.context.item.quantity
  purchasePrice := formatPrice row.context.item.purchasePrice
  status := row.context.item.status
  createdAt := row.context.item.createdAt
  buyerId := row.context.order.buyerId
  buyerName := row.context.buyer.name
  sellerId := row.context.offer.sellerId
  sellerName := row.seller.name
  orderId := row.context.item.orderId

/-- The rows that `list_ops_order_items` counts and shows. -/
def opsItems (filters : ItemFilters) (sellerId : Option UUID) (number : Option (ℕ × Option ℕ))
    (v : Db) : List OpsItemContext :=
  (opsListStatement v).filter fun row =>
    filters.admits number row.context && sellerId.all (row.context.offer.sellerId == ·)

/-- `list_order_items_for_ops` with `list_ops_order_items`. -/
def listOpsOrderItems (ops : CurrentUser) (filters : ItemFilters) (sellerId : Option UUID)
    (sorting : Sorting OpsItemContext.newestFirst) (query : PageQuery) :
    Txn (Envelope OpsOrderItemListItem) := do
  requireOps ops
  let number ← parseNumberFilter filters.publicNumber
  paginate (opsItems filters sellerId number) (numberParameters number) OpsItemContext.entities
    sorting OpsItemContext.listItem query

/-! ### The queue -/

/-- `EffectivePriority`. -/
def sqlEffectivePriority (conversation : Conversation) : Priority :=
  if conversation.opsOverride = some .critical then .critical else conversation.calculatedPriority

/-- `PriorityRank`. -/
def priorityRank (conversation : Conversation) : ℕ :=
  match sqlEffectivePriority conversation with
  | .critical => 0
  | .high => 1
  | .medium => 2
  | .low => 3

/-- `OpsConversation`. -/
structure OpsConversation where
  id : UUID
  orderItemId : UUID
  reason : ConversationReason
  status : ConversationStatus
  createdAt : DateTime
  updatedAt : DateTime
  lastInteractionAt : DateTime
  calculatedPriority : Priority
  opsOverride : Option Priority
  effectivePriority : Priority
  deriving DecidableEq

/-- `to_ops_conversation`. -/
def toOpsConversation (id : UUID) (conversation : Conversation) : OpsConversation where
  id := id
  orderItemId := conversation.orderItemId
  reason := conversation.reason
  status := conversation.status
  createdAt := conversation.createdAt
  updatedAt := conversation.updatedAt
  lastInteractionAt := conversation.lastInteractionAt
  calculatedPriority := conversation.calculatedPriority
  opsOverride := conversation.opsOverride
  effectivePriority :=
    effectivePriority conversation.calculatedPriority conversation.opsOverride

/-- A row of the queue. -/
structure QueueRow where
  id : UUID
  conversation : Conversation
  context : OpsItemContext
  deriving DecidableEq

/-- The joins of a conversation with its item and those of the item. -/
def queueRow (v : Db) (id : UUID) (conversation : Conversation) : Option QueueRow := do
  let item ← Db.orderItem v conversation.orderItemId
  let context ← opsItemContext v conversation.orderItemId item
  return { id := id, conversation := conversation, context := context }

/-- The entities of a row. -/
def QueueRow.entities (row : QueueRow) : List Key :=
  .conversation row.id :: row.context.entities

/-- `_queue_statement`. -/
def queueStatement (v : Db) : List QueueRow :=
  ((Db.conversations v).filterMap fun conversation =>
    queueRow v conversation.1 conversation.2).filter
    fun row => row.conversation.status == .opened

/-- `PriorityRank, last_interaction_at DESC`. -/
def QueueRow.mostUrgentFirst (row : QueueRow) : ℕ ×ₗ DateTimeᵒᵈ :=
  toLex (priorityRank row.conversation, OrderDual.toDual row.conversation.lastInteractionAt)

/-- `OpsConversationQueueItem`. -/
structure OpsConversationQueueItem where
  base : OpsConversation
  number : String
  sellerId : UUID
  sellerName : String
  productId : UUID
  productName : String
  buyerId : UUID
  buyerName : String
  orderItemStatus : OrderItemStatus
  purchasePrice : String
  deriving DecidableEq

/-- `_queue_item`. -/
def QueueRow.queueItem (row : QueueRow) : OpsConversationQueueItem where
  base := toOpsConversation row.id row.conversation
  number := itemNumber row.context.context.order.number row.context.context.item.line
  sellerId := row.context.context.offer.sellerId
  sellerName := row.context.seller.name
  productId := row.context.context.offer.productId
  productName := row.context.context.product.name
  buyerId := row.context.context.order.buyerId
  buyerName := row.context.context.buyer.name
  orderItemStatus := row.context.context.item.status
  purchasePrice := formatPrice row.context.context.item.purchasePrice

/-- The filters of the queue. -/
structure QueueFilters where
  sellerId : Option UUID := none
  orderItemId : Option UUID := none
  publicNumber : Option PublicNumber := none
  effective : Option Priority := none

/-- The `WHERE` clauses of the filters. -/
def QueueFilters.admits (filters : QueueFilters) (number : Option (ℕ × Option ℕ)) (row : QueueRow) :
    Bool :=
  filters.sellerId.all (row.context.context.offer.sellerId == ·)
    && filters.orderItemId.all (row.conversation.orderItemId == ·)
    && applyPublicNumberFilter number row.context.context.order row.context.context.item
    && filters.effective.all (sqlEffectivePriority row.conversation == ·)

/-- The rows that `list_open_queue` counts and shows. -/
def openQueue (filters : QueueFilters) (number : Option (ℕ × Option ℕ)) (v : Db) : List QueueRow :=
  (queueStatement v).filter (filters.admits number)

/-- `list_ops_conversation_queue` with `list_open_queue`. -/
def listOpenQueue (ops : CurrentUser) (filters : QueueFilters)
    (sorting : Sorting QueueRow.mostUrgentFirst) (query : PageQuery) :
    Txn (Envelope OpsConversationQueueItem) := do
  requireOps ops
  let number ← parseNumberFilter filters.publicNumber
  paginate (openQueue filters number) (numberParameters number) QueueRow.entities sorting
    QueueRow.queueItem query

/-- `preview_open_queue`. -/
def previewOpenQueue (sorting : Sorting QueueRow.mostUrgentFirst) (limit : ℕ) :
    Txn (List OpsConversationQueueItem) := do
  let rows ← Prog.lift (.select false (fun v => (sorting.sort (queueStatement v)).take limit)
    QueueRow.entities (fun _ => []))
  return rows.map QueueRow.queueItem

end MarketHub
