import MarketHub.Orders.Reading
import MarketHub.Support.Listing

/-!
One order item and one conversation in the eyes of Ops (`get_ops_order_item` of
`app/support/listing.py`, `get_order_item_for_ops` and `get_ops_conversation` of
`app/support/routes.py`, `load_ops_item_context` of `app/support/access.py`).
-/

namespace MarketHub

open ReadCommitted

/-- `OpsOrderItemDetail`. -/
structure OpsOrderItemDetail where
  id : UUID
  number : String
  offerId : UUID
  quantity : ℕ
  purchasePrice : String
  status : OrderItemStatus
  createdAt : DateTime
  updatedAt : DateTime
  productId : UUID
  productName : String
  productDescription : Option String
  buyerId : UUID
  buyerName : String
  sellerId : UUID
  sellerName : String
  orderId : UUID
  orderNumber : ℕ
  orderCreatedAt : DateTime

/-- `_detail`. -/
def OpsItemContext.detail (row : OpsItemContext) : OpsOrderItemDetail where
  id := row.context.id
  number := itemNumber row.context.order.number row.context.item.line
  offerId := row.context.item.offerId
  quantity := row.context.item.quantity
  purchasePrice := formatPrice row.context.item.purchasePrice
  status := row.context.item.status
  createdAt := row.context.item.createdAt
  updatedAt := row.context.item.updatedAt
  productId := row.context.offer.productId
  productName := row.context.product.name
  productDescription := row.context.product.description
  buyerId := row.context.order.buyerId
  buyerName := row.context.buyer.name
  sellerId := row.context.offer.sellerId
  sellerName := row.seller.name
  orderId := row.context.item.orderId
  orderNumber := row.context.order.number
  orderCreatedAt := row.context.order.createdAt

/-- `load_ops_item_context`. -/
def loadOpsItemContext (itemId : UUID) : Txn OpsItemContext :=
  oneOrNone (fun v => (Db.orderItem v itemId).bind (opsItemContext v itemId))
    OpsItemContext.entities

/-- `get_order_item_for_ops` with `get_ops_order_item`. -/
def getOpsOrderItem (itemId : UUID) (ops : CurrentUser) : Txn OpsOrderItemDetail := do
  requireOps ops
  let row ← loadOpsItemContext itemId
  return row.detail

/-- `get_ops_conversation`. -/
def getOpsConversation (conversationId : UUID) (ops : CurrentUser) : Txn OpsConversation := do
  requireOps ops
  -- `load_ops_conversation` without a lock
  let conversation ← Prog.scalar (.conversation conversationId)
    (fun v => (Db.conversation v conversationId).map fun _ => [])
  let conversation ← loadOr (k := .conversation conversationId)
    (.resourceNotFound "Conversation not found") conversation
  return toOpsConversation conversationId conversation

end MarketHub
