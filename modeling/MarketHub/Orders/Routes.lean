import MarketHub.Orders.Checkout

/-!
Order items: status rules, scoped loading and routes (`app/orders/status.py`,
`app/orders/access.py`, `app/orders/routes.py`).

A scoped statement names the rows it locks: a plain `FOR UPDATE` locks the item and
the row it is joined with, which is the offer on the seller's side and the order on
the buyer's. `OrderRequest` collects the requests that move stock.
-/

namespace MarketHub

open ReadCommitted

/-! ### Status rules -/

/-- `FORWARD`. -/
def forward : OrderItemStatus → Option OrderItemStatus
  | .placed => some .preparing
  | .preparing => some .inTransit
  | .inTransit => some .delivered
  | .delivered => none
  | .cancelled => none

/-- `assert_forward_transition`. -/
def assertForwardTransition (current target : OrderItemStatus) : Txn Unit :=
  if forward current ≠ some target then
    Prog.throw (.invalidTransition "Invalid status transition")
  else pure ()

/-- `can_cancel`. -/
def canCancel (current : OrderItemStatus) (role : UserRole) : Bool :=
  match role with
  | .buyer => current = .placed || current = .preparing
  | .seller => current = .placed || current = .preparing || current = .inTransit
  | .ops => false

/-- `restores_stock_on_cancel`. -/
def restoresStockOnCancel (current : OrderItemStatus) : Bool :=
  current = .placed || current = .preparing

/-! ### Scoped loading -/

/-- `seller_item_statement`. -/
def sellerItemStatement (itemId sellerId : UUID) (forUpdate : Bool) (v : Db) : Option (List Key) :=
  match Db.orderItem v itemId with
  | none => none
  | some item =>
      match Db.offer v item.offerId with
      | none => none
      | some offer =>
          if offer.sellerId = sellerId then
            some (if forUpdate then [.orderItem itemId, .offer item.offerId] else [])
          else none

/-- `buyer_item_statement`. -/
def buyerItemStatement (itemId buyerId : UUID) (forUpdate : Bool) (v : Db) : Option (List Key) :=
  match Db.orderItem v itemId with
  | none => none
  | some item =>
      match Db.order v item.orderId with
      | none => none
      | some order =>
          if order.buyerId = buyerId then
            some (if forUpdate then [.orderItem itemId, .order item.orderId] else [])
          else none

/-- The object of a statement, or the error that there is none. -/
def loadOr {k : Key} (e : DomainError) (row : Option (Row k)) : Txn (Row k) :=
  match row with
  | none => Prog.throw e
  | some r => pure r

/-- `load_seller_item`. -/
def loadSellerItem (itemId sellerId : UUID) (forUpdate : Bool := false) : Txn OrderItem := do
  let item ← Prog.scalar (.orderItem itemId) (sellerItemStatement itemId sellerId forUpdate)
  loadOr (k := .orderItem itemId) (.resourceNotFound "Order item not found") item

/-- `load_buyer_item`. -/
def loadBuyerItem (itemId buyerId : UUID) (forUpdate : Bool := false) : Txn OrderItem := do
  let item ← Prog.scalar (.orderItem itemId) (buyerItemStatement itemId buyerId forUpdate)
  loadOr (k := .orderItem itemId) (.resourceNotFound "Order item not found") item

/-! ### Routes -/

/-- `BuyerOrderItem`. -/
structure BuyerOrderItem where
  id : UUID
  number : String
  orderId : UUID
  offerId : UUID
  quantity : ℕ
  purchasePrice : String
  status : OrderItemStatus
  createdAt : DateTime
  updatedAt : DateTime
  productId : UUID
  productName : String
  sellerId : UUID
  sellerName : String

/-- `OrderResponse`. -/
structure OrderResponse where
  id : UUID
  number : ℕ
  buyerId : UUID
  items : List BuyerOrderItem
  createdAt : DateTime
  updatedAt : DateTime

/-- `item_number`. -/
def itemNumber (orderNumber line : ℕ) : String := toString orderNumber ++ "-" ++ toString line

/-- One row of the join of `_buyer_order_items_by_order`. -/
def buyerOrderItem (v : Db) (id : UUID) (item : OrderItem) : Option BuyerOrderItem := do
  let offer ← Db.offer v item.offerId
  let product ← Db.product v offer.productId
  let order ← Db.order v item.orderId
  let seller ← Db.seller v offer.sellerId
  return {
    id := id
    number := itemNumber order.number item.line
    orderId := item.orderId
    offerId := item.offerId
    quantity := item.quantity
    purchasePrice := formatPrice item.purchasePrice
    status := item.status
    createdAt := item.createdAt
    updatedAt := item.updatedAt
    productId := offer.productId
    productName := product.name
    sellerId := offer.sellerId
    sellerName := seller.name }

/-- `_buyer_order_items_by_order`, for one order. -/
def buyerOrderItems (orderId : UUID) : Txn (List BuyerOrderItem) :=
  Prog.lift (.select false
    (fun v => (((Db.orderItems v).filter fun item => item.2.orderId == orderId).filterMap
      fun item => buyerOrderItem v item.1 item.2).insertionSort fun a b =>
      a.createdAt ≤ b.createdAt)
    (fun item => [.orderItem item.id, .product item.productId, .order item.orderId,
      .seller item.sellerId])
    (fun _ => []))

/-- `create_order`. -/
def createOrder (payload : CheckoutRequest) (buyer : CurrentUser) : Txn OrderResponse := do
  requireBuyer buyer
  let orderId ← checkout buyer.id payload
  let items ← buyerOrderItems orderId
  let order : Option Order ← Prog.attrs (Key.order orderId)
  let order ← loadOr (k := .order orderId) (.resourceNotFound "Order not found") order
  return {
    id := orderId
    number := order.number
    buyerId := order.buyerId
    items := items
    createdAt := order.createdAt
    updatedAt := order.updatedAt }

/-- `_touch`, together with the new status. -/
def setStatus (itemId : UUID) (item : OrderItem) (status : OrderItemStatus) : Txn OrderItem := do
  let now ← Prog.utcnow
  let touched : OrderItem :=
    { item with status := status, updatedAt := now, statusUpdatedAt := now }
  Prog.assign (.orderItem itemId) touched
  return touched

/-- `update_order_item_status`. -/
def updateOrderItemStatus (itemId : UUID) (status : OrderItemStatus) (seller : CurrentUser) :
    Txn OrderItem := do
  let sellerId ← requireSeller seller
  let item ← loadSellerItem itemId sellerId true
  if status = item.status then return item
  else
    assertForwardTransition item.status status
    let previous := item.status
    let item ← setStatus itemId item status
    Prog.flush
    Prog.record (.orderItemStatusChanged itemId previous item.status)
    return item

/-- The item a user may cancel. -/
def loadItemToCancel (itemId : UUID) (user : CurrentUser) : Txn OrderItem :=
  match user.role, user.sellerId with
  | .buyer, _ => loadBuyerItem itemId user.id true
  | .seller, some sellerId => loadSellerItem itemId sellerId true
  | _, _ => Prog.throw (.forbidden "Cannot cancel order item")

/-- The stock of a cancelled item goes back to its offer. -/
def restoreStock (item : OrderItem) : Txn Unit := do
  let _ ← Prog.update (.offer item.offerId) (fun _ => true)
    (fun offer : Offer => { offer with stock := offer.stock + item.quantity })

/-- `cancel_order_item`. -/
def cancelOrderItem (itemId : UUID) (user : CurrentUser) : Txn OrderItem := do
  let item ← loadItemToCancel itemId user
  if item.status = .cancelled then return item
  else if !canCancel item.status user.role then
    Prog.throw (.invalidTransition "Order item cannot be cancelled")
  else
    let restore := restoresStockOnCancel item.status
    let previous := item.status
    let item ← setStatus itemId item .cancelled
    if restore then restoreStock item
    Prog.flush
    Prog.record (.orderItemCancelled itemId restore)
    Prog.record (.orderItemStatusChanged itemId previous .cancelled)
    return item

/-- The requests that move stock. -/
inductive OrderRequest where
  | createOrder (payload : CheckoutRequest) (buyer : CurrentUser)
  | updateOrderItemStatus (itemId : UUID) (status : OrderItemStatus) (seller : CurrentUser)
  | cancelOrderItem (itemId : UUID) (user : CurrentUser)

/-- The transaction of a request. -/
def OrderRequest.run : OrderRequest → Txn Unit
  | .createOrder payload buyer =>
      Prog.transaction do let _ ← MarketHub.createOrder payload buyer
  | .updateOrderItemStatus itemId status seller =>
      Prog.transaction do let _ ← MarketHub.updateOrderItemStatus itemId status seller
  | .cancelOrderItem itemId user =>
      Prog.transaction do let _ ← MarketHub.cancelOrderItem itemId user

end MarketHub
