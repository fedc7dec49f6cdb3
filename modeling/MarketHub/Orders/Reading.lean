import MarketHub.Orders.Listing

/-!
The orders of a buyer and the detail of an order item (`list_orders`, `get_order` and
`get_order_item` of `app/orders/routes.py`, `app/orders/access.py`).
-/

namespace MarketHub

open ReadCommitted OffsetPaging

/-! ### Orders -/

/-- `_get_order_for_buyer`. -/
def getOrderForBuyer (orderId : UUID) (buyer : CurrentUser) : Txn Order := do
  let order : Option Order ← Prog.scalar (Key.order orderId)
    (fun v => (Db.order v orderId).map fun _ => [])
  match order with
  | none => Prog.throw (.resourceNotFound "Order not found")
  | some order =>
      if order.buyerId ≠ buyer.id then Prog.throw (.resourceNotFound "Order not found")
      else pure order

/-- `OrderItem.created_at`. -/
def BuyerOrderItem.oldestFirst (item : BuyerOrderItem) : DateTime := item.createdAt

/-- The rows of `_buyer_order_items_by_order`. -/
def buyerOrderItemRows (orderIds : List UUID) (v : Db) : List BuyerOrderItem :=
  ((Db.orderItems v).filter fun item => orderIds.contains item.2.orderId).filterMap
    fun item => buyerOrderItem v item.1 item.2

/-- `_buyer_order_items_by_order`, not yet grouped. -/
def buyerOrderItemsByOrder (sorting : Sorting BuyerOrderItem.oldestFirst) (orderIds : List UUID) :
    Txn (List BuyerOrderItem) :=
  if orderIds = [] then pure []
  else
    Prog.lift (.select false (fun v => sorting.sort (buyerOrderItemRows orderIds v))
      (fun item => [.orderItem item.id, .product item.productId, .order item.orderId,
        .seller item.sellerId])
      (fun _ => []))

/-- `_order_response`, which takes the items of the order. -/
def orderResponse (orderId : UUID) (order : Order) (items : List BuyerOrderItem) :
    OrderResponse where
  id := orderId
  number := order.number
  buyerId := order.buyerId
  items := items.filter fun item => item.orderId == orderId
  createdAt := order.createdAt
  updatedAt := order.updatedAt

/-- `Order.created_at`. -/
def orderOldestFirst (order : UUID × Order) : DateTime := order.2.createdAt

/-- The orders of a buyer. -/
def ordersOf (buyerId : UUID) (v : Db) : List (UUID × Order) :=
  (Db.orders v).filter fun order => order.2.buyerId == buyerId

/-- `list_orders`. -/
def listOrders (orderSorting : Sorting orderOldestFirst)
    (itemSorting : Sorting BuyerOrderItem.oldestFirst) (buyer : CurrentUser) :
    Txn (List OrderResponse) := do
  requireBuyer buyer
  let orders ← Prog.lift (.select false (fun v => orderSorting.sort (ordersOf buyer.id v))
    (fun order => [.order order.1]) (fun _ => []))
  let items ← buyerOrderItemsByOrder itemSorting (orders.map Prod.fst)
  return orders.map fun order => orderResponse order.1 order.2 items

/-- `get_order`. -/
def getOrder (itemSorting : Sorting BuyerOrderItem.oldestFirst) (orderId : UUID)
    (buyer : CurrentUser) : Txn OrderResponse := do
  requireBuyer buyer
  let order ← getOrderForBuyer orderId buyer
  let items ← buyerOrderItemsByOrder itemSorting [orderId]
  return orderResponse orderId order items

/-! ### Order items -/

/-- `OrderItemDetail`. -/
structure OrderItemDetail where
  id : UUID
  number : String
  offerId : UUID
  quantity : ℕ
  purchasePrice : String
  status : OrderItemStatus
  createdAt : DateTime
  updatedAt : DateTime
  productId : UUID
  productName : String
  productDescription : Option String
  buyerId : UUID
  buyerName : String
  orderId : UUID
  orderNumber : ℕ
  orderCreatedAt : DateTime

/-- An order item with the product and the order it is joined with. -/
structure ItemPurchase where
  item : OrderItem
  productId : UUID
  product : Product
  order : Order

/-- `_detail`. -/
def itemDetail (id : UUID) (row : ItemPurchase) (buyerId : UUID) (buyerName : String) :
    OrderItemDetail where
  id := id
  number := itemNumber row.order.number row.item.line
  offerId := row.item.offerId
  quantity := row.item.quantity
  purchasePrice := formatPrice row.item.purchasePrice
  status := row.item.status
  createdAt := row.item.createdAt
  updatedAt := row.item.updatedAt
  productId := row.productId
  productName := row.product.name
  productDescription := row.product.description
  buyerId := buyerId
  buyerName := buyerName
  orderId := row.item.orderId
  orderNumber := row.order.number
  orderCreatedAt := row.order.createdAt

/-- The statement of `load_seller_item_context`. -/
def sellerItemContext (itemId sellerId : UUID) (v : Db) : Option (ItemPurchase × User) := do
  let item ← Db.orderItem v itemId
  let offer ← Db.offer v item.offerId
  let product ← Db.product v offer.productId
  let order ← Db.order v item.orderId
  let buyer ← Db.user v order.buyerId
  if offer.sellerId = sellerId then some (⟨item, offer.productId, product, order⟩, buyer) else none

/-- The statement of `load_buyer_item_context`. -/
def buyerItemContext (itemId buyerId : UUID) (v : Db) : Option ItemPurchase := do
  let item ← Db.orderItem v itemId
  let offer ← Db.offer v item.offerId
  let product ← Db.product v offer.productId
  let order ← Db.order v item.orderId
  if order.buyerId = buyerId then some ⟨item, offer.productId, product, order⟩ else none

/-- `session.execute(...).one_or_none()` of a statement for one item. -/
def oneOrNone {ρ : Type} (stmt : Db → Option ρ) (entities : ρ → List Key) : Txn ρ := do
  let rows ← Prog.lift (.select false (fun v => (stmt v).toList) entities (fun _ => []))
  match rows with
  | [] => Prog.throw (.resourceNotFound "Order item not found")
  | row :: _ => pure row

/-- `load_seller_item_context`. -/
def loadSellerItemContext (itemId sellerId : UUID) : Txn (ItemPurchase × User) :=
  oneOrNone (sellerItemContext itemId sellerId) fun row =>
    [.orderItem itemId, .product row.1.productId, .order row.1.item.orderId,
      .user row.1.order.buyerId]

/-- `load_buyer_item_context`. -/
def loadBuyerItemContext (itemId buyerId : UUID) : Txn ItemPurchase :=
  oneOrNone (buyerItemContext itemId buyerId) fun row =>
    [.orderItem itemId, .product row.productId, .order row.item.orderId]

/-- `get_order_item`; the name is that of the user, who was loaded with the request. -/
def getOrderItem (itemId : UUID) (user : CurrentUser) (userName : String) : Txn OrderItemDetail :=
  match user.role, user.sellerId with
  | .seller, some sellerId => do
      let (row, buyer) ← loadSellerItemContext itemId sellerId
      return itemDetail itemId row row.order.buyerId buyer.name
  | .buyer, _ => do
      let row ← loadBuyerItemContext itemId user.id
      return itemDetail itemId row user.id userName
  | _, _ => Prog.throw (.forbidden "Cannot access order item")

end MarketHub
