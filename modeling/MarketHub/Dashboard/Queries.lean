import MarketHub.Support.Listing
import MarketHub.Grouping

/-!
The dashboards (`app/dashboard/queries.py`, `app/dashboard/projection.py` and
`app/dashboard/service.py`).

A dashboard counts with queries of its own: `GROUP BY` over statuses and priorities for the
seller and for Ops, `EXISTS` over the items of an order for the buyer. What the database decides
about the order of rows is a parameter (`RowOrders`).
-/

namespace MarketHub

open ReadCommitted OffsetPaging Grouping

/-! ### Projections -/

/-- `RECENT_LIMIT`. -/
def recentLimit : ℕ := 5

/-- `ITEM_STATUSES`. -/
def itemStatuses : List OrderItemStatus := [.placed, .preparing, .inTransit, .delivered, .cancelled]

/-- `ACTIVE_ITEM_STATUSES`. -/
def activeItemStatuses : List OrderItemStatus := [.placed, .preparing, .inTransit]

/-- `EFFECTIVE_PRIORITIES`. -/
def effectivePriorities : List Priority := [.critical, .high, .medium, .low]

/-- `fill_status_counts`; every status is among the keys. -/
def fillStatusCounts (rows : List (OrderItemStatus × ℕ)) : OrderItemStatus → ℕ := tally rows

/-- `fill_priority_counts`; every priority is among the keys. -/
def fillPriorityCounts (rows : List (Priority × ℕ)) : Priority → ℕ := tally rows

/-- `active_order_item_count`. -/
def activeOrderItemCount (counts : OrderItemStatus → ℕ) : ℕ := (activeItemStatuses.map counts).sum

/-- `total_order_item_count`. -/
def totalOrderItemCount (counts : OrderItemStatus → ℕ) : ℕ := (itemStatuses.map counts).sum

/-- The values of `buyer_order_projection_status`. -/
inductive OrderProjection where
  | inProgress | completed | cancelled
  deriving DecidableEq, Repr

/-- `buyer_order_projection_status`. -/
def buyerOrderProjectionStatus (statuses : List OrderItemStatus) : OrderProjection :=
  if statuses.any (activeItemStatuses.contains ·) then .inProgress
  else if statuses ≠ [] ∧ statuses.all (· == .delivered) then .completed
  else .cancelled

/-- `format_order_total`, of prices in cents and quantities. -/
def formatOrderTotal (items : List (ℕ × ℕ)) : String :=
  formatPrice (items.map fun item => item.1 * item.2).sum

/-! ### The order of rows -/

/-- An order item of a buyer with its product and its seller. -/
structure BuyerItemRow where
  id : UUID
  item : OrderItem
  productId : UUID
  product : Product
  sellerId : UUID
  seller : Seller
  deriving DecidableEq

/-- `OrderItem.created_at`. -/
def BuyerItemRow.oldestFirst (row : BuyerItemRow) : DateTime := row.item.createdAt

/-- `Order.created_at DESC`. -/
def orderNewestFirst (order : UUID × Order) : DateTimeᵒᵈ := OrderDual.toDual order.2.createdAt

/-- What the database decides about the order of rows. -/
structure RowOrders where
  statuses : Arrangement (OrderItemStatus × ℕ)
  priorities : Arrangement (Priority × ℕ)
  sellerItems : Sorting ItemContext.newestFirst
  orders : Sorting orderNewestFirst
  buyerItems : Sorting BuyerItemRow.oldestFirst
  queue : Sorting QueueRow.mostUrgentFirst

/-! ### The seller -/

/-- `SellerRecentOrderItem`. -/
structure SellerRecentOrderItem where
  orderItemId : UUID
  number : String
  orderId : UUID
  productId : UUID
  productName : String
  buyerId : UUID
  buyerName : String
  quantity : ℕ
  purchasePrice : String
  status : OrderItemStatus
  createdAt : DateTime
  deriving DecidableEq

/-- The item of a row. -/
def ItemContext.sellerRecent (row : ItemContext) : SellerRecentOrderItem where
  orderItemId := row.id
  number := itemNumber row.order.number row.item.line
  orderId := row.item.orderId
  productId := row.offer.productId
  productName := row.product.name
  buyerId := row.order.buyerId
  buyerName := row.buyer.name
  quantity := row.item.quantity
  purchasePrice := formatPrice row.item.purchasePrice
  status := row.item.status
  createdAt := row.item.createdAt

/-- `SellerDashboard`. -/
structure SellerDashboard where
  totalOrderItems : ℕ
  activeOrderItems : ℕ
  orderItemsByStatus : OrderItemStatus → ℕ
  openConversations : ℕ
  recent : List SellerRecentOrderItem

/-- Is the item one of the seller's offers? -/
def soldBy (sellerId : UUID) (v : Db) (item : OrderItem) : Bool :=
  (Db.offer v item.offerId).any (·.sellerId == sellerId)

/-- The statuses that `seller_dashboard` groups. -/
def sellerStatuses (sellerId : UUID) (v : Db) : List OrderItemStatus :=
  ((Db.orderItems v).filter fun item => soldBy sellerId v item.2).map fun item => item.2.status

/-- The open conversations of a seller. -/
def sellerOpenConversations (sellerId : UUID) (v : Db) : List (UUID × Conversation) :=
  (Db.conversations v).filter fun conversation =>
    (Db.orderItem v conversation.2.orderItemId).any (soldBy sellerId v)
      && conversation.2.status == .opened

/-- `seller_dashboard`. -/
def sellerDashboard (rowOrders : RowOrders) (sellerId : UUID) : Txn SellerDashboard := do
  let statusRows ← Prog.query fun v =>
    rowOrders.statuses.arrange (groups (sellerStatuses sellerId v))
  let counts := fillStatusCounts statusRows
  let openConversations ← Prog.query fun v => (sellerOpenConversations sellerId v).length
  let recentRows ← Prog.lift (.select false
    (fun v => (rowOrders.sellerItems.sort (sellerListStatement sellerId v)).take recentLimit)
    ItemContext.entities (fun _ => []))
  return {
    totalOrderItems := totalOrderItemCount counts
    activeOrderItems := activeOrderItemCount counts
    orderItemsByStatus := counts
    openConversations := openConversations
    recent := recentRows.map ItemContext.sellerRecent }

/-! ### The buyer -/

/-- `BuyerRecentOrderItem`. -/
structure BuyerRecentOrderItem where
  orderItemId : UUID
  number : String
  productId : UUID
  productName : String
  sellerId : UUID
  sellerName : String
  quantity : ℕ
  status : OrderItemStatus
  deriving DecidableEq

/-- `BuyerRecentOrder`. -/
structure BuyerRecentOrder where
  orderId : UUID
  number : ℕ
  createdAt : DateTime
  status : OrderProjection
  totalAmount : String
  items : List BuyerRecentOrderItem
  deriving DecidableEq

/-- `BuyerDashboard`. -/
structure BuyerDashboard where
  activeOrders : ℕ
  completedOrders : ℕ
  openConversations : ℕ
  recent : List BuyerRecentOrder

/-- The subquery `has_active_item`. -/
def hasActiveItem (v : Db) (orderId : UUID) : Bool :=
  (Db.orderItems v).any fun item =>
    item.2.orderId == orderId && activeItemStatuses.contains item.2.status

/-- The subquery `has_non_delivered`. -/
def hasNonDelivered (v : Db) (orderId : UUID) : Bool :=
  (Db.orderItems v).any fun item => item.2.orderId == orderId && item.2.status != .delivered

/-- The subquery `has_item`. -/
def hasItem (v : Db) (orderId : UUID) : Bool :=
  (Db.orderItems v).any fun item => item.2.orderId == orderId

/-- The orders that `active_orders` counts. -/
def activeOrders (buyerId : UUID) (v : Db) : List (UUID × Order) :=
  (Db.orders v).filter fun order => order.2.buyerId == buyerId && hasActiveItem v order.1

/-- The orders that `completed_orders` counts. -/
def completedOrders (buyerId : UUID) (v : Db) : List (UUID × Order) :=
  (Db.orders v).filter fun order =>
    order.2.buyerId == buyerId && !hasNonDelivered v order.1 && hasItem v order.1

/-- The open conversations of a buyer. -/
def buyerOpenConversations (buyerId : UUID) (v : Db) : List (UUID × Conversation) :=
  (Db.conversations v).filter fun conversation =>
    ((Db.orderItem v conversation.2.orderItemId).bind fun item => Db.order v item.orderId).any
        (·.buyerId == buyerId)
      && conversation.2.status == .opened

/-- The joins of an order item with its offer, product and seller. -/
def buyerItemRow (v : Db) (id : UUID) (item : OrderItem) : Option BuyerItemRow := do
  let offer ← Db.offer v item.offerId
  let product ← Db.product v offer.productId
  let seller ← Db.seller v offer.sellerId
  return {
    id := id
    item := item
    productId := offer.productId
    product := product
    sellerId := offer.sellerId
    seller := seller }

/-- The rows of the items of the given orders. -/
def buyerItemRows (orderIds : List UUID) (v : Db) : List BuyerItemRow :=
  ((Db.orderItems v).filterMap fun item => buyerItemRow v item.1 item.2).filter
    fun row => orderIds.contains row.item.orderId

/-- The item of a row. -/
def BuyerItemRow.recentItem (order : Order) (row : BuyerItemRow) : BuyerRecentOrderItem where
  orderItemId := row.id
  number := itemNumber order.number row.item.line
  productId := row.productId
  productName := row.product.name
  sellerId := row.sellerId
  sellerName := row.seller.name
  quantity := row.item.quantity
  status := row.item.status

/-- A recent order, with the rows of all recent items. -/
def buyerRecentOrder (rows : List BuyerItemRow) (order : UUID × Order) : BuyerRecentOrder :=
  let triples := rows.filter fun row => row.item.orderId == order.1
  { orderId := order.1
    number := order.2.number
    createdAt := order.2.createdAt
    status := buyerOrderProjectionStatus (triples.map fun row => row.item.status)
    totalAmount := formatOrderTotal
      (triples.map fun row => (row.item.purchasePrice, row.item.quantity))
    items := triples.map (BuyerItemRow.recentItem order.2) }

/-- `_buyer_recent_orders`. -/
def buyerRecentOrders (rowOrders : RowOrders) (orders : List (UUID × Order)) :
    Txn (List BuyerRecentOrder) :=
  if orders = [] then pure []
  else do
    let rows ← Prog.lift (.select false
      (fun v => rowOrders.buyerItems.sort (buyerItemRows (orders.map Prod.fst) v))
      (fun row => [.orderItem row.id, .product row.productId, .seller row.sellerId]) (fun _ => []))
    return orders.map (buyerRecentOrder rows)

/-- `buyer_dashboard`. -/
def buyerDashboard (rowOrders : RowOrders) (buyerId : UUID) : Txn BuyerDashboard := do
  let active ← Prog.query fun v => (activeOrders buyerId v).length
  let completed ← Prog.query fun v => (completedOrders buyerId v).length
  let openConversations ← Prog.query fun v => (buyerOpenConversations buyerId v).length
  let orders ← Prog.lift (.select false
    (fun v => (rowOrders.orders.sort
      ((Db.orders v).filter fun order => order.2.buyerId == buyerId)).take recentLimit)
    (fun order => [.order order.1]) (fun _ => []))
  let recent ← buyerRecentOrders rowOrders orders
  return {
    activeOrders := active
    completedOrders := completed
    openConversations := openConversations
    recent := recent }

/-! ### Ops -/

/-- `OpsDashboard`; the items of the preview are those of the queue, less a few of their fields. -/
structure OpsDashboard where
  openConversations : ℕ
  conversationsByPriority : Priority → ℕ
  priorityQueuePreview : List OpsConversationQueueItem

/-- The effective priorities that `ops_dashboard` groups. -/
def openPriorities (v : Db) : List Priority :=
  ((Db.conversations v).filter fun conversation => conversation.2.status == .opened).map
    fun conversation => sqlEffectivePriority conversation.2

/-- `ops_dashboard`. -/
def opsDashboard (rowOrders : RowOrders) : Txn OpsDashboard := do
  let priorityRows ← Prog.query fun v => rowOrders.priorities.arrange (groups (openPriorities v))
  let counts := fillPriorityCounts priorityRows
  let preview ← previewOpenQueue rowOrders.queue recentLimit
  return {
    openConversations := (effectivePriorities.map counts).sum
    conversationsByPriority := counts
    priorityQueuePreview := preview }

/-! ### The service -/

/-- `DashboardResponse`. -/
inductive DashboardResponse where
  | seller (dashboard : SellerDashboard)
  | buyer (dashboard : BuyerDashboard)
  | ops (dashboard : OpsDashboard)

/-- `get_dashboard`. -/
def getDashboard (rowOrders : RowOrders) (user : CurrentUser) : Txn DashboardResponse :=
  match user.role, user.sellerId with
  | .seller, some sellerId => do return .seller (← sellerDashboard rowOrders sellerId)
  | .buyer, _ => do return .buyer (← buyerDashboard rowOrders user.id)
  | .ops, _ => do return .ops (← opsDashboard rowOrders)
  | _, _ => Prog.throw (.forbidden "Dashboard role required")

end MarketHub
