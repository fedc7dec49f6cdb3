import MarketHub.OffsetPaging
import MarketHub.Orders.Routes

/-!
The listing of a seller's order items (`list_order_items` of `app/orders/routes.py`,
`seller_list_statement` of `app/orders/access.py`, `app/orders/numbers.py`).

A listing counts the rows of its statement and then shows one page of them; `paginate` is
what the listings share. How the database orders the rows of a page query is a `Sorting`: it
is free where the `ORDER BY` says nothing. Every Python integer goes to the database as an
`INTEGER` (`bindIntegers`).
-/

namespace MarketHub

open ReadCommitted OffsetPaging

/-! ### Numbers -/

/-- `public_number`: a text of the form `^[0-9]+(-[0-9]+)?$`. -/
structure PublicNumber where
  order : List (Fin 10)
  line : Option (List (Fin 10))
  order_ne_nil : order ≠ []
  line_ne_nil : ∀ digits ∈ line, digits ≠ []

/-- The number that is written with the digits. -/
def numberOf (digits : List (Fin 10)) : ℕ := digits.foldl (fun n d => 10 * n + d.val) 0

/-- `int` of a text of digits. -/
def parseInt (digits : List (Fin 10)) : Txn ℕ :=
  if 4300 < digits.length then
    Prog.throw
      (.valueError ("Exceeds the limit (4300 digits) for integer string conversion: value has "
      ++ toString digits.length
        ++ " digits; use sys.set_int_max_str_digits() to increase the limit"))
  else pure (numberOf digits)

/-- `parse_public_number`, of a text of this form. -/
def parsePublicNumber (value : PublicNumber) : Txn (ℕ × Option ℕ) := do
  let orderNumber ← parseInt value.order
  match value.line with
  | none => return (orderNumber, none)
  | some lineRaw => return (orderNumber, some (← parseInt lineRaw))

/-- The number filter of a request, as numbers. -/
def parseNumberFilter (publicNumber : Option PublicNumber) : Txn (Option (ℕ × Option ℕ)) :=
  match publicNumber with
  | none => pure none
  | some value => do return some (← parsePublicNumber value)

/-- `apply_public_number_filter`. -/
def applyPublicNumberFilter (number : Option (ℕ × Option ℕ)) (order : Order) (item : OrderItem) :
    Bool :=
  match number with
  | none => true
  | some (orderNumber, none) => order.number == orderNumber
  | some (orderNumber, some line) => order.number == orderNumber && item.line == line

/-- The parameters of the number filter. -/
def numberParameters : Option (ℕ × Option ℕ) → List ℕ
  | none => []
  | some (orderNumber, line) => orderNumber :: line.toList

/-- A natural number that fits the type `INTEGER`. -/
def FitsInteger (n : ℕ) : Prop := n < 2147483648

instance : DecidablePred FitsInteger := fun n => inferInstanceAs (Decidable (n < 2147483648))

/-- The integer parameters of a statement; the database refuses one that does not fit. -/
def bindIntegers (parameters : List ℕ) : Txn Unit :=
  if ∀ n ∈ parameters, FitsInteger n then pure ()
  else Prog.throw (.dataError "integer out of range")

/-! ### Pages -/

/-- `page` and `page_size`; the routes take page sizes up to 100, the listings any. -/
structure PageQuery where
  page : ℕ
  pageSize : ℕ
  page_pos : 1 ≤ page
  pageSize_pos : 1 ≤ pageSize

/-- `OFFSET`. -/
def PageQuery.offset (query : PageQuery) : ℕ := (query.page - 1) * query.pageSize

/-- `OrderItemListResponse` and the other responses of listings. -/
structure Envelope (β : Type) where
  items : List β
  page : ℕ
  pageSize : ℕ
  total : ℕ

/-- The number of rows of a statement, and one page of them. -/
def paginate {ρ β κ : Type} [LinearOrder κ] {key : ρ → κ} (stmt : Db → List ρ)
    (parameters : List ℕ) (entities : ρ → List Key) (sorting : Sorting key) (item : ρ → β)
    (query : PageQuery) : Txn (Envelope β) := do
  bindIntegers parameters
  let total ← Prog.query fun v => (stmt v).length
  bindIntegers (parameters ++ [query.pageSize, query.offset])
  let rows ← Prog.lift (.select false
    (fun v => ((sorting.sort (stmt v)).drop query.offset).take query.pageSize)
    entities (fun _ => []))
  return {
    items := rows.map item
    page := query.page
    pageSize := query.pageSize
    total := total }

/-! ### The order items of a seller -/

/-- `_as_utc`: a `datetime` without a time zone is taken for one of UTC. -/
def QueryDateTime.asUtc (value : QueryDateTime) : DateTime := value.instant

/-- The filters of a listing of order items. -/
structure ItemFilters where
  status : Option OrderItemStatus := none
  from_ : Option QueryDateTime := none
  to_ : Option QueryDateTime := none
  orderItemId : Option UUID := none
  publicNumber : Option PublicNumber := none

/-- An order item with what it is joined with. -/
structure ItemContext where
  id : UUID
  item : OrderItem
  offer : Offer
  product : Product
  order : Order
  buyer : User
  deriving DecidableEq

/-- The joins of an order item with its offer, product, order and buyer. -/
def itemContext (v : Db) (id : UUID) (item : OrderItem) : Option ItemContext := do
  let offer ← Db.offer v item.offerId
  let product ← Db.product v offer.productId
  let order ← Db.order v item.orderId
  let buyer ← Db.user v order.buyerId
  return {
    id := id
    item := item
    offer := offer
    product := product
    order := order
    buyer := buyer }

/-- The entities of a row. -/
def ItemContext.entities (row : ItemContext) : List Key :=
  [.orderItem row.id, .product row.offer.productId, .order row.item.orderId,
    .user row.order.buyerId]

/-- `seller_list_statement`. -/
def sellerListStatement (sellerId : UUID) (v : Db) : List ItemContext :=
  ((Db.orderItems v).filterMap fun item => itemContext v item.1 item.2).filter
    fun row => row.offer.sellerId == sellerId

/-- The `WHERE` clauses of the filters. -/
def ItemFilters.admits (filters : ItemFilters) (number : Option (ℕ × Option ℕ))
    (row : ItemContext) : Bool :=
  filters.status.all (row.item.status == ·)
    && filters.from_.all (fun t => t.asUtc ≤ row.item.createdAt)
    && filters.to_.all (fun t => row.item.createdAt ≤ t.asUtc)
    && filters.orderItemId.all (row.id == ·)
    && applyPublicNumberFilter number row.order row.item

/-- `created_at DESC`. -/
def ItemContext.newestFirst (row : ItemContext) : DateTimeᵒᵈ := OrderDual.toDual row.item.createdAt

/-- `OrderItemListItem`. -/
structure OrderItemListItem where
  orderItemId : UUID
  number : String
  productId : UUID
  productName : String
  quantity : ℕ
  purchasePrice : String
  status : OrderItemStatus
  createdAt : DateTime
  buyerId : UUID
  buyerName : String
  orderId : UUID
  deriving DecidableEq

/-- `_list_item`. -/
def ItemContext.listItem (row : ItemContext) : OrderItemListItem where
  orderItemId := row.id
  number := itemNumber row.order.number row.item.line
  productId := row.offer.productId
  productName := row.product.name
  quantity := row.item.quantity
  purchasePrice := formatPrice row.item.purchasePrice
  status := row.item.status
  createdAt := row.item.createdAt
  buyerId := row.order.buyerId
  buyerName := row.buyer.name
  orderId := row.item.orderId

/-- The rows that `list_order_items` counts and shows. -/
def sellerItems (sellerId : UUID) (filters : ItemFilters)
    (number : Option (ℕ × Option ℕ)) (v : Db) :
    List ItemContext :=
  (sellerListStatement sellerId v).filter (filters.admits number)

/-- `list_order_items`. -/
def listOrderItems (seller : CurrentUser) (filters : ItemFilters)
    (sorting : Sorting ItemContext.newestFirst) (query : PageQuery) :
    Txn (Envelope OrderItemListItem) := do
  let sellerId ← requireSeller seller
  let number ← parseNumberFilter filters.publicNumber
  paginate (sellerItems sellerId filters number) (numberParameters number) ItemContext.entities
    sorting ItemContext.listItem query

end MarketHub
