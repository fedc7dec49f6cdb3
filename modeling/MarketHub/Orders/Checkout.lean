import MarketHub.Catalog

/-!
Checkout (`app/orders/checkout.py`).

The lines of a request are validated on unlocked reads of their offers. Only when
all of them pass does the order come into being, and then every line takes its
quantity by an `UPDATE` that tests the stock once more. The order items are sent
together at the end.
-/

namespace MarketHub

open ReadCommitted

/-- `CheckoutItem`. -/
structure CheckoutItem where
  offerId : UUID
  quantity : ℕ
  expectedPrice : Price
  quantity_pos : 1 ≤ quantity

/-- `CheckoutRequest`. -/
structure CheckoutRequest where
  items : List CheckoutItem
  items_ne_nil : items ≠ []
  unique_offer_ids : (items.map CheckoutItem.offerId).Nodup

/-- `_rejection`. -/
def rejection (item : CheckoutItem) (reason : RejectionReason) (offer : Option Offer) :
    CheckoutRejectedItem where
  offerId := item.offerId
  reason := reason
  expectedPrice := some item.expectedPrice.text
  currentPrice := offer.map fun offer => formatPrice offer.price
  available := offer.map Offer.available
  stock := offer.map Offer.stock

/-- `_validate_item`. -/
def validateItem (item : CheckoutItem) : Txn (Option Offer × Option CheckoutRejectedItem) := do
  let offer : Option Offer ← Prog.get (Key.offer item.offerId)
  match offer with
  | none => return (none, some (rejection item .notFound none))
  | some offer =>
      if !offer.available then return (some offer, some (rejection item .unavailable offer))
      else if offer.stock < item.quantity then
        return (some offer, some (rejection item .insufficientStock offer))
      else if offer.price ≠ item.expectedPrice.decimal then
        return (some offer, some (rejection item .priceChanged offer))
      else return (some offer, none)

/-- The validation loop of `checkout`: the problems found and the valid lines with
their offers. -/
def validateItems : List CheckoutItem →
    Txn (List CheckoutRejectedItem × List (CheckoutItem × Offer))
  | [] => pure ([], [])
  | item :: items => do
      let (offer, problem) ← validateItem item
      let (problems, validItems) ← validateItems items
      match problem, offer with
      | some problem, _ => return (problem :: problems, validItems)
      | none, some offer => return (problems, (item, offer) :: validItems)
      | none, none => return (problems, validItems)

/-- `_consume_stock`. -/
def consumeStock (offerId : UUID) (quantity : ℕ) : Txn Bool :=
  Prog.update (.offer offerId)
    (fun offer : Offer => quantity ≤ offer.stock && offer.available)
    (fun offer : Offer => { offer with stock := offer.stock - quantity })

/-- A new `OrderItem`, with the defaults of its columns. -/
def newOrderItem (orderId : UUID) (line : ℕ) (item : CheckoutItem) (offer : Offer) :
    Txn Unit := do
  let id ← Prog.uuid4
  let createdAt ← Prog.utcnow
  let updatedAt ← Prog.utcnow
  let statusUpdatedAt ← Prog.utcnow
  Prog.add (.orderItem id)
    { orderId := orderId
      offerId := item.offerId
      line := line
      quantity := item.quantity
      purchasePrice := offer.price
      status := .placed
      createdAt := createdAt
      updatedAt := updatedAt
      statusUpdatedAt := statusUpdatedAt }

/-- The consuming loop of `checkout`, from the given line on. -/
def consumeItems (orderId : UUID) : ℕ → List (CheckoutItem × Offer) → Txn Unit
  | _, [] => pure ()
  | line, (item, offer) :: validItems => do
      let consumed ← consumeStock item.offerId item.quantity
      if consumed then
        newOrderItem orderId line item offer
        consumeItems orderId (line + 1) validItems
      else
        Prog.refresh (.offer item.offerId)
        let current ← Prog.attrs (.offer item.offerId)
        Prog.throw (.checkoutRejected [rejection item .insufficientStock current])

/-- A new `Order`, with the defaults of its columns; the number is the next one of
`order_number_seq`. -/
def newOrder (buyerId : UUID) : Txn UUID := do
  let id ← Prog.uuid4
  let number ← Prog.uuid4
  let createdAt ← Prog.utcnow
  let updatedAt ← Prog.utcnow
  Prog.add (.order id)
    { number := number, buyerId := buyerId, createdAt := createdAt, updatedAt := updatedAt }
  return id

/-- `checkout`. -/
def checkout (buyerId : UUID) (payload : CheckoutRequest) : Txn UUID := do
  let (problems, validItems) ← validateItems payload.items
  if problems ≠ [] then Prog.throw (.checkoutRejected problems)
  else
    let orderId ← newOrder buyerId
    Prog.flush
    consumeItems orderId 1 validItems
    Prog.flush
    Prog.refresh (.order orderId)
    Prog.record (.orderCreated orderId buyerId)
    return orderId

end MarketHub
