import MarketHub.Tables

/-!
The catalogue (`app/catalog`): prices as text and the offer routes.

* `Price` is the text a request may carry as a price, `Price.decimal` its value in
  cents and `formatPrice` the text of a stored price.
* `updateOffer` merges the fields a request has set into the stored offer. A null is sent
  with the other fields, and the database refuses the statement.
* `deleteOffer` is refused while order items refer to the offer.
* `updateProduct` does the same for a product.
-/

namespace MarketHub

open ReadCommitted

/-- `format_price`. -/
def formatPrice (cents : ℕ) : String :=
  toString (cents / 100) ++ "." ++ (if cents % 100 < 10 then "0" else "") ++ toString (cents % 100)

/-- There are ten digits. -/
instance digits_neZero : NeZero 10 := ⟨by decide⟩

/-- `Price`: a text of the form `^\d+\.\d{2}$`. -/
structure Price where
  whole : List (Fin 10)
  tenths : Fin 10
  hundredths : Fin 10
  whole_ne_nil : whole ≠ []
  deriving DecidableEq

/-- The text itself. -/
def Price.text (p : Price) : String :=
  String.ofList (p.whole.map (fun d => Nat.digitChar d)
    ++ ['.', Nat.digitChar p.tenths, Nat.digitChar p.hundredths])

/-- `Decimal(price)`, in cents. -/
def Price.decimal (p : Price) : ℕ :=
  100 * p.whole.foldl (fun n d => 10 * n + d.val) 0 + 10 * p.tenths + p.hundredths

/-- `OfferUpdate`: each field is unset, null or a value. -/
structure OfferUpdate where
  price : Option (Option Price) := none
  stock : Option (Option ℕ) := none
  available : Option (Option Bool) := none
  deriving DecidableEq

/-- `OfferCreate`. -/
structure OfferCreate where
  productId : UUID
  price : Price
  stock : ℕ
  available : Bool := true

/-- `OfferResponse`. -/
structure OfferResponse where
  id : UUID
  productId : UUID
  sellerId : UUID
  sellerName : String
  price : String
  stock : ℤ
  available : Bool
  deriving DecidableEq

/-- `offer_response`. -/
def offerResponse (id : UUID) (offer : Offer) (seller : Seller) : OfferResponse where
  id := id
  productId := offer.productId
  sellerId := offer.sellerId
  sellerName := seller.name
  price := formatPrice offer.price
  stock := offer.stock
  available := offer.available

/-- `_seller_for_offer`. -/
def sellerForOffer (offer : Offer) : Txn Seller := do
  match ← Prog.get (.seller offer.sellerId) with
  | none => Prog.throw (.resourceNotFound "Seller not found")
  | some seller => pure seller

/-- `_require_owned_offer`. -/
def requireOwnedOffer (offer : Option Offer) (sellerId : UUID) : Txn Offer :=
  match offer with
  | none => Prog.throw (.resourceNotFound "Offer not found")
  | some offer =>
      if offer.sellerId = sellerId then pure offer
      else Prog.throw (.forbidden "Offer does not belong to the authenticated seller")

/-- `create_offer`. -/
def createOffer (payload : OfferCreate) (seller : CurrentUser) : Txn OfferResponse := do
  let sellerId ← requireSeller seller
  let product ← Prog.get (.product payload.productId)
  if product.isNone then Prog.throw (.resourceNotFound "Product not found")
  else
    let id ← Prog.uuid4
    let offer : Offer :=
      { productId := payload.productId
        sellerId := sellerId
        price := payload.price.decimal
        stock := payload.stock
        available := payload.available }
    Prog.add (.offer id) offer
    Prog.flush
    return offerResponse id offer (← sellerForOffer offer)

/-- `get_offer`. -/
def getOffer (offerId : UUID) : Txn OfferResponse := do
  match ← Prog.get (.offer offerId) with
  | none => Prog.throw (.resourceNotFound "Offer not found")
  | some offer => return offerResponse offerId offer (← sellerForOffer offer)

/-- `setattr` of a field the request has set; `none` is a null. -/
def mergeField {α : Type} (field : Option (Option α)) (stored : α) : Option α :=
  field.getD (some stored)

/-- `Decimal(updates["price"])`. -/
def mergePrice (field : Option (Option Price)) (stored : ℕ) : Txn ℕ :=
  match field with
  | none => pure stored
  | some (some price) => pure price.decimal
  | some none => Prog.throw (.typeError "conversion from NoneType to Decimal is not supported")

/-- `update_offer`. -/
def updateOffer (offerId : UUID) (payload : OfferUpdate) (seller : CurrentUser) :
    Txn OfferResponse := do
  let sellerId ← requireSeller seller
  let offer ← requireOwnedOffer (← Prog.get (.offer offerId)) sellerId
  let price ← mergePrice payload.price offer.price
  let stock := mergeField (payload.stock.map (Option.map Int.ofNat)) offer.stock
  let available := mergeField payload.available offer.available
  let updated : Offer :=
    { offer with
      price := price
      stock := stock.getD offer.stock
      available := available.getD offer.available }
  Prog.assign (.offer offerId) updated
  Prog.flush
  -- the columns are `NOT NULL`: an `UPDATE` that sets one of them to null is refused
  if stock.isNone || available.isNone then .raise .database
  else return offerResponse offerId updated (← sellerForOffer updated)

/-- `delete_offer`. -/
def deleteOffer (offerId : UUID) (seller : CurrentUser) : Txn Unit := do
  let sellerId ← requireSeller seller
  let _ ← requireOwnedOffer (← Prog.get (.offer offerId)) sellerId
  let deleted ← Prog.delete (.offer offerId) fun v =>
    (Db.orderItems v).any fun item => item.2.offerId == offerId
  if deleted then pure ()
  else Prog.throw (.resourceInUse "Offer has associated order items")

/-! ### Products -/

/-- A name that `ProductUpdate` admits. -/
structure ProductName where
  text : String
  not_empty : 1 ≤ text.length
  fits : text.length ≤ 200
  deriving DecidableEq

/-- A description that `ProductUpdate` admits. -/
structure ProductDescription where
  text : String
  fits : text.length ≤ 2000
  deriving DecidableEq

/-- `ProductUpdate`: each field is unset, null or a value. -/
structure ProductUpdate where
  name : Option (Option ProductName) := none
  description : Option (Option ProductDescription) := none
  deriving DecidableEq

/-- `update_product`. -/
def updateProduct (productId : UUID) (payload : ProductUpdate) : Txn Product := do
  let product : Option Product ← Prog.get (Key.product productId)
  match product with
  | none => Prog.throw (.resourceNotFound "Product not found")
  | some product =>
      let name := mergeField (payload.name.map (Option.map ProductName.text)) product.name
      let description :=
        (payload.description.map (Option.map ProductDescription.text)).getD product.description
      let updated : Product := { name := name.getD product.name, description := description }
      Prog.assign (.product productId) updated
      Prog.flush
      -- the name is `NOT NULL`
      if name.isNone then .raise .database
      else return updated

end MarketHub
