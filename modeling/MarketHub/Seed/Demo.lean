import MarketHub.Seed.DemoData
import MarketHub.Communication.Priority
import MarketHub.Notifications.Bridge

/-!
The seed of the demonstration (`app/catalog/seed.py`, `app/catalog/demo.py`, `app/auth/seed.py`,
`app/orders/seed.py`, `app/communication/seed.py`, `app/support/seed.py`,
`app/notifications/seed.py`).

The seed runs in one transaction of its own. A `Step` is what one statement of its loops does to
the database, and `seed` runs all of them in turn; an error of a step undoes the whole.
-/

namespace MarketHub.Seed

open ReadCommitted

/-- Why the seed fails. -/
inductive SeedError where
  | passwordNotSet
  | sellerNotSeeded (sellerId : UUID)
  | duplicateOrder
  | itemNotInTable (itemN : ℕ)
  | negativeStock (offerN : ℕ)
  | duplicateConversationItem
  | orderItemMissing (itemN : ℕ)
  | conversationMissing (convN : ℕ)
  | itemOfConversationMissing (convN : ℕ)
  | orderOrOfferMissing (itemId : UUID)
  | sellerUserMissing (sellerId : UUID)
  | orderMissing (itemId : UUID)
  | unknownNotificationType
  | integrity
  deriving DecidableEq

/-- What a statement does to the database. -/
abbrev Step := Db → Except SeedError Db

/-- Statements in turn. -/
def runSteps : List Step → Step
  | [], v => .ok v
  | step :: steps, v => do
      let w ← step v
      runSteps steps w

/-! ### Rows -/

/-- `session.add`, and the `INSERT` of the next flush. -/
def insertRow (k : Key) (r : Row k) : Step := fun v =>
  if clashes v k r then .error .integrity else .ok (v.insert k r)

/-- `add_if_missing`. -/
def addIfMissing (k : Key) (r : Row k) : Step := fun v =>
  match v.lookup k with
  | some _ => .ok v
  | none => insertRow k r v

/-- `add_or_replace_content`, of a row with a content. -/
def addOrReplaceContent (k : Key) (content : Row k → String) (withContent : Row k → String → Row k)
    (entity : Row k) : Step := fun v =>
  match v.lookup k with
  | none => insertRow k entity v
  | some existing =>
      if content existing ≠ content entity then .ok
        (v.insert k (withContent existing (content entity)))
      else .ok v

/-- `add_or_replace_content`, of a message. -/
def addOrReplaceMessage (id : UUID) (message : Message) : Step :=
  addOrReplaceContent (.message id) Message.content (fun (r : Message) content =>
    { r with content := content }) message

/-- `add_or_replace_content`, of a comment. -/
def addOrReplaceComment (id : UUID) (comment : InternalComment) : Step :=
  addOrReplaceContent (.internalComment id) InternalComment.content
    (fun (r : InternalComment) content => { r with content := content }) comment

/-! ### Sellers, users and the catalogue -/

/-- `seed_sellers` and `seed_demo_sellers`, of the given rows. -/
def sellerSteps (sellers : List (UUID × Seller)) : List Step :=
  sellers.map fun seller => addIfMissing (.seller seller.1) seller.2

/-- `_require_password`. -/
def requirePassword (seedPassword : Option String) : Step := fun v =>
  match seedPassword with
  | none => .error .passwordNotSet
  | some secret => if secret = "" then .error .passwordNotSet else .ok v

/-- `_add_user`. -/
def addUser (user : UUID × User) : Step := fun v =>
  match user.2.sellerId with
  | none => addIfMissing (.user user.1) user.2 v
  | some sellerId =>
      match Db.seller v sellerId with
      | none => .error (.sellerNotSeeded sellerId)
      | some _ => addIfMissing (.user user.1) user.2 v

/-- `seed_users` and `seed_demo_users`, of the given rows. -/
def userSteps (seedPassword : Option String) (users : List (UUID × User)) : List Step :=
  requirePassword seedPassword :: users.map addUser

/-- `product_id`. -/
def productId (n : ℕ) : UUID := 0x01000001000040008000000000000000 + n

/-- `offer_id`. -/
def offerId (n : ℕ) : UUID := 0x01000002000040008000000000000000 + n

/-- `seed_demo_catalog`. -/
def catalogSteps : List Step :=
  (products.map fun product =>
    addIfMissing (.product (productId product.1)) (⟨product.2.1, some product.2.2⟩ : Product))
  ++ offers.map fun offer =>
    addIfMissing (.offer (offerId offer.n))
      (⟨productId offer.productN, offer.sellerId, offer.price, offer.baseStock,
        offer.available⟩ : Offer)

/-! ### Orders -/

/-- `demo_order_number`. -/
def demoOrderNumber (orderN : ℕ) : ℕ := 1000 + orderN

/-- `order_id`. -/
def orderId (orderN : ℕ) : UUID := 0x01000003000040008000000000000000 + orderN

/-- The identifier of the item at a line of an order. -/
def placedItemId (orderN line : ℕ) : UUID :=
  0x01000004000040008000000000000000 + orderN * 0x1000000 + line

/-- `_item_placement`. -/
def itemPlacement (itemN : ℕ) : Option (ℕ × ℕ) :=
  orders.findSome? fun order => (order.items.zipIdx 1).findSome? fun item =>
    if item.1.itemN = itemN then some (order.orderN, item.2) else none

/-- `item_id`. -/
def itemId (itemN : ℕ) : Except SeedError UUID :=
  match itemPlacement itemN with
  | some (orderN, line) => .ok (placedItemId orderN line)
  | none => .error (.itemNotInTable itemN)

/-- The rows of the items, each with its order and its line. -/
def demoItems : List (DemoOrder × DemoItem × ℕ) :=
  orders.flatMap fun order => (order.items.zipIdx 1).map fun item => (order, item.1, item.2)

/-- `assert_unique_demo_order_ids`. -/
def assertUniqueDemoOrderIds : Step := fun v => do
  let itemIds ← demoItems.mapM fun item => itemId item.2.1.itemN
  if (orders.map DemoOrder.orderN).Nodup ∧ (demoItems.map fun item => item.2.1.itemN).Nodup
      ∧ (demoItems.map fun item => (demoOrderNumber item.1.orderN, item.2.2)).Nodup
      ∧ itemIds.Nodup ∧ (orders.map fun order => orderId order.orderN).Nodup
    then return v
  else .error .duplicateOrder

/-- `_consumes_stock`. -/
def consumesStock (status : OrderItemStatus) (cancelledFrom : Option OrderItemStatus) : Bool :=
  if status = .cancelled then cancelledFrom = some .inTransit else true

/-- `consumed_by_offer`, of one offer. -/
def consumedByOffer (offerN : ℕ) : ℕ :=
  ((demoItems.filter fun item => item.2.1.offerN = offerN
    && consumesStock item.2.1.status item.2.1.cancelledFrom).map fun item => item.2.1.quantity).sum

/-- The stock that is left of an offer. -/
def remaining (offer : DemoOffer) : ℤ := offer.baseStock - consumedByOffer offer.n

/-- The `Order` of a row. -/
def addOrder (now : DateTime) (order : DemoOrder) : Step :=
  addIfMissing (.order (orderId order.orderN))
    (⟨demoOrderNumber order.orderN, buyers order.buyer, now - hours order.hoursAgo,
      now - hours order.hoursAgo⟩ : Order)

/-- `offer_price`. -/
def offerPrice (offerN : ℕ) : ℕ := ((offers.find? (·.n = offerN)).map DemoOffer.price).getD 0

/-- The `OrderItem` of a row. -/
def addOrderItem (now : DateTime) (item : DemoOrder × DemoItem × ℕ) : Step := fun v => do
  let id ← itemId item.2.1.itemN
  let created := now - hours item.1.hoursAgo
  addIfMissing (.orderItem id)
    (⟨orderId item.1.orderN, offerId item.2.1.offerN, item.2.2, item.2.1.quantity,
      offerPrice item.2.1.offerN, item.2.1.status, created, created, created⟩ : OrderItem) v

/-- The stock of an offer is set to what is left. -/
def setStock (offer : DemoOffer) : Step := fun v =>
  match Db.offer v (offerId offer.n) with
  | none => .ok v
  | some stored =>
      if remaining offer < 0 then .error (.negativeStock offer.n)
      else .ok (v.insert (.offer (offerId offer.n)) { stored with stock := remaining offer })

/-- The first part of `seed_demo_orders`. -/
def orderSteps (now : DateTime) : List Step :=
  assertUniqueDemoOrderIds :: (orders.map (addOrder now) ++ demoItems.map (addOrderItem now))

/-! ### Conversations -/

/-- `conversation_id`. -/
def conversationId (n : ℕ) : UUID := 0x01000005000040008000000000000000 + n

/-- `message_id`. -/
def messageId (n : ℕ) : UUID := 0x01000006000040008000000000000000 + n

/-- The items of `CONVERSATIONS` are different. -/
def assertUniqueConversationItems : Step := fun v =>
  if (conversations.map DemoConversation.itemN).Nodup then .ok v
  else .error .duplicateConversationItem

/-- The `Conversation` of a row. -/
def addConversation (now : DateTime) (conversation : DemoConversation) : Step := fun v => do
  let id ← itemId conversation.itemN
  match Db.orderItem v id with
  | none => .error (.orderItemMissing conversation.itemN)
  | some item =>
      let createdAt := now - hours conversation.createdHours
      let lastAt := now - hours conversation.lastHours
      let calculated :=
        calculatePriority conversation.reason item.status createdAt item.purchasePrice now
      addIfMissing (.conversation (conversationId conversation.convN))
        (⟨id, conversation.reason, conversation.status, createdAt, lastAt, lastAt, calculated,
          conversation.override, some now⟩ : Conversation) v

/-- `_seller_user_id`. -/
def sellerUserId (v : Db) (sellerId : UUID) : Option UUID :=
  ((Db.users v).find? fun user => user.2.sellerId = some sellerId).map Prod.fst

/-- The content of a message: the first one of a conversation names its item. -/
def messageBody (isFirst : Bool) (order : Order) (item : OrderItem) (content : String) : String :=
  if isFirst then "Pedido #" ++ itemNumber order.number item.line ++ ": " ++ content else content

/-- The `Message` of a row. -/
def addMessage (now : DateTime) (isFirst : Bool) (message : DemoMessage) : Step := fun v =>
  match Db.conversation v (conversationId message.convN) with
  | none => .error (.conversationMissing message.convN)
  | some conversation =>
      match Db.orderItem v conversation.orderItemId with
      | none => .error (.itemOfConversationMissing message.convN)
      | some item =>
          -- `_authors`
          match Db.order v item.orderId, Db.offer v item.offerId with
          | some order, some offer =>
              match sellerUserId v offer.sellerId with
              | none => .error (.sellerUserMissing offer.sellerId)
              | some sellerId =>
                  let authorId := if message.author = .buyer then order.buyerId else sellerId
                  addOrReplaceMessage (messageId message.msgN)
                    ⟨conversationId message.convN, message.author, some authorId,
                      messageBody isFirst order item message.content,
                      now - hours message.hoursAgo⟩ v
          | _, _ => .error (.orderOrOfferMissing conversation.orderItemId)

/-- The loop over `MESSAGES`, with the conversations that have their prefix. -/
def messageSteps (now : DateTime) : List ℕ → List DemoMessage → List Step
  | _, [] => []
  | prefixed, message :: messages =>
      addMessage now (message.convN ∉ prefixed) message
        :: messageSteps now (message.convN :: prefixed) messages

/-- `seed_demo_conversations`. -/
def conversationSteps (now : DateTime) : List Step :=
  assertUniqueConversationItems
    :: (conversations.map (addConversation now) ++ messageSteps now [] messages)

/-! ### Comments and notifications -/

/-- `comment_id`. -/
def commentId (n : ℕ) : UUID := 0x01000007000040008000000000000000 + n

/-- The `InternalComment` of a row. -/
def addComment (now : DateTime) (comment : DemoComment) : Step := fun v => do
  let id ← itemId comment.itemN
  match Db.orderItem v id with
  | none => .error (.orderItemMissing comment.itemN)
  | some item =>
      match Db.order v item.orderId with
      | none => .error (.orderMissing id)
      | some order =>
          addOrReplaceComment (commentId comment.n)
            ⟨id, comment.authorId, comment.authorType,
              "Pedido #" ++ itemNumber order.number item.line ++ ": " ++ comment.content,
              now - hours comment.hoursAgo⟩ v

/-- `notification_id`. -/
def notificationId (n : ℕ) : UUID := 0x01000008000040008000000000000000 + n

/-- What a notification is about. -/
inductive Entity where
  | item (itemN : ℕ)
  | conversation (convN : ℕ)

/-- The identifier. -/
def Entity.id : Entity → Except SeedError UUID
  | .item itemN => itemId itemN
  | .conversation convN => .ok (conversationId convN)

/-- The entity type. -/
def Entity.type : Entity → String
  | .item _ => entityOrderItem
  | .conversation _ => entityConversation

/-- The arguments of `_row`; the moments as hours before the seed. -/
structure DemoNotification where
  n : ℕ
  recipientId : UUID
  notificationType : String
  entity : Entity
  previous : String
  new : String
  changedHours : ℤ
  readHours : Option ℤ

/-- The rows of `seed_demo_notifications`. -/
def notifications : List DemoNotification :=
  [⟨1, sellerAUserId, orderItemStatusChangedType, .item 6, "preparing", "in_transit", 5, none⟩,
   ⟨2, buyerId, orderItemStatusChangedType, .item 6, "preparing", "in_transit", 5, none⟩,
   ⟨3, sellerAUserId, conversationPriorityChangedType, .conversation 1, "high",
     "critical", 2, none⟩,
   ⟨4, opsId, conversationPriorityChangedType, .conversation 1, "high", "critical", 2, none⟩,
   ⟨5, sellerAUserId, orderItemStatusChangedType, .item 4, "placed", "preparing", 8, some 7⟩,
   ⟨6, buyerId, conversationStatusChangedType, .conversation 13, "open", "closed", 30, some 20⟩,
   ⟨7, sellerAUserId, conversationStatusChangedType, .conversation 13, "open",
     "closed", 30, some 20⟩,
   ⟨8, sellerTechUserId, conversationPriorityChangedType, .conversation 6, "medium",
     "high", 6, none⟩,
   ⟨9, opsId, conversationPriorityChangedType, .conversation 6, "medium", "high", 6, none⟩,
   ⟨10, buyerId, orderItemStatusChangedType, .item 10, "in_transit", "delivered", 50, some 40⟩]

/-- `_row` and `add_if_missing`. -/
def addNotification (now : DateTime) (row : DemoNotification) : Step := fun v => do
  let entityId ← row.entity.id
  match buildCopy row.notificationType row.previous row.new with
  | none => .error .unknownNotificationType
  | some (title, message) =>
      let changedAt := now - hours row.changedHours
      addIfMissing (.notification (notificationId row.n))
        (⟨row.recipientId, row.notificationType, title, message, row.entity.type, entityId,
          row.previous, row.new, changedAt, changedAt,
          row.readHours.map fun h => now - hours h⟩ : Notification) v

/-! ### The seed -/

/-- `seed_all`. -/
def seedAll (seedPassword : Option String) : List Step :=
  sellerSteps seedSellerRows ++ userSteps seedPassword seedUserRows

/-- `seed_demo` up to the stock of the offers. -/
def seedBefore (seedPassword : Option String) (now : DateTime) : List Step :=
  sellerSteps demoSellers ++ userSteps seedPassword demoUsers ++ catalogSteps ++ orderSteps now

/-- `seed_demo` after the stock of the offers. -/
def seedAfter (now : DateTime) : List Step :=
  conversationSteps now ++ comments.map (addComment now) ++ notifications.map (addNotification now)

/-- `main`: `seed_all` and `seed_demo` in one transaction. -/
def seed (seedPassword : Option String) (now : DateTime) : Step := fun v => do
  let v ← runSteps (seedAll seedPassword ++ seedBefore seedPassword now) v
  let v ← runSteps (offers.map setStock) v
  runSteps (seedAfter now) v

end MarketHub.Seed
