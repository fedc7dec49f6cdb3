import MarketHub.ReadCommitted.Ledger

/-!
The persisted models of Market Hub (`app/*/models.py`), its domain events
(`app/core/events.py`) and its business errors (`app/core/errors.py`).

Rows are kept under their primary keys, so a row does not repeat its `id`. A
`Numeric(12, 2)` column is a number of cents, a `DateTime(timezone=True)` column a
number of microseconds of UTC, and a `String` column that only ever holds one of a
few values is an enumeration. `Row` puts all tables under one type of keys, and the
`Table` instance says what a column-wise `UPDATE` writes and which unique indexes
there are.
-/

namespace MarketHub

open ReadCommitted

/-- Identifiers. -/
abbrev UUID := ℕ

/-- An aware `datetime`: microseconds of UTC. -/
abbrev DateTime := ℤ

/-- A `datetime` query parameter, which may lack its time zone. -/
structure QueryDateTime where
  instant : DateTime
  aware : Bool := true

/-- `timedelta(hours=h)`, in microseconds. -/
def hours (h : ℤ) : ℤ := h * 3600000000

/-- A text that PostgreSQL stores: it has no character of the code zero. -/
def Storable (text : String) : Prop := Char.ofNat 0 ∉ text.toList

/-! ### Enumerations -/

/-- `UserRole`. -/
inductive UserRole where
  | buyer | seller | ops
  deriving DecidableEq, Repr

/-- `OrderItem.status`. -/
inductive OrderItemStatus where
  | placed | preparing | inTransit | delivered | cancelled
  deriving DecidableEq, Repr

/-- `Conversation.status`: `open` or `closed`. -/
inductive ConversationStatus where
  | opened | closed
  deriving DecidableEq, Repr

/-- `ConversationReason`. -/
inductive ConversationReason where
  | atraso | troca | devolucao | reclamacao | suporte | elogio | outros
  deriving DecidableEq, Repr

/-- The values of `calculated_priority`, `ops_override` and the effective priority. -/
inductive Priority where
  | low | medium | high | critical
  deriving DecidableEq, Repr

/-- `Message.author_type` and `InternalComment.author_type`. -/
inductive AuthorType where
  | buyer | seller | system | ops
  deriving DecidableEq, Repr

/-- `ConversationClosed.closed_by`. -/
inductive ClosedBy where
  | manual | inactivity
  deriving DecidableEq, Repr

/-! ### Rows -/

/-- Table `users`, without the password hash. -/
structure User where
  email : String
  name : String
  role : UserRole
  sellerId : Option UUID
  deriving DecidableEq

/-- Table `sellers`. -/
structure Seller where
  name : String
  deriving DecidableEq

/-- Table `products`. -/
structure Product where
  name : String
  description : Option String
  deriving DecidableEq

/-- Table `offers`; the price in cents. -/
structure Offer where
  productId : UUID
  sellerId : UUID
  price : ℕ
  stock : ℤ
  available : Bool
  deriving DecidableEq

/-- Table `orders`. -/
structure Order where
  number : ℕ
  buyerId : UUID
  createdAt : DateTime
  updatedAt : DateTime
  deriving DecidableEq

/-- Table `order_items`; the price in cents. -/
structure OrderItem where
  orderId : UUID
  offerId : UUID
  line : ℕ
  quantity : ℕ
  purchasePrice : ℕ
  status : OrderItemStatus
  createdAt : DateTime
  updatedAt : DateTime
  statusUpdatedAt : DateTime
  deriving DecidableEq

/-- Table `conversations`. -/
structure Conversation where
  orderItemId : UUID
  reason : ConversationReason
  status : ConversationStatus
  createdAt : DateTime
  updatedAt : DateTime
  lastInteractionAt : DateTime
  calculatedPriority : Priority
  opsOverride : Option Priority
  priorityCalculatedAt : Option DateTime
  deriving DecidableEq

/-- Table `messages`. -/
structure Message where
  conversationId : UUID
  authorType : AuthorType
  authorUserId : Option UUID
  content : String
  createdAt : DateTime
  deriving DecidableEq

/-- Table `internal_comments`. -/
structure InternalComment where
  orderItemId : UUID
  authorId : UUID
  authorType : AuthorType
  content : String
  createdAt : DateTime
  deriving DecidableEq

/-- Table `notifications`. -/
structure Notification where
  recipientId : UUID
  notificationType : String
  title : String
  message : String
  entityType : String
  entityId : UUID
  previousStatus : String
  newStatus : String
  changedAt : DateTime
  createdAt : DateTime
  readAt : Option DateTime
  deriving DecidableEq

/-- Primary keys of all tables. -/
inductive Key where
  | user (id : UUID)
  | seller (id : UUID)
  | product (id : UUID)
  | offer (id : UUID)
  | order (id : UUID)
  | orderItem (id : UUID)
  | conversation (id : UUID)
  | message (id : UUID)
  | internalComment (id : UUID)
  | notification (id : UUID)
  deriving DecidableEq, Repr

/-- The row type of a key. -/
@[reducible] def Row : Key → Type
  | .user _ => User
  | .seller _ => Seller
  | .product _ => Product
  | .offer _ => Offer
  | .order _ => Order
  | .orderItem _ => OrderItem
  | .conversation _ => Conversation
  | .message _ => Message
  | .internalComment _ => InternalComment
  | .notification _ => Notification

instance : ∀ k : Key, DecidableEq (Row k)
  | .user _ => inferInstanceAs (DecidableEq User)
  | .seller _ => inferInstanceAs (DecidableEq Seller)
  | .product _ => inferInstanceAs (DecidableEq Product)
  | .offer _ => inferInstanceAs (DecidableEq Offer)
  | .order _ => inferInstanceAs (DecidableEq Order)
  | .orderItem _ => inferInstanceAs (DecidableEq OrderItem)
  | .conversation _ => inferInstanceAs (DecidableEq Conversation)
  | .message _ => inferInstanceAs (DecidableEq Message)
  | .internalComment _ => inferInstanceAs (DecidableEq InternalComment)
  | .notification _ => inferInstanceAs (DecidableEq Notification)

/-! ### Column-wise updates and unique indexes -/

/-- One column of an `UPDATE`: sent only when the attribute has changed. -/
def column {α : Type} [DecidableEq α] (old new base : α) : α := if old = new then base else new

/-- The columns of `offers`. -/
def Offer.patch (old new base : Offer) : Offer where
  productId := column old.productId new.productId base.productId
  sellerId := column old.sellerId new.sellerId base.sellerId
  price := column old.price new.price base.price
  stock := column old.stock new.stock base.stock
  available := column old.available new.available base.available

/-- The columns of `orders`. -/
def Order.patch (old new base : Order) : Order where
  number := column old.number new.number base.number
  buyerId := column old.buyerId new.buyerId base.buyerId
  createdAt := column old.createdAt new.createdAt base.createdAt
  updatedAt := column old.updatedAt new.updatedAt base.updatedAt

/-- The columns of `order_items`. -/
def OrderItem.patch (old new base : OrderItem) : OrderItem where
  orderId := column old.orderId new.orderId base.orderId
  offerId := column old.offerId new.offerId base.offerId
  line := column old.line new.line base.line
  quantity := column old.quantity new.quantity base.quantity
  purchasePrice := column old.purchasePrice new.purchasePrice base.purchasePrice
  status := column old.status new.status base.status
  createdAt := column old.createdAt new.createdAt base.createdAt
  updatedAt := column old.updatedAt new.updatedAt base.updatedAt
  statusUpdatedAt := column old.statusUpdatedAt new.statusUpdatedAt base.statusUpdatedAt

/-- The columns of `conversations`. -/
def Conversation.patch (old new base : Conversation) : Conversation where
  orderItemId := column old.orderItemId new.orderItemId base.orderItemId
  reason := column old.reason new.reason base.reason
  status := column old.status new.status base.status
  createdAt := column old.createdAt new.createdAt base.createdAt
  updatedAt := column old.updatedAt new.updatedAt base.updatedAt
  lastInteractionAt := column old.lastInteractionAt new.lastInteractionAt base.lastInteractionAt
  calculatedPriority :=
    column old.calculatedPriority new.calculatedPriority base.calculatedPriority
  opsOverride := column old.opsOverride new.opsOverride base.opsOverride
  priorityCalculatedAt :=
    column old.priorityCalculatedAt new.priorityCalculatedAt base.priorityCalculatedAt

/-- The columns of `notifications`. -/
def Notification.patch (old new base : Notification) : Notification where
  recipientId := column old.recipientId new.recipientId base.recipientId
  notificationType := column old.notificationType new.notificationType base.notificationType
  title := column old.title new.title base.title
  message := column old.message new.message base.message
  entityType := column old.entityType new.entityType base.entityType
  entityId := column old.entityId new.entityId base.entityId
  previousStatus := column old.previousStatus new.previousStatus base.previousStatus
  newStatus := column old.newStatus new.newStatus base.newStatus
  changedAt := column old.changedAt new.changedAt base.changedAt
  createdAt := column old.createdAt new.createdAt base.createdAt
  readAt := column old.readAt new.readAt base.readAt

/-- The columns of `uq_notifications_idempotency`. -/
def Notification.key (notification : Notification) :
    UUID × String × String × UUID × String × String × DateTime :=
  (notification.recipientId, notification.notificationType, notification.entityType,
    notification.entityId, notification.previousStatus, notification.newStatus,
    notification.changedAt)

/-- Two rows that the unique constraints of `users`, `uq_orders_number`,
`uq_order_items_order_id_line`, `uq_conversations_open_order_item` or
`uq_notifications_idempotency` do not allow together. -/
def uniqueClash : ∀ k : Key, Row k → ∀ k' : Key, Row k' → Bool
  | .user _, r, .user _, r' =>
      r.email == r'.email || (r.sellerId.isSome && r.sellerId == r'.sellerId)
  | .order _, r, .order _, r' => r.number == r'.number
  | .orderItem _, r, .orderItem _, r' => r.orderId == r'.orderId && r.line == r'.line
  | .conversation _, r, .conversation _, r' =>
      r.status == .opened && r'.status == .opened && r.orderItemId == r'.orderItemId
  | .notification _, r, .notification _, r' => r.key == r'.key
  | _, _, _, _ => false

/-- The columns of a row of any table; the rows of the remaining tables are updated
as a whole or not at all. -/
def patchRow : ∀ {k : Key}, Row k → Row k → Row k → Row k
  | .offer _, old, new, base => Offer.patch old new base
  | .order _, old, new, base => Order.patch old new base
  | .orderItem _, old, new, base => OrderItem.patch old new base
  | .conversation _, old, new, base => Conversation.patch old new base
  | .notification _, old, new, base => Notification.patch old new base
  | .user _, _, new, _ => new
  | .seller _, _, new, _ => new
  | .product _, _, new, _ => new
  | .message _, _, new, _ => new
  | .internalComment _, _, new, _ => new

instance : Table Row where
  patch := patchRow
  clash := uniqueClash

/-- A column that is sent stores the new value, and one that is not sent was not
changed. -/
@[simp] lemma column_self {α : Type} [DecidableEq α] (old new : α) : column old new old = new := by
  rw [column]
  split
  · assumption
  · rfl

instance : LawfulTable Row where
  patch_self {k} old new := by
    cases k <;> simp [Table.patch, patchRow, Offer.patch, Order.patch, OrderItem.patch,
      Conversation.patch, Notification.patch]

/-- The whole database. -/
abbrev Db := Store Row

/-! ### Events and errors -/

/-- The domain events. -/
inductive Event where
  | orderCreated (orderId buyerId : UUID)
  | orderItemStatusChanged (orderItemId : UUID) (fromStatus toStatus : OrderItemStatus)
  | orderItemCancelled (orderItemId : UUID) (restoredStock : Bool)
  | conversationCreated (conversationId orderItemId : UUID)
  | messageCreated (messageId conversationId : UUID)
  | conversationClosed (conversationId : UUID) (closedBy : ClosedBy)
  | conversationPriorityChanged (conversationId : UUID) (fromPriority toPriority : Priority)
      (changedAt : DateTime)
  | internalCommentCreated (commentId orderItemId : UUID)
  deriving DecidableEq

/-- Why a checkout line is rejected. -/
inductive RejectionReason where
  | notFound | unavailable | insufficientStock | priceChanged
  deriving DecidableEq

/-- `CheckoutRejectedItem`; the prices as text. -/
structure CheckoutRejectedItem where
  offerId : UUID
  reason : RejectionReason
  expectedPrice : Option String := none
  currentPrice : Option String := none
  available : Option Bool := none
  stock : Option ℤ := none
  deriving DecidableEq

/-- The business errors with their messages, the validation error of a query
parameter with its location, the `TypeError` and `ValueError` of a conversion, and the
`DataError` of a parameter that does not fit its type. -/
inductive DomainError where
  | resourceNotFound (message : String)
  | resourceInUse (message : String)
  | unauthorized (message : String)
  | forbidden (message : String)
  | invalidTransition (message : String)
  | checkoutRejected (items : List CheckoutRejectedItem)
  | requestValidation (loc : List String) (message : String)
  | typeError (message : String)
  | valueError (message : String)
  | dataError (message : String)
  deriving DecidableEq

/-- `DomainError.status_code`. -/
def DomainError.statusCode : DomainError → ℕ
  | .resourceNotFound _ => 404
  | .resourceInUse _ => 409
  | .unauthorized _ => 401
  | .forbidden _ => 403
  | .invalidTransition _ => 409
  | .checkoutRejected _ => 409
  | .requestValidation _ _ => 422
  | .typeError _ => 500
  | .valueError _ => 500
  | .dataError _ => 500

/-- Programs of the application. -/
abbrev Txn := Prog Row Event DomainError

/-- The session of a request. -/
abbrev AppSession := Session Row Event

/-! ### Reading tables -/

/-- A row of `users`. -/
abbrev Db.user (v : Db) (id : UUID) : Option User := v.lookup (.user id)

/-- A row of `sellers`. -/
abbrev Db.seller (v : Db) (id : UUID) : Option Seller := v.lookup (.seller id)

/-- A row of `products`. -/
abbrev Db.product (v : Db) (id : UUID) : Option Product := v.lookup (.product id)

/-- A row of `offers`. -/
abbrev Db.offer (v : Db) (id : UUID) : Option Offer := v.lookup (.offer id)

/-- A row of `orders`. -/
abbrev Db.order (v : Db) (id : UUID) : Option Order := v.lookup (.order id)

/-- A row of `order_items`. -/
abbrev Db.orderItem (v : Db) (id : UUID) : Option OrderItem := v.lookup (.orderItem id)

/-- A row of `conversations`. -/
abbrev Db.conversation (v : Db) (id : UUID) : Option Conversation := v.lookup (.conversation id)

/-- A row of `messages`. -/
abbrev Db.message (v : Db) (id : UUID) : Option Message := v.lookup (.message id)

/-- A row of `notifications`. -/
abbrev Db.notification (v : Db) (id : UUID) : Option Notification := v.lookup (.notification id)

/-- The rows of `order_items`. -/
def Db.orderItems (v : Db) : List (UUID × OrderItem) :=
  v.entries.filterMap fun e =>
    match e with
    | ⟨.orderItem id, r⟩ => some (id, r)
    | _ => none

/-- The item of an entry of the table is the one under its identifier. -/
lemma mem_orderItems {v : Db} {id : UUID} {item : OrderItem} :
    (id, item) ∈ Db.orderItems v ↔ Db.orderItem v id = some item := by
  rw [Db.orderItems, List.mem_filterMap]
  constructor
  · rintro ⟨⟨k, r⟩, he, hk⟩
    cases k <;> simp at hk
    obtain ⟨rfl, rfl⟩ := hk
    exact AList.mem_lookup_iff.mpr he
  · intro h
    exact ⟨⟨.orderItem id, item⟩, AList.mem_lookup_iff.mp h, rfl⟩

/-- The rows of `conversations`. -/
def Db.conversations (v : Db) : List (UUID × Conversation) :=
  v.entries.filterMap fun e =>
    match e with
    | ⟨.conversation id, r⟩ => some (id, r)
    | _ => none

/-- The conversation of an entry of the table is the one under its identifier. -/
lemma mem_conversations {v : Db} {id : UUID} {conversation : Conversation} :
    (id, conversation) ∈ Db.conversations v ↔ Db.conversation v id = some conversation := by
  rw [Db.conversations, List.mem_filterMap]
  constructor
  · rintro ⟨⟨k, r⟩, he, hk⟩
    cases k <;> simp at hk
    obtain ⟨rfl, rfl⟩ := hk
    exact AList.mem_lookup_iff.mpr he
  · intro h
    exact ⟨⟨.conversation id, conversation⟩, AList.mem_lookup_iff.mp h, rfl⟩

/-- The rows of `orders`. -/
def Db.orders (v : Db) : List (UUID × Order) :=
  v.entries.filterMap fun e =>
    match e with
    | ⟨.order id, r⟩ => some (id, r)
    | _ => none

/-- The order of an entry of the table is the one under its identifier. -/
lemma mem_orders {v : Db} {id : UUID} {order : Order} :
    (id, order) ∈ Db.orders v ↔ Db.order v id = some order := by
  rw [Db.orders, List.mem_filterMap]
  constructor
  · rintro ⟨⟨k, r⟩, he, hk⟩
    cases k <;> simp at hk
    obtain ⟨rfl, rfl⟩ := hk
    exact AList.mem_lookup_iff.mpr he
  · intro h
    exact ⟨⟨.order id, order⟩, AList.mem_lookup_iff.mp h, rfl⟩

/-- The rows of `users`. -/
def Db.users (v : Db) : List (UUID × User) :=
  v.entries.filterMap fun e =>
    match e with
    | ⟨.user id, r⟩ => some (id, r)
    | _ => none

/-- The user of an entry of the table is the one under its identifier. -/
lemma mem_users {v : Db} {id : UUID} {user : User} :
    (id, user) ∈ Db.users v ↔ Db.user v id = some user := by
  rw [Db.users, List.mem_filterMap]
  constructor
  · rintro ⟨⟨k, r⟩, he, hk⟩
    cases k <;> simp at hk
    obtain ⟨rfl, rfl⟩ := hk
    exact AList.mem_lookup_iff.mpr he
  · intro h
    exact ⟨⟨.user id, user⟩, AList.mem_lookup_iff.mp h, rfl⟩

/-- A table lists every row once. -/
lemma table_nodup {α : Type} (v : Db) {f : Sigma Row → Option (UUID × α)} (key : UUID → Key)
    (hkey : ∀ e r, f e = some r → e.1 = key r.1) :
    ((v.entries.filterMap f).map Prod.fst).Nodup := by
  have hkeys : ((v.entries.filterMap f).map fun r => key r.1).Sublist v.keys := by
    rw [AList.keys]
    induction v.entries with
    | nil => exact List.Sublist.refl _
    | cons e l ih =>
        cases he : f e with
        | none =>
            rw [List.filterMap_cons_none he]
            exact ih.cons _
        | some r =>
            rw [List.filterMap_cons_some he, List.map_cons, ← hkey e r he]
            exact ih.cons_cons _
  have hnodup := hkeys.nodup v.keys_nodup
  rw [← Function.comp_def, ← List.map_map] at hnodup
  exact List.Nodup.of_map _ hnodup

/-- A table lists every order item once. -/
lemma orderItems_nodup (v : Db) : ((Db.orderItems v).map Prod.fst).Nodup :=
  table_nodup v Key.orderItem fun ⟨k, _⟩ _ hk => by
    cases k <;> simp at hk
    rw [← hk]

/-- A table lists every conversation once. -/
lemma conversations_nodup (v : Db) : ((Db.conversations v).map Prod.fst).Nodup :=
  table_nodup v Key.conversation fun ⟨k, _⟩ _ hk => by
    cases k <;> simp at hk
    rw [← hk]

/-- A table lists every order once. -/
lemma orders_nodup (v : Db) : ((Db.orders v).map Prod.fst).Nodup :=
  table_nodup v Key.order fun ⟨k, _⟩ _ hk => by
    cases k <;> simp at hk
    rw [← hk]

/-- The rows of `messages`. -/
def Db.messages (v : Db) : List (UUID × Message) :=
  v.entries.filterMap fun e =>
    match e with
    | ⟨.message id, r⟩ => some (id, r)
    | _ => none

/-- The rows of `notifications`. -/
def Db.notifications (v : Db) : List (UUID × Notification) :=
  v.entries.filterMap fun e =>
    match e with
    | ⟨.notification id, r⟩ => some (id, r)
    | _ => none

/-- A table lists every notification once. -/
lemma notifications_nodup (v : Db) : ((Db.notifications v).map Prod.fst).Nodup :=
  table_nodup v Key.notification fun ⟨k, _⟩ _ hk => by
    cases k <;> simp at hk
    rw [← hk]

/-- A weight of order items, as a weight of rows. -/
def itemWeight (f : UUID → OrderItem → ℤ) : (k : Key) → Row k → ℤ
  | .orderItem id, r => f id r
  | _, _ => 0

/-- A sum over the table `order_items`. -/
lemma sum_orderItems (f : UUID → OrderItem → ℤ) (st : Db) :
    ((Db.orderItems st).map fun item => f item.1 item.2).sum = total (itemWeight f) st := by
  rw [total, Db.orderItems]
  induction st.entries with
  | nil => rfl
  | cons e l ih =>
      obtain ⟨k, r⟩ := e
      rw [List.map_cons, List.sum_cons, ← ih]
      cases k <;> simp [itemWeight]

/-- The user behind a request (`CurrentUser`). -/
structure CurrentUser where
  id : UUID
  role : UserRole
  sellerId : Option UUID

/-- `require_seller`: the store of the seller. -/
def requireSeller (user : CurrentUser) : Txn UUID :=
  match user.role, user.sellerId with
  | .seller, some sellerId => pure sellerId
  | _, _ => Prog.throw (.forbidden "Seller role required")

/-- `require_buyer`. -/
def requireBuyer (user : CurrentUser) : Txn Unit :=
  if user.role = .buyer then pure () else Prog.throw (.forbidden "Buyer role required")

/-- `require_ops`. -/
def requireOps (user : CurrentUser) : Txn Unit :=
  if user.role = .ops then pure () else Prog.throw (.forbidden "Ops role required")

/-- The settings the modelled functions read. -/
structure Settings where
  conversationInactivityHours : ℤ := 120
  reconcilePageSize : ℕ := 50

end MarketHub
