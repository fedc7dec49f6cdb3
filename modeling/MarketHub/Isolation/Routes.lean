import MarketHub.Communication.Routes
import MarketHub.Notifications.Inbox
import MarketHub.Orders.Reading
import MarketHub.ReadCommitted.Alone
import MarketHub.Support.Comments

/-!
What a participant is told of the rows of others.

* `BelongsTo v user k`: the row is one of the user's.
* `ParticipantRoute`: the routes of buyers and sellers that are about one row.
* `DeniesAlike`: two programs that raise the same and leave everything as it was.
* `deniesAlike_of_foreign`: a row of others is denied like one that does not exist.
-/

namespace MarketHub

open ReadCommitted OffsetPaging

/-! ### Whose a row is -/

/-- The user takes part in the order item: as the buyer of its order, or as the seller of its
offer. -/
def Participates (v : Db) (user : CurrentUser) (item : OrderItem) : Prop :=
  match user.role with
  | .buyer => ∃ order, Db.order v item.orderId = some order ∧ order.buyerId = user.id
  | .seller => ∃ offer, Db.offer v item.offerId = some offer ∧ user.sellerId = some offer.sellerId
  | .ops => False

/-- An order item of the user. -/
def HasItem (v : Db) (user : CurrentUser) (itemId : UUID) : Prop :=
  ∃ item, Db.orderItem v itemId = some item ∧ Participates v user item

/-- An order of the user: one that a buyer has placed, or one with an item of a seller. -/
def HasOrder (v : Db) (user : CurrentUser) (orderId : UUID) : Prop :=
  ∃ order, Db.order v orderId = some order
    ∧ (user.role = .buyer ∧ order.buyerId = user.id
      ∨ user.role = .seller ∧ ∃ itemId item, Db.orderItem v itemId = some item
        ∧ item.orderId = orderId ∧ Participates v user item)

/-- A conversation of the user. -/
def HasConversation (v : Db) (user : CurrentUser) (conversationId : UUID) : Prop :=
  ∃ conversation, Db.conversation v conversationId = some conversation
    ∧ HasItem v user conversation.orderItemId

/-- The row is one of the user's. -/
def BelongsTo (v : Db) (user : CurrentUser) : Key → Prop
  | .order id => HasOrder v user id
  | .orderItem id => HasItem v user id
  | .conversation id => HasConversation v user id
  | .message id => ∃ message, Db.message v id = some message
      ∧ HasConversation v user message.conversationId
  | .notification id => ∃ notification, Db.notification v id = some notification
      ∧ notification.recipientId = user.id
  | _ => False

/-- A row that does not exist is nobody's. -/
lemma not_belongsTo_of_missing {v : Db} {user : CurrentUser} {k : Key} (h : v.lookup k = none) :
    ¬ BelongsTo v user k := by
  intro hmine
  cases k with
  | order id | orderItem id | conversation id | message id | notification id =>
      obtain ⟨row, hrow, -⟩ := hmine
      cases h.symm.trans hrow
  | _ => exact hmine

/-! ### The routes -/

/-- The routes of participants that are about one row, with what else they are given. -/
inductive ParticipantRoute where
  | getOrder
  | getOrderItem
  | updateOrderItemStatus (status : OrderItemStatus)
  | cancelOrderItem
  | createConversation (reason : ConversationReason)
  | listConversations
  | getConversation
  | closeConversation
  | listMessages (before : Option QueryDateTime)
  | createMessage (content : String)
  | listSellerInternalComments
  | createSellerInternalComment (content : String)
  | markRead

/-- What a route answers. -/
def ParticipantRoute.Response : ParticipantRoute → Type
  | .getOrder => OrderResponse
  | .getOrderItem => OrderItemDetail
  | .updateOrderItemStatus _ => OrderItem
  | .cancelOrderItem => OrderItem
  | .createConversation _ => ConversationResponse × Bool
  | .listConversations => List ConversationResponse
  | .getConversation => ConversationResponse
  | .closeConversation => ConversationResponse
  | .listMessages _ => MessageListResponse
  | .createMessage _ => UUID
  | .listSellerInternalComments => List (UUID × InternalComment)
  | .createSellerInternalComment _ => UUID
  | .markRead => NotificationResponse

/-- The row that a route is about. -/
def ParticipantRoute.key (id : UUID) : ParticipantRoute → Key
  | .getOrder => .order id
  | .getConversation | .closeConversation | .listMessages _ | .createMessage _ => .conversation id
  | .markRead => .notification id
  | _ => .orderItem id

/-- What a request depends on besides: the settings, the name of the loaded user, and the order of
rows with one key. -/
structure RequestContext where
  settings : Settings
  userName : String
  items : Sorting BuyerOrderItem.oldestFirst
  comments : Sorting commentOldestFirst

/-- The handler of a route. -/
def ParticipantRoute.handler (context : RequestContext) (id : UUID) (user : CurrentUser) :
    (route : ParticipantRoute) → Txn route.Response
  | .getOrder => MarketHub.getOrder context.items id user
  | .getOrderItem => MarketHub.getOrderItem id user context.userName
  | .updateOrderItemStatus status => MarketHub.updateOrderItemStatus id status user
  | .cancelOrderItem => MarketHub.cancelOrderItem id user
  | .createConversation reason => MarketHub.createConversation id reason user
  | .listConversations => MarketHub.listConversations context.settings id user
  | .getConversation => MarketHub.getConversation context.settings id user
  | .closeConversation => MarketHub.closeConversation context.settings id user
  | .listMessages before => MarketHub.listMessages context.settings id user before
  | .createMessage content => MarketHub.createMessage context.settings id content user
  | .listSellerInternalComments => MarketHub.listSellerInternalComments context.comments id user
  | .createSellerInternalComment content => MarketHub.createSellerInternalComment id content user
  | .markRead => MarketHub.markRead id user

/-- The request of a route. -/
def ParticipantRoute.run (context : RequestContext) (id : UUID) (user : CurrentUser)
    (route : ParticipantRoute) : Txn route.Response :=
  Prog.transaction (route.handler context id user)

/-! ### Denials -/

section Denials

variable {v : Db} {α β : Type}

lemma exec_bind_ok {cs : ℕ → Choice} {n n' : ℕ} {log : List Event} {p : Txn β}
    {f : β → Txn α} {b : β} (h : exec cs p n v log ∅ = ⟨.ok b, v, log, ∅, n'⟩) :
    exec cs (p.bind f) n v log ∅ = exec cs (f b) n' v log ∅ := by
  rw [exec_bind, h]
  rfl

lemma exec_bind_error {cs : ℕ → Choice} {n n' : ℕ} {log : List Event} {p : Txn β} {f : β → Txn α}
    {e : Failure DomainError} (h : exec cs p n v log ∅ = ⟨.error e, v, log, ∅, n'⟩) :
    exec cs (p.bind f) n v log ∅ = ⟨.error e, v, log, ∅, n'⟩ := by
  rw [exec_bind, h]
  rfl

/-- A program that raises an error and leaves everything as it was. -/
def Denies (v : Db) (e : DomainError) (p : Txn α) : Prop :=
  ∀ (cs : ℕ → Choice) n log, ∃ next, exec cs p n v log ∅ = ⟨.error (.domain e), v, log, ∅, next⟩

namespace Denies

variable {e : DomainError}

lemma throw (e : DomainError) : Denies v e (Prog.throw e : Txn α) := fun _ n _ => ⟨n, rfl⟩

lemma bind {p : Txn β} (h : Denies v e p) {f : β → Txn α} : Denies v e (p.bind f) := by
  intro cs n log
  obtain ⟨next, hp⟩ := h cs n log
  exact ⟨next, exec_bind_error hp⟩

/-- A statement that finds nothing. -/
lemma scalar {k : Key} {stmt : Db → Option (List Key)} {f : Option (Row k) → Txn α}
    (hstmt : stmt v = none) (hf : Denies v e (f none)) :
    Denies v e ((Prog.scalar k stmt).bind f) := by
  intro cs n log
  obtain ⟨next, h⟩ := hf cs (n + 1) log
  exact ⟨next, (exec_scalar_none f hstmt).trans h⟩

lemma oneOrNone {ρ : Type} {stmt : Db → Option ρ} {entities : ρ → List Key}
    (hstmt : stmt v = none) :
    Denies v (.resourceNotFound "Order item not found") (oneOrNone stmt entities) := by
  intro cs n log
  refine ⟨n + 1, (exec_select _ _ _).trans ?_⟩
  have hnone : (stmt ((∅ : AppSession).view v)).toList = [] := by
    change (stmt v).toList = []
    rw [hstmt]
    rfl
  rw [hnone]
  rfl

end Denies

section Items

variable {user : CurrentUser} {id : UUID} {sellerId : UUID}

lemma sellerItemStatement_eq_none (hrole : user.role = .seller)
    (hseller : user.sellerId = some sellerId) (h : ¬ HasItem v user id) (forUpdate : Bool) :
    sellerItemStatement id sellerId forUpdate v = none := by
  rw [sellerItemStatement]
  split
  · rfl
  · rename_i item hitem
    split
    · rfl
    · rename_i offer hoffer
      refine if_neg fun hsame => h ⟨item, hitem, ?_⟩
      rw [Participates, hrole]
      exact ⟨offer, hoffer, hseller.trans (congrArg some hsame.symm)⟩

lemma buyerItemStatement_eq_none (hrole : user.role = .buyer) (h : ¬ HasItem v user id)
    (forUpdate : Bool) : buyerItemStatement id user.id forUpdate v = none := by
  rw [buyerItemStatement]
  split
  · rfl
  · rename_i item hitem
    split
    · rfl
    · rename_i order horder
      refine if_neg fun hsame => h ⟨item, hitem, ?_⟩
      rw [Participates, hrole]
      exact ⟨order, horder, hsame⟩

/-- `load_seller_item` of an item of others. -/
lemma denies_loadSellerItem (hrole : user.role = .seller) (hseller : user.sellerId = some sellerId)
    (h : ¬ HasItem v user id) (forUpdate : Bool) :
    Denies v (.resourceNotFound "Order item not found") (loadSellerItem id sellerId forUpdate) :=
  Denies.scalar (sellerItemStatement_eq_none hrole hseller h forUpdate) (Denies.throw _)

/-- `load_buyer_item` of an item of others. -/
lemma denies_loadBuyerItem (hrole : user.role = .buyer) (h : ¬ HasItem v user id)
    (forUpdate : Bool) :
    Denies v (.resourceNotFound "Order item not found") (loadBuyerItem id user.id forUpdate) :=
  Denies.scalar (buyerItemStatement_eq_none hrole h forUpdate) (Denies.throw _)

/-- `load_participant_item` of an item of others. -/
lemma denies_loadParticipantItem (h : ¬ HasItem v user id) (forUpdate : Bool) :
    Denies v (.resourceNotFound "Order item not found")
      (loadParticipantItem id user forUpdate) := by
  rw [loadParticipantItem]
  split
  · rename_i sellerId hrole hseller
    exact denies_loadSellerItem hrole hseller h forUpdate
  · rename_i hrole
    exact denies_loadBuyerItem hrole h forUpdate
  · exact Denies.throw _

end Items

section Routes

variable {user : CurrentUser} {context : RequestContext}

lemma requireSeller_cases (user : CurrentUser) :
    (∃ sellerId, user.role = .seller ∧ user.sellerId = some sellerId
        ∧ requireSeller user = .pure sellerId)
      ∨ requireSeller user = Prog.throw (.forbidden "Seller role required") := by
  rw [requireSeller]
  split
  · rename_i sellerId hrole hseller
    exact .inl ⟨sellerId, hrole, hseller, rfl⟩
  · exact .inr rfl

/-- What is only for sellers. -/
lemma exists_denial_seller (load : UUID → UUID → Txn β) {foreign : UUID → Prop} {e : DomainError}
    (hload : ∀ sellerId, user.role = .seller → user.sellerId = some sellerId →
      ∀ id, foreign id → Denies v e (load id sellerId)) :
    ∃ e, ∀ id, foreign id → ∀ rest : UUID → β → Txn α,
      Denies v e ((requireSeller user).bind fun sellerId => (load id sellerId).bind
        (rest sellerId)) := by
  rcases requireSeller_cases user with ⟨sellerId, hrole, hseller, hrequire⟩ | hrequire
  · rw [hrequire]
    exact ⟨e, fun id h rest => (hload sellerId hrole hseller id h).bind⟩
  · rw [hrequire]
    exact ⟨_, fun id _ rest => Denies.throw _⟩

/-- An order of others. -/
lemma exists_denial_getOrder (v : Db) (user : CurrentUser)
    (sorting : Sorting BuyerOrderItem.oldestFirst) :
    ∃ e, ∀ id, ¬ HasOrder v user id → Denies v e (getOrder sorting id user) := by
  by_cases hrole : user.role = .buyer
  · refine ⟨.resourceNotFound "Order not found", fun id hforeign => ?_⟩
    rw [getOrder, requireBuyer, if_pos hrole]
    change Denies v _ ((getOrderForBuyer id user).bind _)
    refine Denies.bind fun cs n log => ?_
    cases horder : Db.order v id with
    | none =>
        have hstmt : (Db.order v id).map (fun _ => ([] : List Key)) = none := by rw [horder]; rfl
        exact ⟨n + 1, exec_scalar_none _ hstmt⟩
    | some order =>
        have hstmt : (Db.order v id).map (fun _ => ([] : List Key)) = some [] := by rw [horder]; rfl
        refine ⟨n + 2, (exec_scalar_some _ hstmt).trans ?_⟩
        have hread : (∅ : AppSession).read ((∅ : AppSession).view v) (.order id)
            = some order := horder
        have hother : order.buyerId ≠ user.id := fun hsame =>
          hforeign ⟨order, horder, .inl ⟨hrole, hsame⟩⟩
        rw [hread]
        simp only [if_pos hother]
        rfl
  · refine ⟨.forbidden "Buyer role required", fun id _ => ?_⟩
    rw [getOrder, requireBuyer, if_neg hrole]
    exact Denies.throw _

/-- A notification of others. -/
lemma denies_markRead {id : UUID} (h : ∀ notification, Db.notification v id = some notification →
      notification.recipientId ≠ user.id) :
    Denies v (.resourceNotFound "Notification not found") (markRead id user) := by
  refine Denies.bind fun cs n log => ?_
  cases hrow : Db.notification v id with
  | none => exact ⟨n + 2, exec_get_none _ rfl hrow⟩
  | some notification =>
      refine ⟨n + 3, (exec_get_new _ rfl hrow).trans ?_⟩
      simp only [if_neg (h notification hrow)]
      rfl

/-- A conversation of others. -/
lemma conversationScope_eq_none {id : UUID} {scope : Order → Offer → Bool}
    (h : ¬ HasConversation v user id) (hscope : ∀ item order offer,
      Db.order v item.orderId = some order →
      Db.offer v item.offerId = some offer → scope order offer = true → Participates v user item) :
    conversationScope id scope v = none := by
  by_contra hne
  obtain ⟨ks, hks⟩ := Option.ne_none_iff_exists'.mp hne
  simp only [conversationScope, bind, Option.bind_eq_some_iff] at hks
  obtain ⟨conversation, hconversation, item, hitem, order, horder, offer, hoffer, hif⟩ := hks
  have hmine : scope order offer = true := by
    by_contra hno
    rw [if_neg hno] at hif
    cases hif
  exact h ⟨conversation, hconversation, item, hitem, hscope item order offer horder hoffer hmine⟩

lemma denies_loadParticipantConversation {id : UUID} (h : ¬ HasConversation v user id) :
    Denies v (.resourceNotFound "Conversation not found")
      (loadParticipantConversation id user) := by
  have hload : ∀ scope, conversationScope id scope v = none →
      Denies v (.resourceNotFound "Conversation not found")
        ((Prog.scalar (.conversation id) (conversationScope id scope)).bind
          (loadOr (k := .conversation id) (.resourceNotFound "Conversation not found"))) :=
    fun scope hnone => Denies.scalar hnone (Denies.throw _)
  rw [loadParticipantConversation]
  split
  · rename_i sellerId hrole hseller
    refine hload _ (conversationScope_eq_none h fun item order offer _ hoffer hmine => ?_)
    rw [Participates, hrole]
    exact ⟨offer, hoffer, hseller.trans (congrArg some (beq_iff_eq.mp hmine).symm)⟩
  · rename_i hrole
    refine hload _ (conversationScope_eq_none h fun item order offer horder _ hmine => ?_)
    rw [Participates, hrole]
    exact ⟨order, horder, beq_iff_eq.mp hmine⟩
  · exact Denies.throw _

lemma denies_loadSellerConversation {id sellerId : UUID} (hrole : user.role = .seller)
    (hseller : user.sellerId = some sellerId) (h : ¬ HasConversation v user id) :
    Denies v (.resourceNotFound "Conversation not found") (loadSellerConversation id sellerId) := by
  refine Denies.scalar ?_ (Denies.throw _)
  by_contra hne
  obtain ⟨ks, hks⟩ := Option.ne_none_iff_exists'.mp hne
  simp only [sellerConversationStatement, bind, Option.bind_eq_some_iff] at hks
  obtain ⟨conversation, hconversation, item, hitem, offer, hoffer, hif⟩ := hks
  have hmine : (offer.sellerId == sellerId) = true := by
    by_contra hno
    rw [if_neg hno] at hif
    cases hif
  refine h ⟨conversation, hconversation, item, hitem, ?_⟩
  rw [Participates, hrole]
  exact ⟨offer, hoffer, hseller.trans (congrArg some (beq_iff_eq.mp hmine).symm)⟩

lemma sellerItemContext_eq_none {id sellerId : UUID} (hrole : user.role = .seller)
    (hseller : user.sellerId = some sellerId) (h : ¬ HasItem v user id) :
    sellerItemContext id sellerId v = none := by
  by_contra hne
  obtain ⟨row, hrow⟩ := Option.ne_none_iff_exists'.mp hne
  simp only [sellerItemContext, bind, Option.bind_eq_some_iff] at hrow
  obtain ⟨item, hitem, offer, hoffer, _, _, _, _, _, _, hif⟩ := hrow
  have hmine : offer.sellerId = sellerId := (Option.ite_none_right_eq_some.mp hif).1
  refine h ⟨item, hitem, ?_⟩
  rw [Participates, hrole]
  exact ⟨offer, hoffer, hseller.trans (congrArg some hmine.symm)⟩

lemma buyerItemContext_eq_none {id : UUID} (hrole : user.role = .buyer) (h : ¬ HasItem v user id) :
    buyerItemContext id user.id v = none := by
  by_contra hne
  obtain ⟨row, hrow⟩ := Option.ne_none_iff_exists'.mp hne
  simp only [buyerItemContext, bind, Option.bind_eq_some_iff] at hrow
  obtain ⟨item, hitem, _, _, _, _, order, horder, hif⟩ := hrow
  have hmine : order.buyerId = user.id := (Option.ite_none_right_eq_some.mp hif).1
  refine h ⟨item, hitem, ?_⟩
  rw [Participates, hrole]
  exact ⟨order, horder, hmine⟩

/-- The detail of an order item of others. -/
lemma exists_denial_getOrderItem (v : Db) (user : CurrentUser) (name : String) :
    ∃ e, ∀ id, ¬ HasItem v user id → Denies v e (getOrderItem id user name) := by
  unfold getOrderItem
  split
  · rename_i sellerId hrole hseller
    exact ⟨_, fun id h => Denies.bind
      (Denies.oneOrNone (sellerItemContext_eq_none hrole hseller h))⟩
  · rename_i hrole
    exact ⟨_, fun id h => Denies.bind (Denies.oneOrNone (buyerItemContext_eq_none hrole h))⟩
  · exact ⟨_, fun id _ => Denies.throw _⟩

/-- The item of others that a user would cancel. -/
lemma exists_denial_loadItemToCancel (v : Db) (user : CurrentUser) :
    ∃ e, ∀ id, ¬ HasItem v user id → Denies v e (loadItemToCancel id user) := by
  unfold loadItemToCancel
  split
  · rename_i hrole
    exact ⟨_, fun id h => denies_loadBuyerItem hrole h true⟩
  · rename_i sellerId hrole hseller
    exact ⟨_, fun id h => denies_loadSellerItem hrole hseller h true⟩
  · exact ⟨_, fun id _ => Denies.throw _⟩

/-! ### All routes -/

/-- Two programs that raise the same and leave everything as it was. -/
def DeniesAlike (v : Db) (p p' : Txn α) : Prop :=
  ∀ (cs : ℕ → Choice) n log, ∃ e next next',
    exec cs p n v log ∅ = ⟨.error e, v, log, ∅, next⟩
      ∧ exec cs p' n v log ∅ = ⟨.error e, v, log, ∅, next'⟩

lemma Denies.alike {e : DomainError} {p p' : Txn α} (h : Denies v e p) (h' : Denies v e p') :
    DeniesAlike v p p' := by
  intro cs n log
  obtain ⟨next, hp⟩ := h cs n log
  obtain ⟨next', hp'⟩ := h' cs n log
  exact ⟨_, next, next', hp, hp'⟩

/-- What both do first leaves everything as it was. -/
lemma DeniesAlike.behind {p : Txn β} {f f' : β → Txn α} (hp : ∀ (cs : ℕ → Choice) n log,
    ∃ result next, exec cs p n v log ∅ = ⟨result, v, log, ∅, next⟩)
    (hf : ∀ b, DeniesAlike v (f b) (f' b)) : DeniesAlike v (p.bind f) (p.bind f') := by
  intro cs n log
  obtain ⟨result, next, hrun⟩ := hp cs n log
  cases result with
  | error e => exact ⟨e, next, next, exec_bind_error hrun, exec_bind_error hrun⟩
  | ok b =>
      obtain ⟨e, next₁, next₂, h, h'⟩ := hf b cs next log
      exact ⟨e, next₁, next₂, (exec_bind_ok hrun).trans h, (exec_bind_ok hrun).trans h'⟩

/-- The check of a query parameter looks at the clock only. -/
lemma exists_exec_validateBefore (before : Option QueryDateTime) (cs : ℕ → Choice) (n : ℕ)
    (log : List Event) :
    ∃ result next, exec cs (validateBefore before) n v log ∅ = ⟨result, v, log, ∅, next⟩ := by
  cases before with
  | none => exact ⟨_, _, rfl⟩
  | some before =>
      rw [validateBefore]
      split
      · exact ⟨_, _, rfl⟩
      · simp only [Prog.bind_eq, exec_utcnow]
        split
        · exact ⟨_, _, rfl⟩
        · exact ⟨_, _, rfl⟩

/-- **A row of others is denied like one that does not exist.** -/
lemma deniesAlike_of_foreign (context : RequestContext) (route : ParticipantRoute) {id id' : UUID}
    (h : ¬ BelongsTo v user (route.key id)) (h' : ¬ BelongsTo v user (route.key id')) :
    DeniesAlike v (route.handler context id user) (route.handler context id' user) := by
  -- each handler raises the same error for every id that is not the user's
  cases route with
  | getOrder =>
      obtain ⟨e, he⟩ := exists_denial_getOrder v user context.items
      exact (he id h).alike (he id' h')
  | getOrderItem =>
      obtain ⟨e, he⟩ := exists_denial_getOrderItem v user context.userName
      exact (he id h).alike (he id' h')
  | updateOrderItemStatus status =>
      obtain ⟨e, he⟩ := exists_denial_seller (fun id sellerId => loadSellerItem id sellerId true)
        fun sellerId hrole hseller id (h : ¬ HasItem v user id) =>
          denies_loadSellerItem hrole hseller h true
      exact (he id h _).alike (he id' h' _)
  | cancelOrderItem =>
      obtain ⟨e, he⟩ := exists_denial_loadItemToCancel v user
      exact (he id h).bind.alike (he id' h').bind
  | createConversation reason =>
      exact (denies_loadParticipantItem h true).bind.alike (denies_loadParticipantItem h' true).bind
  | listConversations =>
      exact (denies_loadParticipantItem h false).bind.alike
        (denies_loadParticipantItem h' false).bind
  | getConversation =>
      exact (denies_loadParticipantConversation h).bind.alike
        (denies_loadParticipantConversation h').bind
  | closeConversation =>
      obtain ⟨e, he⟩ := exists_denial_seller loadSellerConversation
        fun sellerId hrole hseller id (h : ¬ HasConversation v user id) =>
          denies_loadSellerConversation hrole hseller h
      exact (he id h _).alike (he id' h' _)
  | listMessages before =>
      exact .behind (exists_exec_validateBefore before) fun _ =>
        (denies_loadParticipantConversation h).bind.alike
          (denies_loadParticipantConversation h').bind
  | createMessage content =>
      exact (denies_loadParticipantConversation h).bind.alike
        (denies_loadParticipantConversation h').bind
  | listSellerInternalComments =>
      obtain ⟨e, he⟩ := exists_denial_seller (fun id sellerId => loadSellerItem id sellerId)
        fun sellerId hrole hseller id (h : ¬ HasItem v user id) =>
          denies_loadSellerItem hrole hseller h false
      exact (he id h _).alike (he id' h' _)
  | createSellerInternalComment content =>
      obtain ⟨e, he⟩ := exists_denial_seller (fun id sellerId => loadSellerItem id sellerId)
        fun sellerId hrole hseller id (h : ¬ HasItem v user id) =>
          denies_loadSellerItem hrole hseller h false
      exact (he id h _).alike (he id' h' _)
  | markRead =>
      exact (denies_markRead fun n hn hsame => h ⟨n, hn, hsame⟩).alike
        (denies_markRead fun n hn hsame => h' ⟨n, hn, hsame⟩)

/-- The request as a whole. -/
lemma DeniesAlike.transaction {p p' : Txn α} (h : DeniesAlike v p p') :
    DeniesAlike v (Prog.transaction p) (Prog.transaction p') := by
  intro cs n log
  obtain ⟨e, next, next', hp, hp'⟩ := h cs n log
  exact ⟨e, next, next', exec_bind_error hp, exec_bind_error hp'⟩

end Routes

end Denials

end MarketHub
