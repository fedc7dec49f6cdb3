import MarketHub.Dashboard.Agreement
import MarketHub.Isolation.Routes

/-!
What a participant sees in lists and counts.

* `SameFor user v v'`: two databases that differ in rows of others only.
* `UserListing`, `answers`: the lists and counts of a user, and all that the database may answer.
* `SameFor.answers_eq`: the lists and counts do not tell two such databases apart.
* `participants_isolated`: the same with the routes that are about one row.
-/

namespace MarketHub

open ReadCommitted OffsetPaging Grouping

/-! ### Databases that look the same -/

/-- The tables whose rows belong to participants. -/
def Key.ofParticipants : Key → Bool
  | .order _ | .orderItem _ | .conversation _ | .message _ | .notification _ => true
  | _ => false

/-- Two databases that differ in orders, order items, conversations, messages and notifications of
others only. -/
structure SameFor (user : CurrentUser) (v v' : Db) : Prop where
  fixed : ∀ k, k.ofParticipants = false → v.lookup k = v'.lookup k
  own : ∀ k, BelongsTo v user k ∨ BelongsTo v' user k → v.lookup k = v'.lookup k

lemma SameFor.symm {user : CurrentUser} {v v' : Db} (h : SameFor user v v') :
    SameFor user v' v where
  fixed k hk := (h.fixed k hk).symm
  own k hk := (h.own k hk.symm).symm

/-! ### Lists and counts -/

/-- The lists and counts of a user. -/
inductive UserListing where
  | listOrders
  | listOrderItems (filters : ItemFilters) (query : PageQuery)
  | getDashboard
  | listNotifications (query : PageQuery)
  | unreadCount

/-- What it answers. -/
def UserListing.Response : UserListing → Type
  | .listOrders => List OrderResponse
  | .listOrderItems _ _ => Envelope OrderItemListItem
  | .getDashboard => DashboardResponse
  | .listNotifications _ => Envelope NotificationResponse
  | .unreadCount => ℕ

/-- What the database decides about the order of rows. -/
structure ListingOrders extends RowOrders where
  placedOrders : Sorting orderOldestFirst
  purchases : Sorting BuyerOrderItem.oldestFirst
  notifications : Sorting notificationsNewestFirst

/-- The handler. -/
def UserListing.handler (orders : ListingOrders) (user : CurrentUser) :
    (listing : UserListing) → Txn listing.Response
  | .listOrders => MarketHub.listOrders orders.placedOrders orders.purchases user
  | .listOrderItems filters query => MarketHub.listOrderItems user filters orders.sellerItems query
  | .getDashboard => MarketHub.getDashboard orders.toRowOrders user
  | .listNotifications query => MarketHub.listNotifications user orders.notifications query
  | .unreadCount => MarketHub.unreadCount user

/-- All that may be answered. -/
def answers (cs : ℕ → Choice) (v : Db) (user : CurrentUser) (listing : UserListing) :
    Set (Except (Failure DomainError) listing.Response) :=
  Set.range fun orders : ListingOrders => answerOf cs v (listing.handler orders user)

/-! ### The rows of a user -/

/-- Rows under their identifiers, the same in two tables. -/
lemma perm_of_rows {ρ : Type} {l l' : List ρ} (id : ρ → UUID) (hl : (l.map id).Nodup)
    (hl' : (l'.map id).Nodup) (h : ∀ row, row ∈ l ↔ row ∈ l') : l.Perm l' :=
  (List.perm_ext_iff_of_nodup (hl.of_map _) (hl'.of_map _)).mpr h

/-- The rows of another database, in an order that was answered. -/
lemma exists_sorting {ρ κ : Type} [LinearOrder κ] {key : ρ → κ} {l l' : List ρ}
    (sorting : Sorting key) (h : l.Perm l') : ∃ sorting' : Sorting key,
    sorting'.sort l' = sorting.sort l :=
  ⟨.giving ⟨(sorting.answers l).perm.trans h, (sorting.answers l).sorted⟩, Sorting.giving_sort _⟩

section Same

variable {user : CurrentUser} {v v' : Db} (h : SameFor user v v')

include h

lemma SameFor.offer_eq (id : UUID) : Db.offer v id = Db.offer v' id := h.fixed (.offer id) rfl

lemma SameFor.product_eq (id : UUID) : Db.product v id = Db.product v' id :=
  h.fixed (.product id) rfl

lemma SameFor.seller_eq (id : UUID) : Db.seller v id = Db.seller v' id := h.fixed (.seller id) rfl

lemma SameFor.user_eq (id : UUID) : Db.user v id = Db.user v' id := h.fixed (.user id) rfl

/-! #### Notifications -/

lemma SameFor.notificationsOf_perm :
    (notificationsOf user.id v).Perm (notificationsOf user.id v') := by
  have hnodup : ∀ v : Db, ((notificationsOf user.id v).map Prod.fst).Nodup := fun v =>
    (List.filter_sublist.map _).nodup (notifications_nodup v)
  refine perm_of_rows Prod.fst (hnodup v) (hnodup v') fun ⟨id, row⟩ => ?_
  simp only [notificationsOf, List.mem_filter, mem_notifications, beq_iff_eq]
  refine and_congr_left fun hmine => ?_
  constructor
  · exact fun hrow => (h.own (.notification id) (.inl ⟨row, hrow, hmine⟩)).symm.trans hrow
  · exact fun hrow => (h.own (.notification id) (.inr ⟨row, hrow, hmine⟩)).trans hrow

end Same

/-! #### Buyers -/

section Buyers

variable {user : CurrentUser} {v v' : Db} (hrole : user.role = .buyer)

include hrole

lemma hasOrder_of_buyer {orderId : UUID} {order : Order} (horder : Db.order v orderId = some order)
    (hbuyer : order.buyerId = user.id) : HasOrder v user orderId :=
  ⟨order, horder, .inl ⟨hrole, hbuyer⟩⟩

lemma hasItem_of_buyer {id : UUID} {item : OrderItem} {order : Order}
    (hitem : Db.orderItem v id = some item) (horder : Db.order v item.orderId = some order)
    (hbuyer : order.buyerId = user.id) : HasItem v user id := by
  refine ⟨item, hitem, ?_⟩
  rw [Participates, hrole]
  exact ⟨order, horder, hbuyer⟩

variable (h : SameFor user v v')

include h

/-- An order of the buyer is in both databases. -/
lemma SameFor.order_iff {orderId : UUID} {order : Order} (hbuyer : order.buyerId = user.id) :
    Db.order v orderId = some order ↔ Db.order v' orderId = some order := by
  constructor
  · intro horder
    exact (h.own (.order orderId) (.inl (hasOrder_of_buyer hrole horder hbuyer))).symm.trans horder
  · intro horder
    exact (h.own (.order orderId) (.inr (hasOrder_of_buyer hrole horder hbuyer))).trans horder

/-- So are its items. -/
lemma SameFor.item_iff {id : UUID} {item : OrderItem} {order : Order}
    (horder : Db.order v item.orderId = some order) (hbuyer : order.buyerId = user.id) :
    Db.orderItem v id = some item ↔ Db.orderItem v' id = some item := by
  have horder' := (h.order_iff hrole hbuyer).mp horder
  constructor
  · intro hitem
    exact (h.own (.orderItem id) (.inl (hasItem_of_buyer hrole hitem horder hbuyer))).symm.trans
      hitem
  · intro hitem
    exact (h.own (.orderItem id) (.inr (hasItem_of_buyer hrole hitem horder' hbuyer))).trans hitem

lemma SameFor.ordersOf_perm : (ordersOf user.id v).Perm (ordersOf user.id v') := by
  have hnodup : ∀ v : Db, ((ordersOf user.id v).map Prod.fst).Nodup := fun v =>
    (List.filter_sublist.map _).nodup (orders_nodup v)
  refine perm_of_rows Prod.fst (hnodup v) (hnodup v') fun ⟨id, row⟩ => ?_
  simp only [ordersOf, List.mem_filter, mem_orders, beq_iff_eq]
  exact and_congr_left fun hmine => h.order_iff hrole hmine

/-- The items of orders of the buyer. -/
lemma SameFor.mem_items_iff {orderIds : List UUID}
    (hmine : ∀ id ∈ orderIds, ∃ order, Db.order v id = some order ∧ order.buyerId = user.id)
    (id : UUID) (item : OrderItem) (hid : item.orderId ∈ orderIds) :
    (id, item) ∈ Db.orderItems v ↔ (id, item) ∈ Db.orderItems v' := by
  obtain ⟨order, horder, hbuyer⟩ := hmine _ hid
  rw [mem_orderItems, mem_orderItems]
  exact h.item_iff hrole horder hbuyer

/-- Rows that are made of the items of the buyer's orders. -/
lemma SameFor.filterMap_perm {ρ : Type} {f : Db → UUID → OrderItem → Option ρ} (rowId : ρ → UUID)
    (hid : ∀ v id item row, f v id item = some row → rowId row = id) {orderIds : List UUID}
    (hmine : ∀ id ∈ orderIds, ∃ order, Db.order v id = some order ∧ order.buyerId = user.id)
    (hf : ∀ id item, item.orderId ∈ orderIds → f v id item = f v' id item) :
    (((Db.orderItems v).filter fun item => orderIds.contains item.2.orderId).filterMap
        fun item => f v item.1 item.2).Perm
      (((Db.orderItems v').filter fun item => orderIds.contains item.2.orderId).filterMap
        fun item => f v' item.1 item.2) := by
  have hnodup : ∀ v : Db, ((((Db.orderItems v).filter fun item =>
      orderIds.contains item.2.orderId).filterMap fun item => f v item.1 item.2).map rowId).Nodup :=
    fun v => nodup_filterMap ((List.filter_sublist.map _).nodup (orderItems_nodup v)) (hid v)
  refine perm_of_rows rowId (hnodup v) (hnodup v') fun row => ?_
  simp only [List.mem_filterMap, List.mem_filter, List.contains_iff_mem, and_assoc]
  refine exists_congr fun ⟨id, item⟩ => ?_
  constructor
  · rintro ⟨hitem, hin, hrow⟩
    exact ⟨(h.mem_items_iff hrole hmine id item hin).mp hitem, hin,
      (hf id item hin).symm.trans hrow⟩
  · rintro ⟨hitem, hin, hrow⟩
    exact ⟨(h.mem_items_iff hrole hmine id item hin).mpr hitem, hin, (hf id item hin).trans hrow⟩

lemma SameFor.buyerOrderItemRows_perm {orderIds : List UUID}
    (hmine : ∀ id ∈ orderIds, ∃ order, Db.order v id = some order ∧ order.buyerId = user.id) :
    (buyerOrderItemRows orderIds v).Perm (buyerOrderItemRows orderIds v') := by
  refine h.filterMap_perm hrole BuyerOrderItem.id (fun v id item row hrow => ?_) hmine
    fun id item hin => ?_
  · simp only [buyerOrderItem, Option.bind_eq_bind, Option.bind_eq_some_iff, Option.pure_def,
      Option.some.injEq] at hrow
    obtain ⟨_, _, _, _, _, _, _, _, rfl⟩ := hrow
    rfl
  · obtain ⟨order, horder, hbuyer⟩ := hmine _ hin
    simp only [buyerOrderItem, h.offer_eq, h.product_eq, h.seller_eq, horder,
      (h.order_iff hrole hbuyer).mp horder]

lemma SameFor.buyerItemRows_perm {orderIds : List UUID}
    (hmine : ∀ id ∈ orderIds, ∃ order, Db.order v id = some order ∧ order.buyerId = user.id) :
    (buyerItemRows orderIds v).Perm (buyerItemRows orderIds v') := by
  have hid : ∀ v id item row, buyerItemRow v id item = some row → row.id = id
      ∧ row.item = item := by
    intro v id item row hrow
    simp only [buyerItemRow, Option.bind_eq_bind, Option.bind_eq_some_iff, Option.pure_def,
      Option.some.injEq] at hrow
    obtain ⟨_, _, _, _, _, _, rfl⟩ := hrow
    exact ⟨rfl, rfl⟩
  have hswap : ∀ v, buyerItemRows orderIds v = ((Db.orderItems v).filter fun item =>
      orderIds.contains item.2.orderId).filterMap fun item => buyerItemRow v item.1 item.2 := by
    intro v
    rw [buyerItemRows, List.filter_filterMap, List.filterMap_filter]
    refine List.filterMap_congr fun item _ => ?_
    cases hrow : buyerItemRow v item.1 item.2 with
    | none => simp
    | some row =>
        rw [Option.filter_some, (hid _ _ _ _ hrow).2]
  rw [hswap v, hswap v']
  refine h.filterMap_perm hrole BuyerItemRow.id
    (fun v id item row hrow => (hid v id item row hrow).1)
    hmine fun id item _ => ?_
  simp only [buyerItemRow, h.offer_eq, h.product_eq, h.seller_eq]

/-- An order of the buyer has the same items. -/
lemma SameFor.orderStatuses_perm {orderId : UUID} {order : Order}
    (horder : Db.order v orderId = some order) (hbuyer : order.buyerId = user.id) :
    (orderStatuses v orderId).Perm (orderStatuses v' orderId) := by
  refine List.Perm.map _ (perm_of_rows Prod.fst
    ((List.filter_sublist.map _).nodup (orderItems_nodup v))
    ((List.filter_sublist.map _).nodup (orderItems_nodup v')) fun ⟨id, item⟩ => ?_)
  simp only [List.mem_filter, mem_orderItems, beq_iff_eq]
  refine and_congr_left fun hin => ?_
  subst hin
  exact h.item_iff hrole horder hbuyer

/-- Orders that are counted by the statuses of their items. -/
lemma SameFor.countedOrders_perm (counts : Db → UUID → Bool)
    (hcounts : ∀ id, (orderStatuses v id).Perm (orderStatuses v' id) → counts v id = counts v' id) :
    ((Db.orders v).filter fun order => order.2.buyerId == user.id && counts v order.1).Perm
      ((Db.orders v').filter fun order => order.2.buyerId == user.id && counts v' order.1) := by
  refine perm_of_rows Prod.fst ((List.filter_sublist.map _).nodup (orders_nodup v))
    ((List.filter_sublist.map _).nodup (orders_nodup v')) fun ⟨id, order⟩ => ?_
  simp only [List.mem_filter, mem_orders, Bool.and_eq_true, beq_iff_eq]
  constructor
  · rintro ⟨horder, hbuyer, hcounted⟩
    have hsame := hcounts id (h.orderStatuses_perm hrole horder hbuyer)
    exact ⟨(h.order_iff hrole hbuyer).mp horder, hbuyer, hsame.symm.trans hcounted⟩
  · rintro ⟨horder', hbuyer, hcounted⟩
    have horder := (h.order_iff hrole hbuyer).mpr horder'
    have hsame := hcounts id (h.orderStatuses_perm hrole horder hbuyer)
    exact ⟨horder, hbuyer, hsame.trans hcounted⟩

lemma SameFor.activeOrders_perm : (activeOrders user.id v).Perm (activeOrders user.id v') := by
  refine h.countedOrders_perm hrole hasActiveItem fun id hperm => ?_
  rw [hasActiveItem_eq, hasActiveItem_eq, hperm.any_eq]

lemma SameFor.completedOrders_perm :
    (completedOrders user.id v).Perm (completedOrders user.id v') := by
  have hcounted := h.countedOrders_perm hrole (fun v id => !hasNonDelivered v id && hasItem v id)
    fun id hperm => by
      have hitem : hasItem v id = hasItem v' id := by
        rw [Bool.eq_iff_iff, hasItem_eq, hasItem_eq, ne_eq, ne_eq, not_iff_not]
        exact ⟨fun hnil => List.nil_perm.mp (hnil ▸ hperm),
          fun hnil => List.perm_nil.mp (hnil ▸ hperm)⟩
      rw [hasNonDelivered_eq, hasNonDelivered_eq, hperm.all_eq, hitem]
  simpa only [completedOrders, Bool.and_assoc] using hcounted

lemma SameFor.buyerOpenConversations_perm :
    (buyerOpenConversations user.id v).Perm (buyerOpenConversations user.id v') := by
  have hsub : ∀ {v v' : Db}, SameFor user v v' → ∀ row, row ∈ buyerOpenConversations user.id v →
      row ∈ buyerOpenConversations user.id v' := by
    rintro v v' h ⟨id, row⟩ hrow
    simp only [buyerOpenConversations, List.mem_filter, mem_conversations, Bool.and_eq_true,
      Option.any_eq_true, Option.bind_eq_some_iff, beq_iff_eq] at hrow ⊢
    obtain ⟨hconversation, ⟨order, ⟨item, hitem, horder⟩, hbuyer⟩, hopen⟩ := hrow
    have hmine := hasItem_of_buyer hrole hitem horder hbuyer
    refine ⟨(h.own (.conversation id) (.inl ⟨row, hconversation, hmine⟩)).symm.trans hconversation,
      ⟨order, ⟨item, (h.item_iff hrole horder hbuyer).mp hitem,
        (h.order_iff hrole hbuyer).mp horder⟩,
        hbuyer⟩, hopen⟩
  exact perm_of_rows Prod.fst ((List.filter_sublist.map _).nodup (conversations_nodup v))
    ((List.filter_sublist.map _).nodup (conversations_nodup v')) fun row =>
      ⟨hsub h row, hsub h.symm row⟩

end Buyers

/-! #### Sellers -/

section Sellers

variable {user : CurrentUser} {sellerId : UUID} {v v' : Db} (hrole : user.role = .seller)
  (hseller : user.sellerId = some sellerId)

include hrole hseller

lemma hasItem_of_seller {id : UUID} {item : OrderItem} {offer : Offer}
    (hitem : Db.orderItem v id = some item) (hoffer : Db.offer v item.offerId = some offer)
    (hmine : offer.sellerId = sellerId) : HasItem v user id := by
  refine ⟨item, hitem, ?_⟩
  rw [Participates, hrole]
  exact ⟨offer, hoffer, hseller.trans (congrArg some hmine.symm)⟩

lemma hasOrder_of_seller {id : UUID} {item : OrderItem} {order : Order} {offer : Offer}
    (hitem : Db.orderItem v id = some item) (horder : Db.order v item.orderId = some order)
    (hoffer : Db.offer v item.offerId = some offer) (hmine : offer.sellerId = sellerId) :
    HasOrder v user item.orderId := by
  refine ⟨order, horder, .inr ⟨hrole, id, item, hitem, rfl, ?_⟩⟩
  rw [Participates, hrole]
  exact ⟨offer, hoffer, hseller.trans (congrArg some hmine.symm)⟩

variable (h : SameFor user v v')

include h

lemma SameFor.sellerListStatement_perm :
    (sellerListStatement sellerId v).Perm (sellerListStatement sellerId v') := by
  have hsub : ∀ {v v' : Db}, SameFor user v v' → ∀ row, row ∈ sellerListStatement sellerId v →
      row ∈ sellerListStatement sellerId v' := by
    intro v v' h row hrow
    simp only [sellerListStatement, List.mem_filter, List.mem_filterMap, beq_iff_eq] at hrow ⊢
    obtain ⟨⟨⟨id, item⟩, hitem, hcontext⟩, hmine⟩ := hrow
    rw [mem_orderItems] at hitem
    simp only [itemContext, Option.bind_eq_bind, Option.bind_eq_some_iff, Option.pure_def,
      Option.some.injEq] at hcontext
    obtain ⟨offer, hoffer, product, hproduct, order, horder, buyer, hbuyer, rfl⟩ := hcontext
    have hown := hasItem_of_seller hrole hseller hitem hoffer hmine
    have hownOrder := hasOrder_of_seller hrole hseller hitem horder hoffer hmine
    refine ⟨⟨(id, item), ?_, ?_⟩, hmine⟩
    · exact mem_orderItems.mpr ((h.own (.orderItem id) (.inl hown)).symm.trans hitem)
    · have horder' : Db.order v' item.orderId = some order :=
        (h.own (.order item.orderId) (.inl hownOrder)).symm.trans horder
      simp [itemContext, ← h.offer_eq, ← h.product_eq, ← h.user_eq, hoffer, hproduct,
        horder', hbuyer]
  have hnodup : ∀ v : Db, ((sellerListStatement sellerId v).map ItemContext.id).Nodup := fun v =>
    (List.filter_sublist.map _).nodup
      (nodup_filterMap (orderItems_nodup v) fun _ _ _ => id_of_itemContext)
  exact perm_of_rows ItemContext.id (hnodup v) (hnodup v') fun row => ⟨hsub h row, hsub h.symm row⟩

lemma SameFor.sellerStatuses_perm :
    (sellerStatuses sellerId v).Perm (sellerStatuses sellerId v') := by
  have hsub : ∀ {v v' : Db}, SameFor user v v' → ∀ row : UUID × OrderItem,
      row ∈ (Db.orderItems v).filter (fun item => soldBy sellerId v item.2) →
      row ∈ (Db.orderItems v').filter fun item => soldBy sellerId v' item.2 := by
    rintro v v' h ⟨id, item⟩ hrow
    simp only [List.mem_filter, mem_orderItems, soldBy, Option.any_eq_true, beq_iff_eq] at hrow ⊢
    obtain ⟨hitem, offer, hoffer, hmine⟩ := hrow
    have hown := hasItem_of_seller hrole hseller hitem hoffer hmine
    exact ⟨(h.own (.orderItem id) (.inl hown)).symm.trans hitem, offer,
      (h.offer_eq _).symm.trans hoffer, hmine⟩
  refine List.Perm.map _ (perm_of_rows Prod.fst
    ((List.filter_sublist.map _).nodup (orderItems_nodup v))
    ((List.filter_sublist.map _).nodup (orderItems_nodup v')) fun row =>
      ⟨hsub h row, hsub h.symm row⟩)

lemma SameFor.sellerOpenConversations_perm :
    (sellerOpenConversations sellerId v).Perm (sellerOpenConversations sellerId v') := by
  have hsub : ∀ {v v' : Db}, SameFor user v v' → ∀ row, row ∈ sellerOpenConversations sellerId v →
      row ∈ sellerOpenConversations sellerId v' := by
    rintro v v' h ⟨id, row⟩ hrow
    simp only [sellerOpenConversations, List.mem_filter, mem_conversations, Bool.and_eq_true,
      soldBy, Option.any_eq_true, beq_iff_eq] at hrow ⊢
    obtain ⟨hconversation, ⟨item, hitem, offer, hoffer, hmine⟩, hopen⟩ := hrow
    have hown := hasItem_of_seller hrole hseller hitem hoffer hmine
    exact ⟨(h.own (.conversation id) (.inl ⟨row, hconversation, hown⟩)).symm.trans hconversation,
      ⟨item, (h.own (.orderItem _) (.inl hown)).symm.trans hitem, offer,
        (h.offer_eq _).symm.trans hoffer, hmine⟩, hopen⟩
  exact perm_of_rows Prod.fst ((List.filter_sublist.map _).nodup (conversations_nodup v))
    ((List.filter_sublist.map _).nodup (conversations_nodup v')) fun row =>
      ⟨hsub h row, hsub h.symm row⟩

end Sellers

/-! ### Answers -/

section Answers

variable {cs : ℕ → Choice} {n : ℕ} {log : List Event} {user : CurrentUser} {v v' : Db}

/-- The orders of a buyer as they are listed. -/
def listedOrders (orders : ListingOrders) (buyerId : UUID) (v : Db) : List OrderResponse :=
  (orders.placedOrders.sort (ordersOf buyerId v)).map fun order =>
    orderResponse order.1 order.2 (orders.purchases.sort (buyerOrderItemRows
      ((orders.placedOrders.sort (ordersOf buyerId v)).map Prod.fst) v))

lemma exec_listOrders (orders : ListingOrders) (hrole : user.role = .buyer) :
    (exec cs (listOrders orders.placedOrders orders.purchases user) n v log ∅).result
      = .ok (listedOrders orders user.id v) := by
  rw [listOrders, requireBuyer, if_pos hrole]
  change (exec cs ((Prog.lift _).bind _) n v log ∅).result = _
  rw [exec_select]
  change (exec cs ((buyerOrderItemsByOrder _
    ((orders.placedOrders.sort (ordersOf user.id v)).map Prod.fst)).bind _) _ v log _).result = _
  rw [buyerOrderItemsByOrder]
  split
  · rename_i hnil
    have hrows : orders.placedOrders.sort (ordersOf user.id v) = [] := List.map_eq_nil_iff.mp hnil
    change Except.ok ((orders.placedOrders.sort (ordersOf user.id v)).map _) = _
    rw [listedOrders, hrows]
    rfl
  · rw [exec_select, view_loads]
    rfl

/-- A page of rows that are the same in two databases. -/
lemma exists_paginate_eq {ρ β κ : Type} [LinearOrder κ] {key : ρ → κ} (cs : ℕ → Choice)
    (stmt : Db → List ρ) (h : (stmt v).Perm (stmt v')) (parameters : List ℕ)
    (entities : ρ → List Key) (item : ρ → β) (query : PageQuery) (sorting : Sorting key) :
    ∃ sorting' : Sorting key,
      answerOf cs v (paginate stmt parameters entities sorting item query)
        = answerOf cs v' (paginate stmt parameters entities sorting' item query) := by
  obtain ⟨sorting', hsorting⟩ := exists_sorting sorting h
  refine ⟨sorting', ?_⟩
  rw [answerOf, answerOf]
  by_cases hfit : (∀ n ∈ parameters, FitsInteger n) ∧ FitsInteger query.pageSize
      ∧ FitsInteger query.offset
  · rw [exec_paginate_fit hfit.1 hfit.2.1 hfit.2.2, exec_paginate_fit hfit.1 hfit.2.1 hfit.2.2,
      hsorting, h.length_eq]
  · rw [exec_paginate_unfit hfit, exec_paginate_unfit hfit]

variable (h : SameFor user v v')

include h

/-- The order list. -/
lemma SameFor.exists_listOrders_eq (orders : ListingOrders) : ∃ orders' : ListingOrders,
    answerOf cs v (listOrders orders.placedOrders orders.purchases user)
      = answerOf cs v' (listOrders orders'.placedOrders orders'.purchases user) := by
  by_cases hrole : user.role = .buyer
  · obtain ⟨placed, hplaced⟩ := exists_sorting orders.placedOrders (h.ordersOf_perm hrole)
    have hmine : ∀ id ∈ (orders.placedOrders.sort (ordersOf user.id v)).map Prod.fst,
        ∃ order, Db.order v id = some order ∧ order.buyerId = user.id := by
      intro id hid
      obtain ⟨row, hrow, rfl⟩ := List.mem_map.mp hid
      have hrow' := (orders.placedOrders.answers (ordersOf user.id v)).perm.mem_iff.mp hrow
      simp only [ordersOf, List.mem_filter, beq_iff_eq] at hrow'
      exact ⟨row.2, mem_orders.mp hrow'.1, hrow'.2⟩
    obtain ⟨purchases, hpurchases⟩ :=
      exists_sorting orders.purchases (h.buyerOrderItemRows_perm hrole hmine)
    refine ⟨{ orders with placedOrders := placed, purchases := purchases }, ?_⟩
    rw [answerOf, answerOf, exec_listOrders _ hrole, exec_listOrders _ hrole, listedOrders,
      listedOrders, hplaced, hpurchases]
  · refine ⟨orders, ?_⟩
    rw [answerOf, answerOf, listOrders, requireBuyer, if_neg hrole]
    rfl

/-- The order items of a seller. -/
lemma SameFor.exists_listOrderItems_eq (filters : ItemFilters) (query : PageQuery)
    (sorting : Sorting ItemContext.newestFirst) : ∃ sorting',
    answerOf cs v (listOrderItems user filters sorting query)
      = answerOf cs v' (listOrderItems user filters sorting' query) := by
  rcases requireSeller_cases user with ⟨sellerId, hrole, hseller, hrequire⟩ | hrequire
  · by_cases hshort : ∀ value ∈ filters.publicNumber, value.Short
    · obtain ⟨sorting', heq⟩ := exists_paginate_eq cs
        (sellerItems sellerId filters (filters.publicNumber.map PublicNumber.value))
        ((h.sellerListStatement_perm hrole hseller).filter _)
        (numberParameters (filters.publicNumber.map PublicNumber.value)) ItemContext.entities
        ItemContext.listItem query sorting
      refine ⟨sorting', ?_⟩
      rw [listOrderItems, listOrderItems, hrequire, parseNumberFilter_short hshort]
      exact heq
    · obtain ⟨e, he⟩ := parseNumberFilter_long hshort
      refine ⟨sorting, ?_⟩
      rw [listOrderItems, hrequire, he]
      rfl
  · refine ⟨sorting, ?_⟩
    rw [listOrderItems, hrequire]
    rfl

/-- The dashboard of a seller. -/
lemma SameFor.exists_sellerDashboardOf_eq {sellerId : UUID} (hrole : user.role = .seller)
    (hseller : user.sellerId = some sellerId) (rowOrders : RowOrders) : ∃ rowOrders' : RowOrders,
      sellerDashboardOf rowOrders sellerId v = sellerDashboardOf rowOrders' sellerId v' := by
  obtain ⟨sorting, hsorting⟩ :=
    exists_sorting rowOrders.sellerItems (h.sellerListStatement_perm hrole hseller)
  refine ⟨{ rowOrders with sellerItems := sorting }, ?_⟩
  have hcounts : ∀ status, fillStatusCounts
      (rowOrders.statuses.arrange (groups (sellerStatuses sellerId v)))
        status
      = fillStatusCounts (rowOrders.statuses.arrange (groups (sellerStatuses sellerId v')))
        status := by
    intro status
    rw [fillStatusCounts, fillStatusCounts, tally_eq_count (rowOrders.statuses.perm _),
      tally_eq_count (rowOrders.statuses.perm _), (h.sellerStatuses_perm hrole hseller).count_eq]
  simp only [sellerDashboardOf, funext hcounts, hsorting,
    (h.sellerOpenConversations_perm hrole hseller).length_eq]

/-- The dashboard of a buyer. -/
lemma SameFor.exists_buyerDashboardOf_eq (hrole : user.role = .buyer) (rowOrders : RowOrders) :
    ∃ rowOrders' : RowOrders,
      buyerDashboardOf rowOrders user.id v = buyerDashboardOf rowOrders' user.id v' := by
  obtain ⟨placed, hplaced⟩ := exists_sorting rowOrders.orders (h.ordersOf_perm hrole)
  have hrecent : recentOrdersOf { rowOrders with orders := placed } user.id v'
      = recentOrdersOf rowOrders user.id v := congrArg (List.take recentLimit) hplaced
  have hmine : ∀ id ∈ (recentOrdersOf rowOrders user.id v).map Prod.fst,
      ∃ order, Db.order v id = some order ∧ order.buyerId = user.id := by
    intro id hid
    obtain ⟨row, hrow, rfl⟩ := List.mem_map.mp hid
    have hrow' := (rowOrders.orders.answers _).perm.mem_iff.mp (List.mem_of_mem_take hrow)
    simp only [List.mem_filter, beq_iff_eq] at hrow'
    exact ⟨row.2, mem_orders.mp hrow'.1, hrow'.2⟩
  obtain ⟨items, hitems⟩ := exists_sorting rowOrders.buyerItems (h.buyerItemRows_perm hrole hmine)
  refine ⟨{ rowOrders with orders := placed, buyerItems := items }, ?_⟩
  have hrecent' : recentOrdersOf { rowOrders with orders := placed, buyerItems := items } user.id v'
      = recentOrdersOf rowOrders user.id v := hrecent
  simp only [buyerDashboardOf, hrecent', hitems, (h.activeOrders_perm hrole).length_eq,
    (h.completedOrders_perm hrole).length_eq, (h.buyerOpenConversations_perm hrole).length_eq]

/-- The dashboard. -/
lemma SameFor.exists_getDashboard_eq (hrole : user.role ≠ .ops) (rowOrders : RowOrders) :
    ∃ rowOrders' : RowOrders, answerOf cs v (getDashboard rowOrders user)
      = answerOf cs v' (getDashboard rowOrders' user) := by
  cases hr : user.role with
  | ops => exact absurd hr hrole
  | buyer =>
      obtain ⟨rowOrders', heq⟩ := h.exists_buyerDashboardOf_eq hr rowOrders
      refine ⟨rowOrders', ?_⟩
      rw [getDashboard, getDashboard, hr]
      refine (exec_map_ok (exec_buyerDashboard user.id)).trans ?_
      rw [heq]
      exact (exec_map_ok (exec_buyerDashboard user.id)).symm
  | seller =>
      cases hseller : user.sellerId with
      | none =>
          refine ⟨rowOrders, ?_⟩
          rw [getDashboard, hr, hseller]
          rfl
      | some sellerId =>
          obtain ⟨rowOrders', heq⟩ := h.exists_sellerDashboardOf_eq hr hseller rowOrders
          refine ⟨rowOrders', ?_⟩
          rw [getDashboard, getDashboard, hr, hseller]
          refine (exec_map_ok (exec_sellerDashboard sellerId)).trans ?_
          rw [heq]
          exact (exec_map_ok (exec_sellerDashboard sellerId)).symm

/-- What one database may answer, the other may answer. -/
lemma SameFor.answers_subset (hrole : user.role ≠ .ops) (listing : UserListing) :
    answers cs v user listing ⊆ answers cs v' user listing := by
  rintro answer ⟨orders, rfl⟩
  cases listing with
  | listOrders =>
      obtain ⟨orders', heq⟩ := h.exists_listOrders_eq orders
      exact ⟨orders', heq.symm⟩
  | listOrderItems filters query =>
      obtain ⟨sorting', heq⟩ := h.exists_listOrderItems_eq filters query orders.sellerItems
      exact ⟨{ orders with sellerItems := sorting' }, heq.symm⟩
  | getDashboard =>
      obtain ⟨rowOrders', heq⟩ := h.exists_getDashboard_eq hrole orders.toRowOrders
      exact ⟨{ orders with toRowOrders := rowOrders' }, heq.symm⟩
  | listNotifications query =>
      obtain ⟨sorting', heq⟩ := exists_paginate_eq cs _ h.notificationsOf_perm []
        (fun notification => [Key.notification notification.1])
        (fun notification => toResponse notification.1 notification.2) query orders.notifications
      exact ⟨{ orders with notifications := sorting' }, heq.symm⟩
  | unreadCount =>
      exact ⟨orders, congrArg Except.ok (h.notificationsOf_perm.filter _).length_eq.symm⟩

/-- **Lists and counts do not tell such databases apart.** -/
lemma SameFor.answers_eq (hrole : user.role ≠ .ops) (listing : UserListing) :
    answers cs v user listing = answers cs v' user listing :=
  Set.Subset.antisymm (h.answers_subset hrole listing) (h.symm.answers_subset hrole listing)

end Answers

/-! ### Isolation -/

/-- **Participants are isolated**: a route that is about a row of others answers as for an
identifier that does not exist and leaves everything as it was, and the lists and counts of a user
do not depend on rows of others. -/
theorem participants_isolated {user : CurrentUser} (hrole : user.role ≠ .ops) :
    (∀ v context (route : ParticipantRoute) id id', ¬ BelongsTo v user (route.key id) →
        v.lookup (route.key id') = none →
        DeniesAlike v (route.run context id user) (route.run context id' user))
      ∧ ∀ v v', SameFor user v v' → ∀ cs listing,
        answers cs v user listing = answers cs v' user listing :=
  ⟨fun _ context route _ _ hforeign hmissing =>
      (deniesAlike_of_foreign context route hforeign
        (not_belongsTo_of_missing hmissing)).transaction,
    fun _ _ hsame _ listing => hsame.answers_eq hrole listing⟩

/-- Somebody who has bought nothing. -/
def otherBuyer : CurrentUser := ⟨12, .buyer, none⟩

/-- The buyer of the tableware is notified. -/
def notifiedTableware : Db :=
  tableware.insert (.notification 50) (⟨7, "order_item_status_changed", "Pedido atualizado",
    "O item 1001-1 foi atualizado.", "order_item", 8, "placed", "preparing", 1, 1, none⟩ :
    Notification)

lemma sameFor_notifiedTableware : SameFor otherBuyer tableware notifiedTableware where
  fixed k hk := (AList.lookup_insert_ne (by rintro rfl; cases hk)).symm
  own k hmine := by
    by_cases hk : k = .notification 50
    · subst hk
      rcases hmine with ⟨row, hrow, -⟩ | ⟨row, hrow, hmine⟩
      · have hnone : Db.notification tableware 50 = none := by decide
        cases hnone.symm.trans hrow
      · obtain rfl := Option.some.inj ((AList.lookup_insert _).symm.trans hrow)
        cases hmine
    · exact (AList.lookup_insert_ne hk).symm

lemma not_hasItem_otherBuyer : ¬ HasItem tableware otherBuyer 8 := by
  rintro ⟨item, hitem, order, horder, hmine⟩
  have hmug : Db.orderItem tableware 8 = some ⟨6, 4, 1, 1, 1000, .placed, 0, 0, 0⟩ := by decide
  obtain rfl := Option.some.inj (hmug.symm.trans hitem)
  have hsix : Db.order tableware 6 = some ⟨1001, 7, 0, 0⟩ := by decide
  obtain rfl := Option.some.inj (hsix.symm.trans horder)
  cases hmine

theorem participants_isolated_tableware :
    (∀ context, DeniesAlike tableware (ParticipantRoute.cancelOrderItem.run context 8 otherBuyer)
        (ParticipantRoute.cancelOrderItem.run context 99 otherBuyer))
      ∧ ∀ cs, answers cs tableware otherBuyer .unreadCount
        = answers cs notifiedTableware otherBuyer .unreadCount := by
  have hrole : otherBuyer.role ≠ .ops := by decide
  have hmissing : tableware.lookup (.orderItem 99) = none := by decide
  exact ⟨fun context => (participants_isolated hrole).1 tableware context .cancelOrderItem 8 99
      not_hasItem_otherBuyer hmissing,
    fun cs => (participants_isolated hrole).2 tableware notifiedTableware
      sameFor_notifiedTableware cs
      .unreadCount⟩

end MarketHub
