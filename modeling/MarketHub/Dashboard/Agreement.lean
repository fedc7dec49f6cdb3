import MarketHub.Communication.Refusal
import MarketHub.Dashboard.Queries
import MarketHub.Listings

/-!
The dashboards agree with the listings.

* `ForeignKeys`: the foreign keys that the joins follow, which the database enforces.
* `PlainOverrides`: an override is absent or `critical`; `plainOverrides_of_reachable` has it of
  every reachable state.
* `Responds`: a request that runs alone on a database gives a response.
* `dashboards_agree`: the numbers of every dashboard are those of the listings.
-/

namespace MarketHub

open ReadCommitted OffsetPaging Grouping

/-! ### What the database enforces -/

/-- The foreign keys of `offers`, `orders`, `order_items` and `conversations`. -/
structure ForeignKeys (v : Db) : Prop where
  product : ∀ id r, Db.offer v id = some r → (Db.product v r.productId).isSome
  seller : ∀ id r, Db.offer v id = some r → (Db.seller v r.sellerId).isSome
  buyer : ∀ id r, Db.order v id = some r → (Db.user v r.buyerId).isSome
  order : ∀ id r, Db.orderItem v id = some r → (Db.order v r.orderId).isSome
  offer : ∀ id r, Db.orderItem v id = some r → (Db.offer v r.offerId).isSome
  item : ∀ id r, Db.conversation v id = some r → (Db.orderItem v r.orderItemId).isSome

/-- The rows that a row refers to are there. -/
def resolves (v : Db) : (k : Key) → Row k → Bool
  | .offer _, r => (Db.product v r.productId).isSome && (Db.seller v r.sellerId).isSome
  | .order _, r => (Db.user v r.buyerId).isSome
  | .orderItem _, r => (Db.order v r.orderId).isSome && (Db.offer v r.offerId).isSome
  | .conversation _, r => (Db.orderItem v r.orderItemId).isSome
  | _, _ => true

/-- The foreign keys, checked row by row. -/
lemma foreignKeys_of_resolves {v : Db} (h : ∀ e ∈ v.entries, resolves v e.1 e.2 = true) :
    ForeignKeys v := by
  have hrow : ∀ k r, v.lookup k = some r → resolves v k r = true := fun k r hr =>
    h ⟨k, r⟩ (AList.mem_lookup_iff.mp hr)
  exact
    { product := fun id r hr => (Bool.and_eq_true_iff.mp (hrow (.offer id) r hr)).1
      seller := fun id r hr => (Bool.and_eq_true_iff.mp (hrow (.offer id) r hr)).2
      buyer := fun id r hr => hrow (.order id) r hr
      order := fun id r hr => (Bool.and_eq_true_iff.mp (hrow (.orderItem id) r hr)).1
      offer := fun id r hr => (Bool.and_eq_true_iff.mp (hrow (.orderItem id) r hr)).2
      item := fun id r hr => hrow (.conversation id) r hr }

/-- An override is absent or `critical`. -/
def PlainOverrides (v : Db) : Prop :=
  ∀ c row, Db.conversation v c = some row →
    row.opsOverride = none ∨ row.opsOverride = some .critical

section Overrides

variable {settings : Settings}

/-- A deed sets no other override. -/
lemma Deed.plain {T : Terms} {st : Db} {c : UUID} {b b' : Option Conversation}
    {news : Option (UUID × Message)} {events : List Event}
    (h : Deed T settings st c b b' news events)
    (hb : ∀ row, b = some row → row.opsOverride = none ∨ row.opsOverride = some .critical) :
    ∀ row, b' = some row → row.opsOverride = none ∨ row.opsOverride = some .critical := by
  intro row hrow
  cases h with
  | nothing b => exact hb row hrow
  | created itemId reason now _ _ _ =>
      cases hrow
      exact .inl rfl
  | @messaged b _ id user content now _ _ _ =>
      cases hrow
      exact hb b rfl
  | @expired x seen b id now _ _ _ _ =>
      cases hrow
      have hsame : (Conversation.patch x (x.expire now) b).opsOverride = b.opsOverride := by
        simp [Conversation.patch, column, Conversation.expire, Conversation.touch]
      rw [hsame]
      exact hb b rfl
  | @shut b now _ _ =>
      cases hrow
      exact hb b rfl
  | @recalculated v x item b now _ _ _ _ =>
      cases hrow
      have hsame : (Conversation.patch x (recalculate x item now) b).opsOverride
          = b.opsOverride := by
        simp [Conversation.patch, column, recalculate_opsOverride]
      rw [hsame]
      exact hb b rfl
  | overridden b override now _ hoverride =>
      cases hrow
      exact hoverride

/-- The assumptions and obligations around the overrides. -/
def overridesOutline (settings : Settings) : Outline Row Event where
  inv v _ := PlainOverrides v
  commit := Did freeTerms settings

lemma overridesOutline_sound (settings : Settings) : (overridesOutline settings).Sound where
  keeps st log s hinv _ hdid c := by
    obtain ⟨news, hdeeds⟩ := hdid
    exact (hdeeds.conversation c).plain (hinv c)
  relied _ _ _ _ _ _ _ _ _ := trivial

/-- **No other override is reached.** -/
lemma plainOverrides_of_reachable {st₀ : Db} {s : Sys Row Event DomainError Unit}
    (hstart : PlainOverrides st₀)
    (h : Reachable (IsServiceRequest settings) (fun _ _ => True) (Sys.rest st₀) s) :
    PlainOverrides s.committed := by
  have htells : Tells (overridesOutline settings) freeTerms :=
    { moved := fun _ _ _ _ => trivial
      clock := fun _ _ _ _ => trivial
      expired := fun _ _ _ _ _ _ _ _ _ => trivial }
  have hok : s.Ok (overridesOutline settings) (fun _ _ _ => True) := by
    refine h.ok (overridesOutline_sound settings) hstart ?_ ?_
    · rintro p ⟨r, rfl⟩ st log -
      exact wp_serviceRequest htells (fun _ _ hdid => hdid) (fun _ _ => trivial) r
        fun _ _ => trivial
    · intros
      trivial
  exact hok.inv

/-- **Both computations of the effective priority agree.** -/
lemma sqlEffectivePriority_eq {row : Conversation}
    (h : row.opsOverride = none ∨ row.opsOverride = some .critical) :
    sqlEffectivePriority row = effectivePriority row.calculatedPriority row.opsOverride := by
  rcases h with h | h <;> simp [sqlEffectivePriority, effectivePriority, h]

end Overrides

/-! ### What a query sees -/

/-- A request that runs alone on a database gives a response. -/
def Responds {α : Type} (v : Db) (p : Txn α) (a : α) : Prop :=
  ∃ cs n log, (exec cs p n v log ∅).result = .ok a

section Responses

variable {ρ β κ : Type} [LinearOrder κ] {key : ρ → κ} {v : Db}

/-- The total of a listing. -/
lemma total_of_responds {stmt : Db → List ρ} {parameters : List ℕ} {entities : ρ → List Key}
    {sorting : Sorting key} {item : ρ → β} {query : PageQuery} {e : Envelope β}
    (h : Responds v (paginate stmt parameters entities sorting item query) e) :
    e.total = (stmt v).length := by
  obtain ⟨cs, n, log, h⟩ := h
  by_cases hfit : (∀ n ∈ parameters, FitsInteger n) ∧ FitsInteger query.pageSize
      ∧ FitsInteger query.offset
  · rw [exec_paginate_fit hfit.1 hfit.2.1 hfit.2.2] at h
    cases h
    rfl
  · rw [exec_paginate_unfit hfit] at h
    cases h

/-- The total of the order items of a seller. -/
lemma total_of_listOrderItems {user : CurrentUser} {sellerId : UUID} (hrole : user.role = .seller)
    (hseller : user.sellerId = some sellerId) {status : Option OrderItemStatus}
    {sorting : Sorting ItemContext.newestFirst} {query : PageQuery} {e : Envelope OrderItemListItem}
    (h : Responds v (listOrderItems user { status := status } sorting query) e) :
    e.total = (sellerItems sellerId { status := status } none v).length := by
  have hrequire : requireSeller user = .pure sellerId := by
    rw [requireSeller, hrole, hseller]
    rfl
  rw [listOrderItems, hrequire] at h
  exact total_of_responds h

/-- The total of the queue. -/
lemma total_of_listOpenQueue {user : CurrentUser} (hrole : user.role = .ops)
    {effective : Option Priority} {sorting : Sorting QueueRow.mostUrgentFirst} {query : PageQuery}
    {e : Envelope OpsConversationQueueItem}
    (h : Responds v (listOpenQueue user { effective := effective } sorting query) e) :
    e.total = (openQueue { effective := effective } none v).length := by
  rw [listOpenQueue, requireOps, if_pos hrole] at h
  exact total_of_responds h

end Responses

/-! ### The joins -/

section Joins

variable {v : Db}

/-- The joins of an order item find their rows. -/
lemma ForeignKeys.exists_itemContext (h : ForeignKeys v) {id : UUID} {item : OrderItem}
    (hitem : Db.orderItem v id = some item) :
    ∃ row, itemContext v id item = some row ∧ row.item = item
      ∧ Db.offer v item.offerId = some row.offer := by
  obtain ⟨offer, hoffer⟩ := Option.isSome_iff_exists.mp (h.offer id item hitem)
  obtain ⟨product, hproduct⟩ := Option.isSome_iff_exists.mp (h.product _ offer hoffer)
  obtain ⟨order, horder⟩ := Option.isSome_iff_exists.mp (h.order id item hitem)
  obtain ⟨buyer, hbuyer⟩ := Option.isSome_iff_exists.mp (h.buyer _ order horder)
  exact ⟨⟨id, item, offer, product, order, buyer⟩,
    by simp [itemContext, hoffer, hproduct, horder, hbuyer], rfl, hoffer⟩

/-- So do those of a conversation. -/
lemma ForeignKeys.exists_queueRow (h : ForeignKeys v) {id : UUID} {conversation : Conversation}
    (hconversation : Db.conversation v id = some conversation) :
    ∃ row, queueRow v id conversation = some row ∧ row.conversation = conversation := by
  obtain ⟨item, hitem⟩ := Option.isSome_iff_exists.mp (h.item id conversation hconversation)
  obtain ⟨context, hcontext, -, hoffer⟩ := h.exists_itemContext hitem
  obtain ⟨seller, hseller⟩ := Option.isSome_iff_exists.mp (h.seller _ context.offer hoffer)
  exact ⟨⟨id, conversation, ⟨context, seller⟩⟩,
    by simp [queueRow, opsItemContext, hitem, hcontext, hseller], rfl⟩

/-- And those of an item of a buyer. -/
lemma ForeignKeys.exists_buyerItemRow (h : ForeignKeys v) {id : UUID} {item : OrderItem}
    (hitem : Db.orderItem v id = some item) :
    ∃ row, buyerItemRow v id item = some row ∧ row.item = item := by
  obtain ⟨offer, hoffer⟩ := Option.isSome_iff_exists.mp (h.offer id item hitem)
  obtain ⟨product, hproduct⟩ := Option.isSome_iff_exists.mp (h.product _ offer hoffer)
  obtain ⟨seller, hseller⟩ := Option.isSome_iff_exists.mp (h.seller _ offer hoffer)
  exact ⟨⟨id, item, offer.productId, product, offer.sellerId, seller⟩,
    by simp [buyerItemRow, hoffer, hproduct, hseller], rfl⟩

/-- **The listing of a seller shows the statuses that the dashboard groups.** -/
lemma ForeignKeys.map_sellerListStatement (h : ForeignKeys v) (sellerId : UUID) :
    (sellerListStatement sellerId v).map (fun row => row.item.status)
      = sellerStatuses sellerId v := by
  refine map_filter_filterMap fun item hitem => ?_
  obtain ⟨row, hrow, hsame, hoffer⟩ := h.exists_itemContext (mem_orderItems.mp hitem)
  refine ⟨row, hrow, ?_, congrArg OrderItem.status hsame⟩
  rw [soldBy, hoffer, Option.any_some]

/-- **The queue shows the priorities that the dashboard groups.** -/
lemma ForeignKeys.map_queueStatement (h : ForeignKeys v) :
    (queueStatement v).map (fun row => sqlEffectivePriority row.conversation)
      = openPriorities v := by
  refine map_filter_filterMap fun conversation hconversation => ?_
  obtain ⟨row, hrow, hsame⟩ := h.exists_queueRow (mem_conversations.mp hconversation)
  refine ⟨row, hrow, ?_, congrArg sqlEffectivePriority hsame⟩
  rw [hsame]

end Joins

/-! ### The dashboards of one moment -/

section Moments

variable {v : Db} {rowOrders : RowOrders} {user : CurrentUser} {cs : ℕ → Choice} {n : ℕ}
  {log : List Event}

/-- The dashboard of a seller. -/
def sellerDashboardOf (rowOrders : RowOrders) (sellerId : UUID) (v : Db) : SellerDashboard :=
  let counts := fillStatusCounts (rowOrders.statuses.arrange (groups (sellerStatuses sellerId v)))
  { totalOrderItems := totalOrderItemCount counts
    activeOrderItems := activeOrderItemCount counts
    orderItemsByStatus := counts
    openConversations := (sellerOpenConversations sellerId v).length
    recent := ((rowOrders.sellerItems.sort (sellerListStatement sellerId v)).take recentLimit).map
      ItemContext.sellerRecent }

/-- The recent orders of a buyer. -/
def recentOrdersOf (rowOrders : RowOrders) (buyerId : UUID) (v : Db) : List (UUID × Order) :=
  (rowOrders.orders.sort
    ((Db.orders v).filter fun order => order.2.buyerId == buyerId)).take recentLimit

/-- The dashboard of a buyer. -/
def buyerDashboardOf (rowOrders : RowOrders) (buyerId : UUID) (v : Db) : BuyerDashboard where
  activeOrders := (activeOrders buyerId v).length
  completedOrders := (completedOrders buyerId v).length
  openConversations := (buyerOpenConversations buyerId v).length
  recent := (recentOrdersOf rowOrders buyerId v).map (buyerRecentOrder
    (rowOrders.buyerItems.sort
      (buyerItemRows ((recentOrdersOf rowOrders buyerId v).map Prod.fst) v)))

/-- The dashboard of Ops. -/
def opsDashboardOf (rowOrders : RowOrders) (v : Db) : OpsDashboard :=
  let counts := fillPriorityCounts (rowOrders.priorities.arrange (groups (openPriorities v)))
  { openConversations := (effectivePriorities.map counts).sum
    conversationsByPriority := counts
    priorityQueuePreview :=
      ((rowOrders.queue.sort (queueStatement v)).take recentLimit).map QueueRow.queueItem }

/-- Loading the rows of another table leaves what a query sees. -/
lemma view_loads (w : Db) (s : AppSession) (ks : List Key) :
    (ks.foldl (Session.load w) s).view v = s.view v := by
  rw [Session.view, Session.foldl_load_held, Session.view]

lemma exec_sellerDashboard (sellerId : UUID) :
    (exec cs (sellerDashboard rowOrders sellerId) n v log ∅).result
      = .ok (sellerDashboardOf rowOrders sellerId v) := by
  change (exec cs ((Prog.query _).bind fun _ => (Prog.query _).bind fun _ =>
    (Prog.lift _).bind _) n v log ∅).result = _
  rw [exec_query, exec_query, exec_select]
  rfl

lemma exec_buyerDashboard (buyerId : UUID) :
    (exec cs (buyerDashboard rowOrders buyerId) n v log ∅).result
      = .ok (buyerDashboardOf rowOrders buyerId v) := by
  change (exec cs ((Prog.query _).bind fun _ => (Prog.query _).bind fun _ =>
    (Prog.query _).bind fun _ => (Prog.lift _).bind _) n v log ∅).result = _
  rw [exec_query, exec_query, exec_query, exec_select]
  change (exec cs ((buyerRecentOrders rowOrders (recentOrdersOf rowOrders buyerId v)).bind _)
    _ v log _).result = _
  rw [buyerRecentOrders]
  split
  · rename_i hnil
    rw [buyerDashboardOf, hnil]
    rfl
  · change (exec cs ((Prog.lift _).bind _) _ v log _).result = _
    rw [exec_select, view_loads]
    rfl

lemma exec_opsDashboard :
    (exec cs (opsDashboard rowOrders) n v log ∅).result = .ok (opsDashboardOf rowOrders v) := by
  change (exec cs ((Prog.query _).bind fun _ => (Prog.lift _).bind _) n v log ∅).result = _
  rw [exec_query, exec_select]
  rfl

/-- A response is put into a larger one. -/
lemma exec_map_ok {α β : Type} {p : Txn α} {f : α → β} {a : α}
    (h : (exec cs p n v log ∅).result = .ok a) :
    (exec cs (p.bind fun a => .pure (f a)) n v log ∅).result = .ok (f a) := by
  rw [exec_bind, Outcome.andThen, h]
  rfl

end Moments

/-- **The dashboard of a user** is the one of the role. -/
lemma responds_getDashboard {v : Db} {rowOrders : RowOrders} {user : CurrentUser}
    {response : DashboardResponse} (h : Responds v (getDashboard rowOrders user) response) :
    (∃ sellerId, user.role = .seller ∧ user.sellerId = some sellerId
        ∧ response = .seller (sellerDashboardOf rowOrders sellerId v))
      ∨ (user.role = .buyer ∧ response = .buyer (buyerDashboardOf rowOrders user.id v))
      ∨ user.role = .ops ∧ response = .ops (opsDashboardOf rowOrders v) := by
  obtain ⟨cs, n, log, h⟩ := h
  rw [getDashboard] at h
  split at h
  · rename_i sellerId hrole hseller
    have hrun := (exec_map_ok (exec_sellerDashboard sellerId)).symm.trans h
    exact .inl ⟨sellerId, hrole, hseller, (Except.ok.inj hrun).symm⟩
  · rename_i hrole
    have hrun := (exec_map_ok (exec_buyerDashboard user.id)).symm.trans h
    exact .inr (.inl ⟨hrole, (Except.ok.inj hrun).symm⟩)
  · rename_i hrole
    have hrun := (exec_map_ok exec_opsDashboard).symm.trans h
    exact .inr (.inr ⟨hrole, (Except.ok.inj hrun).symm⟩)
  · cases h

/-- Every role is given its dashboard. -/
lemma exists_dashboard (v : Db) (rowOrders : RowOrders) (user : CurrentUser) :
    (∀ sellerId, user.role = .seller → user.sellerId = some sellerId →
        ∃ d, Responds v (getDashboard rowOrders user) (.seller d))
      ∧ (user.role = .buyer → ∃ d, Responds v (getDashboard rowOrders user) (.buyer d))
      ∧ (user.role = .ops → ∃ d, Responds v (getDashboard rowOrders user) (.ops d)) := by
  refine ⟨fun sellerId hrole hseller => ⟨sellerDashboardOf rowOrders sellerId v, ?_⟩,
    fun hrole => ⟨buyerDashboardOf rowOrders user.id v, ?_⟩,
    fun hrole => ⟨opsDashboardOf rowOrders v, ?_⟩⟩
  · refine ⟨fun _ => ⟨0, 0, false⟩, 0, [], ?_⟩
    rw [getDashboard, hrole, hseller]
    exact exec_map_ok (exec_sellerDashboard sellerId)
  · refine ⟨fun _ => ⟨0, 0, false⟩, 0, [], ?_⟩
    rw [getDashboard, hrole]
    exact exec_map_ok (exec_buyerDashboard user.id)
  · refine ⟨fun _ => ⟨0, 0, false⟩, 0, [], ?_⟩
    rw [getDashboard, hrole]
    exact exec_map_ok exec_opsDashboard

/-! ### Statuses of a seller -/

section Seller

variable {v : Db} {rowOrders : RowOrders} {sellerId : UUID}

/-- The counts of a seller are those of the statuses. -/
lemma sellerDashboardOf_counts (status : OrderItemStatus) :
    (sellerDashboardOf rowOrders sellerId v).orderItemsByStatus status
      = (sellerStatuses sellerId v).count status :=
  tally_eq_count (rowOrders.statuses.perm _) status

/-- The listing with a status filter has as many rows. -/
lemma ForeignKeys.length_sellerItems (h : ForeignKeys v) (status : OrderItemStatus) :
    (sellerItems sellerId { status := some status } none v).length
      = (sellerStatuses sellerId v).count status := by
  rw [← h.map_sellerListStatement, count_map_eq_length_filter, sellerItems]
  refine congrArg List.length (List.filter_congr fun row _ => ?_)
  simp [ItemFilters.admits, applyPublicNumberFilter]

/-- **The total is that of the listing.** -/
lemma ForeignKeys.totalOrderItems (h : ForeignKeys v) :
    (sellerDashboardOf rowOrders sellerId v).totalOrderItems
      = (sellerItems sellerId {} none v).length := by
  have hall : (sellerItems sellerId {} none v) = sellerListStatement sellerId v := by
    refine List.filter_eq_self.mpr fun row _ => ?_
    simp [ItemFilters.admits, applyPublicNumberFilter]
  calc (sellerDashboardOf rowOrders sellerId v).totalOrderItems
      = (itemStatuses.map fun status => (sellerStatuses sellerId v).count status).sum :=
        congrArg List.sum (List.map_congr_left fun status _ => sellerDashboardOf_counts status)
    _ = (sellerStatuses sellerId v).length :=
        sum_count (by decide) fun status _ => by cases status <;> decide
    _ = (sellerItems sellerId {} none v).length := by
        rw [hall, ← h.map_sellerListStatement, List.length_map]

/-- The active items. -/
lemma sellerDashboardOf_active :
    (sellerDashboardOf rowOrders sellerId v).activeOrderItems
      = (sellerDashboardOf rowOrders sellerId v).orderItemsByStatus .placed
        + (sellerDashboardOf rowOrders sellerId v).orderItemsByStatus .preparing
        + (sellerDashboardOf rowOrders sellerId v).orderItemsByStatus .inTransit := by
  simp only [sellerDashboardOf, activeOrderItemCount, activeItemStatuses, List.map_cons,
    List.map_nil, List.sum_cons, List.sum_nil]
  omega

end Seller

/-! ### Orders of a buyer -/

section Buyer

variable {v : Db} {rowOrders : RowOrders} {buyerId orderId : UUID} {order : Order}

/-- The statuses of the items of an order. -/
def orderStatuses (v : Db) (orderId : UUID) : List OrderItemStatus :=
  ((Db.orderItems v).filter fun item => item.2.orderId == orderId).map fun item => item.2.status

lemma hasActiveItem_eq :
    hasActiveItem v orderId = (orderStatuses v orderId).any (activeItemStatuses.contains ·) := by
  rw [orderStatuses, List.any_map, List.any_filter, hasActiveItem]
  rfl

lemma hasNonDelivered_eq :
    hasNonDelivered v orderId = !(orderStatuses v orderId).all (· == .delivered) := by
  rw [orderStatuses, List.all_map, List.not_all_eq_any_not, List.any_filter, hasNonDelivered]
  rfl

lemma hasItem_eq : hasItem v orderId = true ↔ orderStatuses v orderId ≠ [] := by
  rw [orderStatuses, ne_eq, List.map_eq_nil_iff, List.filter_eq_nil_iff, hasItem, List.any_eq_true]
  constructor
  · rintro ⟨item, hitem, hmine⟩ hnone
    exact hnone item hitem hmine
  · intro h
    by_contra hnone
    exact h fun item hitem hmine => hnone ⟨item, hitem, hmine⟩

/-- When an order is in progress. -/
lemma inProgress_iff {statuses : List OrderItemStatus} :
    buyerOrderProjectionStatus statuses = .inProgress
      ↔ statuses.any (activeItemStatuses.contains ·) = true := by
  rw [buyerOrderProjectionStatus]
  split
  · rename_i hactive
    exact iff_of_true rfl hactive
  · rename_i hactive
    split
    · exact iff_of_false (by simp) hactive
    · exact iff_of_false (by simp) hactive

/-- When an order is completed. -/
lemma completed_iff {statuses : List OrderItemStatus} :
    buyerOrderProjectionStatus statuses = .completed
      ↔ statuses ≠ [] ∧ statuses.all (· == .delivered) = true := by
  rw [buyerOrderProjectionStatus]
  split
  · rename_i hactive
    obtain ⟨status, hmem, hstatus⟩ := List.any_eq_true.mp hactive
    refine iff_of_false (by simp) fun h => ?_
    have hdelivered : status = .delivered := by simpa using List.all_eq_true.mp h.2 status hmem
    rw [hdelivered] at hstatus
    exact absurd hstatus (by decide)
  · split
    · rename_i h
      exact iff_of_true rfl h
    · rename_i h
      exact iff_of_false (by simp) h

/-- **Active orders** are those in progress. -/
lemma mem_activeOrders_iff (horder : Db.order v orderId = some order)
    (hbuyer : order.buyerId = buyerId) :
    (orderId, order) ∈ activeOrders buyerId v
      ↔ buyerOrderProjectionStatus (orderStatuses v orderId) = .inProgress := by
  rw [activeOrders, List.mem_filter, mem_orders, inProgress_iff, hasActiveItem_eq]
  simp [horder, hbuyer]

/-- **Completed orders** are those completed. -/
lemma mem_completedOrders_iff (horder : Db.order v orderId = some order)
    (hbuyer : order.buyerId = buyerId) :
    (orderId, order) ∈ completedOrders buyerId v
      ↔ buyerOrderProjectionStatus (orderStatuses v orderId) = .completed := by
  rw [completedOrders, List.mem_filter, mem_orders, completed_iff, hasNonDelivered_eq,
    Bool.not_not, Bool.and_eq_true, Bool.and_eq_true, hasItem_eq]
  simp only [horder, hbuyer, beq_self_eq_true, true_and]
  exact and_comm

/-- The projection does not depend on the order of the items. -/
lemma projection_perm {statuses statuses' : List OrderItemStatus} (h : statuses.Perm statuses') :
    buyerOrderProjectionStatus statuses = buyerOrderProjectionStatus statuses' := by
  have hnil : statuses = [] ↔ statuses' = [] :=
    ⟨fun hs => List.nil_perm.mp (hs ▸ h), fun hs => List.perm_nil.mp (hs ▸ h)⟩
  have hany := h.any_eq (f := (activeItemStatuses.contains ·))
  have hall := h.all_eq (f := (· == .delivered))
  rw [buyerOrderProjectionStatus, buyerOrderProjectionStatus, hany, hall]
  simp only [ne_eq, hnil]

/-- **A recent order shows the projection of its items.** -/
lemma ForeignKeys.recent_status (h : ForeignKeys v) {recent : BuyerRecentOrder}
    (hrecent : recent ∈ (buyerDashboardOf rowOrders buyerId v).recent) :
    recent.status = buyerOrderProjectionStatus (orderStatuses v recent.orderId) := by
  obtain ⟨order, horder, rfl⟩ := List.mem_map.mp hrecent
  refine projection_perm ?_
  have hid : order.1 ∈ (recentOrdersOf rowOrders buyerId v).map Prod.fst :=
    List.mem_map_of_mem horder
  -- the rows of the order among those of all recent orders
  have hrows : ((buyerItemRows ((recentOrdersOf rowOrders buyerId v).map Prod.fst) v).filter
      fun row => row.item.orderId == order.1).map (fun row => row.item.status)
      = orderStatuses v order.1 := by
    rw [buyerItemRows, List.filter_filter]
    refine map_filter_filterMap fun item hitem => ?_
    obtain ⟨row, hrow, hsame⟩ := h.exists_buyerItemRow (mem_orderItems.mp hitem)
    refine ⟨row, hrow, ?_, congrArg OrderItem.status hsame⟩
    rw [hsame]
    by_cases hmine : item.2.orderId = order.1
    · simp [hmine, hid]
    · simp [hmine]
  refine List.Perm.trans ?_ (List.Perm.of_eq hrows)
  exact (((rowOrders.buyerItems.answers _).perm).filter _).map _

end Buyer

/-! ### Priorities of Ops -/

section Ops

variable {v : Db} {rowOrders : RowOrders}

/-- The counts of Ops are those of the effective priorities. -/
lemma opsDashboardOf_counts (priority : Priority) :
    (opsDashboardOf rowOrders v).conversationsByPriority priority
      = (openPriorities v).count priority :=
  tally_eq_count (rowOrders.priorities.perm _) priority

/-- The queue with a priority filter has as many rows. -/
lemma ForeignKeys.length_openQueue (h : ForeignKeys v) (priority : Priority) :
    (openQueue { effective := some priority } none v).length
      = (openPriorities v).count priority := by
  rw [← h.map_queueStatement, count_map_eq_length_filter, openQueue]
  refine congrArg List.length (List.filter_congr fun row _ => ?_)
  simp [QueueFilters.admits, applyPublicNumberFilter]

/-- **The sum is the total of the queue.** -/
lemma ForeignKeys.sum_priorities (h : ForeignKeys v) :
    (opsDashboardOf rowOrders v).openConversations = (openQueue {} none v).length := by
  have hall : openQueue {} none v = queueStatement v := by
    refine List.filter_eq_self.mpr fun row _ => ?_
    simp [QueueFilters.admits, applyPublicNumberFilter]
  calc (opsDashboardOf rowOrders v).openConversations
      = (effectivePriorities.map fun priority => (openPriorities v).count priority).sum :=
        congrArg List.sum (List.map_congr_left fun priority _ => opsDashboardOf_counts priority)
    _ = (openPriorities v).length :=
        sum_count (by decide) fun priority _ => by cases priority <;> decide
    _ = (openQueue {} none v).length := by
        rw [hall, ← h.map_queueStatement, List.length_map]

end Ops

/-! ### Agreement -/

/-- The dashboards agree with the listings of the same database. -/
structure DashboardsAgree (v : Db) : Prop where
  /-- A seller, a buyer and Ops are given a dashboard of their kind. -/
  given : ∀ rowOrders user,
    (∀ sellerId, user.role = .seller → user.sellerId = some sellerId →
        ∃ d, Responds v (getDashboard rowOrders user) (.seller d))
      ∧ (user.role = .buyer → ∃ d, Responds v (getDashboard rowOrders user) (.buyer d))
      ∧ (user.role = .ops → ∃ d, Responds v (getDashboard rowOrders user) (.ops d))
  /-- The numbers of a seller are the totals of the order items. -/
  seller : ∀ rowOrders user d, Responds v (getDashboard rowOrders user) (.seller d) →
    (∀ sorting query e, Responds v (listOrderItems user {} sorting query) e →
        d.totalOrderItems = e.total)
      ∧ (∀ status sorting query e,
        Responds v (listOrderItems user { status := some status } sorting query) e →
          d.orderItemsByStatus status = e.total)
      ∧ d.activeOrderItems = d.orderItemsByStatus .placed + d.orderItemsByStatus .preparing
        + d.orderItemsByStatus .inTransit
  /-- The numbers of a buyer count the orders by their projection, which the recent orders show. -/
  buyer : ∀ rowOrders user d, Responds v (getDashboard rowOrders user) (.buyer d) →
    d.activeOrders = (activeOrders user.id v).length
      ∧ d.completedOrders = (completedOrders user.id v).length
      ∧ (∀ orderId order, Db.order v orderId = some order → order.buyerId = user.id →
        ((orderId, order) ∈ activeOrders user.id v
            ↔ buyerOrderProjectionStatus (orderStatuses v orderId) = .inProgress)
          ∧ ((orderId, order) ∈ completedOrders user.id v
            ↔ buyerOrderProjectionStatus (orderStatuses v orderId) = .completed)
          ∧ ¬ ((orderId, order) ∈ activeOrders user.id v
            ∧ (orderId, order) ∈ completedOrders user.id v))
      ∧ ∀ recent ∈ d.recent,
        recent.status = buyerOrderProjectionStatus (orderStatuses v recent.orderId)
  /-- The numbers of Ops are the totals of the queue. -/
  ops : ∀ rowOrders user d, Responds v (getDashboard rowOrders user) (.ops d) →
    (∀ priority sorting query e,
        Responds v (listOpenQueue user { effective := some priority } sorting query) e →
          d.conversationsByPriority priority = e.total)
      ∧ (∀ sorting query e, Responds v (listOpenQueue user {} sorting query) e →
        d.openConversations = e.total
          ∧ (effectivePriorities.map d.conversationsByPriority).sum = e.total)
  /-- The effective priority of the queries is that of the code. -/
  effective : ∀ c row, Db.conversation v c = some row →
    sqlEffectivePriority row = effectivePriority row.calculatedPriority row.opsOverride

/-- **The dashboards agree with the listings**, in every state that the requests reach. -/
theorem dashboards_agree {settings : Settings} {st₀ : Db} {s : Sys Row Event DomainError Unit}
    (hstart : PlainOverrides st₀)
    (hrun : Reachable (IsServiceRequest settings) (fun _ _ => True) (Sys.rest st₀) s)
    (hkeys : ForeignKeys s.committed) : DashboardsAgree s.committed where
  given := exists_dashboard s.committed
  -- each kind of dashboard is given to one role only
  seller rowOrders user d hd := by
    rcases responds_getDashboard hd with ⟨sellerId, hrole, hseller, hresponse⟩ | ⟨-, hresponse⟩
      | ⟨-, hresponse⟩
    · cases hresponse
      refine ⟨fun sorting query e he => ?_, fun status sorting query e he => ?_,
        sellerDashboardOf_active⟩
      · rw [total_of_listOrderItems hrole hseller he, hkeys.totalOrderItems]
      · rw [total_of_listOrderItems hrole hseller he, hkeys.length_sellerItems,
          sellerDashboardOf_counts]
    · cases hresponse
    · cases hresponse
  buyer rowOrders user d hd := by
    rcases responds_getDashboard hd with ⟨sellerId, -, -, hresponse⟩ | ⟨hrole, hresponse⟩
      | ⟨-, hresponse⟩
    · cases hresponse
    · cases hresponse
      refine ⟨rfl, rfl, fun orderId order horder hbuyer => ?_, fun recent hrecent =>
        hkeys.recent_status hrecent⟩
      have hactive := mem_activeOrders_iff horder hbuyer
      have hcompleted := mem_completedOrders_iff horder hbuyer
      refine ⟨hactive, hcompleted, fun hboth => ?_⟩
      have heq := (hactive.mp hboth.1).symm.trans (hcompleted.mp hboth.2)
      cases heq
    · cases hresponse
  ops rowOrders user d hd := by
    rcases responds_getDashboard hd with ⟨sellerId, -, -, hresponse⟩ | ⟨-, hresponse⟩
      | ⟨hrole, hresponse⟩
    · cases hresponse
    · cases hresponse
    · cases hresponse
      refine ⟨fun priority sorting query e he => ?_, fun sorting query e he => ?_⟩
      · rw [total_of_listOpenQueue hrole he, hkeys.length_openQueue, opsDashboardOf_counts]
      · have hsum : (opsDashboardOf rowOrders s.committed).openConversations = e.total :=
          hkeys.sum_priorities.trans (total_of_listOpenQueue hrole he).symm
        exact ⟨hsum, hsum⟩
  effective c row hrow := sqlEffectivePriority_eq
    (plainOverrides_of_reachable hstart hrun c row hrow)

/-- The buyer of the tableware complains of the mug, and Ops takes it for critical. -/
def criticalMug : List (Action Row Event DomainError Unit) :=
  .start 0 (ServiceRequest.run {} (.conversation (.createConversation 8 .atraso ⟨7, .buyer, none⟩)))
    :: (Action.steps 0 11 100
      ++ .start 1 (ServiceRequest.run {}
        (.ops (.markConversationCritical 105 "Urgente" tablewareOps)))
        :: Action.steps 1 16 200)

lemma criticalMug_starts : ∀ a ∈ criticalMug, a.Starts (IsServiceRequest {}) := by
  intro a ha
  simp only [criticalMug, List.mem_append, List.mem_cons] at ha
  rcases ha with rfl | h | rfl | h
  · exact ⟨_, rfl⟩
  · exact Action.starts_of_mem_steps h
  · exact ⟨_, rfl⟩
  · exact Action.starts_of_mem_steps h

/-- Ops are shown one critical conversation, as the queue is. -/
theorem dashboards_agree_tableware : ∃ s, Sys.run criticalMug (Sys.rest tableware) = some s
    ∧ openPriorities s.committed = [.critical]
    ∧ (∀ rowOrders, ∃ d, Responds s.committed (getDashboard rowOrders tablewareOps) (.ops d)
      ∧ d.conversationsByPriority .critical = 1)
    ∧ DashboardsAgree s.committed := by
  have hrun : ((Sys.run criticalMug (Sys.rest tableware)).map fun s =>
      (openPriorities s.committed, s.committed.entries.all fun e => resolves s.committed e.1 e.2))
        = some ([.critical], true) := by decide +kernel
  obtain ⟨s, hs, hend⟩ := Option.map_eq_some_iff.mp hrun
  obtain ⟨hpriorities, hresolves⟩ := Prod.mk.inj hend
  have hnone : ∀ row ∈ Db.conversations tableware, row.2.opsOverride = none := by decide +kernel
  have hagree := dashboards_agree (fun c row hrow =>
    .inl (hnone (c, row) (mem_conversations.mpr hrow)))
    (reachable_of_run (fun _ _ => trivial) .init criticalMug_starts hs)
    (foreignKeys_of_resolves (List.all_eq_true.mp hresolves))
  refine ⟨s, hs, hpriorities, fun rowOrders => ?_, hagree⟩
  obtain ⟨d, hd⟩ := (hagree.given rowOrders tablewareOps).2.2 rfl
  refine ⟨d, hd, ?_⟩
  rcases responds_getDashboard hd with ⟨_, -, -, h⟩ | ⟨-, h⟩ | ⟨-, h⟩
  · cases h
  · cases h
  · cases h
    rw [opsDashboardOf_counts, hpriorities]
    rfl

end MarketHub
