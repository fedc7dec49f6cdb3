import MarketHub.Listings
import MarketHub.Communication.Interaction
import MarketHub.Orders.Lines
import MarketHub.Orders.PublicNumbers
import MarketHub.ReadCommitted.Unclashed

/-!
Looking up an order item by its public number.

* `placesOp`: what a checkout does to the rows (`placesOp_createOrder`).
* `inserts_orders`: the requests of the service change the orders only by inserting new ones, so no
  two orders ever have one number (`order_numbers_differ`).
* `parseNumberFilter_itemNumber`: the filter reads the number of an item as the number of its order
  and its line.
* `public_number_finds`: in every reachable state the public number of an item finds this item, and
  no other.
-/

namespace MarketHub

open ReadCommitted OffsetPaging

/-! ### The numbers of the orders -/

/-- The orders. -/
def orderRows (k : Key) : Prop := ∃ o, k = .order o

/-- A new row of a checkout: an item, or an order that satisfies `V`. -/
def Ordered (V : Order → Prop) : (k : Key) → Row k → Prop
  | .order _, r => V r
  | .orderItem _, _ => True
  | _, _ => False

/-- A step of a checkout: it consumes offers and adds an order and items. -/
def placesOp (V : Order → Prop) : {γ : Type} → Op Row Event γ → Prop
  | _, .assign _ _ => False
  | _, .update k _ _ => isOffer k
  | _, .delete _ _ => False
  | _, .add k r => Ordered V k r
  | _, .insertNested _ _ => False
  | _, _ => True

lemma placesOp_createOrder {V : Order → Prop} (payload : CheckoutRequest) {buyer : CurrentUser}
    (hV : buyer.role = .buyer → ∀ r : Order, r.buyerId = buyer.id → V r) :
    (createOrder payload buyer).AllOps (placesOp V) := by
  have hflush : (Prog.flush : Txn Unit).AllOps (placesOp V) :=
    Prog.allOps_flush trivial fun _ => trivial
  have hvalidate : (validateItems payload.items).AllOps (placesOp V) :=
    (body_validateItems (F := fun _ => False) payload.items).allOps.mono fun op hop => by
      cases op with
      | assign k r => exact hop.elim
      | update k m f => exact hop.elim
      | delete k referenced => exact hop.elim
      | add k r => exact hop.elim
      | insertNested k r => exact hop.elim
      | _ => trivial
  -- by induction on the lines
  have hconsume : ∀ orderId lines line, (consumeItems orderId line lines).AllOps (placesOp V) := by
    intro orderId lines
    induction lines with
    | nil => exact fun _ => trivial
    | cons l lines ih =>
        obtain ⟨item, offer⟩ := l
        refine fun line => ⟨⟨_, rfl⟩, fun consumed => ?_⟩
        cases consumed with
        | false => exact ⟨trivial, fun _ => ⟨trivial, fun _ => trivial⟩⟩
        | true =>
            have hitem : (newOrderItem orderId line item offer).AllOps (placesOp V) :=
              ⟨trivial, fun _ => ⟨trivial, fun _ => ⟨trivial, fun _ => ⟨trivial, fun _ =>
                ⟨trivial, fun _ => trivial⟩⟩⟩⟩⟩
            exact hitem.bind fun _ => ih (line + 1)
  rw [createOrder, requireBuyer]
  split
  · -- the only order that is added is that of `newOrder`
    rename_i hrole
    have hcheckout : (checkout buyer.id payload).AllOps (placesOp V) := by
      refine hvalidate.bind fun validated => ?_
      obtain ⟨problems, validItems⟩ := validated
      dsimp only
      split
      · trivial
      · have horder : (newOrder buyer.id).AllOps (placesOp V) :=
          ⟨trivial, fun _ => ⟨trivial, fun _ => ⟨trivial, fun _ => ⟨trivial, fun _ =>
            ⟨hV hrole _ rfl, fun _ => trivial⟩⟩⟩⟩⟩
        exact horder.bind fun orderId => hflush.bind fun _ => (hconsume orderId validItems 1).bind
          fun _ => hflush.bind fun _ => ⟨trivial, fun _ => ⟨trivial, fun _ => trivial⟩⟩
    refine hcheckout.bind fun orderId => ⟨trivial, fun items => ⟨trivial, fun order => ?_⟩⟩
    cases order <;> trivial
  · trivial

lemma inserts_createOrder (payload : CheckoutRequest) (buyer : CurrentUser) :
    (createOrder payload buyer).AllOps (Op.inserts orderRows) := by
  have hplaces : (createOrder payload buyer).AllOps (placesOp fun _ => True) :=
    placesOp_createOrder payload fun _ _ _ => trivial
  refine hplaces.mono fun op hop => ?_
  cases op with
  | assign k r => exact hop.elim
  | update k m f =>
      obtain ⟨o, rfl⟩ := hop
      simp [Op.inserts, orderRows]
  | delete k referenced => exact hop.elim
  | _ => trivial

/-- **The requests of the service insert orders**, and change none. -/
theorem inserts_orders (settings : Settings) (r : ServiceRequest) :
    (r.run settings).AllOps (Op.inserts orderRows) := by
  -- a request that stays off the orders, and one that only moves an order on
  have helsewhere : (∀ o, ¬ r.tables (.order o)) →
      (r.run settings).AllOps (Op.inserts orderRows) := by
    intro htables
    refine (r.run_within settings).mono fun op hop => ?_
    have hk : ∀ k, r.tables k → ¬ orderRows k := by
      rintro k hk ⟨o, rfl⟩
      exact htables o hk
    cases op with
    | assign k r => exact hk k hop
    | update k m f => exact hk k hop
    | delete k referenced => exact hk k hop
    | _ => trivial
  have hmoves : ∀ {p : Txn Unit}, p.AllOps movesOn → p.AllOps (Op.inserts orderRows) := fun hp =>
    hp.mono fun op hop => by
      cases op with
      | assign k r =>
          obtain ⟨i, rfl⟩ := hop
          simp [Op.inserts, orderRows]
      | update k m f =>
          obtain ⟨o, rfl⟩ := hop
          simp [Op.inserts, orderRows]
      | delete k referenced => exact hop.elim
      | _ => trivial
  cases r with
  | order request =>
      cases request with
      | createOrder payload buyer =>
          rw [ServiceRequest.run, OrderRequest.run, transaction_ignore]
          exact (inserts_createOrder payload buyer).bind fun _ =>
            (Prog.allOps_flush trivial fun _ => trivial).bind fun _ => trivial
      | updateOrderItemStatus itemId status seller =>
          rw [ServiceRequest.run, OrderRequest.run, transaction_ignore]
          exact hmoves ((movesOn_updateOrderItemStatus itemId status seller).bind fun _ =>
            movesOn_flush.bind fun _ => trivial)
      | cancelOrderItem itemId user =>
          rw [ServiceRequest.run, OrderRequest.run, transaction_ignore]
          exact hmoves ((movesOn_cancelOrderItem itemId user).bind fun _ =>
            movesOn_flush.bind fun _ => trivial)
  | catalog request => exact helsewhere fun _ h => h
  | conversation request => exact helsewhere fun _ h => h
  | ops request => exact helsewhere fun _ h => h
  | runReconcile now pageSize fuel => exact helsewhere fun _ h => h

section Runs

variable {settings : Settings} {st₀ : Db} {s : Sys Row Event DomainError Unit}

/-- No two orders have one number. -/
lemma order_numbers_differ (hnumbers : Unclashed orderRows st₀)
    (h : Reachable (IsServiceRequest settings) (fun _ _ => True) (Sys.rest st₀) s) {o o' : UUID}
    {r r' : Order} (hr : Db.order s.committed o = some r) (hr' : Db.order s.committed o' = some r')
    (heq : r.number = r'.number) : o = o' := by
  have hunclashed : s.Unclashed orderRows := (h.unclashed_inserts clash_symm (fun p hp => by
    obtain ⟨request, rfl⟩ := hp
    exact inserts_orders settings request) hnumbers).1
  by_contra hne
  have hclash := hunclashed (.order o) r (.order o') r' ⟨o, rfl⟩ ⟨o', rfl⟩ (by simpa using hne)
    (.inl hr) (.inl hr')
  simp [Table.clash, uniqueClash, heq] at hclash

/-- Two items of one number and line are one. -/
lemma item_of_number (hst₀ : InPlace st₀) (hnumbers : Unclashed orderRows st₀)
    (h : Reachable (IsServiceRequest settings) (fun _ _ => True) (Sys.rest st₀) s) {i i' : UUID}
    {r r' : OrderItem} {o o' : Order} (hr : Db.orderItem s.committed i = some r)
    (hr' : Db.orderItem s.committed i' = some r') (ho : Db.order s.committed r.orderId = some o)
    (ho' : Db.order s.committed r'.orderId = some o') (hnumber : o.number = o'.number)
    (hline : r.line = r'.line) : i = i' := by
  have horder : r.orderId = r'.orderId := order_numbers_differ hnumbers h ho ho' hnumber
  obtain ⟨n, hn⟩ := (orders_in_place settings hst₀ h).lines _ o ho
  exact hn.once i r i' r' hr hr' rfl horder.symm hline

end Runs

/-! ### The filter -/

lemma codable_of_fits {n : ℕ} (h : FitsInteger n) : PublicNumbers.Codable (n : ℤ) := by
  refine ⟨Int.natCast_nonneg n, ?_⟩
  have hten : (2147483648 : ℕ) ≤ 10 ^ 10 := by norm_num
  have hpow : (10 : ℕ) ^ 10 ≤ 10 ^ Python.maxStrDigits :=
    Nat.pow_le_pow_right (by norm_num) (by simp [Python.maxStrDigits])
  have hlt : n < 10 ^ Python.maxStrDigits := lt_of_lt_of_le h (hten.trans hpow)
  exact_mod_cast hlt

/-- The filter reads the number of an item. -/
lemma parseNumberFilter_itemNumber {n l : ℕ} (hn : FitsInteger n) (hl : FitsInteger l)
    {value : PublicNumber} (h : PublicNumbers.itemNumber n l = .ok (PublicNumbers.text value)) :
    parseNumberFilter (some value) = pure (some (n, some l)) := by
  have hparse := PublicNumbers.parse_itemNumber_iff.mpr ⟨codable_of_fits hn, codable_of_fits hl⟩
  rw [h] at hparse
  have hread : PublicNumbers.parsePublicNumber (PublicNumbers.text value)
      = .ok ((n : ℤ), some (l : ℤ)) :=
    hparse
  rw [parseNumberFilter, PublicNumbers.parsePublicNumber_text, hread]
  rfl

/-! ### The listings -/

/-- The one row of a list that is kept. -/
lemma filter_eq_singleton {ρ : Type} [DecidableEq ρ] {l : List ρ} {p : ρ → Bool} {a : ρ}
    (hl : l.Nodup) (ha : a ∈ l) (h : ∀ b ∈ l, p b = true ↔ b = a) : l.filter p = [a] := by
  have hp : l.filter p = l.filter (· == a) := List.filter_congr fun b hb => by
    rw [Bool.eq_iff_iff, h b hb, beq_iff_eq]
  rw [hp, List.filter_beq, List.count_eq_one_of_mem hl ha, List.replicate_one]

/-- What a row of a listing was made of. -/
lemma of_itemContext {v : Db} {id : UUID} {item : OrderItem} {row : ItemContext}
    (h : itemContext v id item = some row) :
    row.id = id ∧ row.item = item ∧ Db.order v item.orderId = some row.order := by
  simp only [itemContext, Option.bind_eq_bind, Option.bind_eq_some_iff, Option.pure_def,
    Option.some.injEq] at h
  obtain ⟨_, _, _, _, order, horder, _, _, rfl⟩ := h
  exact ⟨rfl, rfl, horder⟩

section Rows

variable {v : Db} {row row' : OpsItemContext}

lemma of_opsItemContext {id : UUID} {item : OrderItem} (h : opsItemContext v id item = some row) :
    itemContext v id item = some row.context
      ∧ Db.seller v row.context.offer.sellerId = some row.seller := by
  simp only [opsItemContext, Option.bind_eq_bind, Option.bind_eq_some_iff, Option.pure_def,
    Option.some.injEq] at h
  obtain ⟨context, hcontext, seller, hseller, rfl⟩ := h
  exact ⟨hcontext, hseller⟩

lemma of_mem_opsListStatement (h : row ∈ opsListStatement v) :
    Db.orderItem v row.context.id = some row.context.item
      ∧ Db.order v row.context.item.orderId = some row.context.order
      ∧ opsItemContext v row.context.id row.context.item = some row := by
  obtain ⟨⟨id, item⟩, hmem, hrow⟩ := List.mem_filterMap.mp h
  obtain ⟨hid, hitem, horder⟩ := of_itemContext (of_opsItemContext hrow).1
  rw [hid, hitem]
  exact ⟨mem_orderItems.mp hmem, horder, hrow⟩

lemma of_mem_sellerListStatement {sellerId : UUID} {context : ItemContext}
    (h : context ∈ sellerListStatement sellerId v) :
    Db.orderItem v context.id = some context.item
      ∧ Db.order v context.item.orderId = some context.order
      ∧ itemContext v context.id context.item = some context
        ∧ context.offer.sellerId = sellerId := by
  obtain ⟨hmem, hseller⟩ := List.mem_filter.mp h
  obtain ⟨⟨id, item⟩, hitem', hcontext⟩ := List.mem_filterMap.mp hmem
  obtain ⟨hid, hitem, horder⟩ := of_itemContext hcontext
  rw [hid, hitem]
  exact ⟨mem_orderItems.mp hitem', horder, hcontext, by simpa using hseller⟩

/-- What a row of the queue was made of. -/
lemma of_mem_queueStatement {q : QueueRow} (h : q ∈ queueStatement v) :
    Db.orderItem v q.conversation.orderItemId = some q.context.context.item
      ∧ Db.order v q.context.context.item.orderId = some q.context.context.order
      ∧ q.context.context.id = q.conversation.orderItemId := by
  obtain ⟨⟨id, conversation⟩, -, hq⟩ := List.mem_filterMap.mp (List.mem_filter.mp h).1
  simp only [queueRow, Option.bind_eq_bind, Option.bind_eq_some_iff, Option.pure_def,
    Option.some.injEq] at hq
  obtain ⟨item, hitem, context, hcontext, rfl⟩ := hq
  obtain ⟨hid, hitem', horder⟩ := of_itemContext (of_opsItemContext hcontext).1
  rw [hitem']
  exact ⟨hitem, horder, hid⟩

end Rows

/-- The first page of at most one row. -/
lemma exec_first_page {ρ β κ : Type} [LinearOrder κ] {key : ρ → κ} (cs : ℕ → Choice) {v : Db}
    {stmt : Db → List ρ} {parameters : List ℕ} {entities : ρ → List Key} (sorting : Sorting key)
    {item : ρ → β} {pageSize : ℕ} (hsize : 1 ≤ pageSize) (hpage : FitsInteger pageSize)
    (hparameters : ∀ n ∈ parameters, FitsInteger n) {rows : List ρ} (hrows : stmt v = rows)
    (hone : rows.length ≤ 1) :
    answerOf cs v (paginate stmt parameters entities sorting item (pageAt pageSize 0 hsize))
      = .ok ⟨rows.map item, 1, pageSize, rows.length⟩ := by
  have hoffset : (pageAt pageSize 0 hsize).offset = 0 := by simp [pageAt, PageQuery.offset]
  have hfirst : FitsInteger (pageAt pageSize 0 hsize).offset := by
    rw [hoffset]
    exact Nat.zero_lt_succ _
  rw [answerOf, exec_paginate_fit hparameters hpage hfirst, hrows, hoffset, List.drop_zero]
  have hperm : (sorting.sort rows).Perm rows := (sorting.answers rows).perm
  have htake : (sorting.sort rows).take (pageAt pageSize 0 hsize).pageSize = sorting.sort rows :=
    List.take_of_length_le (by rw [hperm.length_eq]; exact hone.trans hsize)
  have hsort : sorting.sort rows = rows := by
    rcases rows with _ | ⟨a, rest⟩
    · exact List.perm_nil.mp hperm
    · obtain rfl : rest = [] := List.length_eq_zero_iff.mp (by simpa using hone)
      exact List.perm_singleton.mp hperm
  rw [htake, hsort]
  rfl

/-- The filters of a listing that asks for a number only. -/
def ItemFilters.ofNumber (value : PublicNumber) : ItemFilters := { publicNumber := some value }

lemma admits_ofNumber {value : PublicNumber} {n l : ℕ} {context : ItemContext} :
    (ItemFilters.ofNumber value).admits (some (n, some l)) context = true
      ↔ context.order.number = n ∧ context.item.line = l := by
  simp [ItemFilters.ofNumber, ItemFilters.admits, applyPublicNumberFilter]

/-- No other item has the number of the row. -/
def OwnNumber (v : Db) (row : ItemContext) : Prop :=
  ∀ i r o, Db.orderItem v i = some r → Db.order v r.orderId = some o → o.number = row.order.number →
    r.line = row.item.line → i = row.id

section Finds

variable {v : Db} {row : OpsItemContext} {value : PublicNumber}

/-- **For Ops** the number selects the item. -/
lemma opsItems_ofNumber (hrow : row ∈ opsListStatement v) (hown : OwnNumber v row.context) :
    opsItems (.ofNumber value) none (some (row.context.order.number, some row.context.item.line)) v
      = [row] := by
  obtain ⟨hitem, -, hcontext⟩ := of_mem_opsListStatement hrow
  have hnodup : (opsListStatement v).Nodup := List.Nodup.of_map _
    (nodup_filterMap (orderItems_nodup v)
    fun _ _ _ => id_of_opsItemContext)
  refine filter_eq_singleton hnodup hrow fun b hb => ?_
  obtain ⟨hb', hbo, hbc⟩ := of_mem_opsListStatement hb
  rw [Option.all_none, Bool.and_true, admits_ofNumber]
  refine ⟨fun hadmits => ?_, fun heq => heq ▸ ⟨rfl, rfl⟩⟩
  obtain ⟨hnumber, hline⟩ := hadmits
  -- it is the same item, so the same row
  have hid : b.context.id = row.context.id := hown _ _ _ hb' hbo hnumber hline
  rw [hid, hitem] at hb'
  rw [hid, ← Option.some.inj hb', hcontext] at hbc
  exact (Option.some.inj hbc).symm

/-- A row of a seller that the number admits is the item. -/
lemma eq_of_admits {sellerId : UUID} (hrow : row ∈ opsListStatement v)
    (hown : OwnNumber v row.context) {context : ItemContext}
    (hmem : context ∈ sellerListStatement sellerId v) (hadmits : (ItemFilters.ofNumber value).admits
      (some (row.context.order.number, some row.context.item.line)) context = true) :
    context = row.context := by
  obtain ⟨hitem, -, hcontext⟩ := of_mem_opsListStatement hrow
  have hcontext' : itemContext v row.context.id row.context.item = some row.context :=
    (of_opsItemContext hcontext).1
  obtain ⟨hc, hco, hcc, -⟩ := of_mem_sellerListStatement hmem
  obtain ⟨hnumber, hline⟩ := admits_ofNumber.mp hadmits
  have hid : context.id = row.context.id := hown _ _ _ hc hco hnumber hline
  rw [hid, hitem] at hc
  rw [hid, ← Option.some.inj hc, hcontext'] at hcc
  exact (Option.some.inj hcc).symm

variable (value) in
/-- **For a seller** the number selects the item if the offer is theirs. -/
lemma sellerItems_ofNumber (sellerId : UUID) (hrow : row ∈ opsListStatement v)
    (hown : OwnNumber v row.context) :
    sellerItems sellerId (.ofNumber value)
      (some (row.context.order.number, some row.context.item.line)) v
      = if row.context.offer.sellerId = sellerId then [row.context] else [] := by
  obtain ⟨hitem, -, hcontext⟩ := of_mem_opsListStatement hrow
  by_cases htheirs : row.context.offer.sellerId = sellerId
  · rw [if_pos htheirs]
    have hlisted : row.context ∈ sellerListStatement sellerId v := List.mem_filter.mpr
      ⟨List.mem_filterMap.mpr ⟨(row.context.id, row.context.item), mem_orderItems.mpr hitem,
        (of_opsItemContext hcontext).1⟩, beq_iff_eq.mpr htheirs⟩
    have hnodup : (sellerListStatement sellerId v).Nodup := List.Nodup.of_map _
      ((List.filter_sublist.map _).nodup (nodup_filterMap (orderItems_nodup v) fun _ _ _ =>
        id_of_itemContext))
    refine filter_eq_singleton hnodup hlisted fun b hb => ⟨eq_of_admits hrow hown hb, fun heq => ?_⟩
    rw [heq, admits_ofNumber]
    exact ⟨rfl, rfl⟩
  · rw [if_neg htheirs]
    refine List.filter_eq_nil_iff.mpr fun context hmem hadmits => htheirs ?_
    rw [← eq_of_admits hrow hown hmem hadmits]
    exact (of_mem_sellerListStatement hmem).2.2.2

/-- **In the queue** the number selects the conversations of the item. -/
lemma openQueue_ofNumber (hrow : row ∈ opsListStatement v) (hown : OwnNumber v row.context) :
    openQueue { publicNumber := some value }
        (some (row.context.order.number, some row.context.item.line)) v
      = (queueStatement v).filter fun q => q.conversation.orderItemId == row.context.id := by
  obtain ⟨hitem, horder, -⟩ := of_mem_opsListStatement hrow
  refine List.filter_congr fun q hq => ?_
  obtain ⟨hb, hbo, hbid⟩ := of_mem_queueStatement hq
  rw [Bool.eq_iff_iff, beq_iff_eq]
  simp only [QueueFilters.admits, applyPublicNumberFilter, Option.all_none, Bool.true_and,
    Bool.and_true, Bool.and_eq_true, beq_iff_eq]
  constructor
  · rintro ⟨hnumber, hline⟩
    rw [← hbid]
    exact hown _ _ _ (hbid ▸ hb) hbo hnumber hline
  · intro hid
    rw [hid, hitem] at hb
    rw [← Option.some.inj hb] at hbo ⊢
    exact ⟨congrArg Order.number (Option.some.inj (hbo.symm.trans horder)), rfl⟩

end Finds

/-- **A public number finds its item, and no other**, in every state that is reached from one in
which the orders are in place and have different numbers, whatever requests run at the same time.
The first page of Ops shows exactly this item; that of a seller shows it exactly if it is an item of
the seller, and is empty otherwise; and the queue shows the open conversations of this item. -/
theorem public_number_finds (settings : Settings) {st₀ : Db} (hst₀ : InPlace st₀)
    (hnumbers : Unclashed orderRows st₀) {s : Sys Row Event DomainError Unit}
    (h : Reachable (IsServiceRequest settings) (fun _ _ => True) (Sys.rest st₀) s)
    {row : OpsItemContext} (hrow : row ∈ opsListStatement s.committed)
    (hfits : FitsInteger row.context.order.number ∧ FitsInteger row.context.item.line)
    {value : PublicNumber} (htext : PublicNumbers.itemNumber row.context.order.number
      row.context.item.line
      = .ok (PublicNumbers.text value)) (cs : ℕ → Choice) {ops seller : CurrentUser}
        {sellerId : UUID}
    (hops : ops.role = .ops) (hseller : seller.role = .seller)
    (hstore : seller.sellerId = some sellerId) (opsSorting : Sorting OpsItemContext.newestFirst)
    (sellerSorting : Sorting ItemContext.newestFirst) {pageSize : ℕ} (hsize : 1 ≤ pageSize)
    (hpage : FitsInteger pageSize) :
    answerOf cs s.committed (listOpsOrderItems ops (.ofNumber value) none opsSorting
        (pageAt pageSize 0 hsize)) = .ok ⟨[row.listItem], 1, pageSize, 1⟩
      ∧ answerOf cs s.committed (listOrderItems seller (.ofNumber value) sellerSorting
          (pageAt pageSize 0 hsize))
        = .ok (if row.context.offer.sellerId = sellerId
            then ⟨[row.context.listItem], 1, pageSize, 1⟩ else ⟨[], 1, pageSize, 0⟩)
      ∧ openQueue { publicNumber := some value }
          (some (row.context.order.number, some row.context.item.line)) s.committed
        = (queueStatement s.committed).filter fun q =>
          q.conversation.orderItemId == row.context.id := by
  obtain ⟨hitem, horder, -⟩ := of_mem_opsListStatement hrow
  -- no other item of the store has this number and line
  have hown : OwnNumber s.committed row.context := fun i r o hr ho hnumber hline =>
    item_of_number hst₀ hnumbers h hr hitem ho horder hnumber hline
  have hparse : parseNumberFilter (some value)
      = pure (some (row.context.order.number, some row.context.item.line)) :=
    parseNumberFilter_itemNumber hfits.1 hfits.2 htext
  have hparameters :
      ∀ n ∈ numberParameters (some (row.context.order.number, some row.context.item.line)),
      FitsInteger n := by
    simp only [numberParameters, Option.toList_some, List.mem_cons, List.not_mem_nil, or_false]
    rintro n (rfl | rfl)
    · exact hfits.1
    · exact hfits.2
  refine ⟨?_, ?_, openQueue_ofNumber hrow hown⟩
  · have hrole : requireOps ops = pure () := if_pos hops
    rw [listOpsOrderItems, hrole]
    change answerOf cs s.committed ((parseNumberFilter (some value)).bind _) = _
    rw [hparse]
    exact exec_first_page cs opsSorting hsize hpage hparameters (opsItems_ofNumber hrow hown) le_rfl
  · have hrole : requireSeller seller = pure sellerId := by rw [requireSeller, hseller, hstore]
    rw [listOrderItems, hrole]
    change answerOf cs s.committed ((parseNumberFilter (some value)).bind _) = _
    rw [hparse]
    have hmine := sellerItems_ofNumber value sellerId hrow hown
    by_cases htheirs : row.context.offer.sellerId = sellerId
    · rw [if_pos htheirs] at hmine ⊢
      exact exec_first_page cs sellerSorting hsize hpage hparameters hmine le_rfl
    · rw [if_neg htheirs] at hmine ⊢
      exact exec_first_page cs sellerSorting hsize hpage hparameters hmine (Nat.zero_le 1)

/-- The mug is cancelled. -/
def cancelMug : List (Action Row Event DomainError Unit) :=
  .start 1 ((ServiceRequest.order (.cancelOrderItem 8 mugBuyer)).run {}) :: Action.steps 1 12 100

lemma cancelMug_starts : ∀ a ∈ cancelMug, a.Starts (IsServiceRequest {}) := by
  intro a ha
  rcases List.mem_cons.mp ha with rfl | h
  · exact ⟨_, rfl⟩
  · exact Action.starts_of_mem_steps h

/-- The rows of the tableware. -/
lemma tableware_items {i : UUID} {r : OrderItem} (h : Db.orderItem tableware i = some r) :
    (i, r) = (8, ⟨6, 4, 1, 1, 1000, .placed, 0, 0, 0⟩)
      ∨ (i, r) = (9, ⟨6, 5, 2, 1, 2000, .placed, 0, 0, 0⟩) := by
  have hmem : (i, r) ∈ Db.orderItems tableware := mem_orderItems.mpr h
  have hall : ∀ p ∈ Db.orderItems tableware, p = (8, ⟨6, 4, 1, 1, 1000, .placed, 0, 0, 0⟩)
      ∨ p = (9, ⟨6, 5, 2, 1, 2000, .placed, 0, 0, 0⟩) := by
    decide +kernel
  exact hall _ hmem

lemma tableware_order {o : UUID} {r : Order} (h : Db.order tableware o = some r) : o = 6 := by
  by_contra hne
  simp [Db.order, tableware, AList.lookup_insert_ne, -AList.insert_empty, hne] at h

lemma tableware_inPlace : InPlace tableware := by
  refine ⟨fun i r hr => ?_, fun i r hr => ?_, fun o r hr => ?_⟩
  · rcases tableware_items hr with ⟨-, rfl⟩ | ⟨-, rfl⟩ <;> rfl
  · rcases tableware_items hr with ⟨-, rfl⟩ | ⟨-, rfl⟩ <;> rfl
  · obtain rfl := tableware_order hr
    refine ⟨2, le_add_self, fun i r hr _ => ?_, fun l hl hn => ?_,
      fun i r i' r' hr hr' _ _ hline => ?_⟩
    · rcases tableware_items hr with ⟨-, rfl⟩ | ⟨-, rfl⟩ <;> exact ⟨by decide, by decide⟩
    · interval_cases l
      · exact ⟨8, _, rfl, rfl, rfl⟩
      · exact ⟨9, _, rfl, rfl, rfl⟩
    · rcases tableware_items hr with h | h <;> rcases tableware_items hr' with h' | h' <;>
        cases h <;> cases h' <;> first | rfl | cases hline

lemma tableware_numbers : Unclashed orderRows tableware := by
  rintro k r k' r' ⟨o, rfl⟩ ⟨o', rfl⟩ hne hr hr'
  exact absurd ((tableware_order hr).trans (tableware_order hr').symm) (by simpa using hne)

/-- The number of the plate. -/
def plateNumber : PublicNumber where
  order := [1, 0, 0, 1]
  line := some [2]
  order_ne_nil := List.cons_ne_nil _ _
  line_ne_nil := fun digits h => by
    obtain rfl := Option.mem_some.mp h
    exact List.cons_ne_nil _ _

/-- The plate in the listing of Ops. -/
def plateRow : OpsItemContext where
  context := ⟨9, ⟨6, 5, 2, 1, 2000, .placed, 0, 0, 0⟩, ⟨3, 1, 2000, 5, true⟩, ⟨"Prato", none⟩,
    ⟨1001, 7, 0, 0⟩,
    ⟨"ana@example.com", "Ana", .buyer, none⟩⟩
  seller := ⟨"Loja"⟩

theorem public_number_finds_plate : ∃ s, Sys.run cancelMug (Sys.rest tableware) = some s
    ∧ answerOf (fun _ => ⟨0, 0, false⟩) s.committed
      (listOpsOrderItems tablewareOps (.ofNumber plateNumber)
        none (Sorting.stable _) (pageAt 2 0 one_le_two)) = .ok ⟨[plateRow.listItem], 1, 2, 1⟩ := by
  have hrows : (Sys.run cancelMug (Sys.rest tableware)).map
      (fun s => (opsListStatement s.committed).contains plateRow) = some true := by
    decide +kernel
  obtain ⟨s, hs, hrow⟩ := Option.map_eq_some_iff.mp hrows
  have htext : PublicNumbers.itemNumber 1001 2
      = .ok (PublicNumbers.text plateNumber) := by decide +kernel
  exact ⟨s, hs, (public_number_finds {} tableware_inPlace tableware_numbers
    (reachable_of_run (fun _ _ => trivial) .init cancelMug_starts hs)
    (List.contains_iff_mem.mp hrow)
    ⟨by decide, by decide⟩ htext _ (rfl : tablewareOps.role = .ops)
      (rfl : tablewareSeller.role = .seller)
    rfl _ (Sorting.stable _) one_le_two (by decide)).1⟩

end MarketHub
