import MarketHub.ReadCommitted.Traffic
import MarketHub.Atomic
import MarketHub.Listings

/-!
Numbers that go to the database.

* `numbers`: the numbers of a row, and with `sendsNumbers` those that a statement sends: prices
  for `NUMERIC(12, 2)`, stocks and quantities for `INTEGER`. `columnTypes` says that they fit
  their columns when the rows do.
* `proper_createOrder` and the lemmas beside it: requests whose numbers always fit.
* `CatalogRequest.Bounded`, `OrderRequest.Bounded`: the bounds of the others, with
  `createOffer_iff`, `updateOffer_iff` and `cancelOrderItem_iff`.
-/

namespace MarketHub

open ReadCommitted OffsetPaging Session

/-! ### Numbers -/

/-- A number, with the type of its column: `INTEGER`, or `NUMERIC(12, 2)` in cents. -/
inductive Number where
  | integer (value : ℤ)
  | numeric (cents : ℕ)
  deriving DecidableEq

/-- The number fits its type. -/
def Number.Fits : Number → Prop
  | .integer value => -2147483648 ≤ value ∧ value < 2147483648
  | .numeric cents => cents < 1000000000000

/-- The prices, stocks and quantities of a row. -/
def numbers : ∀ k : Key, Row k → List Number
  | .offer _, r => [.numeric (Offer.price r), .integer (Offer.stock r)]
  | .orderItem _, r => [.integer (OrderItem.quantity r), .numeric (OrderItem.purchasePrice r)]
  | _, _ => []

/-- The numbers that differ. -/
def changedNumbers (old new : List Number) : List Number :=
  ((old.zip new).filter fun p => p.1 ≠ p.2).map Prod.snd

/-- The numbers of an `INSERT`, and those of the changed columns of an `UPDATE`. -/
def sendsNumbers (k : Key) (old : Option (Row k)) (new : Row k) : List Number :=
  match old with
  | none => numbers k new
  | some old => changedNumbers (numbers k old) (numbers k new)

/-- The numbers of a row fit. -/
def RowFits (k : Key) (r : Row k) : Prop := ∀ x ∈ numbers k r, x.Fits

section Columns

variable {old new base : List Number} {id : UUID}

lemma rowFits_offer {r : Offer} :
    RowFits (.offer id) r ↔ (Number.numeric r.price).Fits ∧ (Number.integer r.stock).Fits := by
  simp [RowFits, numbers]

lemma rowFits_orderItem {r : OrderItem} :
    RowFits (.orderItem id) r
      ↔ (Number.integer r.quantity).Fits ∧ (Number.numeric r.purchasePrice).Fits := by
  simp [RowFits, numbers]

lemma mem_changedNumbers_pair {a b a' b' x : Number} :
    x ∈ changedNumbers [a, b] [a', b'] ↔ (a ≠ a' ∧ x = a') ∨ (b ≠ b' ∧ x = b') := by
  rw [changedNumbers]
  by_cases ha : a = a' <;> by_cases hb : b = b' <;> simp [ha, hb]

/-- Where the old numbers fit, those that are sent fit when the new ones do. -/
lemma changedNumbers_fits_iff {a b a' b' : Number} (ha : a.Fits) (hb : b.Fits) :
    (∀ x ∈ changedNumbers [a, b] [a', b'], x.Fits) ↔ a'.Fits ∧ b'.Fits := by
  simp only [mem_changedNumbers_pair]
  constructor
  · intro hall
    constructor
    · by_cases heq : a = a'
      · exact heq ▸ ha
      · exact hall a' (Or.inl ⟨heq, rfl⟩)
    · by_cases heq : b = b'
      · exact heq ▸ hb
      · exact hall b' (Or.inr ⟨heq, rfl⟩)
  · rintro ⟨ha', hb'⟩ x (⟨-, rfl⟩ | ⟨-, rfl⟩)
    · exact ha'
    · exact hb'

/-- A column that is sent and fits. -/
lemma column_fits {α : Type} [DecidableEq α] {P : α → Prop} {old new base : α} (hbase : P base)
    (hsent : old ≠ new → P new) : P (column old new base) := by
  rw [column]
  split
  · exact hbase
  · exact hsent ‹_›

/-- **The column types.** -/
lemma columnTypes : ColumnTypes sendsNumbers Number.Fits RowFits where
  sends_fit {k old new} h x hx := by
    cases old with
    | none => exact h x hx
    | some old =>
        obtain ⟨p, hp, rfl⟩ := List.mem_map.mp hx
        exact h _ (List.of_mem_zip (List.mem_filter.mp hp).1).2
  insert_fit h := h
  update_fit {k old new} h hsent := by
    cases k with
    | offer id =>
        rw [rowFits_offer] at h ⊢
        exact (changedNumbers_fits_iff h.1 h.2).mp hsent
    | orderItem id =>
        rw [rowFits_orderItem] at h ⊢
        exact (changedNumbers_fits_iff h.1 h.2).mp hsent
    | _ => exact fun x hx => nomatch hx
  patch_fit {k old new base} h hsent := by
    cases k with
    | offer id =>
        simp only [sendsNumbers, numbers, mem_changedNumbers_pair] at hsent
        rw [rowFits_offer] at h ⊢
        refine ⟨column_fits (P := fun p => (Number.numeric p).Fits) h.1 fun hne => ?_,
          column_fits (P := fun n => (Number.integer n).Fits) h.2 fun hne => ?_⟩
        · exact hsent _ (Or.inl ⟨fun heq => hne (Number.numeric.inj heq), rfl⟩)
        · exact hsent _ (Or.inr ⟨fun heq => hne (Number.integer.inj heq), rfl⟩)
    | orderItem id =>
        simp only [sendsNumbers, numbers, mem_changedNumbers_pair] at hsent
        rw [rowFits_orderItem] at h ⊢
        refine ⟨column_fits (P := fun n : ℕ => (Number.integer n).Fits) h.1 fun hne => ?_,
          column_fits (P := fun p => (Number.numeric p).Fits) h.2 fun hne => ?_⟩
        · exact hsent _ (Or.inl ⟨fun heq => hne (Int.ofNat.inj (Number.integer.inj heq)), rfl⟩)
        · exact hsent _ (Or.inr ⟨fun heq => hne (Number.numeric.inj heq), rfl⟩)
    | _ => exact fun x hx => nomatch hx

end Columns

/-! ### Requests whose numbers always fit -/

section Proper

/-- An offer whose numbers fit. -/
abbrev FitOffer (offer : Offer) : Prop :=
  (Number.numeric offer.price).Fits ∧ (Number.integer offer.stock).Fits

/-- An order item whose numbers fit. -/
abbrev FitItem (item : OrderItem) : Prop :=
  (Number.integer item.quantity).Fits ∧ (Number.numeric item.purchasePrice).Fits

lemma proper_loadOr {k : Key} (e : DomainError) {row : Option (Row k)} {P : Row k → Prop}
    (h : ∀ r, row = some r → P r) : (loadOr e row).Proper RowFits P := by
  cases row with
  | none => trivial
  | some r => exact h r rfl

lemma proper_requireSeller (user : CurrentUser) :
    (requireSeller user).Proper RowFits fun _ => True := by
  rw [requireSeller]
  split <;> trivial

lemma proper_requireBuyer (user : CurrentUser) :
    (requireBuyer user).Proper RowFits fun _ => True := by
  rw [requireBuyer]
  split <;> trivial

/-! #### Checkout -/

lemma proper_validateItem (item : CheckoutItem) :
    (validateItem item).Proper RowFits fun answer => answer.2 = none →
      ∀ offer, answer.1 = some offer → FitOffer offer ∧ (item.quantity : ℤ) ≤ offer.stock := by
  refine Prog.Proper.bind (Prog.proper_get (Key.offer item.offerId)) fun offer hoffer => ?_
  cases offer with
  | none => exact fun hnone => nomatch hnone
  | some offer =>
      dsimp only
      split
      · exact fun hnone => nomatch hnone
      · split
        · exact fun hnone => nomatch hnone
        · rename_i hstock
          split
          · exact fun hnone => nomatch hnone
          · intro _ offer' hoffer'
            cases hoffer'
            exact ⟨rowFits_offer.mp (hoffer offer rfl), not_lt.mp hstock⟩

/-- Every valid line takes at most the stock that was read. -/
lemma proper_validateItems (items : List CheckoutItem) :
    (validateItems items).Proper RowFits fun answer =>
      ∀ line ∈ answer.2, FitOffer line.2 ∧ (line.1.quantity : ℤ) ≤ line.2.stock := by
  induction items with
  | nil => exact fun line hline => nomatch hline
  | cons item items ih =>
      refine Prog.Proper.bind (proper_validateItem item) fun ⟨offer, problem⟩ hitem => ?_
      refine Prog.Proper.bind ih fun ⟨problems, validItems⟩ hitems => ?_
      cases problem with
      | some problem => exact hitems
      | none =>
          cases offer with
          | none => exact hitems
          | some offer =>
              intro line hline
              rcases List.mem_cons.mp hline with rfl | hline
              · exact hitem rfl offer rfl
              · exact hitems line hline

/-- A quantity of at most the stock fits. -/
lemma quantity_fits {offer : Offer} {quantity : ℕ} (h : FitOffer offer)
    (hq : (quantity : ℤ) ≤ offer.stock) : (Number.integer quantity).Fits := by
  have hstock := h.2
  simp only [Number.Fits] at hstock ⊢
  omega

lemma proper_consumeStock (offerId : UUID) (quantity : ℕ) :
    (consumeStock offerId quantity).Proper RowFits fun _ => True := by
  refine ⟨fun r hr hm => ?_, fun _ _ => trivial⟩
  rw [rowFits_offer] at hr ⊢
  refine ⟨hr.1, ?_⟩
  have hstock := hr.2
  simp only [Bool.and_eq_true, decide_eq_true_eq] at hm
  simp only [Number.Fits] at hstock ⊢
  omega

lemma proper_newOrderItem (orderId : UUID) (line : ℕ) {item : CheckoutItem} {offer : Offer}
    (h : FitOffer offer) (hq : (item.quantity : ℤ) ≤ offer.stock) :
    (newOrderItem orderId line item offer).Proper RowFits fun _ => True :=
  ⟨trivial, fun _ _ => ⟨trivial, fun _ _ => ⟨trivial, fun _ _ => ⟨trivial, fun _ _ =>
    ⟨rowFits_orderItem.mpr ⟨quantity_fits h hq, h.1⟩, fun _ _ => trivial⟩⟩⟩⟩⟩

lemma proper_consumeItems (orderId : UUID) :
    ∀ (validItems : List (CheckoutItem × Offer)) (line : ℕ),
      (∀ l ∈ validItems, FitOffer l.2 ∧ (l.1.quantity : ℤ) ≤ l.2.stock) →
      (consumeItems orderId line validItems).Proper RowFits fun _ => True
  | [], _, _ => trivial
  | (item, offer) :: validItems, line, h => by
      refine Prog.Proper.bind (proper_consumeStock item.offerId item.quantity) fun consumed _ => ?_
      obtain ⟨hoffer, hq⟩ := h (item, offer) List.mem_cons_self
      cases consumed with
      | false => exact ⟨trivial, fun _ _ => ⟨trivial, fun _ _ => trivial⟩⟩
      | true =>
          exact Prog.Proper.bind (proper_newOrderItem orderId line hoffer hq) fun _ _ =>
            proper_consumeItems orderId validItems (line + 1) fun l hl =>
              h l (List.mem_cons_of_mem _ hl)

lemma proper_checkout (buyerId : UUID) (payload : CheckoutRequest) :
    (checkout buyerId payload).Proper RowFits fun _ => True := by
  refine Prog.Proper.bind (proper_validateItems payload.items)
    fun ⟨problems, validItems⟩ hitems => ?_
  dsimp only
  split
  · trivial
  · have horder : (newOrder buyerId).Proper RowFits fun _ => True :=
      ⟨trivial, fun _ _ => ⟨trivial, fun _ _ => ⟨trivial, fun _ _ => ⟨trivial, fun _ _ =>
        ⟨fun _ hx => (nomatch hx), fun _ _ => trivial⟩⟩⟩⟩⟩
    refine horder.bind fun orderId _ => Prog.proper_flush.bind fun _ _ =>
      (proper_consumeItems orderId validItems 1 hitems).bind fun _ _ =>
        Prog.proper_flush.bind fun _ _ => ?_
    exact ⟨trivial, fun _ _ => ⟨trivial, fun _ _ => trivial⟩⟩

lemma proper_createOrder (payload : CheckoutRequest) (buyer : CurrentUser) :
    (createOrder payload buyer).Proper RowFits fun _ => True := by
  refine (proper_requireBuyer buyer).bind fun _ _ => (proper_checkout buyer.id payload).bind
    fun orderId _ => ?_
  refine ⟨trivial, fun items _ => ⟨trivial, fun order _ => ?_⟩⟩
  cases order <;> trivial

/-! #### Other requests -/

lemma proper_setStatus (itemId : UUID) {item : OrderItem} (status : OrderItemStatus)
    (h : FitItem item) : (setStatus itemId item status).Proper RowFits FitItem :=
  ⟨trivial, fun _ _ => ⟨rowFits_orderItem.mpr h, fun _ _ => h⟩⟩

lemma proper_loadSellerItem (itemId sellerId : UUID) (forUpdate : Bool) :
    (loadSellerItem itemId sellerId forUpdate).Proper RowFits FitItem :=
  Prog.Proper.bind (Prog.proper_scalar _ _) fun _ hrow =>
    proper_loadOr _ fun r hr => rowFits_orderItem.mp (hrow r hr)

lemma proper_updateOrderItemStatus (itemId : UUID) (status : OrderItemStatus)
    (seller : CurrentUser) :
    (updateOrderItemStatus itemId status seller).Proper RowFits fun _ => True := by
  refine (proper_requireSeller seller).bind fun sellerId _ =>
    (proper_loadSellerItem itemId sellerId true).bind fun item hitem => ?_
  dsimp only
  split
  · trivial
  · have hforward : (assertForwardTransition item.status status).Proper RowFits fun _ => True := by
      rw [assertForwardTransition]
      split <;> trivial
    refine hforward.bind fun _ _ => (proper_setStatus itemId status hitem).bind fun _ _ =>
      Prog.proper_flush.bind fun _ _ => ?_
    exact ⟨trivial, fun _ _ => trivial⟩

lemma proper_deleteOffer (offerId : UUID) (seller : CurrentUser) :
    (deleteOffer offerId seller).Proper RowFits fun _ => True := by
  refine (proper_requireSeller seller).bind fun sellerId _ =>
    (Prog.proper_get (Key.offer offerId)).bind fun offer _ => ?_
  have howned : (requireOwnedOffer offer sellerId).Proper RowFits fun _ => True := by
    cases offer with
    | none => trivial
    | some offer =>
        rw [requireOwnedOffer]
        split <;> trivial
  refine howned.bind fun _ _ => ⟨trivial, fun deleted _ => ?_⟩
  cases deleted <;> trivial

lemma proper_sellerForOffer (offer : Offer) :
    (sellerForOffer offer).Proper RowFits fun _ => True := by
  refine Prog.Proper.bind (Prog.proper_get _) fun seller _ => ?_
  cases seller <;> trivial

/-- The end of a transaction. -/
lemma proper_ending {α β : Type} {body : Txn β} {g : β → α} {P : β → Prop}
    (h : body.Proper RowFits P) : (ending body g).Proper RowFits fun _ => True :=
  h.bind fun _ _ => Prog.proper_flush.bind fun _ _ => trivial

end Proper

/-! ### Requests whose numbers may not fit -/

/-- The bounds of a request to the catalogue: when it gets as far as sending a price and a
stock, they fit. -/
def CatalogRequest.Bounded (v : Db) : CatalogRequest → Prop
  | .createOffer payload seller =>
      seller.role = .seller → seller.sellerId ≠ none → Db.product v payload.productId ≠ none →
        payload.price.decimal < 1000000000000 ∧ payload.stock < 2147483648
  | .updateOffer offerId payload seller =>
      ∀ offer, Db.offer v offerId = some offer → seller.role = .seller →
        seller.sellerId = some offer.sellerId → payload.price ≠ some none →
          (∀ price, payload.price = some (some price) → price.decimal < 1000000000000)
            ∧ ∀ stock, payload.stock = some (some stock) → stock < 2147483648
  | _ => True

/-- The item is the user's: a buyer has ordered it, or a seller offers it. -/
structure Owns (v : Db) (itemId : UUID) (user : CurrentUser) (item : OrderItem) : Prop where
  found : Db.orderItem v itemId = some item
  scope : (user.role = .buyer ∧ ∃ order, Db.order v item.orderId = some order
      ∧ order.buyerId = user.id)
    ∨ user.role = .seller ∧ ∃ offer, Db.offer v item.offerId = some offer
      ∧ user.sellerId = some offer.sellerId

/-- The bounds of a request that moves stock: the stock that a cancelled item gives back still
fits. -/
def OrderRequest.Bounded (v : Db) : OrderRequest → Prop
  | .cancelOrderItem itemId user =>
      ∀ item offer, Owns v itemId user item → canCancel item.status user.role = true →
        restoresStockOnCancel item.status = true → Db.offer v item.offerId = some offer →
          offer.stock + item.quantity < 2147483648
  | _ => True

section Catalog

variable {cs : ℕ → Choice} {v : Db} {seller : CurrentUser} {sellerId : UUID}

lemma requireSeller_ok (hrole : seller.role = .seller) (hstore : seller.sellerId = some sellerId) :
    requireSeller seller = pure sellerId := by
  rw [requireSeller, hrole, hstore]

lemma requireSeller_refused (h : ¬ (seller.role = .seller ∧ seller.sellerId ≠ none)) :
    requireSeller seller = Prog.throw (.forbidden "Seller role required") := by
  rcases seller with ⟨id, role, store⟩
  cases role <;> cases store <;> first | rfl | exact absurd ⟨rfl, fun h => nomatch h⟩ h

/-- The end of a request that has no more to say. -/
def finish {α : Type} (_ : α) : Txn Unit := Prog.flush.bind fun _ => .commit (.publish (.pure ()))

lemma proper_finish {α : Type} (a : α) : (finish a).Proper RowFits fun _ => True :=
  Prog.proper_flush.bind fun _ _ => trivial

lemma view_empty (v : Db) : (∅ : AppSession).view v = v := rfl

/-- The objects of a session that has read one row. -/
lemma read_one (h : Stored RowFits v) (k : Key) :
    ((∅ : AppSession).load v k).Clean ∧ ((∅ : AppSession).load v k).ObjectsFit RowFits :=
  ⟨clean_empty.load v, ObjectsFit.empty.loads h [k]⟩

lemma createOffer_iff (h : Stored RowFits v) (payload : OfferCreate) (seller : CurrentUser) :
    (∀ x ∈ sentValues sendsNumbers cs (CatalogRequest.createOffer payload seller).run 0 v ∅, x.Fits)
      ↔ (CatalogRequest.createOffer payload seller).Bounded v := by
  rw [CatalogRequest.run, transaction_ignore, CatalogRequest.Bounded]
  by_cases hseller : seller.role = .seller ∧ seller.sellerId ≠ none
  · obtain ⟨sellerId, hstore⟩ := Option.ne_none_iff_exists'.mp hseller.2
    rw [ending, createOffer, requireSeller_ok hseller.1 hstore]
    simp only [Prog.pure_eq, Prog.bind_eq, Prog.bind, Prog.bind_assoc]
    have hnew : (∅ : AppSession).objects.lookup (.product payload.productId) = none := rfl
    obtain ⟨n, hget⟩ := sent_get cs 0 v ∅ sendsNumbers _ hnew
    have hrow : v.lookup (.product payload.productId) = Db.product v payload.productId := rfl
    rw [hget, view_empty, hrow]
    cases hproduct : Db.product v payload.productId with
    | none =>
        refine ⟨fun _ _ _ hne => absurd rfl hne, fun _ x hx => ?_⟩
        cases hx
    | some product =>
        simp only [Option.isNone_some, Bool.false_eq_true, if_false, Prog.bind_assoc]
        obtain ⟨hclean, hobjects⟩ := read_one h (.product payload.productId)
        have hnew : ∀ id, ((∅ : AppSession).load v (.product payload.productId)).objects.lookup
            (.offer id) = none := fun id => lookup_load_ne _ _ _ (by simp)
        have hview : Stored RowFits
            (((∅ : AppSession).load v (.product payload.productId)).view v) :=
          Stored.of_held (s := ∅) h (load_held _ _ _)
        rw [sent_uuid4, sent_add _ (hnew _)]
        refine (sent_flush_iff (Q := fun _ => True) columnTypes (by simp)
          (fun _ o _ ho => hclean _ o ho) (fun _ o _ ho => hobjects _ o ho) h hview ?_).trans ?_
        · exact (proper_sellerForOffer _).bind fun _ _ => proper_finish ()
        · simp [sendsNumbers, numbers, Number.Fits, hseller]
  · rw [ending, createOffer, requireSeller_refused hseller]
    refine ⟨fun _ hrole hstore => absurd ⟨hrole, hstore⟩ hseller, fun _ x hx => ?_⟩
    cases hx

/-- The value of a field after the merge. -/
def merged {α : Type} (field : Option (Option α)) (stored : α) : α := (field.bind id).getD stored

lemma mergeField_getD {α : Type} (field : Option (Option α)) (stored : α) :
    (mergeField field stored).getD stored = merged field stored := by
  rcases field with _ | _ | value <;> rfl

lemma mergePrice_ok {field : Option (Option Price)} (h : field ≠ some none) (stored : ℕ) :
    mergePrice field stored = pure (merged (field.map (Option.map Price.decimal)) stored) := by
  rcases field with _ | _ | value
  · rfl
  · exact absurd rfl h
  · rfl

/-- A merged price fits when the price of the request does, if it has one. -/
lemma merged_price_iff {field : Option (Option Price)} (h : field ≠ some none) {stored : ℕ}
    (hstored : (Number.numeric stored).Fits) :
    (Number.numeric (merged (field.map (Option.map Price.decimal)) stored)).Fits
      ↔ ∀ price, field = some (some price) → price.decimal < 1000000000000 := by
  rcases field with _ | _ | price
  · exact iff_of_true hstored fun _ heq => nomatch heq
  · exact absurd rfl h
  · simp [merged, Number.Fits]

/-- A merged stock fits when the stock of the request does, if it has one. -/
lemma merged_stock_iff {field : Option (Option ℕ)} {stored : ℤ}
    (hstored : (Number.integer stored).Fits) :
    (Number.integer (merged (field.map (Option.map Int.ofNat)) stored)).Fits
      ↔ ∀ stock, field = some (some stock) → stock < 2147483648 := by
  rcases field with _ | _ | stock
  · exact iff_of_true hstored fun _ heq => nomatch heq
  · exact iff_of_true hstored fun _ heq => nomatch heq
  · simp only [merged, Number.Fits, Option.map_some, Option.bind_some, id, Option.getD_some,
      Option.some.injEq]
    constructor
    · rintro ⟨-, hlt⟩ _ rfl
      simpa using hlt
    · intro hlt
      have := hlt stock rfl
      simp only [Int.ofNat_eq_natCast]
      omega

/-- The object of a row that was just read. -/
lemma lookup_load_empty {k : Key} {r : Row k} (hr : v.lookup k = some r) :
    ((∅ : AppSession).load v k).objects.lookup k = some ⟨some r, r⟩ := by
  have hnone : (∅ : AppSession).objects.lookup k = none := rfl
  rw [load, hnone, hr]
  exact AList.lookup_insert _

lemma updateOffer_iff (h : Stored RowFits v) (offerId : UUID) (payload : OfferUpdate)
    (seller : CurrentUser) :
    (∀ x ∈ sentValues sendsNumbers cs (CatalogRequest.updateOffer offerId payload seller).run 0 v ∅,
        x.Fits)
      ↔ (CatalogRequest.updateOffer offerId payload seller).Bounded v := by
  rw [CatalogRequest.run, transaction_ignore, CatalogRequest.Bounded]
  by_cases hseller : seller.role = .seller ∧ seller.sellerId ≠ none
  · obtain ⟨sellerId, hstore⟩ := Option.ne_none_iff_exists'.mp hseller.2
    rw [ending, updateOffer, requireSeller_ok hseller.1 hstore]
    simp only [Prog.pure_eq, Prog.bind_eq, Prog.bind, Prog.bind_assoc]
    have hnew : (∅ : AppSession).objects.lookup (.offer offerId) = none := rfl
    obtain ⟨n, hget⟩ := sent_get cs 0 v ∅ sendsNumbers _ hnew
    have hrow : v.lookup (.offer offerId) = Db.offer v offerId := rfl
    rw [hget, view_empty, hrow]
    cases hoffer : Db.offer v offerId with
    | none =>
        refine ⟨fun _ offer heq => (by cases heq), fun _ x hx => ?_⟩
        cases hx
    | some offer =>
        have hfit := rowFits_offer.mp (h (.offer offerId) offer hoffer)
        by_cases hown : offer.sellerId = sellerId
        · have howned : requireOwnedOffer (some offer) sellerId = pure offer := if_pos hown
          rw [howned]
          by_cases hprice : payload.price = some none
          · -- a null price stops the request before the `UPDATE`
            refine ⟨fun _ _ _ _ _ hne => absurd hprice hne, fun _ x hx => ?_⟩
            simp only [Prog.pure_eq, Prog.bind, hprice] at hx
            cases hx
          · simp only [Prog.pure_eq, Prog.bind, mergePrice_ok hprice, mergeField_getD]
            have hob : ((∅ : AppSession).load v (.offer offerId)).objects.lookup (.offer offerId)
                = some ⟨some offer, offer⟩ := lookup_load_empty hoffer
            obtain ⟨hclean, hobjects⟩ := read_one h (.offer offerId)
            have hview : Stored RowFits (((∅ : AppSession).load v (.offer offerId)).view v) :=
              Stored.of_held (s := ∅) h (load_held _ _ _)
            rw [sent_assign _ hob]
            refine (sent_flush_iff (Q := fun _ => True) columnTypes
              (fun old hold => by cases hold; exact rowFits_offer.mpr hfit)
              (fun _ o _ ho => hclean _ o ho) (fun _ o _ ho => hobjects _ o ho) h hview ?_).trans ?_
            · -- after the `UPDATE`, the request fails for a null or reads the seller
              split
              · trivial
              · rw [Prog.bind_assoc]
                exact (proper_sellerForOffer _).bind fun _ _ => proper_finish ()
            · refine (changedNumbers_fits_iff hfit.1 hfit.2).trans ?_
              rw [merged_price_iff hprice hfit.1, merged_stock_iff hfit.2]
              refine ⟨fun hbounds offer' heq _ _ _ => hbounds, fun hbounds => ?_⟩
              exact hbounds offer rfl hseller.1 (by rw [hstore, hown]) hprice
        · have hrefused : requireOwnedOffer (some offer) sellerId
              = Prog.throw (.forbidden "Offer does not belong to the authenticated seller") :=
            if_neg hown
          rw [hrefused]
          refine ⟨fun _ offer' heq _ hstore' => absurd ?_ hown, fun _ x hx => ?_⟩
          · cases heq
            exact Option.some.inj (hstore'.symm.trans hstore)
          · cases hx
  · rw [ending, updateOffer, requireSeller_refused hseller]
    refine ⟨fun _ offer _ hrole hstore => absurd ⟨hrole, hstore ▸ Option.some_ne_none _⟩ hseller,
      fun _ x hx => ?_⟩
    cases hx

end Catalog

section Cancel

variable {cs : ℕ → Choice} {v : Db} {itemId : UUID} {user : CurrentUser}

/-- The statement of a buyer's item. -/
lemma buyerItemStatement_cases (itemId buyerId : UUID) (v : Db) :
    (buyerItemStatement itemId buyerId true v = none
        ∧ ∀ item order, Db.orderItem v itemId = some item → Db.order v item.orderId = some order →
          order.buyerId ≠ buyerId)
      ∨ ∃ item order, Db.orderItem v itemId = some item ∧ Db.order v item.orderId = some order
        ∧ order.buyerId = buyerId ∧ buyerItemStatement itemId buyerId true v
          = some [.orderItem itemId, .order item.orderId] := by
  rw [buyerItemStatement]
  cases hitem : Db.orderItem v itemId with
  | none => exact Or.inl ⟨rfl, fun _ _ heq => by cases heq⟩
  | some item =>
      dsimp only
      cases horder : Db.order v item.orderId with
      | none =>
          refine Or.inl ⟨rfl, fun item' order heq horder' => ?_⟩
          cases heq
          rw [horder] at horder'
          cases horder'
      | some order =>
          dsimp only
          by_cases hbuyer : order.buyerId = buyerId
          · exact Or.inr ⟨item, order, rfl, horder, hbuyer, if_pos hbuyer⟩
          · refine Or.inl ⟨if_neg hbuyer, fun item' order' heq horder' => ?_⟩
            cases heq
            rw [horder] at horder'
            cases horder'
            exact hbuyer

/-- The statement of a seller's item. -/
lemma sellerItemStatement_cases (itemId sellerId : UUID) (v : Db) :
    (sellerItemStatement itemId sellerId true v = none
        ∧ ∀ item offer, Db.orderItem v itemId = some item → Db.offer v item.offerId = some offer →
          offer.sellerId ≠ sellerId)
      ∨ ∃ item offer, Db.orderItem v itemId = some item ∧ Db.offer v item.offerId = some offer
        ∧ offer.sellerId = sellerId ∧ sellerItemStatement itemId sellerId true v
          = some [.orderItem itemId, .offer item.offerId] := by
  rw [sellerItemStatement]
  cases hitem : Db.orderItem v itemId with
  | none => exact Or.inl ⟨rfl, fun _ _ heq => by cases heq⟩
  | some item =>
      dsimp only
      cases hoffer : Db.offer v item.offerId with
      | none =>
          refine Or.inl ⟨rfl, fun item' offer heq hoffer' => ?_⟩
          cases heq
          rw [hoffer] at hoffer'
          cases hoffer'
      | some offer =>
          dsimp only
          by_cases hseller : offer.sellerId = sellerId
          · exact Or.inr ⟨item, offer, rfl, hoffer, hseller, if_pos hseller⟩
          · refine Or.inl ⟨if_neg hseller, fun item' offer' heq hoffer' => ?_⟩
            cases heq
            rw [hoffer] at hoffer'
            cases hoffer'
            exact hseller

/-- The load of the item to cancel: refused, or the item of the user. -/
lemma loadItemToCancel_cases (itemId : UUID) (user : CurrentUser) (v : Db) :
    ((∃ e, loadItemToCancel itemId user = Prog.throw e) ∧ ∀ item, ¬ Owns v itemId user item)
      ∨ ∃ stmt, loadItemToCancel itemId user = (Prog.scalar (Key.orderItem itemId) stmt).bind
          (loadOr (k := .orderItem itemId) (.resourceNotFound "Order item not found"))
        ∧ (stmt v = none ∧ (∀ item, ¬ Owns v itemId user item)
          ∨ ∃ item locks, Owns v itemId user item ∧ stmt v = some locks) := by
  rcases user with ⟨id, role, store⟩
  cases role with
  | buyer =>
      refine Or.inr ⟨_, rfl, ?_⟩
      rcases buyerItemStatement_cases itemId id v with ⟨hnone, hforeign⟩ | ⟨item, order, hitem,
        horder, hbuyer, hsome⟩
      · refine Or.inl ⟨hnone, fun item howns => ?_⟩
        rcases howns.scope with ⟨-, order, horder, hbuyer⟩ | ⟨hrole, -⟩
        · exact hforeign item order howns.found horder hbuyer
        · cases hrole
      · exact Or.inr ⟨item, _, ⟨hitem, Or.inl ⟨rfl, order, horder, hbuyer⟩⟩, hsome⟩
  | seller =>
      cases store with
      | none =>
          refine Or.inl ⟨⟨_, rfl⟩, fun item howns => ?_⟩
          rcases howns.scope with ⟨hrole, -⟩ | ⟨-, offer, -, hstore⟩
          · cases hrole
          · cases hstore
      | some sellerId =>
          refine Or.inr ⟨_, rfl, ?_⟩
          rcases sellerItemStatement_cases itemId sellerId v with ⟨hnone, hforeign⟩ | ⟨item, offer,
            hitem, hoffer, hseller, hsome⟩
          · refine Or.inl ⟨hnone, fun item howns => ?_⟩
            rcases howns.scope with ⟨hrole, -⟩ | ⟨-, offer, hoffer, hstore⟩
            · cases hrole
            · exact hforeign item offer howns.found hoffer (Option.some.inj hstore).symm
          · exact Or.inr ⟨item, _, ⟨hitem, Or.inr ⟨rfl, offer, hoffer, by rw [hseller]⟩⟩, hsome⟩
  | ops =>
      refine Or.inl ⟨⟨_, rfl⟩, fun item howns => ?_⟩
      rcases howns.scope with ⟨hrole, -⟩ | ⟨hrole, -⟩ <;> cases hrole

/-- A session that has read an item of the user. -/
lemma read_item (h : Stored RowFits v) {item : OrderItem}
    (hitem : Db.orderItem v itemId = some item) (locks : List Key) :
    Stored RowFits ((((locks.foldl (lock v) ∅).load v (.orderItem itemId) : AppSession)).view v)
      ∧ (∀ k, ((((locks.foldl (lock v) ∅).load v (.orderItem itemId) : AppSession)).view v).lookup k
          = v.lookup k)
      ∧ ((locks.foldl (lock v) ∅).load v (.orderItem itemId) : AppSession).ObjectsFit RowFits
      ∧ ((locks.foldl (lock v) ∅).load v (.orderItem itemId) : AppSession).objects.lookup
          (.orderItem itemId) = some ⟨some item, item⟩ := by
  have hobjects : (locks.foldl (lock v) (∅ : AppSession)).objects = ∅ := foldl_lock_objects _ _ _
  refine ⟨(stored_view_locks (s := ∅) h locks).of_held (load_held _ _ _), fun k => ?_, ?_, ?_⟩
  · rw [view, load_held]
    exact lookup_view_locks (s := (∅ : AppSession)) locks k
  · exact ObjectsFit.loads (fun k o ho => by rw [hobjects] at ho; simp at ho) h [_]
  · rw [load, hobjects, AList.lookup_empty]
    have hrow : v.lookup (.orderItem itemId) = some item := hitem
    rw [hrow]
    exact AList.lookup_insert _

variable (cs) in
lemma cancelOrderItem_iff (h : Stored RowFits v) (itemId : UUID) (user : CurrentUser) :
    (∀ x ∈ sentValues sendsNumbers cs (OrderRequest.cancelOrderItem itemId user).run 0 v ∅, x.Fits)
      ↔ (OrderRequest.cancelOrderItem itemId user).Bounded v := by
  rw [OrderRequest.run, transaction_ignore, OrderRequest.Bounded, ending, cancelOrderItem]
  rcases loadItemToCancel_cases itemId user v with ⟨⟨e, he⟩, hforeign⟩ | ⟨stmt, hload, hstmt⟩
  · rw [he]
    refine ⟨fun _ item _ howns => absurd howns (hforeign item), fun _ x hx => ?_⟩
    cases hx
  · rw [hload]
    simp only [Prog.bind_eq, Prog.bind_assoc]
    rcases hstmt with ⟨hnone, hforeign⟩ | ⟨item, locks, howns, hsome⟩
    · rw [sent_scalar_none _ hnone]
      refine ⟨fun _ item _ howns => absurd howns (hforeign item), fun _ x hx => ?_⟩
      cases hx
    · have hread : Session.read v (∅ : AppSession) (.orderItem itemId) = some item :=
        howns.found
      have hitem := rowFits_orderItem.mp (h (.orderItem itemId) item howns.found)
      obtain ⟨hview, hsees, hobjects, hob⟩ := read_item h howns.found locks
      rw [sent_scalar_some _ hsome, view_empty, hread]
      simp only [loadOr, Prog.pure_eq, Prog.bind]
      by_cases hcancel : canCancel item.status user.role = true
      · have hstatus : item.status ≠ .cancelled := by
          intro heq
          rw [heq] at hcancel
          cases hrole : user.role <;> simp [canCancel, hrole] at hcancel
        rw [if_neg hstatus, if_neg (by simp [hcancel])]
        simp only [setStatus, Prog.bind_eq, Prog.bind_assoc]
        rw [sent_utcnow, sent_assign _ hob]
        simp only [Prog.pure_eq, Prog.bind]
        -- the item is sent with another status only
        set touched : OrderItem := { item with
          status := .cancelled, updatedAt := (cs (0 + 2)).now, statusUpdatedAt := (cs (0 + 2)).now }
          with htouched
        have htouchedFit : RowFits (.orderItem itemId) touched := rowFits_orderItem.mpr hitem
        have hobjects' := hobjects.insert (k := .orderItem itemId) (o := ⟨some item, touched⟩)
          htouchedFit
        by_cases hrestore : restoresStockOnCancel item.status = true
        · rw [if_pos hrestore]
          simp only [restoreStock, Prog.bind_eq, Prog.bind_assoc]
          refine (sent_update_iff (Q := fun _ => True) columnTypes ?_ hobjects' h
            (Stored.of_held hview rfl) fun _ => ?_).trans ?_
          · rw [AList.lookup_insert_ne (by simp), lookup_load_ne _ _ _ (by simp),
              foldl_lock_objects]
            rfl
          · exact Prog.proper_flush.bind fun _ _ => ⟨trivial, fun _ _ => ⟨trivial, fun _ _ =>
              proper_finish ()⟩⟩
          · constructor
            · intro hall item' offer howns' _ _ hoffer
              cases howns.found.symm.trans howns'.found
              have hfit := rowFits_offer.mp (h (.offer item.offerId) offer hoffer)
              have hsent := hall offer ((hsees (.offer item.offerId)).trans hoffer) rfl
              simp only [sendsNumbers, numbers] at hsent
              exact ((changedNumbers_fits_iff hfit.1 hfit.2).mp hsent).2.2
            · intro hbound offer hoffer _
              have hoffer' : Db.offer v item.offerId = some offer :=
                (hsees (.offer item.offerId)).symm.trans hoffer
              have hfit := rowFits_offer.mp (h _ offer hoffer')
              refine (changedNumbers_fits_iff hfit.1 hfit.2).mpr ⟨hfit.1, ?_,
                hbound item offer howns hcancel hrestore hoffer'⟩
              exact le_trans hfit.2.1 (le_add_of_nonneg_right (Int.natCast_nonneg _))
        · rw [if_neg hrestore]
          refine iff_of_true (sent_fits columnTypes (Q := fun _ => True) ?_ h
            (Stored.of_held hview rfl) hobjects') fun item' _ howns' _ hrestore' => ?_
          · simp only [Prog.bind_assoc]
            exact Prog.proper_flush.bind fun _ _ => ⟨trivial, fun _ _ => ⟨trivial, fun _ _ =>
              proper_finish ()⟩⟩
          · cases howns.found.symm.trans howns'.found
            exact absurd hrestore' hrestore
      · refine ⟨fun _ item' _ howns' hcancel' => ?_, fun _ => ?_⟩
        · cases howns.found.symm.trans howns'.found
          exact absurd hcancel' hcancel
        · refine sent_fits columnTypes (Q := fun _ => True) ?_ h hview hobjects
          split
          · exact proper_finish ()
          · rw [if_pos (by simp [hcancel])]
            trivial

end Cancel

end MarketHub
