import MarketHub.Numbers
import MarketHub.Orders.Stock

/-!
Partial updates of offers and products.

* `Supplied`, `SuppliedOrNull`: what a field of a body makes of its column, which is `NOT NULL` or
  nullable.
* `OfferUpdate.Merges`, `ProductUpdate.Merges`: exactly the supplied fields have their supplied
  values.
* `Merged`, `Refused`: what an update may come to.
* `partial_updates_merge_iff`: it comes to one of them as long as no null is supplied for a
  column that is `NOT NULL`.
-/

namespace MarketHub

open ReadCommitted Session

/-! ### Merged records -/

/-- What a field makes of a column that is `NOT NULL`. -/
def Supplied {α β : Type} (field : Option (Option β)) (value : β → α) (old new : α) : Prop :=
  match field with
  | none => new = old
  | some (some b) => new = value b
  | some none => False

/-- What a field makes of a nullable column. -/
def SuppliedOrNull {α β : Type} (field : Option (Option β)) (value : β → α) (old new : Option α) :
    Prop :=
  match field with
  | none => new = old
  | some b => new = b.map value

/-- The offer `new` is `old` with the supplied fields. -/
structure OfferUpdate.Merges (payload : OfferUpdate) (old new : Offer) : Prop where
  price : Supplied payload.price Price.decimal old.price new.price
  stock : Supplied payload.stock Int.ofNat old.stock new.stock
  available : Supplied payload.available id old.available new.available
  productId : new.productId = old.productId
  sellerId : new.sellerId = old.sellerId

/-- The product `new` is `old` with the supplied fields. -/
structure ProductUpdate.Merges (payload : ProductUpdate) (old new : Product) : Prop where
  name : Supplied payload.name ProductName.text old.name new.name
  description : SuppliedOrNull payload.description ProductDescription.text old.description
    new.description

/-- The supplied values fit their columns. -/
structure OfferUpdate.Fits (payload : OfferUpdate) : Prop where
  price : ∀ price, payload.price = some (some price) → (Number.numeric price.decimal).Fits
  stock : ∀ stock : ℕ, payload.stock = some (some stock) → (Number.integer stock).Fits

/-- The supplied values fit their columns. -/
structure ProductUpdate.Fits (payload : ProductUpdate) : Prop where
  name : ∀ name, payload.name = some (some name) → Storable name.text
  description : ∀ description, payload.description = some (some description) →
    Storable description.text

/-- A valid offer. -/
structure Offer.Valid (offer : Offer) : Prop where
  price : (Number.numeric offer.price).Fits
  stock : (Number.integer offer.stock).Fits
  stock_nonneg : 0 ≤ offer.stock

/-- A valid product. -/
structure Product.Valid (product : Product) : Prop where
  name_length : 1 ≤ product.name.length ∧ product.name.length ≤ 200
  name_storable : Storable product.name
  description : ∀ text, product.description = some text → text.length ≤ 2000 ∧ Storable text

section Merges

lemma supplied_cases {α β : Type} {P : α → Prop} {field : Option (Option β)} {value : β → α}
    {old new : α} (h : Supplied field value old new) (hold : P old)
    (hvalue : ∀ b, field = some (some b) → P (value b)) : P new := by
  match field, h with
  | none, h => exact h ▸ hold
  | some (some b), h => exact h ▸ hvalue b rfl

/-- A valid offer stays valid. -/
lemma OfferUpdate.Merges.valid {payload : OfferUpdate} {old new : Offer}
    (h : payload.Merges old new) (hfits : payload.Fits) (hold : old.Valid) : new.Valid where
  price := supplied_cases (P := fun p => (Number.numeric p).Fits) h.price hold.price hfits.price
  stock := supplied_cases (P := fun n => (Number.integer n).Fits) h.stock hold.stock hfits.stock
  stock_nonneg := supplied_cases (P := fun n => 0 ≤ n) h.stock hold.stock_nonneg
    fun b _ => Int.natCast_nonneg b

/-- A valid product stays valid. -/
lemma ProductUpdate.Merges.valid {payload : ProductUpdate} {old new : Product}
    (h : payload.Merges old new) (hfits : payload.Fits) (hold : old.Valid) : new.Valid where
  name_length := supplied_cases (P := fun text => 1 ≤ text.length ∧ text.length ≤ 200) h.name
    hold.name_length fun b _ => ⟨b.not_empty, b.fits⟩
  name_storable := supplied_cases (P := Storable) h.name hold.name_storable hfits.name
  description text htext := by
    have hdescription := h.description
    rw [htext] at hdescription
    cases hfield : payload.description with
    | none =>
        rw [hfield] at hdescription
        exact hold.description text hdescription.symm
    | some b =>
        rw [hfield] at hdescription
        obtain ⟨d, rfl, rfl⟩ := Option.map_eq_some_iff.mp hdescription.symm
        exact ⟨d.fits, hfits.description d hfield⟩

end Merges

/-! ### What an update comes to -/

section Outcomes

variable {α : Type} (st : Db) (log : List Event) (r : Outcome Row Event DomainError α)

/-- The update succeeded: the row is a good one, and nothing else has changed. -/
def Merged (k : Key) (Good : Row k → Prop) : Prop :=
  (∃ a, r.result = .ok a) ∧ (∃ row, r.store.lookup k = some row ∧ Good row)
    ∧ (∀ k', k' ≠ k → r.store.lookup k' = st.lookup k') ∧ r.log = log

/-- The request was refused with a validation or domain error, and nothing has changed. -/
def Refused : Prop :=
  (∃ e : DomainError, r.result = .error (.domain e) ∧ e.statusCode < 500)
    ∧ r.store = st ∧ r.log = log

end Outcomes

/-! ### Offers -/

section Offers

variable {cs : ℕ → Choice} {n : ℕ} {st : Db} {log : List Event} {offerId : UUID} {offer : Offer}
  {seller : CurrentUser} {payload : OfferUpdate}

/-- The offer with the supplied fields. -/
def OfferUpdate.applied (payload : OfferUpdate) (offer : Offer) : Offer :=
  { offer with
    price := merged (payload.price.map (Option.map Price.decimal)) offer.price
    stock := merged (payload.stock.map (Option.map Int.ofNat)) offer.stock
    available := merged payload.available offer.available }

lemma supplied_merged {α β : Type} {field : Option (Option β)} (h : field ≠ some none)
    (value : β → α) (old : α) : Supplied field value old
    (merged (field.map (Option.map value)) old) := by
  match field, h with
  | none, _ => rfl
  | some (some b), _ => rfl

variable (offer) in
lemma OfferUpdate.merges_applied (hprice : payload.price ≠ some none)
    (hstock : payload.stock ≠ some none) (havailable : payload.available ≠ some none) :
    payload.Merges offer (payload.applied offer) where
  price := supplied_merged hprice _ _
  stock := supplied_merged hstock _ _
  available := by
    have hsupplied := supplied_merged havailable id offer.available
    rwa [Option.map_id, Option.map_id] at hsupplied
  productId := rfl
  sellerId := rfl

lemma mergeField_isNone {α β : Type} (value : β → α) (field : Option (Option β)) (stored : α) :
    (mergeField (field.map (Option.map value)) stored).isNone = true ↔ field = some none := by
  rcases field with _ | _ | b <;> simp [mergeField]

/-- A null stock or availability of the body. -/
lemma mergeField_null (payload : OfferUpdate) (offer : Offer) :
    ((mergeField (payload.stock.map (Option.map Int.ofNat)) offer.stock).isNone
        || (mergeField payload.available offer.available).isNone) = true
      ↔ payload.stock = some none ∨ payload.available = some none := by
  have havailable := mergeField_isNone id payload.available offer.available
  rw [Option.map_id, Option.map_id, id] at havailable
  rw [Bool.or_eq_true, mergeField_isNone, havailable]

/-- **Without a null price** the merged offer is sent. A null of another column then makes the
database refuse the statement. -/
lemma exec_updateOffer {α : Type} (hoffer : Db.offer st offerId = some offer)
    (hrole : seller.role = .seller) (hstore : seller.sellerId = some offer.sellerId)
    (hprice : payload.price ≠ some none) (f : OfferResponse → Txn α) :
    exec cs ((updateOffer offerId payload seller).bind f) n st log ∅
      = exec cs ((Prog.assign (.offer offerId) (payload.applied offer)).bind fun _ =>
          Prog.flush.bind fun _ => Prog.bind
            (if (mergeField (payload.stock.map (Option.map Int.ofNat)) offer.stock).isNone
                || (mergeField payload.available offer.available).isNone then .raise .database
            else (sellerForOffer (payload.applied offer)).bind fun owner =>
              .pure (offerResponse offerId (payload.applied offer) owner)) f)
        (n + 3) st log ((∅ : AppSession).load st (.offer offerId)) := by
  rw [updateOffer, requireSeller_ok hrole hstore]
  simp only [Prog.pure_eq, Prog.bind_eq, Prog.bind, Prog.bind_assoc]
  have howned : requireOwnedOffer (some offer) offer.sellerId = pure offer := if_pos rfl
  rw [exec_get_new _ rfl (show ((∅ : AppSession).view st).lookup (.offer offerId)
    = some offer from hoffer),
    howned]
  simp only [Prog.pure_eq, Prog.bind, mergePrice_ok hprice, mergeField_getD]
  rfl

/-- **Without a null** the update is merged, or refused when the seller is missing. -/
lemma updateOffer_merged (hoffer : Db.offer st offerId = some offer)
    (hrole : seller.role = .seller) (hstore : seller.sellerId = some offer.sellerId)
    (hprice : payload.price ≠ some none) (hstock : payload.stock ≠ some none)
    (havailable : payload.available ≠ some none) :
    Merged st log (exec cs (Prog.transaction (updateOffer offerId payload seller)) n st log ∅)
        (.offer offerId) (· = payload.applied offer)
      ∨ Refused st log (exec cs (Prog.transaction (updateOffer offerId payload seller)) n
        st log ∅) := by
  have hfull : ¬ (payload.stock = some none ∨ payload.available = some none) :=
    not_or.mpr ⟨hstock, havailable⟩
  rw [Prog.transaction, exec_updateOffer hoffer hrole hstore hprice,
    if_neg (mt (mergeField_null payload offer).mp hfull)]
  simp only [Prog.bind, Prog.bind_assoc]
  have hloaded : ((∅ : AppSession).load st (.offer offerId)).Clean :=
    clean_empty.loads st [.offer offerId]
  obtain ⟨n', s, hclean, hpending, hrow, hrest, hobjects, hexec⟩ := exec_assign_flush cs
    (n + 3) st log
    (payload.applied offer) hloaded (lookup_load_empty hoffer)
    (by rw [view, load_held]; exact hoffer)
    (fun _ => (sellerForOffer (payload.applied offer)).bind fun owner =>
      Prog.flush.bind fun _ => .commit (.publish (.pure
        (offerResponse offerId (payload.applied offer) owner))))
  rw [hexec]
  -- the owner is read for the answer, and may be missing
  have hsame : (payload.applied offer).sellerId = offer.sellerId := rfl
  have hnone : s.objects.lookup (.seller offer.sellerId) = none := by
    rw [hobjects _ (by simp), lookup_load_ne _ _ _ (by simp)]
    rfl
  have hseller : (s.view st).lookup (.seller offer.sellerId) = st.lookup
      (.seller offer.sellerId) := by
    rw [hrest _ (by simp), view, load_held]
    rfl
  rw [sellerForOffer, Prog.bind_eq, Prog.bind_assoc, hsame]
  cases howner : st.lookup (.seller offer.sellerId) with
  | none =>
      -- the seller is not there
      rw [exec_get_none _ hnone (hseller.trans howner)]
      exact .inr ⟨⟨_, rfl, by decide⟩, rfl, rfl⟩
  | some owner =>
      rw [exec_get_new _ hnone (hseller.trans howner)]
      have hview : ∀ k, ((s.load (s.view st) (.seller offer.sellerId)).view st).lookup k
          = (s.view st).lookup k := fun k => by rw [view, view, load_held]
      refine .inl ?_
      simp only [Prog.pure_eq, Prog.bind]
      change Merged st log (exec cs (Prog.flush.bind fun _ => .commit (.publish (.pure
        (offerResponse offerId (payload.applied offer) owner)))) _ _ _
          ([.seller offer.sellerId].foldl (Session.load (s.view st)) s)) _ _
      rw [exec_finish_clean (hclean.loads (s.view st) [.seller offer.sellerId])]
      refine ⟨⟨_, rfl⟩, ⟨_, (hview _).trans hrow, rfl⟩, fun k' hk' => ?_, ?_⟩
      · exact (hview k').trans ((hrest k' hk').trans (by rw [view, load_held]; rfl))
      · change log ++ (s.load (s.view st) (.seller offer.sellerId)).pending = log
        rw [load_pending, hpending, load_pending]
        exact List.append_nil log

variable (cs n log) in
/-- **With a null** the request ends in an exception nobody handles. -/
lemma updateOffer_null (hoffer : Db.offer st offerId = some offer)
    (hrole : seller.role = .seller) (hstore : seller.sellerId = some offer.sellerId)
    (hnull : ¬ (payload.price ≠ some none ∧ payload.stock ≠ some none
      ∧ payload.available ≠ some none)) :
    (exec cs (Prog.transaction (updateOffer offerId payload seller)) n st log ∅).result
        = .error (.domain (.typeError "conversion from NoneType to Decimal is not supported"))
      ∨ (exec cs (Prog.transaction (updateOffer offerId payload seller)) n st log ∅).result
        = .error .database := by
  by_cases hprice : payload.price = some none
  · -- `Decimal(None)`
    rw [Prog.transaction, updateOffer, requireSeller_ok hrole hstore]
    have howned : requireOwnedOffer (some offer) offer.sellerId = pure offer := if_pos rfl
    simp only [Prog.pure_eq, Prog.bind_eq, Prog.bind, Prog.bind_assoc]
    rw [exec_get_new _ rfl (show ((∅ : AppSession).view st).lookup (.offer offerId) = some offer
      from hoffer), howned, hprice]
    exact .inl rfl
  · have hother : payload.stock = some none ∨ payload.available = some none := by
      by_contra hfull
      exact hnull ⟨hprice, fun h => hfull (.inl h), fun h => hfull (.inr h)⟩
    rw [Prog.transaction, exec_updateOffer hoffer hrole hstore hprice,
      if_pos ((mergeField_null payload offer).mpr hother)]
    have hloaded : ((∅ : AppSession).load st (.offer offerId)).Clean :=
      clean_empty.loads st [.offer offerId]
    obtain ⟨n', s, -, -, -, -, -, hexec⟩ := exec_assign_flush cs (n + 3) st log
      (payload.applied offer) hloaded (lookup_load_empty hoffer)
      (by rw [view, load_held]; exact hoffer)
      (fun _ => (.raise .database : Txn OfferResponse))
    exact .inr ((congrArg Outcome.result hexec).trans rfl)

end Offers

/-! ### Products -/

section Products

variable {cs : ℕ → Choice} {n : ℕ} {st : Db} {log : List Event} {productId : UUID}
    {product : Product}
  {payload : ProductUpdate}

/-- The product with the supplied fields. -/
def ProductUpdate.applied (payload : ProductUpdate) (product : Product) : Product where
  name := merged (payload.name.map (Option.map ProductName.text)) product.name
  description :=
    (payload.description.map (Option.map ProductDescription.text)).getD product.description

variable (product) in
lemma ProductUpdate.merges_applied (hname : payload.name ≠ some none) :
    payload.Merges product (payload.applied product) where
  name := supplied_merged hname _ _
  description := by
    rw [ProductUpdate.applied]
    cases hfield : payload.description <;> rfl

variable (cs n log) in
/-- **Without a null name** the update is merged. -/
lemma updateProduct_merged (hproduct : st.lookup (.product productId) = some product)
    (hname : payload.name ≠ some none) :
    Merged st log (exec cs (Prog.transaction (updateProduct productId payload)) n st log ∅)
      (.product productId) (· = payload.applied product) := by
  rw [Prog.transaction, updateProduct]
  simp only [Prog.pure_eq, Prog.bind_eq, Prog.bind_assoc]
  rw [exec_get_new _ rfl (show ((∅ : AppSession).view st).lookup (.product productId) = some product
    from hproduct)]
  have hfull : ¬ (mergeField (payload.name.map (Option.map ProductName.text))
      product.name).isNone :=
    mt (mergeField_isNone _ _ _).mp hname
  simp only [mergeField_getD, if_neg hfull, Prog.bind, Prog.bind_assoc]
  have hloaded : ((∅ : AppSession).load st (.product productId)).Clean :=
    clean_empty.loads st [.product productId]
  obtain ⟨n', s, hclean, hpending, hrow, hrest, -, hexec⟩ := exec_assign_flush cs (n + 3) st log
    (payload.applied product) hloaded (lookup_load_empty hproduct)
    (by rw [view, load_held]; exact hproduct)
    (fun _ => Prog.flush.bind fun _ =>
      (.commit (.publish (.pure (payload.applied product))) : Txn Product))
  change Merged st log (exec cs ((Prog.assign (.product productId) (payload.applied product)).bind
    fun _ => Prog.flush.bind fun _ => Prog.flush.bind fun _ =>
      (.commit (.publish (.pure (payload.applied product))) : Txn Product)) _ _ _ _) _ _
  rw [view_empty, hexec, exec_finish_clean hclean]
  refine ⟨⟨_, rfl⟩, ⟨_, hrow, rfl⟩,
    fun k' hk' => (hrest k' hk').trans (by rw [view, load_held]; rfl), ?_⟩
  change log ++ s.pending = log
  rw [hpending, load_pending]
  exact List.append_nil log

/-- **With a null name** the database refuses the update. -/
lemma updateProduct_null (hproduct : st.lookup (.product productId) = some product)
    (hname : payload.name = some none) :
    (exec cs (Prog.transaction (updateProduct productId payload)) n st log ∅).result
      = .error .database := by
  have hnull : (mergeField (payload.name.map (Option.map ProductName.text)) product.name).isNone :=
    (mergeField_isNone _ _ _).mpr hname
  rw [Prog.transaction, updateProduct]
  simp only [Prog.pure_eq, Prog.bind_eq, Prog.bind_assoc]
  rw [exec_get_new _ rfl (show ((∅ : AppSession).view st).lookup (.product productId) = some product
    from hproduct)]
  simp only [mergeField_getD, if_pos hnull, Prog.bind, Prog.bind_assoc]
  have hloaded : ((∅ : AppSession).load st (.product productId)).Clean :=
    clean_empty.loads st [.product productId]
  obtain ⟨n', s, -, -, -, -, -, hexec⟩ := exec_assign_flush cs (n + 3) st log
    (payload.applied product) hloaded (lookup_load_empty hproduct)
    (by rw [view, load_held]; exact hproduct) (fun _ => (.raise .database : Txn Product))
  exact (congrArg Outcome.result hexec).trans rfl

end Products

/-! ### When updates merge -/

/-- An update merges as it should, or is refused as it should. -/
def MergesOrRefuses {α : Type} (st : Db) (log : List Event) (r : Outcome Row Event DomainError α)
    (k : Key) (Good : Row k → Prop) : Prop :=
  Merged st log r k Good ∨ Refused st log r

lemma not_mergesOrRefuses {α : Type} {st : Db} {log : List Event}
    {r : Outcome Row Event DomainError α} {k : Key} {Good : Row k → Prop} {e : Failure DomainError}
    (hresult : r.result = .error e) (he : ∀ d, e = .domain d → 500 ≤ d.statusCode) :
    ¬ MergesOrRefuses st log r k Good := by
  rintro (⟨⟨a, ha⟩, -⟩ | ⟨⟨d, hd, hcode⟩, -⟩)
  · rw [hresult] at ha
    cases ha
  · rw [hresult] at hd
    exact absurd (he d (Except.error.inj hd)) (not_le.mpr hcode)

/-- **Partial updates merge exactly when no null is supplied for a column that is `NOT NULL`.** A
permitted update of a stored offer or product with a body that fits its columns makes it a valid
record with exactly the supplied fields, or is refused and changes nothing, if and only if the
body has no null for the price, the stock or the availability of the offer, or for the name of
the product; a null description is stored. -/
theorem partial_updates_merge_iff (cs : ℕ → Choice) (n : ℕ) (st : Db) (log : List Event) :
    (∀ offerId offer (payload : OfferUpdate) (seller : CurrentUser),
      Db.offer st offerId = some offer → offer.Valid → payload.Fits → seller.role = .seller →
      seller.sellerId = some offer.sellerId →
      (MergesOrRefuses st log (exec cs
        (Prog.transaction (updateOffer offerId payload seller)) n st log ∅)
          (.offer offerId) (fun new : Offer => payload.Merges offer new ∧ new.Valid)
        ↔ payload.price ≠ some none ∧ payload.stock ≠ some none ∧ payload.available ≠ some none))
    ∧ ∀ productId product (payload : ProductUpdate), st.lookup (.product productId) = some product →
      product.Valid → payload.Fits →
      (MergesOrRefuses st log (exec cs
        (Prog.transaction (updateProduct productId payload)) n st log ∅)
          (.product productId) (fun new : Product => payload.Merges product new ∧ new.Valid)
        ↔ payload.name ≠ some none) := by
  constructor
  · intro offerId offer payload seller hoffer hvalid hfits hrole hstore
    constructor
    · intro hmerges
      by_contra hnull
      rcases updateOffer_null cs n log hoffer hrole hstore hnull with herr | herr
      · exact not_mergesOrRefuses herr (fun d hd => by cases hd; decide) hmerges
      · exact not_mergesOrRefuses herr (fun d hd => by cases hd) hmerges
    · rintro ⟨hprice, hstock, havailable⟩
      have hmerges := OfferUpdate.merges_applied offer hprice hstock havailable
      refine (updateOffer_merged hoffer hrole hstore hprice hstock havailable).imp_left ?_
      rintro ⟨hok, ⟨row, hrow, rfl⟩, hrest⟩
      exact ⟨hok, ⟨_, hrow, hmerges, hmerges.valid hfits hvalid⟩, hrest⟩
  · intro productId product payload hproduct hvalid hfits
    constructor
    · intro hmerges hname
      exact not_mergesOrRefuses (updateProduct_null hproduct hname)
        (fun d hd => by cases hd) hmerges
    · intro hname
      have hmerges := ProductUpdate.merges_applied product hname
      obtain ⟨hok, ⟨row, hrow, rfl⟩, hrest⟩ :=
        updateProduct_merged cs n log hproduct hname
      exact .inl ⟨hok, ⟨_, hrow, hmerges, hmerges.valid hfits hvalid⟩, hrest⟩

lemma mugOffer_valid : (⟨2, 1, 1000, 5, true⟩ : Offer).Valid :=
  ⟨by norm_num [Number.Fits], by norm_num [Number.Fits], by norm_num⟩

lemma mugOffer_stored : Db.offer mugShop 3 = some ⟨2, 1, 1000, 5, true⟩ :=
  AList.lookup_insert _

lemma mugProduct_stored : mugShop.lookup (.product 2)
    = some ((⟨"Caneca", none⟩ : Product) : Row (.product 2)) := by
  rw [mugShop, AList.lookup_insert_ne (by simp), AList.lookup_insert]

lemma mugProduct_valid : (⟨"Caneca", none⟩ : Product).Valid :=
  ⟨by decide, by simp [Storable], fun text htext => by cases htext⟩

theorem partial_updates_merge_iff_mugs :
    (MergesOrRefuses mugShop [] (exec (fun n => ⟨0, 100 + n, false⟩)
        (Prog.transaction (updateOffer 3 { stock := some (some 7) } ⟨8, .seller, some 1⟩))
          0 mugShop [] ∅)
        (.offer 3) (fun new : Offer =>
          OfferUpdate.Merges { stock := some (some 7) } ⟨2, 1, 1000, 5, true⟩ new ∧ new.Valid))
      ∧ MergesOrRefuses mugShop [] (exec (fun n => ⟨0, 100 + n, false⟩)
        (Prog.transaction (updateProduct 2 { description := some none })) 0 mugShop [] ∅)
        (.product 2) (fun new : Product =>
          ProductUpdate.Merges { description := some none } ⟨"Caneca", none⟩ new ∧ new.Valid) := by
  have hmerges := partial_updates_merge_iff (fun n => ⟨0, 100 + n, false⟩) 0 mugShop []
  constructor
  · refine (hmerges.1 3 _ { stock := some (some 7) }
      ⟨8, .seller, some 1⟩ mugOffer_stored mugOffer_valid
      ⟨fun price h => (by cases h), fun stock h => (by cases h; norm_num [Number.Fits])⟩
        rfl rfl).mpr ?_
    decide
  · refine (hmerges.2 2 _ { description := some none } mugProduct_stored mugProduct_valid
      ⟨fun name h => (by cases h), fun description h => (by cases h)⟩).mpr ?_
    decide

/-- A null price: `Decimal(None)` raises a `TypeError`, which nobody handles. -/
theorem null_price_crashes :
    ¬ ∀ (cs : ℕ → Choice) (n : ℕ) (st : Db) (log : List Event) (offerId : UUID)
    (offer : Offer) (payload : OfferUpdate) (seller : CurrentUser),
    Db.offer st offerId = some offer →
    offer.Valid → payload.Fits → seller.role = .seller → seller.sellerId = some offer.sellerId →
    MergesOrRefuses st log (exec cs
      (Prog.transaction (updateOffer offerId payload seller)) n st log ∅)
      (.offer offerId) (fun new : Offer => payload.Merges offer new ∧ new.Valid) := by
  intro hclaim
  have hmerges := hclaim (fun n => ⟨0, 100 + n, false⟩) 0 mugShop [] 3 _ { price := some none }
    ⟨8, .seller, some 1⟩ mugOffer_stored mugOffer_valid
    ⟨fun price h => (by cases h), fun stock h => (by cases h)⟩ rfl rfl
  have hnull : ¬ (({ price := some none } : OfferUpdate).price ≠ some none
      ∧ ({ price := some none } : OfferUpdate).stock ≠ some none
      ∧ ({ price := some none } : OfferUpdate).available ≠ some none) := by simp
  have hmine : (⟨8, .seller, some 1⟩ : CurrentUser).role = .seller := rfl
  rcases updateOffer_null (fun n => ⟨0, 100 + n, false⟩) 0 [] mugOffer_stored hmine rfl hnull
    with herr | herr
  · exact not_mergesOrRefuses herr (fun d hd => by cases hd; decide) hmerges
  · exact not_mergesOrRefuses herr (fun d hd => by cases hd) hmerges

end MarketHub
