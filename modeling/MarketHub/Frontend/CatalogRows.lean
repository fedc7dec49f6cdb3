import Mathlib.Data.List.MinMax
import MarketHub.Catalog
import MarketHub.JavaScript.OrderedMap

/-!
The rows of the catalogue (`features/catalog/catalogRows.ts`).

* `deriveCatalogRows`: the rows, by one pass over the offers.
* `catalogRow`: what a row is, by the offers of its product.
* `deriveCatalogRows_eq`: the rows are those of the definition.
-/

namespace MarketHub.Frontend

open JavaScript

/-! ### Rows in one pass -/

/-- `Product`. -/
structure Product where
  id : String
  name : String
  description : Option String
  deriving DecidableEq, Repr

/-- `SellerSummary`. -/
structure SellerSummary where
  id : String
  name : String
  deriving DecidableEq, Repr

/-- `Offer`. -/
structure Offer where
  id : String
  productId : String
  sellerId : String
  seller : SellerSummary
  price : Price
  stock : ℤ
  available : Bool
  deriving DecidableEq

/-- `CatalogRow`. -/
structure CatalogRow where
  product : Product
  lowestPrice : Option Price
  highestPrice : Option Price
  sellerCount : ℕ
  sellerNames : List String
  offerCount : ℕ
  inStock : Bool
  deriving DecidableEq

/-- `isPurchasable`. -/
def isPurchasable (offer : Offer) : Bool := offer.available && 0 < offer.stock

/-- The first loop: the purchasable offers by their products. -/
def purchasableByProduct (offers : List Offer) : OrderedMap String (List Offer) :=
  offers.foldl (fun byProduct offer =>
    if isPurchasable offer then
      match byProduct.get offer.productId with
      | some current => byProduct.set offer.productId (current ++ [offer])
      | none => byProduct.set offer.productId [offer]
    else byProduct) []

/-- What the second loop has found. -/
structure Summary where
  lowest : Offer
  highest : Offer
  sellers : OrderedMap String String

/-- One turn of the second loop. Prices are compared as numbers. -/
def Summary.add (found : Summary) (offer : Offer) : Summary where
  sellers := found.sellers.set offer.sellerId offer.seller.name
  lowest := if offer.price.decimal < found.lowest.price.decimal then offer else found.lowest
  highest := if offer.price.decimal > found.highest.price.decimal then offer else found.highest

/-- The row of a product. -/
def rowOf (product : Product) : List Offer → CatalogRow
  | [] =>
      { product := product
        lowestPrice := none
        highestPrice := none
        sellerCount := 0
        sellerNames := []
        offerCount := 0
        inStock := false }
  | first :: rest =>
      let found := (first :: rest).foldl Summary.add ⟨first, first, []⟩
      { product := product
        lowestPrice := some found.lowest.price
        highestPrice := some found.highest.price
        sellerCount := found.sellers.length
        sellerNames := found.sellers.map Prod.snd
        offerCount := (first :: rest).length
        inStock := true }

/-- `deriveCatalogRows`. -/
def deriveCatalogRows (products : List Product) (offers : List Offer) : List CatalogRow :=
  products.map fun product =>
    rowOf product (((purchasableByProduct offers).get product.id).getD [])

/-! ### What a row is -/

/-- The purchasable offers of a product. -/
def purchasableOf (product : Product) (offers : List Offer) : List Offer :=
  offers.filter fun offer => isPurchasable offer && offer.productId == product.id

/-- The offers whose seller has no offer before them. -/
def firstOfSellers : List Offer → List Offer
  | [] => []
  | offer :: offers => offer :: (firstOfSellers offers).filter fun o => o.sellerId ≠ offer.sellerId

/-- The row of a product, by its purchasable offers. -/
def catalogRow (offers : List Offer) (product : Product) : CatalogRow :=
  let purchasable := purchasableOf product offers
  { product := product
    lowestPrice := (purchasable.map Offer.price).argmin Price.decimal
    highestPrice := (purchasable.map Offer.price).argmax Price.decimal
    sellerCount := (purchasable.map Offer.sellerId).toFinset.card
    sellerNames := (firstOfSellers purchasable).map fun offer => offer.seller.name
    offerCount := purchasable.length
    inStock := !purchasable.isEmpty }

/-- Offers of one seller carry the same name. -/
def SellersNamed (offers : List Offer) : Prop :=
  ∀ offer ∈ offers, ∀ offer' ∈ offers, offer.sellerId = offer'.sellerId →
    offer.seller.name = offer'.seller.name

/-! ### The first loop -/

section Grouping

variable {offers : List Offer} {product : Product}

/-- **The offers of a product** are found under its id; an id without offers has no entry. -/
lemma get_purchasableByProduct (offers : List Offer) (product : Product) :
    (purchasableByProduct offers).get product.id
      = if purchasableOf product offers = [] then none else some (purchasableOf
        product offers) := by
  induction offers using List.reverseRecOn with
  | nil => rfl
  | append_singleton offers offer ih =>
      have hlast : purchasableOf product (offers ++ [offer]) = purchasableOf product offers
          ++ if isPurchasable offer && offer.productId == product.id then [offer] else [] := by
        rw [purchasableOf, List.filter_append, List.filter_singleton, ← purchasableOf]
        cases isPurchasable offer && offer.productId == product.id <;> rfl
      have hloop : purchasableByProduct (offers ++ [offer]) = if isPurchasable offer = true then
          match (purchasableByProduct offers).get offer.productId with
          | some current => (purchasableByProduct offers).set offer.productId (current ++ [offer])
          | none => (purchasableByProduct offers).set offer.productId [offer]
          else purchasableByProduct offers := by
        rw [purchasableByProduct, List.foldl_append]
        rfl
      rw [hloop, hlast]
      by_cases hpurchasable : isPurchasable offer = true
      · rw [if_pos hpurchasable, hpurchasable, Bool.true_and]
        by_cases hproduct : offer.productId = product.id
        · have hne : ¬ purchasableOf product offers ++ [offer] = [] := by simp
          rw [beq_iff_eq.mpr hproduct, if_pos rfl, if_neg hne, hproduct, ih]
          by_cases hempty : purchasableOf product offers = []
          · rw [if_pos hempty, hempty]
            exact OrderedMap.get_set
          · rw [if_neg hempty]
            exact OrderedMap.get_set
        · rw [beq_eq_false_iff_ne.mpr hproduct, if_neg Bool.false_ne_true, List.append_nil, ← ih]
          split
          · exact OrderedMap.get_set_of_ne (Ne.symm hproduct)
          · exact OrderedMap.get_set_of_ne (Ne.symm hproduct)
      · rw [if_neg hpurchasable, Bool.eq_false_of_not_eq_true hpurchasable, Bool.false_and,
          if_neg Bool.false_ne_true, List.append_nil, ih]

end Grouping

/-! ### The second loop -/

section Summaries

variable {offers : List Offer} {offer first : Offer}

lemma mem_firstOfSellers (h : offer ∈ firstOfSellers offers) : offer ∈ offers := by
  induction offers with
  | nil => exact h
  | cons first offers ih =>
      rcases List.mem_cons.mp h with rfl | h
      · exact List.mem_cons_self
      · exact List.mem_cons_of_mem _ (ih (List.mem_of_mem_filter h))

/-- The sellers are those of all offers. -/
lemma sellerId_mem_firstOfSellers {id : String} :
    id ∈ (firstOfSellers offers).map Offer.sellerId ↔ id ∈ offers.map Offer.sellerId := by
  induction offers with
  | nil => exact Iff.rfl
  | cons first offers ih =>
      rw [firstOfSellers, List.map_cons, List.map_cons, List.mem_cons, List.mem_cons, ← ih]
      refine or_congr_right' fun hne => ?_
      simp only [List.mem_map, List.mem_filter, decide_eq_true_eq]
      constructor
      · rintro ⟨o, ⟨ho, -⟩, rfl⟩
        exact ⟨o, ho, rfl⟩
      · rintro ⟨o, ho, rfl⟩
        exact ⟨o, ⟨ho, hne⟩, rfl⟩

lemma firstOfSellers_nodup (offers : List Offer) :
    ((firstOfSellers offers).map Offer.sellerId).Nodup := by
  induction offers with
  | nil => exact List.nodup_nil
  | cons first offers ih =>
      rw [firstOfSellers, List.map_cons, List.nodup_cons]
      refine ⟨fun hmem => ?_, ih.sublist (List.filter_sublist.map _)⟩
      obtain ⟨o, ho, heq⟩ := List.mem_map.mp hmem
      simp only [List.mem_filter, decide_eq_true_eq] at ho
      exact ho.2 heq

/-- An offer more at the end. -/
lemma firstOfSellers_append (offers : List Offer) (offer : Offer) :
    firstOfSellers (offers ++ [offer]) = if offer.sellerId ∈ offers.map Offer.sellerId
      then firstOfSellers offers else firstOfSellers offers ++ [offer] := by
  induction offers with
  | nil => rfl
  | cons first offers ih =>
      rw [List.cons_append, firstOfSellers, ih, firstOfSellers, List.map_cons]
      by_cases hfirst : offer.sellerId = first.sellerId
      · have hmem : offer.sellerId ∈ first.sellerId :: offers.map Offer.sellerId := by
          rw [hfirst]
          exact List.mem_cons_self
        rw [if_pos hmem]
        split_ifs
        · rfl
        · simp [hfirst]
      · have hmem : offer.sellerId ∈ first.sellerId :: offers.map Offer.sellerId
            ↔ offer.sellerId ∈ offers.map Offer.sellerId := by
          rw [List.mem_cons, or_iff_right hfirst]
        simp only [hmem]
        split_ifs
        · rfl
        · simp [hfirst]

/-- What the second loop has found of the offers that start with `first`. -/
structure Found (offers : List Offer) (found : Summary) : Prop where
  lowest : (offers.map Offer.price).argmin Price.decimal = some found.lowest.price
  highest : (offers.map Offer.price).argmax Price.decimal = some found.highest.price
  sellers : found.sellers = (firstOfSellers offers).map fun o => (o.sellerId, o.seller.name)

/-- **One turn.** -/
lemma Found.add {found : Summary} (h : Found offers found)
    (hnames : SellersNamed (offers ++ [offer])) :
    Found (offers ++ [offer]) (found.add offer) where
  lowest := by
    rw [List.map_append, List.map_singleton, List.argmin_concat, h.lowest, Summary.add]
    simp only
    split <;> rfl
  highest := by
    rw [List.map_append, List.map_singleton, List.argmax_concat, h.highest, Summary.add]
    simp only
    split <;> rfl
  sellers := by
    have hkeys : found.sellers.map Prod.fst = (firstOfSellers offers).map Offer.sellerId := by
      rw [h.sellers, List.map_map]
      rfl
    change found.sellers.set offer.sellerId offer.seller.name = _
    rw [firstOfSellers_append]
    by_cases hmem : offer.sellerId ∈ offers.map Offer.sellerId
    · -- the seller is known, under this name
      rw [if_pos hmem]
      rw [← sellerId_mem_firstOfSellers] at hmem
      obtain ⟨o, ho, heq⟩ := List.mem_map.mp hmem
      have hname := hnames o (List.mem_append_left _ (mem_firstOfSellers ho)) offer (by simp) heq
      have hentry : (offer.sellerId, offer.seller.name) ∈ found.sellers := by
        rw [h.sellers, ← heq, ← hname]
        exact List.mem_map_of_mem (f := fun o : Offer => (o.sellerId, o.seller.name)) ho
      rw [OrderedMap.set_of_mem hentry (by rw [hkeys]; exact firstOfSellers_nodup offers),
        h.sellers]
    · have hnew : offer.sellerId ∉ found.sellers.map Prod.fst := by
        rwa [hkeys, sellerId_mem_firstOfSellers]
      rw [if_neg hmem, OrderedMap.set_of_not_mem hnew, h.sellers, List.map_append]
      rfl

/-- **The whole loop.** -/
lemma found_foldl (first : Offer) (offers : List Offer) (hnames : SellersNamed (first :: offers)) :
    Found (first :: offers) ((first :: offers).foldl Summary.add ⟨first, first, []⟩) := by
  induction offers using List.reverseRecOn with
  | nil =>
      have hsame : ∀ p : Prop, ∀ [Decidable p], (if p then first else first) = first := fun p _ =>
        ite_self _
      exact {
        lowest := by rw [List.foldl_cons, List.foldl_nil, Summary.add, hsame]; rfl
        highest := by rw [List.foldl_cons, List.foldl_nil, Summary.add, hsame]; rfl
        sellers := rfl }
  | append_singleton offers offer ih =>
      rw [← List.cons_append] at hnames ⊢
      rw [List.foldl_append]
      refine (ih fun o ho o' ho' => ?_).add hnames
      exact hnames o (List.mem_append_left _ ho) o' (List.mem_append_left _ ho')

end Summaries

/-! ### The rows -/

section Rows

variable {products : List Product} {offers : List Offer}

lemma SellersNamed.purchasableOf (h : SellersNamed offers) (product : Product) :
    SellersNamed (purchasableOf product offers) := fun o ho o' ho' =>
  h o (List.mem_of_mem_filter ho) o' (List.mem_of_mem_filter ho')

/-- The distinct sellers, counted. -/
lemma length_firstOfSellers (offers : List Offer) :
    (firstOfSellers offers).length = (offers.map Offer.sellerId).toFinset.card := by
  rw [← List.length_map Offer.sellerId, ← List.toFinset_card_of_nodup (firstOfSellers_nodup offers)]
  refine congrArg Finset.card (Finset.ext fun id => ?_)
  rw [List.mem_toFinset, List.mem_toFinset, sellerId_mem_firstOfSellers]

/-- **One row.** -/
lemma rowOf_eq (hnames : SellersNamed offers) (product : Product) :
    rowOf product (purchasableOf product offers) = catalogRow offers product := by
  have hnamed := hnames.purchasableOf product
  rw [catalogRow]
  generalize purchasableOf product offers = purchasable at hnamed
  cases purchasable with
  | nil => rfl
  | cons first rest =>
      obtain ⟨hlowest, hhighest, hsellers⟩ := found_foldl first rest hnamed
      simp only [rowOf, hlowest, hhighest, hsellers, List.length_map, List.map_map,
        length_firstOfSellers]
      rfl

/-- **The rows of the catalogue** are those of their definition, and offers of other products do not
matter. -/
theorem deriveCatalogRows_eq (products : List Product) (offers : List Offer)
    (hnames : SellersNamed offers) :
    deriveCatalogRows products offers = products.map (catalogRow offers)
      ∧ deriveCatalogRows products offers = deriveCatalogRows products
        (offers.filter fun offer => (products.map Product.id).contains offer.productId) := by
  have hrow : ∀ product ∈ products, purchasableOf product (offers.filter fun offer =>
      (products.map Product.id).contains offer.productId) = purchasableOf product offers := by
    intro product hproduct
    rw [purchasableOf, List.filter_filter, purchasableOf]
    refine List.filter_congr fun offer _ => ?_
    by_cases hid : offer.productId = product.id
    · have hmem : (products.map Product.id).contains offer.productId = true := by
        rw [hid, List.contains_iff_mem]
        exact List.mem_map_of_mem hproduct
      rw [hmem, Bool.and_true]
    · simp [hid]
  have hget : ∀ (offers : List Offer) (product : Product),
      ((purchasableByProduct offers).get product.id).getD [] = purchasableOf product offers := by
    intro offers product
    rw [get_purchasableByProduct]
    split_ifs with hempty
    · exact hempty.symm
    · rfl
  refine ⟨List.map_congr_left fun product _ => ?_, List.map_congr_left fun product hproduct => ?_⟩
  · rw [hget, rowOf_eq hnames]
  · rw [hget, hget, hrow product hproduct]

/-- A mug of two sellers. -/
theorem deriveCatalogRows_mug :
    deriveCatalogRows [⟨"p", "Caneca", none⟩]
        [⟨"a", "p", "s", ⟨"s", "Loja A"⟩, ⟨[2], 0, 0, by decide⟩, 1, true⟩,
          ⟨"b", "p", "t", ⟨"t", "Tech Hub"⟩, ⟨[1], 5, 0, by decide⟩, 2, true⟩]
      = [⟨"p", "Caneca", none⟩].map (catalogRow
        [⟨"a", "p", "s", ⟨"s", "Loja A"⟩, ⟨[2], 0, 0, by decide⟩, 1, true⟩,
          ⟨"b", "p", "t", ⟨"t", "Tech Hub"⟩, ⟨[1], 5, 0, by decide⟩, 2, true⟩]) :=
  (deriveCatalogRows_eq _ _ (by unfold SellersNamed; decide)).1

end Rows

end MarketHub.Frontend
