import MarketHub.Orders.Stock
import MarketHub.ReadCommitted.Alone

/-!
A checkout that runs alone.

* `firstProblem`: the first reason for which a line is refused, and `rejections` the refused lines
  of a payload. `exec_validateItems` says that the validation finds them.
* `Fresh`: the identifiers and order numbers still to be drawn are new.
* `OrderPlaced`: what a checkout that goes through has done; `Filling` is the session of one
  that has consumed some of its lines.
* `checkout_exact`: it goes through exactly when no line is refused, and then has placed the
  order; otherwise it reports the refused lines and changes nothing.
-/

namespace MarketHub

open ReadCommitted Session

/-! ### Refused lines -/

/-- The first reason for which a line is refused. -/
def firstProblem (item : CheckoutItem) : Option Offer → Option RejectionReason
  | none => some .notFound
  | some offer =>
      if offer.available = false then some .unavailable
      else if offer.stock < item.quantity then some .insufficientStock
      else if offer.price ≠ item.expectedPrice.decimal then some .priceChanged
      else none

/-- A line that is valid: its offer is there, is available, has the stock, and has the expected
price. -/
structure ValidLine (st : Db) (item : CheckoutItem) (offer : Offer) : Prop where
  found : Db.offer st item.offerId = some offer
  available : offer.available = true
  stock : (item.quantity : ℤ) ≤ offer.stock
  price : offer.price = item.expectedPrice.decimal

/-- The refusal of a line, if it is refused. -/
def refusal (st : Db) (item : CheckoutItem) : Option CheckoutRejectedItem :=
  (firstProblem item (Db.offer st item.offerId)).map fun reason =>
    rejection item reason (Db.offer st item.offerId)

/-- The refused lines of a payload, in its order. -/
def rejections (st : Db) (items : List CheckoutItem) : List CheckoutRejectedItem :=
  items.filterMap (refusal st)

/-- The valid lines of a payload with their offers, in its order. -/
def validLines (st : Db) (items : List CheckoutItem) : List (CheckoutItem × Offer) :=
  items.filterMap fun item =>
    if firstProblem item (Db.offer st item.offerId) = none then
      (Db.offer st item.offerId).map fun offer => (item, offer)
    else none

section Validation

variable {α : Type} {cs : ℕ → Choice} {n : ℕ} {st : Db} {log : List Event} {s : AppSession}
  {item : CheckoutItem} {items : List CheckoutItem}

/-- A line without a problem is valid. -/
lemma firstProblem_eq_none {offer : Option Offer} :
    firstProblem item offer = none ↔ ∃ o, offer = some o ∧ o.available = true
      ∧ (item.quantity : ℤ) ≤ o.stock ∧ o.price = item.expectedPrice.decimal := by
  cases offer with
  | none => simp [firstProblem]
  | some o =>
      simp only [firstProblem, Option.some.injEq, exists_eq_left']
      split_ifs with h₁ h₂ h₃ <;> simp_all

lemma refusal_eq_none : refusal st item = none ↔ ∃ offer, ValidLine st item offer := by
  rw [refusal, Option.map_eq_none_iff, firstProblem_eq_none]
  exact exists_congr fun o => ⟨fun h => ⟨h.1, h.2.1, h.2.2.1, h.2.2.2⟩,
    fun h => ⟨h.found, h.available, h.stock, h.price⟩⟩

/-- Nothing is refused when every line is valid. -/
lemma rejections_eq_nil : rejections st items = [] ↔ ∀ item ∈ items, ∃ offer,
    ValidLine st item offer := by
  simp only [rejections, List.filterMap_eq_nil_iff, refusal_eq_none]

/-- The valid lines are all lines when nothing is refused. -/
lemma validLines_map (h : rejections st items = []) :
    (validLines st items).map Prod.fst = items := by
  induction items with
  | nil => rfl
  | cons item items ih =>
      obtain ⟨hfirst, hrest⟩ := List.forall_mem_cons.mp (rejections_eq_nil.mp h)
      obtain ⟨offer, hvalid⟩ := hfirst
      have hnone : firstProblem item (some offer) = none :=
        firstProblem_eq_none.mpr ⟨offer, rfl, hvalid.available, hvalid.stock, hvalid.price⟩
      rw [validLines, List.filterMap_cons, hvalid.found]
      simp only [hnone, if_true, Option.map_some, List.map_cons]
      rw [← validLines, ih (rejections_eq_nil.mpr hrest)]

lemma validLine_of_mem {line : CheckoutItem × Offer} (h : line ∈ validLines st items) :
    ValidLine st line.1 line.2 := by
  obtain ⟨item, -, hline⟩ := List.mem_filterMap.mp h
  split_ifs at hline with hnone
  obtain ⟨offer, hoffer, rfl⟩ := Option.map_eq_some_iff.mp hline
  obtain ⟨o, ho, havailable, hstock, hprice⟩ := firstProblem_eq_none.mp hnone
  obtain rfl : o = offer := Option.some.inj (ho.symm.trans hoffer)
  exact ⟨hoffer, havailable, hstock, hprice⟩

/-- What `_validate_item` makes of an offer. -/
lemma validateItem_eq : validateItem item
    = (Prog.get (Key.offer item.offerId) : Txn (Option Offer)).bind
    fun offer => .pure (offer, (firstProblem item offer).map fun reason =>
      rejection item reason offer) := by
  rw [validateItem, Prog.bind_eq]
  refine congrArg (Prog.bind _) (funext fun offer => ?_)
  cases offer with
  | none => rfl
  | some offer =>
      simp only [Prog.pure_eq, Bool.not_eq_true', firstProblem]
      split_ifs <;> rfl

/-- A session that has loaded offers, as they are. -/
structure Loaded (st : Db) (s : AppSession) : Prop where
  held : s.held = ∅
  pending : s.pending = []
  clean : s.Clean
  offers : ∀ id o, s.objects.lookup (.offer id) = some o → o.loaded = Db.offer st id
  others : ∀ k, (∀ id, k ≠ .offer id) → s.objects.lookup k = none

lemma loaded_empty : Loaded st ∅ where
  held := rfl
  pending := rfl
  clean := clean_empty
  offers id o ho := by
    change (∅ : AList (Obj Row)).lookup (.offer id) = some o at ho
    simp at ho
  others _ _ := rfl

lemma Loaded.view (h : Loaded st s) : s.view st = st := by
  rw [Session.view, h.held]
  rfl

/-- The object of an offer, where the offer is there. -/
def HasOffer (st : Db) (s : AppSession) (id : UUID) : Prop :=
  ∀ offer, Db.offer st id = some offer → s.objects.lookup (.offer id) = some ⟨some offer, offer⟩

variable (cs n log) in
/-- An offer is read. -/
lemma exec_getOffer (h : Loaded st s) (id : UUID) (f : Option Offer → Txn α) :
    ∃ n' s', n ≤ n' ∧ Loaded st s' ∧ HasOffer st s' id
      ∧ (∀ id', HasOffer st s id' → HasOffer st s' id')
      ∧ exec cs ((Prog.get (Key.offer id) : Txn (Option Offer)).bind f) n st log s
        = exec cs (f (Db.offer st id)) n' st log s' := by
  -- loaded before, missing, or loaded now
  cases hob : s.objects.lookup (.offer id) with
  | some ob =>
      obtain ⟨loaded, cur⟩ := ob
      obtain rfl : loaded = some cur := h.clean _ _ hob
      have hoffer : some cur = Db.offer st id := h.offers id _ hob
      refine ⟨n + 1, s, Nat.le_succ n, h, fun offer ho => ?_, fun _ hid => hid, ?_⟩
      · obtain rfl : cur = offer := Option.some.inj (hoffer.trans ho)
        exact hob
      · rw [exec_get_old f hob, ← hoffer]
  | none =>
      have hview : (s.view st).lookup (.offer id) = Db.offer st id := by
        rw [h.view, Db.offer]
      cases hoffer : Db.offer st id with
      | none =>
          refine ⟨n + 2, s, by omega, h, fun offer ho => ?_, fun _ hid => hid, ?_⟩
          · rw [hoffer] at ho
            cases ho
          · rw [exec_get_none f hob (hview.trans hoffer)]
      | some offer =>
          have hself : (s.load st (.offer id)).objects.lookup (.offer id)
              = some ⟨some offer, offer⟩ := by
            rw [load, hob, show st.lookup (.offer id) = some offer from hoffer]
            exact AList.lookup_insert _
          refine ⟨n + 3, s.load st (.offer id), by omega, ⟨?_, ?_, h.clean.loads st [.offer id],
            fun id' o ho => ?_, fun k hk => ?_⟩, fun offer' ho => ?_, fun id' hid => ?_, ?_⟩
          · rw [load_held, h.held]
          · rw [load_pending, h.pending]
          · by_cases hid : id' = id
            · subst hid
              rw [hself] at ho
              cases ho
              exact hoffer.symm
            · rw [lookup_load_ne _ _ _ (by simpa using hid)] at ho
              exact h.offers id' o ho
          · rw [lookup_load_ne _ _ _ (hk id)]
            exact h.others k hk
          · obtain rfl : offer = offer' := Option.some.inj (hoffer.symm.trans ho)
            exact hself
          · intro offer' ho
            by_cases hne : id' = id
            · subst hne
              obtain rfl : offer = offer' := Option.some.inj (hoffer.symm.trans ho)
              exact hself
            · rw [lookup_load_ne _ _ _ (by simpa using hne)]
              exact hid offer' ho
          · rw [exec_get_new f hob (hview.trans hoffer), h.view]

variable (cs log) in
/-- **The validation** finds the refused lines and the valid ones. -/
lemma exec_validateItems (h : Loaded st s) (n : ℕ) (items : List CheckoutItem)
    (f : List CheckoutRejectedItem × List (CheckoutItem × Offer) → Txn α) :
    ∃ n' s', n ≤ n' ∧ Loaded st s' ∧ (∀ item ∈ items, HasOffer st s' item.offerId)
      ∧ (∀ id, HasOffer st s id → HasOffer st s' id)
      ∧ exec cs ((validateItems items).bind f) n st log s
        = exec cs (f (rejections st items, validLines st items)) n' st log s' := by
  induction items generalizing n s f with
  | nil => exact ⟨n, s, le_rfl, h, fun _ hmem => by simp at hmem, fun _ hid => hid, rfl⟩
  | cons item items ih =>
      simp only [validateItems, validateItem_eq, Prog.bind_eq, Prog.bind_assoc, Prog.bind]
      obtain ⟨n₁, s₁, hn₁, hs₁, hself, hkeep₁, hexec₁⟩ := exec_getOffer cs n log h item.offerId _
      rw [hexec₁]
      obtain ⟨n₂, s₂, hn₂, hs₂, hall, hkeep₂, hexec₂⟩ := ih hs₁ n₁ _
      rw [hexec₂]
      refine ⟨n₂, s₂, hn₁.trans hn₂, hs₂, fun item' hitem' => ?_,
        fun id hid => hkeep₂ _ (hkeep₁ _ hid), ?_⟩
      · rcases List.mem_cons.mp hitem' with rfl | hrest
        · exact hkeep₂ _ hself
        · exact hall item' hrest
      · cases hproblem : firstProblem item (Db.offer st item.offerId) with
        | some reason =>
            have hrejections : rejections st (item :: items)
                = rejection item reason (Db.offer st item.offerId) :: rejections st items := by
              simp [rejections, refusal, hproblem]
            have hvalid : validLines st (item :: items) = validLines st items := by
              simp [validLines, hproblem]
            rw [hrejections, hvalid]
            rfl
        | none =>
            obtain ⟨offer, hoffer, -⟩ := firstProblem_eq_none.mp hproblem
            rw [hoffer] at hproblem ⊢
            have hrejections : rejections st (item :: items) = rejections st items := by
              simp [rejections, refusal, hoffer, hproblem]
            have hvalid : validLines st (item :: items) = (item, offer) :: validLines st items := by
              simp [validLines, hoffer, hproblem]
            rw [hrejections, hvalid]
            rfl

end Validation

/-! ### Consumed lines -/

/-- The identifiers and the order numbers that are drawn from the tick `n` on are new. -/
structure Fresh (cs : ℕ → Choice) (n : ℕ) (st : Db) : Prop where
  distinct : ∀ m m', n ≤ m → n ≤ m' → (cs m).uuid = (cs m').uuid → m = m'
  order : ∀ m, n ≤ m → Db.order st (cs m).uuid = none
  item : ∀ m, n ≤ m → Db.orderItem st (cs m).uuid = none
  parent : ∀ m id item, n ≤ m → Db.orderItem st id = some item → item.orderId ≠ (cs m).uuid
  number : ∀ m id order, n ≤ m → Db.order st id = some order → order.number ≠ (cs m).uuid

/-- What a line becomes: an order item with the number of the line. -/
structure PlacedAs (orderId : UUID) (line : ℕ) (item : CheckoutItem) (placed : OrderItem) :
    Prop where
  orderId : placed.orderId = orderId
  offerId : placed.offerId = item.offerId
  line : placed.line = line
  quantity : placed.quantity = item.quantity
  purchasePrice : placed.purchasePrice = item.expectedPrice.decimal
  status : placed.status = .placed

/-- An offer after a line has taken its quantity. -/
def Offer.taken (offer : Offer) (item : CheckoutItem) : Offer :=
  { offer with stock := offer.stock - item.quantity }

/-- The session of a checkout that has consumed the lines `taken` and added the items `placed` for
them, while the lines `rest` are left and `line` is the next number. -/
structure Filling (cs : ℕ → Choice) (m : ℕ) (st : Db) (orderId : UUID) (order : Order)
    (taken rest : List (CheckoutItem × Offer)) (placed : List (UUID × OrderItem)) (line n : ℕ)
    (s : AppSession) : Prop where
  pending : s.pending = []
  agrees : Agrees s.held st
  order : (s.view st).lookup (.order orderId) = some order
  offers : ∀ l ∈ taken, (s.view st).lookup (.offer l.1.offerId) = some (l.2.taken l.1)
  others : ∀ k, k ≠ .order orderId → (∀ l ∈ taken, k ≠ .offer l.1.offerId) →
    (s.view st).lookup k = st.lookup k
  left : ∀ l ∈ rest, s.objects.lookup (.offer l.1.offerId) = some ⟨some l.2, l.2⟩
  clean : ∀ k o, s.objects.lookup k = some o → o.loaded = some o.cur
    ∨ ∃ p ∈ placed, (⟨k, o⟩ : Sigma (Obj Row)) = ⟨.orderItem p.1, ⟨none, p.2⟩⟩
  added : ∀ p ∈ placed, s.objects.lookup (.orderItem p.1) = some ⟨none, p.2⟩
  free : ∀ id, (∀ p ∈ placed, id ≠ p.1) → s.objects.lookup (.orderItem id) = none
  drawn : ∀ p ∈ placed, ∃ m', m ≤ m' ∧ m' < n ∧ p.1 = (cs m').uuid
  numbered : ∀ p ∈ placed, p.2.orderId = orderId ∧ p.2.line < line
  apart : placed.Pairwise fun p q => p.1 ≠ q.1 ∧ p.2.line ≠ q.2.line

section Consumption

variable {α : Type} {cs : ℕ → Choice} {m n line : ℕ} {st : Db} {log : List Event} {s : AppSession}
  {orderId : UUID} {order : Order} {taken rest : List (CheckoutItem × Offer)}
  {placed : List (UUID × OrderItem)} {l : CheckoutItem × Offer}

/-- The session after a line: its offer has given the stock, and its item is added. -/
def AppSession.placing (s : AppSession) (st : Db) (l : CheckoutItem × Offer)
    (p : UUID × OrderItem) :
    AppSession :=
  let taken := (s.write st (.offer l.1.offerId) (some (l.2.taken l.1))).sync (.offer l.1.offerId)
    (l.2.taken l.1)
  { taken with objects := taken.objects.insert (.orderItem p.1) ⟨none, p.2⟩ }

lemma placing_item (p : UUID × OrderItem) :
    (AppSession.placing s st l p).objects.lookup (.orderItem p.1) = some ⟨none, p.2⟩ :=
  AList.lookup_insert _

lemma placing_offer (p : UUID × OrderItem) :
    (AppSession.placing s st l p).objects.lookup (.offer l.1.offerId)
      = some ⟨some (l.2.taken l.1), l.2.taken l.1⟩ := by
  rw [AppSession.placing, AList.lookup_insert_ne (by simp)]
  exact lookup_sync_self _ _ _

lemma placing_other (p : UUID × OrderItem) {k : Key} (hk : k ≠ .offer l.1.offerId)
    (hp : k ≠ .orderItem p.1) :
    (AppSession.placing s st l p).objects.lookup k = s.objects.lookup k := by
  rw [AppSession.placing, AList.lookup_insert_ne hp, lookup_sync_ne _ _ hk, write_objects]

lemma placing_view_offer (p : UUID × OrderItem) :
    ((AppSession.placing s st l p).view st).lookup (.offer l.1.offerId) = some (l.2.taken l.1) :=
  lookup_view_write_self ..

lemma placing_view_other (p : UUID × OrderItem) {k : Key} (hk : k ≠ .offer l.1.offerId) :
    ((AppSession.placing s st l p).view st).lookup k = (s.view st).lookup k :=
  lookup_view_write_ne st s _ hk _

/-- A line that is consumed leaves the session in the invariant. -/
lemma Filling.placing (hfresh : Fresh cs m st) (hm : m ≤ n)
    (h : Filling cs m st orderId order taken (l :: rest) placed line n s)
    (hnew : ∀ l' ∈ taken, l'.1.offerId ≠ l.1.offerId)
    (hrest : ∀ l' ∈ rest, l'.1.offerId ≠ l.1.offerId) {p : UUID × OrderItem}
    (hid : p.1 = (cs (n + 1)).uuid) (hnum : p.2.orderId = orderId ∧ p.2.line = line) :
    Filling cs m st orderId order (taken ++ [l]) rest (placed ++ [p]) (line + 1) (n + 6)
      (AppSession.placing s st l p) := by
  -- the id of the new item was drawn after all the others
  have hids : ∀ q ∈ placed, p.1 ≠ q.1 := by
    intro q hq heq
    obtain ⟨m', hm', hlt, hq'⟩ := h.drawn q hq
    have := hfresh.distinct (n + 1) m' (by omega) hm' (hid.symm.trans (heq.trans hq'))
    omega
  have hwrite : Extends st ([] : Busy Row) s
      (s.write st (.offer l.1.offerId) (some (l.2.taken l.1))) :=
    Extends.write (fun _ => rfl) _
  refine ⟨h.pending, hwrite.agrees h.agrees, ?_, ?_, ?_, ?_, ?_, ?_, ?_, ?_, ?_, ?_⟩
  · -- the order stays as it was added
    rw [placing_view_other p (by simp)]
    exact h.order
  · -- the offers taken so far
    intro l' hl'
    rcases List.mem_append.mp hl' with hold | hnew'
    · rw [placing_view_other p (by simpa using hnew l' hold)]
      exact h.offers l' hold
    · obtain rfl := List.mem_singleton.mp hnew'
      exact placing_view_offer p
  · -- rows that are neither
    intro k hk hkt
    rw [placing_view_other p (hkt l (by simp))]
    exact h.others k hk fun l' hl' => hkt l' (List.mem_append_left _ hl')
  · -- the offers still to be taken
    intro l' hl'
    rw [placing_other p (by simpa using hrest l' hl') (by simp)]
    exact h.left l' (List.mem_cons_of_mem _ hl')
  · -- objects with unsent changes
    intro k o ho
    by_cases hkp : k = .orderItem p.1
    · subst hkp
      rw [placing_item] at ho
      cases ho
      exact Or.inr ⟨p, by simp, rfl⟩
    by_cases hko : k = .offer l.1.offerId
    · subst hko
      rw [placing_offer] at ho
      cases ho
      exact Or.inl rfl
    · rw [placing_other p hko hkp] at ho
      rcases h.clean k o ho with hdone | ⟨q, hq, heq⟩
      · exact Or.inl hdone
      · exact Or.inr ⟨q, List.mem_append_left _ hq, heq⟩
  · -- items placed so far
    intro q hq
    rcases List.mem_append.mp hq with hold | hnew'
    · rw [placing_other p (by simp) (by simpa using (hids q hold).symm)]
      exact h.added q hold
    · obtain rfl := List.mem_singleton.mp hnew'
      exact placing_item q
  · -- ids that are free
    intro id hne
    rw [placing_other p (by simp) (by simpa using hne p (by simp))]
    exact h.free id fun q hq => hne q (List.mem_append_left _ hq)
  · -- where the ids come from
    intro q hq
    rcases List.mem_append.mp hq with hold | hnew'
    · obtain ⟨m', hm', hlt, hq'⟩ := h.drawn q hold
      exact ⟨m', hm', by omega, hq'⟩
    · obtain rfl := List.mem_singleton.mp hnew'
      exact ⟨n + 1, by omega, by omega, hid⟩
  · -- numbering of the lines
    intro q hq
    rcases List.mem_append.mp hq with hold | hnew'
    · exact ⟨(h.numbered q hold).1, (h.numbered q hold).2.trans (Nat.lt_succ_self _)⟩
    · obtain rfl := List.mem_singleton.mp hnew'
      exact ⟨hnum.1, hnum.2 ▸ Nat.lt_succ_self _⟩
  · refine List.pairwise_append.mpr ⟨h.apart, List.pairwise_singleton _ _, fun q hq q' hq' => ?_⟩
    obtain rfl := List.mem_singleton.mp hq'
    exact ⟨(hids q hq).symm, hnum.2 ▸ (h.numbered q hq).2.ne⟩

variable (log) in
/-- **One line is consumed**: its offer gives the stock, and its item is added. -/
lemma exec_consumeLine (hfresh : Fresh cs m st) (hm : m ≤ n)
    (h : Filling cs m st orderId order taken (l :: rest) placed line n s)
    (hvalid : ValidLine st l.1 l.2) (hnew : ∀ l' ∈ taken, l'.1.offerId ≠ l.1.offerId)
    (hrest : ∀ l' ∈ rest, l'.1.offerId ≠ l.1.offerId) (f : Unit → Txn α) :
    ∃ p s', PlacedAs orderId line l.1 p.2
      ∧ Filling cs m st orderId order (taken ++ [l]) rest (placed ++ [p]) (line + 1) (n + 6) s'
      ∧ exec cs ((consumeItems orderId line (l :: rest)).bind f) n st log s
        = exec cs ((consumeItems orderId (line + 1) rest).bind f) (n + 6) st log s' := by
  have hrow : (s.view st).lookup (.offer l.1.offerId) = some l.2 :=
    (h.others _ (by simp) fun l' hl' heq =>
      hnew l' hl' (by simpa using heq.symm)).trans hvalid.found
  have hmatch : (decide ((l.1.quantity : ℤ) ≤ l.2.stock) && l.2.available) = true := by
    rw [decide_eq_true hvalid.stock, hvalid.available]
    rfl
  have hob := h.left l (List.mem_cons_self ..)
  have hid : ∀ q ∈ placed, (cs (n + 1)).uuid ≠ q.1 := by
    intro q hq heq
    obtain ⟨m', hm', hlt, hq'⟩ := h.drawn q hq
    have := hfresh.distinct (n + 1) m' (by omega) hm' (heq.trans hq')
    omega
  have hnone : ((s.write st (.offer l.1.offerId) (some (l.2.taken l.1))).sync (.offer l.1.offerId)
      (l.2.taken l.1)).objects.lookup (.orderItem (cs (n + 1)).uuid) = none := by
    rw [lookup_sync_ne _ _ (by simp), write_objects]
    exact h.free _ hid
  refine ⟨((cs (n + 1)).uuid, ⟨orderId, l.1.offerId, line, l.1.quantity, l.2.price, .placed,
    (cs (n + 1 + 1)).now, (cs (n + 1 + 1 + 1)).now, (cs (n + 1 + 1 + 1 + 1)).now⟩), _,
    ⟨rfl, rfl, rfl, rfl, hvalid.price, rfl⟩, h.placing hfresh hm hnew hrest rfl ⟨rfl, rfl⟩, ?_⟩
  simp only [consumeItems, consumeStock, newOrderItem, Prog.bind_eq, Prog.bind_assoc]
  rw [exec_update_clean _ hob hrow hmatch, if_pos rfl]
  simp only [Prog.bind_assoc]
  rw [exec_uuid4, exec_utcnow, exec_utcnow, exec_utcnow]
  exact exec_add _ hnone

variable (log) in
/-- **The consuming loop** goes through when its lines are valid and their offers differ. -/
lemma exec_consumeItems (hfresh : Fresh cs m st) (hm : m ≤ n)
    (h : Filling cs m st orderId order taken rest placed line n s)
    (hvalid : ∀ l ∈ rest, ValidLine st l.1 l.2)
    (hnodup : ((taken ++ rest).map fun l => l.1.offerId).Nodup) (f : Unit → Txn α) :
    ∃ new n' s', m ≤ n'
      ∧ List.Forall₂ (fun l p => PlacedAs orderId l.2 l.1.1 p.2) (rest.zipIdx line) new
      ∧ Filling cs m st orderId order (taken ++ rest) [] (placed ++ new) (line + rest.length) n' s'
      ∧ exec cs ((consumeItems orderId line rest).bind f) n st log s
        = exec cs (f ()) n' st log s' := by
  induction rest generalizing taken placed line n s with
  | nil =>
      refine ⟨[], n, s, hm, .nil, ?_, rfl⟩
      simpa using h
  | cons l rest ih =>
      have hother : ∀ l' ∈ taken ++ rest, l'.1.offerId ≠ l.1.offerId := by
        have hsplit := (List.perm_middle.map fun l : CheckoutItem × Offer =>
          l.1.offerId).nodup_iff.mp hnodup
        intro l' hl' heq
        exact (List.nodup_cons.mp hsplit).1 (List.mem_map.mpr ⟨l', hl', heq⟩)
      obtain ⟨p, s₁, hp, hs₁, hexec₁⟩ := exec_consumeLine log hfresh hm h
        (hvalid l (List.mem_cons_self ..)) (fun l' hl' => hother l' (List.mem_append_left _ hl'))
        (fun l' hl' => hother l' (List.mem_append_right _ hl')) f
      obtain ⟨new, n', s', hn', hnew, hs', hexec⟩ := ih (hm.trans (Nat.le_add_right n 6)) hs₁
        (fun l' hl' => hvalid l' (List.mem_cons_of_mem _ hl')) (by simpa using hnodup)
      refine ⟨p :: new, n', s', hn', .cons hp hnew, ?_, hexec₁.trans hexec⟩
      simpa [Nat.add_assoc, Nat.add_comm 1] using hs'

/-- Only the added items have changes. -/
lemma Filling.kept (h : Filling cs m st orderId order taken rest placed line n s) {k : Key}
    (hk : ∀ p ∈ placed, k ≠ .orderItem p.1) (o : Obj Row k) (ho : s.objects.lookup k = some o) :
    o.loaded = some o.cur := by
  refine (h.clean k o ho).resolve_right fun hp => ?_
  obtain ⟨p, hp, heq⟩ := hp
  exact hk p hp (congrArg Sigma.fst heq)

/-- The items of a consumed payload can be sent: their identifiers are new, and their lines are
lines of a new order. -/
lemma Filling.inserts (hfresh : Fresh cs m st) (hparent : ∃ m', m ≤ m' ∧ orderId = (cs m').uuid)
    (h : Filling cs m st orderId order taken [] placed line n s) : s.Inserts st := by
  have hdirty : ∀ k o, s.objects.lookup k = some o → o.loaded ≠ some o.cur →
      ∃ p ∈ placed, (⟨k, o⟩ : Sigma (Obj Row)) = ⟨.orderItem p.1, ⟨none, p.2⟩⟩ :=
    fun k o ho hne => (h.clean k o ho).resolve_left hne
  have hitems : ∀ id, (s.view st).lookup (.orderItem id) = st.lookup (.orderItem id) :=
    fun id => h.others _ (by simp) fun l _ => by simp
  refine ⟨fun k o ho hne => ?_, fun k o k' o' hkk ho ho' hne hne' => ?_⟩
  · obtain ⟨p, hp, heq⟩ := hdirty k o ho hne
    cases heq
    obtain ⟨m₁, hm₁, -, hdrawn⟩ := h.drawn p hp
    obtain ⟨m₂, hm₂, rfl⟩ := hparent
    refine ⟨rfl, clashes_eq_false_iff.mpr ⟨?_, fun k' r' hr' => ?_⟩⟩
    · rw [hitems, hdrawn]
      exact hfresh.item m₁ hm₁
    · cases k' with
      | orderItem id =>
          have hother := hfresh.parent m₂ id r' hm₂ ((hitems id).symm.trans hr')
          change (p.2.orderId == r'.orderId && p.2.line == r'.line) = false
          rw [(h.numbered p hp).1, Bool.and_eq_false_iff]
          exact Or.inl (beq_false_of_ne hother.symm)
      | _ => rfl
  · obtain ⟨p, hp, heq⟩ := hdirty k o ho hne
    cases heq
    obtain ⟨q, hq, heq'⟩ := hdirty k' o' ho' hne'
    cases heq'
    have hpq : p ≠ q := fun hpq => hkk (by rw [hpq])
    have : Std.Symm fun p q : UUID × OrderItem => p.1 ≠ q.1 ∧ p.2.line ≠ q.2.line :=
      ⟨fun _ _ h => ⟨h.1.symm, h.2.symm⟩⟩
    have hlines : p.2.line ≠ q.2.line := (h.apart.forall hp hq hpq).2
    change (p.2.orderId == q.2.orderId && p.2.line == q.2.line) = false
    rw [Bool.and_eq_false_iff]
    exact Or.inr (beq_false_of_ne hlines)

end Consumption

/-! ### Checkouts -/

/-- What a checkout that goes through has done: a new order with one item for each line, and the
stock of each offer reduced by its line. -/
structure OrderPlaced (st st' : Db) (orderId buyerId : UUID) (lines : List CheckoutItem)
    (placed : List (UUID × OrderItem)) : Prop where
  new : Db.order st orderId = none ∧ ∀ p ∈ placed, Db.orderItem st p.1 = none
  order : ∃ order, Db.order st' orderId = some order ∧ order.buyerId = buyerId
  distinct : (placed.map Prod.fst).Nodup
  numbered : List.Forall₂ (fun l p => PlacedAs orderId l.2 l.1 p.2)
    (lines.zipIdx 1) placed
  items : ∀ id item, Db.orderItem st' id = some item ∧ item.orderId = orderId ↔ (id, item) ∈ placed
  offers : ∀ l ∈ lines, ∃ offer, Db.offer st l.offerId = some offer
    ∧ Db.offer st' l.offerId = some (offer.taken l)
  others : ∀ k, k ≠ .order orderId → (∀ p ∈ placed, k ≠ .orderItem p.1) →
    (∀ l ∈ lines, k ≠ .offer l.offerId) → st'.lookup k = st.lookup k

section Checkouts

variable {cs : ℕ → Choice} {n : ℕ} {st : Db} {log : List Event} {buyerId : UUID}
  {payload : CheckoutRequest}

variable (log buyerId) in
/-- A new order is sent. -/
lemma exec_newOrder {α : Type} {s : AppSession} (hfresh : Fresh cs n st) {m : ℕ} (hm : n ≤ m)
    (h : Loaded st s) {lines : List (CheckoutItem × Offer)}
    (hvalid : ∀ l ∈ lines, ValidLine st l.1 l.2) (hloaded : ∀ l ∈ lines, HasOffer st s l.1.offerId)
    (f : UUID → Txn α) :
    ∃ s' order, order.buyerId = buyerId
      ∧ Filling cs n st (cs m).uuid order [] lines [] 1 (m + 7) s'
      ∧ exec cs ((newOrder buyerId).bind fun id => Prog.flush.bind fun _ => f id) m st log s
        = exec cs (f (cs m).uuid) (m + 7) st log s' := by
  set order : Order := ⟨(cs (m + 1)).uuid, buyerId, (cs (m + 1 + 1)).now, (cs (m + 1 + 1 + 1)).now⟩
  set s₁ : AppSession := { s with objects := s.objects.insert (.order (cs m).uuid) ⟨none, order⟩ }
  have hnone : s.objects.lookup (.order (cs m).uuid) = none := h.others _ (by simp)
  have hview : s₁.view st = st := h.view
  have hself : s₁.objects.lookup (.order (cs m).uuid) = some ⟨none, order⟩ := AList.lookup_insert _
  have hother : ∀ k, k ≠ .order (cs m).uuid → s₁.objects.lookup k = s.objects.lookup k :=
    fun k hk => AList.lookup_insert_ne hk
  -- neither the id nor the number of the order is taken
  have hfree : clashes (s₁.view st) (.order (cs m).uuid) order = false := by
    rw [hview, clashes_eq_false_iff]
    refine ⟨hfresh.order m hm, fun k' r' hr' => ?_⟩
    cases k' with
    | order id => exact beq_false_of_ne (hfresh.number (m + 1) id r' (by omega) hr').symm
    | _ => rfl
  have hsend := eval_flushKey_new (c := cs (m + 6)) hself rfl hfree
  have hwrite : Extends st ([] : Busy Row) s₁ (s₁.write st (.order (cs m).uuid) (some order)) :=
    Extends.write (fun _ => rfl) _
  have hagrees : Agrees s₁.held st := h.held.symm ▸ agrees_empty st
  refine ⟨(s₁.write st (.order (cs m).uuid) (some order)).sync (.order (cs m).uuid) order,
    order, rfl,
    ⟨h.pending, hwrite.agrees hagrees,
    lookup_view_write_self .., fun l hl => (List.not_mem_nil hl).elim, fun k hk _ => ?_,
    fun l hl => ?_, fun k o ho => ?_, fun p hp => (List.not_mem_nil hp).elim, fun id _ => ?_,
    fun p hp => (List.not_mem_nil hp).elim, fun p hp => (List.not_mem_nil hp).elim, .nil⟩, ?_⟩
  · rw [view, sync_held]
    exact (lookup_view_write_ne st s₁ _ hk _).trans (by rw [hview])
  · rw [lookup_sync_ne _ _ (by simp), write_objects, hother _ (by simp)]
    exact hloaded l hl _ (hvalid l hl).found
  · rcases lookup_sync_cases ho with hdone | ⟨hk, hold⟩
    · exact Or.inl hdone
    · exact Or.inl (h.clean k o ((hother k hk).symm.trans hold))
  · rw [lookup_sync_ne _ _ (by simp), write_objects, hother _ (by simp)]
    exact h.others _ (by simp)
  · simp only [newOrder, Prog.bind_eq, Prog.bind_assoc]
    rw [exec_uuid4, exec_uuid4, exec_utcnow, exec_utcnow, exec_add _ hnone]
    simp only [Prog.pure_eq, Prog.bind]
    exact exec_flush_one (fun k o _ ho => h.clean k o ho) (by simp) hsend _

/-- The rows after the items of a filled order are sent. -/
lemma Filling.orderPlaced {orderId : UUID} {order : Order} {lines : List (CheckoutItem × Offer)}
    {placed : List (UUID × OrderItem)} {line m : ℕ} {s s' : AppSession} (hfresh : Fresh cs n st)
    (hid : ∃ m', n ≤ m' ∧ orderId = (cs m').uuid) (hbuyer : order.buyerId = buyerId)
    (h : Filling cs n st orderId order lines [] placed line m s)
    (hvalid : ∀ l ∈ lines, ValidLine st l.1 l.2)
    (hlines : List.Forall₂ (fun l p => PlacedAs orderId l.2 l.1.1 p.2) (lines.zipIdx 1) placed)
    (hflush : s.Flushes s') :
    OrderPlaced st (s'.view st) orderId buyerId (lines.map Prod.fst) placed := by
  obtain ⟨m', hm', rfl⟩ := hid
  have hkept : ∀ k, (∀ p ∈ placed, k ≠ .orderItem p.1) →
      (s'.view st).lookup k = (s.view st).lookup k :=
    fun k hk => hflush.view_kept (h.kept hk)
  have hsent : ∀ p ∈ placed, (s'.view st).lookup (.orderItem p.1) = some p.2 :=
    fun p hp => hflush.view_new (h.added p hp)
  refine ⟨⟨hfresh.order m' hm', fun p hp => ?_⟩, ⟨order, (hkept _ (by simp)).trans h.order, hbuyer⟩,
    List.pairwise_map.mpr (h.apart.imp fun hpq => hpq.1), ?_,
    fun id item => ⟨fun hitem => ?_, fun hp => ?_⟩,
    fun item hitem => ?_, fun k hk hp hl => ?_⟩
  · obtain ⟨m₁, hm₁, -, hp⟩ := h.drawn p hp
    rw [hp]
    exact hfresh.item m₁ hm₁
  · rw [List.zipIdx_map, List.forall₂_map_left_iff]
    exact hlines
  · by_cases hnew : ∃ p ∈ placed, id = p.1
    · obtain ⟨p, hp, rfl⟩ := hnew
      obtain rfl : p.2 = item := Option.some.inj ((hsent p hp).symm.trans hitem.1)
      exact hp
    · have hother : ∀ p ∈ placed, Key.orderItem id ≠ .orderItem p.1 :=
        fun p hp heq => hnew ⟨p, hp, by simpa using heq⟩
      have hold : Db.orderItem st id = some item :=
        ((hkept _ hother).trans (h.others _ (by simp) fun l _ => by simp)).symm.trans hitem.1
      exact absurd hitem.2 (hfresh.parent m' id item hm' hold)
  · exact ⟨hsent _ hp, (h.numbered _ hp).1⟩
  · obtain ⟨l, hl, rfl⟩ := List.mem_map.mp hitem
    exact ⟨l.2, (hvalid l hl).found, (hkept _ (by simp)).trans (h.offers l hl)⟩
  · rw [hkept k hp]
    exact h.others k hk fun l hl' => hl l.1 (List.mem_map_of_mem hl')

variable (log buyerId) in
/-- **A payload of valid lines goes through.** -/
lemma checkout_valid (hfresh : Fresh cs n st) (h : rejections st payload.items = []) :
    ∃ orderId placed,
      (exec cs (Prog.transaction (checkout buyerId payload)) n st log ∅).result = .ok orderId
      ∧ OrderPlaced st (exec cs (Prog.transaction (checkout buyerId payload)) n st log ∅).store
          orderId buyerId payload.items placed
      ∧ (exec cs (Prog.transaction (checkout buyerId payload)) n st log ∅).log
        = log ++ [.orderCreated orderId buyerId] := by
  suffices hexec : ∃ orderId placed st' n',
      exec cs (Prog.transaction (checkout buyerId payload)) n st log ∅
          = ⟨.ok orderId, st', log ++ [.orderCreated orderId buyerId], ∅, n'⟩
        ∧ OrderPlaced st st' orderId buyerId payload.items placed by
    obtain ⟨orderId, placed, st', n', hexec, hplaced⟩ := hexec
    rw [hexec]
    exact ⟨orderId, placed, rfl, hplaced, rfl⟩
  -- nothing is rejected, so the valid lines are the lines of the payload
  have hmap := validLines_map h
  have hvalid : ∀ l ∈ validLines st payload.items, ValidLine st l.1 l.2 := fun l => validLine_of_mem
  have hnodup : ((validLines st payload.items).map fun l => l.1.offerId).Nodup := by
    have hids := payload.unique_offer_ids
    rw [← hmap, List.map_map] at hids
    exact hids
  simp only [Prog.transaction, checkout, Prog.bind_eq, Prog.bind_assoc]
  -- the steps of `checkout` one after the other
  obtain ⟨m, s₁, hm, hs₁, hoffers, -, hexec₁⟩ :=
    exec_validateItems cs log loaded_empty n payload.items _
  rw [hexec₁, h, if_neg (by simp)]
  simp only [Prog.bind_assoc]
  have hloaded : ∀ l ∈ validLines st payload.items, HasOffer st s₁ l.1.offerId := by
    intro l hl
    exact hoffers l.1 (hmap ▸ List.mem_map_of_mem hl)
  obtain ⟨s₂, order, hbuyer, hs₂, hexec₂⟩ :=
    exec_newOrder log buyerId hfresh hm hs₁ hvalid hloaded _
  rw [hexec₂]
  obtain ⟨placed, n₃, s₃, hn₃, hlines, hs₃, hexec₃⟩ :=
    exec_consumeItems log hfresh (by omega) hs₂ hvalid hnodup _
  rw [hexec₃]
  have hid : ∃ m', n ≤ m' ∧ (cs m).uuid = (cs m').uuid := ⟨m, hm, rfl⟩
  obtain ⟨n₄, s₄, hflush, hclean, -, hexec₄⟩ :=
    exec_flush_inserts cs n₃ log (hs₃.inserts hfresh hid) hs₃.agrees _
  rw [hexec₄]
  have horder : (s₄.view st).lookup (.order (cs m).uuid) = some order :=
    (hflush.view_kept (hs₃.kept fun p _ => by simp)).trans hs₃.order
  rw [exec_refresh _ horder, exec_record]
  -- every change has been sent when the transaction commits
  have hdone : Session.Clean { s₄.sync (.order (cs m).uuid) order with
      pending := s₄.pending ++ [.orderCreated (cs m).uuid buyerId] } := by
    intro k o ho
    rcases lookup_sync_cases ho with hsame | ⟨-, hold⟩
    · exact hsame
    · exact hclean k o hold
  refine ⟨(cs m).uuid, placed, s₄.view st, n₄ + 1 + 1 + 1, ?_, ?_⟩
  · refine (exec_finish_clean hdone).trans ?_
    change (⟨_, _, log ++ (s₄.pending ++ _), _, _⟩ : Outcome Row Event DomainError UUID) = _
    rw [hflush.pending, hs₃.pending]
    rfl
  · have hplaced := hs₃.orderPlaced hfresh hid hbuyer hvalid hlines hflush
    rwa [List.nil_append, hmap] at hplaced

variable (cs n log buyerId) in
/-- **A payload with a refused line** is refused. -/
lemma checkout_refused (h : rejections st payload.items ≠ []) :
    ∃ n', exec cs (Prog.transaction (checkout buyerId payload)) n st log ∅
      = ⟨.error (.domain (.checkoutRejected (rejections st payload.items))), st, log, ∅, n'⟩ := by
  simp only [Prog.transaction, checkout, Prog.bind_eq, Prog.bind_assoc]
  obtain ⟨m, s₁, -, -, -, -, hexec⟩ := exec_validateItems cs log loaded_empty n payload.items _
  rw [hexec, if_pos h]
  exact ⟨m, rfl⟩

/-- **Checkout is exact and atomic.** A checkout that runs alone goes through exactly when every
line is valid. Then it has placed the order, and publishes that once; otherwise it reports the
refused lines and leaves the rows and the events as they are. -/
theorem checkout_exact (hfresh : Fresh cs n st) (log : List Event) (buyerId : UUID)
    (payload : CheckoutRequest) :
    ((∃ orderId, (exec cs (Prog.transaction (checkout buyerId payload)) n st log ∅).result
      = .ok orderId)
        ↔ ∀ item ∈ payload.items, ∃ offer, ValidLine st item offer)
      ∧ (∀ orderId,
        (exec cs (Prog.transaction (checkout buyerId payload)) n st log ∅).result = .ok orderId →
          (∃ placed, OrderPlaced st
            (exec cs (Prog.transaction (checkout buyerId payload)) n st log ∅).store
            orderId buyerId payload.items placed)
          ∧ (exec cs (Prog.transaction (checkout buyerId payload)) n st log ∅).log
            = log ++ [.orderCreated orderId buyerId])
      ∧ ∀ e, (exec cs (Prog.transaction (checkout buyerId payload)) n st log ∅).result = .error e →
        e = .domain (.checkoutRejected (rejections st payload.items))
          ∧ (exec cs (Prog.transaction (checkout buyerId payload)) n st log ∅).store = st
          ∧ (exec cs (Prog.transaction (checkout buyerId payload)) n st log ∅).log = log := by
  rw [← rejections_eq_nil]
  by_cases h : rejections st payload.items = []
  · obtain ⟨orderId, placed, hresult, hplaced, hlog⟩ :=
      checkout_valid log buyerId hfresh h
    refine ⟨iff_of_true ⟨orderId, hresult⟩ h, fun id hid => ?_, fun e he => ?_⟩
    · obtain rfl : orderId = id := Except.ok.inj (hresult.symm.trans hid)
      exact ⟨⟨placed, hplaced⟩, hlog⟩
    · cases hresult.symm.trans he
  · obtain ⟨n', hexec⟩ := checkout_refused cs n log buyerId h
    rw [hexec]
    refine ⟨iff_of_false (fun hok => ?_) h, fun id hid => ?_, fun e he => ?_⟩
    · obtain ⟨_, hok⟩ := hok
      cases hok
    · cases hid
    · cases he
      exact ⟨rfl, rfl, rfl⟩

/-- A shop with mugs and plates. -/
def tableShop : Db :=
  (mugShop.insert (.product 5) (⟨"Prato", none⟩ : Product)).insert (.offer 4)
  (⟨5, 1, 2000, 5, true⟩ : Offer)

/-- A checkout of a mug and a plate, or of a plate and a mug. -/
def tableCheckout (mugFirst : Bool) : CheckoutRequest where
  items :=
    if mugFirst then [⟨3, 1, ⟨[1, 0], 0, 0, ten_ne_nil⟩, le_rfl⟩,
      ⟨4, 1, ⟨[2, 0], 0, 0, by decide⟩, le_rfl⟩]
    else [⟨4, 1, ⟨[2, 0], 0, 0, by decide⟩, le_rfl⟩, ⟨3, 1, ⟨[1, 0], 0, 0, ten_ne_nil⟩, le_rfl⟩]
  items_ne_nil := by cases mugFirst <;> simp
  unique_offer_ids := by cases mugFirst <;> decide

/-- A mug and a plate are ordered, on the lines 1 and 2. -/
theorem checkout_exact_table :
    ∃ orderId placed, (exec (fun n => ⟨0, n + 100, false⟩)
        (Prog.transaction (checkout 7 (tableCheckout true))) 0 tableShop [] ∅).result = .ok orderId
      ∧ OrderPlaced tableShop (exec (fun n => ⟨0, n + 100, false⟩)
        (Prog.transaction (checkout 7 (tableCheckout true))) 0 tableShop [] ∅).store orderId 7
          (tableCheckout true).items placed
      ∧ placed.map (fun p => (p.2.line, p.2.offerId)) = [(1, 3), (2, 4)] := by
  have hfresh : Fresh (fun n => ⟨0, n + 100, false⟩) 0 tableShop := by
    have hnone : ∀ id, Db.order tableShop id = none ∧ Db.orderItem tableShop id
        = none := fun id => by
      simp [Db.order, Db.orderItem, tableShop, mugShop, AList.lookup_insert_ne, -AList.insert_empty]
    refine ⟨fun m m' _ _ h => Nat.add_right_cancel h, fun m _ => (hnone _).1,
      fun m _ => (hnone _).2,
      fun m id item _ hitem => ?_, fun m id order _ horder => ?_⟩
    · rw [(hnone id).2] at hitem
      cases hitem
    · rw [(hnone id).1] at horder
      cases horder
  obtain ⟨hiff, hok, -⟩ := checkout_exact hfresh [] 7 (tableCheckout true)
  have hvalid : ∀ item ∈ (tableCheckout true).items, ∃ offer, ValidLine tableShop item offer := by
    intro item hitem
    rcases List.mem_pair.mp hitem with rfl | rfl
    · exact ⟨⟨2, 1, 1000, 5, true⟩, by decide, rfl, by decide, by decide⟩
    · exact ⟨⟨5, 1, 2000, 5, true⟩, by decide, rfl, by decide, by decide⟩
  obtain ⟨orderId, hresult⟩ := hiff.mpr hvalid
  obtain ⟨⟨placed, hplaced⟩, -⟩ := hok orderId hresult
  refine ⟨orderId, placed, hresult, hplaced, ?_⟩
  -- one item for each of the two lines
  obtain ⟨mug, rest, hmug, hrest, rfl⟩ := List.forall₂_cons_left_iff.mp hplaced.numbered
  obtain ⟨plate, rest, hplate, hnil, rfl⟩ := List.forall₂_cons_left_iff.mp hrest
  obtain rfl := List.forall₂_nil_left_iff.mp hnil
  simp [hmug.line, hmug.offerId, hplate.line, hplate.offerId]

end Checkouts

end MarketHub
