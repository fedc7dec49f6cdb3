import MarketHub.Atomic
import MarketHub.Communication.Refusal
import MarketHub.ReadCommitted.Columns

/-!
The lines of the orders, and the rows they refer to.

* `Lined`: the items of an order have the lines `1..n`, each once. `InPlace`: every order is lined,
  and every item belongs to an order and to an offer that exist.
* `Booked`: what a checkout holds when it commits, one new order with its lines; `Maintains`: what
  every request makes of the rows that were there. An offer is deleted by a transaction that holds
  it, and a new line is committed by one that holds its offer, so neither misses the other
  (`bookOutline`).
* `orders_in_place`: all of this holds in every reachable state.
-/

namespace MarketHub

open ReadCommitted Session

/-! ### Orders and their lines -/

/-- The items of an order have the lines `1..n`, each once. -/
structure Lined (st : Db) (o : UUID) (n : ℕ) : Prop where
  pos : 1 ≤ n
  range : ∀ i r, Db.orderItem st i = some r → r.orderId = o → 1 ≤ r.line ∧ r.line ≤ n
  every : ∀ l, 1 ≤ l → l ≤ n → ∃ i r, Db.orderItem st i = some r ∧ r.orderId = o ∧ r.line = l
  once : ∀ i r i' r', Db.orderItem st i = some r → Db.orderItem st i' = some r' → r.orderId = o →
    r'.orderId = o → r.line = r'.line → i = i'

/-- Every order is lined, and every item belongs to an order and to an offer. -/
structure InPlace (st : Db) : Prop where
  order : ∀ i r, Db.orderItem st i = some r → (Db.order st r.orderId).isSome
  offer : ∀ i r, Db.orderItem st i = some r → (Db.offer st r.offerId).isSome
  lines : ∀ o r, Db.order st o = some r → ∃ n, Lined st o n

/-- Two rows of an item in the same place. -/
structure SameLine (r r' : OrderItem) : Prop where
  orderId : r'.orderId = r.orderId
  offerId : r'.offerId = r.offerId
  line : r'.line = r.line

lemma SameLine.refl (r : OrderItem) : SameLine r r := ⟨rfl, rfl, rfl⟩

/-- What a transaction makes of the rows that were there. An offer goes only when no item refers to
it, and only by a transaction that holds it. -/
structure Maintains (st : Db) (s : AppSession) : Prop where
  order : ∀ o r, Db.order st o = some r → Db.order (merge st s.held) o = some r
  item : ∀ i r, Db.orderItem st i = some r →
    ∃ r', Db.orderItem (merge st s.held) i = some r' ∧ SameLine r r'
  offer : ∀ o, (Db.offer st o).isSome → (Db.offer (merge st s.held) o).isSome
    ∨ s.held.lookup (.offer o) ≠ none ∧ ∀ i r,
      Db.orderItem (merge st s.held) i = some r → r.offerId ≠ o

/-- No order is new, and no item. -/
structure PlacesNone (st : Db) (s : AppSession) : Prop where
  order : ∀ o, Db.order st o = none → Db.order (merge st s.held) o = none
  item : ∀ i, Db.orderItem st i = none → Db.orderItem (merge st s.held) i = none

/-- A new order with its lines. -/
structure Places (st : Db) (s : AppSession) (o : UUID) (lines : List (UUID × OrderItem)) :
    Prop where
  unknown : Db.order st o = none
  order : ∀ o', o' ≠ o → Db.order st o' = none → Db.order (merge st s.held) o' = none
  item : ∀ i r, Db.orderItem (merge st s.held) i = some r →
    (∃ r', Db.orderItem st i = some r') ∨ (i, r) ∈ lines
  placed : ∀ p ∈ lines, Db.orderItem (merge st s.held) p.1 = some p.2
  unused : ∀ p ∈ lines, Db.orderItem st p.1 = none
  orderId : ∀ p ∈ lines, p.2.orderId = o
  numbered : lines.map (fun p => p.2.line) = List.range' 1 lines.length
  ne_nil : lines ≠ []
  offer : ∀ p ∈ lines, (Db.offer (merge st s.held) p.2.offerId).isSome
    ∧ s.held.lookup (.offer p.2.offerId) ≠ none
  exists_order : (Db.order (merge st s.held) o).isSome

/-- What a transaction makes of the orders. -/
structure Keeps (st : Db) (s : AppSession) : Prop where
  maintains : Maintains st s
  places : PlacesNone st s ∨ ∃ o lines, Places st s o lines

section Step

variable {st : Db} {s : AppSession}

/-- The line of an item that was there. -/
lemma Maintains.item_back (h : Maintains st s) {i : UUID} {r r' : OrderItem}
    (hr : Db.orderItem st i = some r) (hr' : Db.orderItem (merge st s.held) i = some r') :
    SameLine r r' := by
  obtain ⟨r'', hr'', hsame⟩ := h.item i r hr
  obtain rfl : r'' = r' := Option.some.inj (hr''.symm.trans hr')
  exact hsame

/-- An order whose items stay has the lines it had. -/
lemma Lined.maintained {o : UUID} {n : ℕ} (h : Lined st o n) (hm : Maintains st s)
    (hold : ∀ i r, Db.orderItem (merge st s.held) i = some r → r.orderId = o →
      ∃ r', Db.orderItem st i = some r') : Lined (merge st s.held) o n := by
  have hback : ∀ i r, Db.orderItem (merge st s.held) i = some r → r.orderId = o →
      ∃ r', Db.orderItem st i = some r' ∧ r'.orderId = o ∧ r'.line = r.line := by
    intro i r hr ho
    obtain ⟨r', hr'⟩ := hold i r hr ho
    have hsame := hm.item_back hr' hr
    exact ⟨r', hr', hsame.orderId.symm.trans ho, hsame.line.symm⟩
  refine ⟨h.pos, fun i r hr ho => ?_, fun l hl hn => ?_, fun i r i' r' hr hr' ho ho' hline => ?_⟩
  · obtain ⟨r', hr', ho', hline⟩ := hback i r hr ho
    rw [← hline]
    exact h.range i r' hr' ho'
  · obtain ⟨i, r, hr, ho, hline⟩ := h.every l hl hn
    obtain ⟨r', hr', hsame⟩ := hm.item i r hr
    exact ⟨i, r', hr', hsame.orderId.trans ho, hsame.line.trans hline⟩
  · obtain ⟨b, hb, hbo, hbl⟩ := hback i r hr ho
    obtain ⟨b', hb', hbo', hbl'⟩ := hback i' r' hr' ho'
    exact h.once i b i' b' hb hb' hbo hbo' (by rw [hbl, hbl', hline])

/-- The lines of a new order. -/
lemma Places.lined {o : UUID} {lines : List (UUID × OrderItem)} (h : Places st s o lines)
    (hnone : ∀ i r, Db.orderItem (merge st s.held) i = some r → r.orderId = o →
      Db.orderItem st i = none) : Lined (merge st s.held) o lines.length := by
  have hmem : ∀ i r, Db.orderItem (merge st s.held) i = some r → r.orderId = o →
      (i, r) ∈ lines := by
    intro i r hr ho
    rcases h.item i r hr with ⟨r', hr'⟩ | hnew
    · rw [hnone i r hr ho] at hr'
      cases hr'
    · exact hnew
  have hline : ∀ p ∈ lines, p.2.line ∈ List.range' 1 lines.length := fun p hp => by
    rw [← h.numbered]
    exact List.mem_map_of_mem hp
  refine ⟨List.length_pos_iff.mpr h.ne_nil, fun i r hr ho => ?_, fun l hl hn => ?_,
    fun i r i' r' hr hr' ho ho' heq => ?_⟩
  · have hrange : 1 ≤ r.line ∧ r.line < 1 + lines.length :=
      List.mem_range'_1.mp (hline _ (hmem i r hr ho))
    omega
  · have hl' : l ∈ lines.map fun p => p.2.line := by
      rw [h.numbered, List.mem_range'_1]
      omega
    obtain ⟨p, hp, hpl⟩ := List.mem_map.mp hl'
    exact ⟨p.1, p.2, h.placed p hp, h.orderId p hp, hpl⟩
  · have hnodup : (lines.map fun p => p.2.line).Nodup := by
      rw [h.numbered]
      exact List.nodup_range'
    have heq' : (i, r) = (i', r') :=
      List.inj_on_of_nodup_map hnodup (hmem i r hr ho) (hmem i' r' hr' ho') heq
    exact congrArg Prod.fst heq'

/-- **A commit leaves everything in its place.** -/
theorem InPlace.commit (h : InPlace st) (hk : Keeps st s) : InPlace (merge st s.held) := by
  obtain ⟨hm, hplaces⟩ := hk
  -- an item that was there keeps its order and its offer
  have hold : ∀ i r b, Db.orderItem st i = some b → Db.orderItem (merge st s.held) i = some r →
      (Db.order (merge st s.held) r.orderId).isSome
        ∧ (Db.offer (merge st s.held) r.offerId).isSome := by
    intro i r b hb hr
    have hsame := hm.item_back hb hr
    refine ⟨?_, ?_⟩
    · obtain ⟨order, horder⟩ := Option.isSome_iff_exists.mp (h.order i b hb)
      rw [hsame.orderId, hm.order _ order horder]
      rfl
    · rcases hm.offer _ (h.offer i b hb) with hstays | ⟨-, hgone⟩
      · rwa [hsame.offerId]
      · exact absurd hsame.offerId (hgone i r hr)
  -- the transaction places no order, or one
  rcases hplaces with hnone | ⟨o, lines, hp⟩
  · have hitem : ∀ i r, Db.orderItem (merge st s.held) i = some r → ∃ b,
        Db.orderItem st i = some b := by
      intro i r hr
      cases hb : Db.orderItem st i with
      | some b => exact ⟨b, rfl⟩
      | none =>
          rw [hnone.item i hb] at hr
          cases hr
    refine ⟨fun i r hr => ?_, fun i r hr => ?_, fun o r hr => ?_⟩
    · obtain ⟨b, hb⟩ := hitem i r hr
      exact (hold i r b hb hr).1
    · obtain ⟨b, hb⟩ := hitem i r hr
      exact (hold i r b hb hr).2
    · cases hb : Db.order st o with
      | none =>
          rw [hnone.order o hb] at hr
          cases hr
      | some b =>
          obtain ⟨n, hn⟩ := h.lines o b hb
          exact ⟨n, hn.maintained hm fun i r hr _ => hitem i r hr⟩
  · refine ⟨fun i r hr => ?_, fun i r hr => ?_, fun o' r hr => ?_⟩
    · rcases hp.item i r hr with ⟨b, hb⟩ | hnew
      · exact (hold i r b hb hr).1
      · rw [hp.orderId _ hnew]
        exact hp.exists_order
    · rcases hp.item i r hr with ⟨b, hb⟩ | hnew
      · exact (hold i r b hb hr).2
      · exact (hp.offer _ hnew).1
    · by_cases ho : o' = o
      · subst ho
        refine ⟨_, hp.lined fun i r hr ho => ?_⟩
        -- an item that was there belongs to an order that was there
        cases hb : Db.orderItem st i with
        | none => rfl
        | some b =>
            have horder := h.order i b hb
            rw [← (hm.item_back hb hr).orderId, ho, hp.unknown] at horder
            cases horder
      · cases hb : Db.order st o' with
        | none =>
            rw [hp.order o' ho hb] at hr
            cases hr
        | some b =>
            obtain ⟨n, hn⟩ := h.lines o' b hb
            refine ⟨n, hn.maintained hm fun i r hr hro => ?_⟩
            rcases hp.item i r hr with hold | hnew
            · exact hold
            · exact absurd ((hp.orderId _ hnew).symm.trans hro).symm ho

/-- What an open session relies on: no new item of an offer that it holds. -/
def NoNewLines (s : AppSession) (st st' : Db) : Prop :=
  ∀ i r, Db.orderItem st' i = some r → s.held.lookup (.offer r.offerId) ≠ none →
    ∃ b, Db.orderItem st i = some b ∧ b.offerId = r.offerId

/-- The assumptions and obligations of the orders. -/
def bookOutline : Outline Row Event where
  inv st _ := InPlace st
  rely := NoNewLines
  commit := Keeps
  rely_refl _ _ := fun i r hr _ => ⟨r, hr, rfl⟩
  rely_trans {s st st' st''} h h' := by
    intro i r hr hheld
    obtain ⟨b, hb, hoffer⟩ := h' i r hr hheld
    obtain ⟨b', hb', hoffer'⟩ := h i b hb (by rwa [hoffer])
    exact ⟨b', hb', hoffer'.trans hoffer⟩

lemma bookOutline_sound : bookOutline.Sound where
  keeps _ _ _ hinv _ hcommit := hinv.commit hcommit
  relied st log s u _ _ _ hapart hcommit := by
    intro i r hr hheld
    cases hb : Db.orderItem st i with
    | some b => exact ⟨b, rfl, (hcommit.maintains.item_back hb hr).offerId.symm⟩
    | none =>
        -- a new item is committed by the transaction that holds its offer
        rcases hcommit.places with hnone | ⟨o, lines, hp⟩
        · rw [hnone.item i hb] at hr
          cases hr
        · rcases hp.item i r hr with ⟨b, hb'⟩ | hnew
          · rw [hb] at hb'
            cases hb'
          · exact absurd ((hapart _).resolve_left (hp.offer _ hnew).2) hheld

end Step

/-! ### Checkouts -/

section Checkouts

variable {α : Type} {st : Db} {s s' : AppSession} {o : Outline Row Event}
  {post : α → Db → AppSession → Prop} {orderId : UUID} {lines : List (UUID × OrderItem)}

/-- A session that has loaded offers, and nothing else. -/
structure Looking (s : AppSession) : Prop where
  held : ∀ k, s.held.lookup k = none
  clean : s.Clean
  item : ∀ i, s.objects.lookup (.orderItem i) = none

lemma looking_empty : Looking ∅ where
  held k := by
    change (∅ : AList (Held Row)).lookup k = none
    simp
  clean := clean_empty
  item i := by
    change (∅ : AList (Obj Row)).lookup (.orderItem i) = none
    simp

lemma Looking.load (h : Looking s) (v : Db) (id : UUID) : Looking (s.load v (.offer id)) where
  held k := by
    rw [load_held]
    exact h.held k
  clean := Clean.load v h.clean
  item i := by
    have hne : Key.orderItem i ≠ .offer id := by simp
    rw [lookup_load_ne v s (.offer id) hne]
    exact h.item i

/-- A line is validated: without a problem there is an offer. -/
lemma wp_validateItem_looking {item : CheckoutItem}
    {f : Option Offer × Option CheckoutRejectedItem → Txn α} (hs : Looking s)
    (h : ∀ st' s' r, Looking s' → (r.2 = none → r.1.isSome) → wp o (f r) post st' s') :
    wp o ((validateItem item).bind f) post st s := by
  have hanswer : ∀ (offer : Offer) st' s', Looking s' →
      wp o ((if !offer.available then
          (.pure (some offer, some (rejection item .unavailable offer)) : Txn _)
        else if offer.stock < item.quantity then
          .pure (some offer, some (rejection item .insufficientStock offer))
        else if offer.price ≠ item.expectedPrice.decimal then
          .pure (some offer, some (rejection item .priceChanged offer))
        else .pure (some offer, none)).bind f) post st' s' := by
    intro offer st' s' hs'
    split_ifs <;> exact h _ _ _ hs' fun _ => rfl
  rw [validateItem, Prog.bind_eq, Prog.bind_assoc]
  exact wp_get (fun st' _ _ _ => h st' s _ hs fun hnone => by cases hnone)
    (fun st' ob _ _ => hanswer ob.cur st' s hs)
    (fun st' r _ _ _ => hanswer r st' _ (hs.load _ _))

/-- The lines are validated: without a problem there is one for every line of the request. -/
lemma wp_validateItems_looking {items : List CheckoutItem}
    {f : List CheckoutRejectedItem × List (CheckoutItem × Offer) → Txn α} (hs : Looking s)
    (h : ∀ st' s' r, Looking s' → (r.1 = [] → r.2.length = items.length) → wp o (f r) post st' s') :
    wp o ((validateItems items).bind f) post st s := by
  induction items generalizing f st s with
  | nil => exact h _ _ _ hs fun _ => rfl
  | cons item items ih =>
      rw [validateItems, Prog.bind_eq, Prog.bind_assoc]
      refine wp_validateItem_looking hs fun st₁ s₁ r hs₁ hr => ?_
      obtain ⟨offer, problem⟩ := r
      simp only [Prog.bind_eq, Prog.bind_assoc]
      refine ih hs₁ fun st₂ s₂ r hs₂ hlength => ?_
      obtain ⟨problems, validItems⟩ := r
      cases problem with
      | some problem => exact h _ _ _ hs₂ fun hnil => by cases hnil
      | none =>
          obtain ⟨offer, rfl⟩ := Option.isSome_iff_exists.mp (hr rfl)
          exact h _ _ _ hs₂ fun hnil => congrArg (· + 1) (hlength hnil)

/-- A checkout between two of its lines. -/
structure Booking (orderId : UUID) (lines : List (UUID × OrderItem)) (s : AppSession) : Prop where
  order : ∃ r, s.held.lookup (.order orderId) = some ⟨none, some r⟩
  orders : ∀ id, id ≠ orderId → s.held.lookup (.order id) = none
  items : ∀ i, s.held.lookup (.orderItem i) = none
  clean : ∀ k ob, s.objects.lookup k = some ob → (∀ i, k ≠ .orderItem i) → ob.loaded = some ob.cur
  fresh : ∀ i ob, s.objects.lookup (.orderItem i) = some ob → ob.loaded = none ∧ (i, ob.cur) ∈ lines
  objects : ∀ p ∈ lines, s.objects.lookup (.orderItem p.1) = some ⟨none, p.2⟩
  orderId : ∀ p ∈ lines, p.2.orderId = orderId
  numbered : lines.map (fun p => p.2.line) = List.range' 1 lines.length
  offer : ∀ p ∈ lines, s.held.lookup (.offer p.2.offerId) ≠ none
  offers : ∀ id h, s.held.lookup (.offer id) = some h → h.cur ≠ none

/-- An offer is consumed. -/
lemma Booking.consume (h : Booking orderId lines s) (st : Db) (id : UUID) (r : Offer)
    (m : Offer → Bool) (u : Offer → Offer) :
    Booking orderId lines ((s.write st (.offer id) (some r)).follow (.offer id) m u)
      ∧ ((s.write st (.offer id) (some r)).follow (.offer id) m u).held.lookup
        (.offer id) ≠ none := by
  -- the update writes the offer, and follows its object only
  have hheld : ∀ k : Key, k ≠ .offer id →
      ((s.write st (.offer id) (some r)).follow (.offer id) m u).held.lookup k
        = s.held.lookup k := by
    intro k hk
    rw [follow_held, lookup_write_ne st s _ hk]
  have hself : ∃ hd, ((s.write st (.offer id) (some r)).follow (.offer id) m u).held.lookup
      (.offer id) = some hd ∧ hd.cur ≠ none := by
    rw [follow_held, lookup_write_self]
    exact ⟨_, rfl, Option.some_ne_none _⟩
  have hobjects : ∀ k ob, ((s.write st (.offer id) (some r)).follow
      (.offer id) m u).objects.lookup k
      = some ob → ob.loaded = some ob.cur ∨ s.objects.lookup k = some ob := fun k ob hob =>
    lookup_follow_cases (s := s.write st (.offer id) (some r)) hob
  have hitem : ∀ i, ((s.write st (.offer id) (some r)).follow (.offer id) m u).objects.lookup
      (.orderItem i) = s.objects.lookup (.orderItem i) := by
    intro i
    have hne : Key.orderItem i ≠ .offer id := by simp
    rw [lookup_follow_ne hne, write_objects]
  refine ⟨⟨?_, fun id' hid => ?_, fun i => ?_, fun k ob hob hk => ?_, fun i ob hob => ?_,
    fun p hp => ?_,
    h.orderId, h.numbered, fun p hp => ?_, fun id' hd hid => ?_⟩, ?_⟩
  · rw [hheld _ (by simp)]
    exact h.order
  · rw [hheld _ (by simp)]
    exact h.orders id' hid
  · rw [hheld _ (by simp)]
    exact h.items i
  · exact (hobjects k ob hob).elim (fun hclean => hclean) fun hold => h.clean k ob hold hk
  · rw [hitem] at hob
    exact h.fresh i ob hob
  · rw [hitem]
    exact h.objects p hp
  · by_cases hid : p.2.offerId = id
    · obtain ⟨hd, hhd, -⟩ := hself
      rw [hid, hhd]
      exact Option.some_ne_none hd
    · rw [hheld _ (by simpa using hid)]
      exact h.offer p hp
  · by_cases heq : id' = id
    · subst heq
      obtain ⟨hd', hhd, hcur⟩ := hself
      obtain rfl : hd' = hd := Option.some.inj (hhd.symm.trans hid)
      exact hcur
    · rw [hheld _ (by simpa using heq)] at hid
      exact h.offers id' hd hid
  · obtain ⟨hd, hhd, -⟩ := hself
    rw [hhd]
    exact Option.some_ne_none hd

/-- The next line. -/
lemma Booking.add (h : Booking orderId lines s) {i : UUID} {r : OrderItem}
    (hnone : s.objects.lookup (.orderItem i) = none) (horder : r.orderId = orderId)
    (hline : r.line = lines.length + 1) (hoffer : s.held.lookup (.offer r.offerId) ≠ none) :
    Booking orderId (lines ++ [(i, r)])
      { s with objects := s.objects.insert (.orderItem i) ⟨none, r⟩ } := by
  have hmem : ∀ {q : UUID × OrderItem → Prop}, (∀ p ∈ lines, q p) → q (i, r) →
      ∀ p ∈ lines ++ [(i, r)], q p := by
    intro q hq hlast p hp
    rcases List.mem_append.mp hp with hold | hnew
    · exact hq p hold
    · rw [List.mem_singleton.mp hnew]
      exact hlast
  refine ⟨h.order, h.orders, h.items, fun k ob hob hk => ?_, fun i' ob hob => ?_,
    hmem (fun p hp => ?_) ?_,
    hmem h.orderId horder, ?_, hmem h.offer hoffer, h.offers⟩
  · rw [AList.lookup_insert_ne (hk i)] at hob
    exact h.clean k ob hob hk
  · by_cases hi : i' = i
    · subst hi
      rw [AList.lookup_insert] at hob
      cases hob
      exact ⟨rfl, List.mem_append_right _ (List.mem_singleton_self _)⟩
    · rw [AList.lookup_insert_ne (by simpa using hi)] at hob
      exact ⟨(h.fresh i' ob hob).1, List.mem_append_left _ (h.fresh i' ob hob).2⟩
  · have hne : p.1 ≠ i := by
      rintro rfl
      rw [h.objects p hp] at hnone
      cases hnone
    rw [AList.lookup_insert_ne (by simpa using hne)]
    exact h.objects p hp
  · exact AList.lookup_insert _
  · rw [List.map_append, h.numbered, List.length_append, List.length_singleton,
      List.range'_concat]
    simp [hline, Nat.add_comm]

/-- The lines are consumed. -/
lemma wp_consumeItems_booking {line : ℕ} {validItems : List (CheckoutItem × Offer)}
    {f : Unit → Txn α} (hs : Booking orderId lines s) (hline : line = lines.length + 1)
    (h : ∀ st' s' lines', Booking orderId lines' s' →
      lines'.length = lines.length + validItems.length → wp o (f ()) post st' s') :
    wp o ((consumeItems orderId line validItems).bind f) post st s := by
  induction validItems generalizing line lines st s with
  | nil => exact h st s lines hs rfl
  | cons validItem validItems ih =>
      obtain ⟨item, offer⟩ := validItem
      simp only [consumeItems, Prog.bind_eq, Prog.bind_assoc]
      refine wp_update (fun st₁ _ _ => ?_) fun st₁ r _ hr hm => ?_
      · -- the checkout is rejected
        exact wp_refresh fun _ _ _ _ _ _ _ _ _ _ _ _ => trivial
      · obtain ⟨hbooking, hoffer⟩ := hs.consume st₁ item.offerId
          { r with stock := r.stock - item.quantity }
          (fun offer : Offer => item.quantity ≤ offer.stock && offer.available)
          (fun offer : Offer => { offer with stock := offer.stock - item.quantity })
        simp only [newOrderItem, Prog.bind_eq, Prog.bind_assoc]
        refine wp_uuid4 fun _ i _ => wp_utcnow fun _ createdAt _ _ =>
          wp_utcnow fun _ updatedAt _ _ =>
          wp_utcnow fun _ statusUpdatedAt _ _ => wp_add fun st₂ _ hnone => ?_
        refine ih (hbooking.add hnone rfl hline hoffer) ?_ fun st' s' lines' hs' hlength => ?_
        · rw [hline, List.length_append, List.length_singleton]
        · refine h st' s' lines' hs' ?_
          rw [hlength, List.length_append, List.length_singleton, List.length_cons]
          omega

/-- The order is new. -/
lemma wp_newOrder_booking {buyerId : UUID} {f : UUID → Txn α} (hs : Looking s)
    (h : ∀ st' s' id, Booking id [] s' → wp o (f id) post st' s') :
    wp o ((newOrder buyerId).bind fun id => Prog.flush.bind fun _ => f id) post st s := by
  simp only [newOrder, Prog.bind_eq, Prog.pure_eq, Prog.bind_assoc]
  refine wp_uuid4 fun _ id _ => wp_uuid4 fun _ number _ => wp_utcnow fun _ createdAt _ _ =>
    wp_utcnow fun _ updatedAt _ _ => wp_add fun st₁ _ hnone => ?_
  refine wp_flush_exact (fun _ _ => True) (fun _ => trivial) (fun _ _ _ _ _ => trivial)
    (fun _ _ _ _ => trivial) fun st₂ s₂ _ hflush hclean => h st₂ s₂ id ?_
  have hother : ∀ k : Key, k ≠ .order id → s₂.held.lookup k = none
      ∧ s₂.objects.lookup k = s.objects.lookup k := by
    intro k hk
    obtain ⟨hheld, hobj⟩ := hflush.kept_of_insert hs.clean hk
    exact ⟨hheld.trans (hs.held k), hobj⟩
  have hsent := hflush.inserted_free (k := .order id) (AList.lookup_insert _) (hs.held _)
  refine ⟨⟨_, hsent⟩, fun id' hid => (hother _ (by simpa using hid)).1,
    fun i => (hother _ (by simp)).1,
    fun k ob hob _ => hclean k ob hob, fun i ob hob => ?_, by simp, by simp, rfl, by simp,
    fun id' hd' hid => ?_⟩
  · rw [(hother _ (by simp)).2, hs.item] at hob
    cases hob
  · rw [(hother _ (by simp)).1] at hid
    cases hid

/-- What a checkout holds at its end. -/
structure Booked (orderId : UUID) (lines : List (UUID × OrderItem)) (s : AppSession) : Prop where
  order : ∃ r, s.held.lookup (.order orderId) = some ⟨none, some r⟩
  orders : ∀ id, id ≠ orderId → s.held.lookup (.order id) = none
  placed : ∀ p ∈ lines, s.held.lookup (.orderItem p.1) = some ⟨none, some p.2⟩
  items : ∀ i, s.held.lookup (.orderItem i) = none ∨ ∃ r, (i, r) ∈ lines
  orderId : ∀ p ∈ lines, p.2.orderId = orderId
  numbered : lines.map (fun p => p.2.line) = List.range' 1 lines.length
  offer : ∀ p ∈ lines, s.held.lookup (.offer p.2.offerId) ≠ none
  offers : ∀ id h, s.held.lookup (.offer id) = some h → h.cur ≠ none

lemma Booked.of_held_eq (h : Booked orderId lines s) (heq : s'.held = s.held) :
    Booked orderId lines s' := by
  refine ⟨?_, fun id hid => ?_, fun p hp => ?_, fun i => ?_, h.orderId, h.numbered, fun p hp => ?_,
    fun id hd hid => ?_⟩
  · rw [heq]
    exact h.order
  · rw [heq]
    exact h.orders id hid
  · rw [heq]
    exact h.placed p hp
  · rw [heq]
    exact h.items i
  · rw [heq]
    exact h.offer p hp
  · rw [heq] at hid
    exact h.offers id hd hid

/-- The lines are sent. -/
lemma Booking.flushed (h : Booking orderId lines s) (hflush : s.Flushes s') :
    Booked orderId lines s' := by
  have hkept : ∀ k : Key, (∀ i, k ≠ .orderItem i) →
      s'.held.lookup k = s.held.lookup k := fun k hk =>
    (hflush.kept k fun ob hob => h.clean k ob hob hk).1
  refine ⟨?_, fun id hid => ?_, fun p hp => ?_, fun i => ?_, h.orderId, h.numbered, fun p hp => ?_,
    fun id hd hid => ?_⟩
  · rw [hkept _ (by simp)]
    exact h.order
  · rw [hkept _ (by simp)]
    exact h.orders id hid
  · exact hflush.inserted_free (h.objects p hp) (h.items p.1)
  · cases hob : s.objects.lookup (.orderItem i) with
    | some ob => exact .inr ⟨ob.cur, (h.fresh i ob hob).2⟩
    | none =>
        refine .inl ?_
        rw [(hflush.kept _ fun ob hob' => by rw [hob] at hob'; cases hob').1]
        exact h.items i
  · rw [hkept _ (by simp)]
    exact h.offer p hp
  · rw [hkept _ (by simp)] at hid
    exact h.offers id hd hid

/-- What the commit of a checkout makes of the orders and items. -/
lemma Booked.places (h : Booked orderId lines s) (hag : Agrees s.held st) (hne : lines ≠ []) :
    Places st s orderId lines := by
  obtain ⟨r, hr⟩ := h.order
  refine ⟨hag _ _ hr, fun o ho hnone => ?_, fun i b hb => ?_, fun p hp => ?_, fun p hp => ?_,
    h.orderId, h.numbered, hne, fun p hp => ?_, ?_⟩
  · rw [Db.order, lookup_merge_of_not_held (h.orders o ho)]
    exact hnone
  · rcases h.items i with hfree | ⟨b', hmem⟩
    · rw [Db.orderItem, lookup_merge_of_not_held hfree] at hb
      exact .inl ⟨b, hb⟩
    · rw [Db.orderItem, lookup_merge_of_held (h.placed _ hmem)] at hb
      cases hb
      exact .inr hmem
  · rw [Db.orderItem, lookup_merge_of_held (h.placed p hp)]
  · exact hag _ _ (h.placed p hp)
  · obtain ⟨hd, hhd⟩ := Option.ne_none_iff_exists'.mp (h.offer p hp)
    refine ⟨?_, h.offer p hp⟩
    rw [Db.offer, lookup_merge_of_held hhd]
    exact Option.isSome_iff_ne_none.mpr (h.offers _ hd hhd)
  · rw [Db.order, lookup_merge_of_held hr]
    rfl

/-- **What a checkout commits.** -/
lemma Booked.keeps (h : Booked orderId lines s) (hag : Agrees s.held st) (hne : lines ≠ []) :
    Keeps st s := by
  refine ⟨⟨fun o r hr => ?_, fun i r hr => ⟨r, ?_, .refl r⟩, fun o ho => .inl ?_⟩,
    .inr ⟨_, _, h.places hag hne⟩⟩
  · by_cases ho : o = orderId
    · subst ho
      obtain ⟨b, hb⟩ := h.order
      rw [Db.order, hag _ _ hb] at hr
      cases hr
    · rw [Db.order, lookup_merge_of_not_held (h.orders o ho)]
      exact hr
  · rcases h.items i with hfree | ⟨b, hmem⟩
    · rw [Db.orderItem, lookup_merge_of_not_held hfree]
      exact hr
    · rw [Db.orderItem, hag _ _ (h.placed _ hmem)] at hr
      cases hr
  · cases hk : s.held.lookup (.offer o) with
    | none =>
        rw [Db.offer, lookup_merge_of_not_held hk]
        exact ho
    | some hd =>
        rw [Db.offer, lookup_merge_of_held hk]
        exact Option.isSome_iff_ne_none.mpr (h.offers o hd hk)

/-- **A checkout books its lines.** -/
theorem wp_createOrder_booked (payload : CheckoutRequest) (buyer : CurrentUser)
    {post : Unit → Db → AppSession → Prop}
    (hcommit : ∀ st s, Keeps st s → o.commit st s)
    (hpost : ∀ st s, post () st s) :
    wp o (OrderRequest.createOrder payload buyer).run post st ∅ := by
  simp only [OrderRequest.run, Prog.transaction, createOrder, checkout, Prog.bind_eq, Prog.pure_eq,
    Prog.bind_assoc, requireBuyer]
  split
  · refine wp_validateItems_looking looking_empty fun st₁ s₁ r hs₁ hlength => ?_
    obtain ⟨problems, validItems⟩ := r
    dsimp only
    split
    · trivial
    · rename_i hnil
      simp only [Prog.bind_assoc]
      refine wp_newOrder_booking hs₁ fun st₂ s₂ orderId hs₂ => ?_
      refine wp_consumeItems_booking hs₂ rfl fun st₃ s₃ lines hs₃ hcount => ?_
      have hne : lines ≠ [] := by
        rw [← List.length_pos_iff, hcount, hlength (not_not.mp hnil), List.length_nil, Nat.zero_add]
        exact List.length_pos_iff.mpr payload.items_ne_nil
      refine wp_flush_exact (fun _ _ => True) (fun _ => trivial) (fun _ _ _ _ _ => trivial)
        (fun _ _ _ _ => trivial) fun st₄ s₄ _ hflush hclean => ?_
      have hbooked := hs₃.flushed hflush
      refine wp_refresh fun st₅ r _ _ => wp_record fun st₆ _ => wp_select fun st₇ _ =>
        wp_attrs fun st₈ _ => wp_loadOr fun order _ => ?_
      have hclean' : ∀ events : List Event,
          Clean { s₄.sync (.order orderId) r with pending := events } :=
        fun _ => hclean.sync r
      refine wp_transaction_clean ((hclean' _).loads _ _) fun st₉ hf =>
        ⟨?_, fun st' _ => hpost st' _⟩
      refine hcommit st₉ _ (Booked.keeps (hbooked.of_held_eq ?_) hf.agrees hne)
      rw [foldl_load_held]
      rfl
  · trivial

end Checkouts

/-! ### Other requests -/

section Others

variable {α : Type} {st : Db} {s : AppSession} {settings : Settings}

/-- A commit that leaves the orders, the items and the offers alone. -/
lemma keeps_of_kept {F : Key → Prop} (h : Kept F st s) (horder : ∀ o, ¬ F (.order o))
    (hitem : ∀ i, ¬ F (.orderItem i)) (hoffer : ∀ o, (Db.offer st o).isSome →
      (Db.offer (merge st s.held) o).isSome ∨ s.held.lookup (.offer o) ≠ none
        ∧ ∀ i r, Db.orderItem (merge st s.held) i = some r → r.offerId ≠ o) : Keeps st s where
  maintains :=
    { order := fun o _ hr => (h (.order o) (horder o)).trans hr
      item := fun i r hr => ⟨r, (h (.orderItem i) (hitem i)).trans hr, .refl r⟩
      offer := hoffer }
  places := .inl
    { order := fun o hnone => (h (.order o) (horder o)).trans hnone
      item := fun i hnone => (h (.orderItem i) (hitem i)).trans hnone }

/-- A request that writes neither orders nor items nor offers. -/
lemma wp_keeps_elsewhere {F : Key → Prop} {p : Txn Unit} (hp : p.AllOps (Op.within F))
    (horder : ∀ o, ¬ F (.order o)) (hitem : ∀ i, ¬ F (.orderItem i))
    (hoffer : ∀ o, ¬ F (.offer o)) :
    wp bookOutline p (fun _ _ _ => True) st ∅ :=
  wp_within hp (fun _ _ _ hkept => keeps_of_kept hkept horder hitem fun o ho =>
    .inl (by rwa [Db.offer, hkept (.offer o) (hoffer o)])) fun _ _ _ => trivial

/-- The offers. -/
def isOffer (k : Key) : Prop := ∃ o, k = .offer o

/-- No offer is deleted. -/
def OffersStay (st : Db) (s : AppSession) : Prop :=
  ∀ k, isOffer k → st.lookup k ≠ none → (merge st s.held).lookup k ≠ none

lemma OffersStay.isSome (h : OffersStay st s) {o : UUID} (ho : (Db.offer st o).isSome) :
    (Db.offer (merge st s.held) o).isSome :=
  Option.isSome_iff_ne_none.mpr (h (.offer o) ⟨o, rfl⟩ (Option.isSome_iff_ne_none.mp ho))

/-- A request to the catalogue that deletes nothing. -/
lemma wp_keeps_catalog {p : Txn Unit} (hp : p.AllOps (Op.within catalogTables))
    (hlasts : p.AllOps (Op.lasts isOffer)) : wp bookOutline p (fun _ _ _ => True) st ∅ := by
  have hkept : wp { bookOutline with commit := Kept catalogTables } p (fun _ _ _ => True) st ∅ :=
    wp_within hp (fun _ _ _ h => h) fun _ _ _ => trivial
  have hstay : wp { bookOutline with commit := OffersStay } p (fun _ _ _ => True) st ∅ :=
    wp_lasts hlasts (fun _ _ h => h) st
  exact wp_commit_mono (fun st s h => keeps_of_kept h.1 (fun _ h => h) (fun _ h => h)
    fun o ho => .inl (h.2.isSome ho)) (wp_and (o := bookOutline) hkept hstay)

/-- A `DELETE` of one row. -/
lemma wp_delete {o : Outline Row Event} {post : α → Db → AppSession → Prop} {k : Key}
    {referenced : Db → Bool} {f : Bool → Txn α}
    (hno : ∀ st', o.Finds s st st' → wp o (f false) post st' s)
    (hyes : ∀ st', o.Finds s st st' → referenced (s.view st') = false →
      wp o (f true) post st' { s.write st' k none with objects := s.objects.erase k }) :
    wp o ((Prog.delete k referenced).bind f) post st s := by
  intro st' hf c busy b s' he hg
  rcases eval_delete he with ⟨rfl, rfl, -⟩ | ⟨rfl, hfree, rfl⟩
  · exact hno st' hf
  · exact hyes st' hf hfree

lemma wp_requireOwnedOffer {o : Outline Row Event} {post : α → Db → AppSession → Prop}
    {offer : Option Offer} {sellerId : UUID} {f : Offer → Txn α}
    (h : ∀ r, wp o (f r) post st s) :
    wp o ((requireOwnedOffer offer sellerId).bind f) post st s := by
  cases offer with
  | none => trivial
  | some offer =>
      rw [requireOwnedOffer]
      split
      · exact h _
      · trivial

/-- **An offer is deleted** that no item refers to, and none does until the commit. -/
lemma wp_deleteOffer_keeps (offerId : UUID) (seller : CurrentUser) :
    wp bookOutline (Prog.transaction (deleteOffer offerId seller)) (fun _ _ _ => True) st ∅ := by
  -- the delete and the commit, wherever the offer was loaded
  have hend : ∀ st s, Looking s → wp bookOutline ((Prog.delete (.offer offerId) fun v =>
      (Db.orderItems v).any fun item => item.2.offerId == offerId).bind fun deleted =>
        Prog.bind (if deleted then .pure () else Prog.throw (.resourceInUse
          "Offer has associated order items")) fun a => Prog.flush.bind fun _ =>
            (.commit (.publish (.pure a)) : Txn Unit)) (fun _ _ _ => True) st s := by
    intro st s hs
    refine wp_delete (fun _ _ => trivial) fun st₁ hf₁ href => ?_
    have hheld : ∀ k : Key, k ≠ .offer offerId → (s.write st₁ (.offer offerId) none).held.lookup k
        = none := fun k hk => (lookup_write_ne st₁ s _ hk none).trans (hs.held k)
    have hself : (s.write st₁ (.offer offerId) none).held.lookup (.offer offerId) ≠ none := by
      rw [lookup_write_self]
      exact Option.some_ne_none _
    refine wp_transaction_clean (fun k ob hob => ?_) fun st₂ hf₂ => ⟨?_, fun _ _ => trivial⟩
    · by_cases hk : k = .offer offerId
      · subst hk
        rw [AList.lookup_erase] at hob
        cases hob
      · rw [AList.lookup_erase_ne hk] at hob
        exact hs.clean k ob hob
    · refine keeps_of_kept (F := fun k => k = .offer offerId) (fun k hk => ?_)
        (fun _ h => by cases h)
        (fun _ h => by cases h) fun o ho => ?_
      · exact lookup_merge_of_not_held (hheld k hk)
      · by_cases heq : o = offerId
        · subst heq
          refine .inr ⟨hself, fun i r hr ho => ?_⟩
          rw [Db.orderItem, lookup_merge_of_not_held (hheld _ (by simp))] at hr
          -- the item was there when the offer was found free
          obtain ⟨b, hb, hbo⟩ := hf₂.rely i r hr (by rw [ho]; exact hself)
          have hview : Db.orderItem (s.view st₁) i = some b := by
            rw [Db.orderItem, lookup_view, hs.held]
            exact hb
          have hany := List.any_eq_false.mp href (i, b) (mem_orderItems.mpr hview)
          simp [hbo, ho] at hany
        · refine .inl ?_
          rw [Db.offer, lookup_merge_of_not_held (hheld _ (by simpa using heq))]
          exact ho
  rw [deleteOffer, Prog.transaction]
  simp only [Prog.bind_eq, Prog.pure_eq, Prog.bind_assoc, requireSeller]
  split
  · refine wp_get (fun _ _ _ _ => trivial) (fun st' ob _ _ => ?_) fun st' r _ _ _ => ?_
    · exact wp_requireOwnedOffer fun _ => hend _ _ looking_empty
    · exact wp_requireOwnedOffer fun _ => hend _ _ (looking_empty.load _ _)
  · trivial

/-- A step of a request that moves an item on: it changes items and the stock of offers. -/
def movesOn : {γ : Type} → Op Row Event γ → Prop
  | _, .assign k _ => ∃ i, k = .orderItem i
  | _, .update k _ _ => isOffer k
  | _, .delete _ _ => False
  | _, .add _ _ => False
  | _, .insertNested _ _ => False
  | _, _ => True

lemma movesOn_flush : (Prog.flush : Txn Unit).AllOps movesOn :=
  Prog.allOps_flush trivial fun _ => trivial

lemma movesOn_loadOr {k : Key} (e : DomainError) (row : Option (Row k)) :
    (loadOr e row).AllOps movesOn := by
  cases row <;> trivial

lemma movesOn_setStatus (itemId : UUID) (item : OrderItem) (status : OrderItemStatus) :
    (setStatus itemId item status).AllOps movesOn :=
  ⟨trivial, fun _ => ⟨⟨itemId, rfl⟩, fun _ => trivial⟩⟩

lemma movesOn_loadSellerItem (itemId sellerId : UUID) (forUpdate : Bool) :
    (loadSellerItem itemId sellerId forUpdate).AllOps movesOn :=
  (Prog.allOps_scalar trivial trivial).bind fun _ => movesOn_loadOr _ _

lemma movesOn_loadBuyerItem (itemId buyerId : UUID) (forUpdate : Bool) :
    (loadBuyerItem itemId buyerId forUpdate).AllOps movesOn :=
  (Prog.allOps_scalar trivial trivial).bind fun _ => movesOn_loadOr _ _

lemma movesOn_updateOrderItemStatus (itemId : UUID) (status : OrderItemStatus)
    (seller : CurrentUser) :
    (updateOrderItemStatus itemId status seller).AllOps movesOn := by
  have hrole : (requireSeller seller).AllOps movesOn := by
    rw [requireSeller]
    split <;> trivial
  refine hrole.bind fun sellerId =>
    (movesOn_loadSellerItem itemId sellerId true).bind fun item => ?_
  dsimp only
  split
  · trivial
  · have hforward : (assertForwardTransition item.status status).AllOps movesOn := by
      rw [assertForwardTransition]
      split <;> trivial
    exact hforward.bind fun _ => (movesOn_setStatus itemId item status).bind fun _ =>
      movesOn_flush.bind fun _ => ⟨trivial, fun _ => trivial⟩

lemma movesOn_cancelOrderItem (itemId : UUID) (user : CurrentUser) :
    (cancelOrderItem itemId user).AllOps movesOn := by
  have hload : (loadItemToCancel itemId user).AllOps movesOn := by
    rw [loadItemToCancel]
    split
    · exact movesOn_loadBuyerItem _ _ _
    · exact movesOn_loadSellerItem _ _ _
    · trivial
  have hrest : ∀ (before after : OrderItem) (restore : Bool),
      ((Prog.flush : Txn Unit).bind fun _ => (Prog.record (.orderItemCancelled itemId restore)).bind
        fun _ => (Prog.record (.orderItemStatusChanged itemId before.status .cancelled)).bind
          fun _ => (.pure after : Txn OrderItem)).AllOps movesOn :=
    fun _ _ _ => movesOn_flush.bind fun _ => ⟨trivial, fun _ => ⟨trivial, fun _ => trivial⟩⟩
  refine hload.bind fun item => ?_
  dsimp only
  split
  · trivial
  · split
    · trivial
    · refine (movesOn_setStatus itemId item .cancelled).bind fun after => ?_
      split
      · exact Prog.AllOps.bind ⟨⟨_, rfl⟩, fun _ => trivial⟩ fun _ => hrest item after _
      · exact hrest item after _

/-- Every order request but a checkout moves an item on. -/
lemma movesOn_run (r : OrderRequest) (h : ∀ payload buyer, r ≠ .createOrder payload buyer) :
    r.run.AllOps movesOn := by
  cases r with
  | createOrder payload buyer => exact absurd rfl (h payload buyer)
  | updateOrderItemStatus itemId status seller =>
      rw [OrderRequest.run, transaction_ignore]
      exact (movesOn_updateOrderItemStatus itemId status seller).bind fun _ =>
        movesOn_flush.bind fun _ => trivial
  | cancelOrderItem itemId user =>
      rw [OrderRequest.run, transaction_ignore]
      exact (movesOn_cancelOrderItem itemId user).bind fun _ => movesOn_flush.bind fun _ => trivial

/-- An item keeps its place, whatever is done to it. -/
lemma ItemDeed.sameLine {T : Terms} {i : UUID} {b b' : Option OrderItem} {events : List Event}
    (h : ItemDeed T i b b' events) : ∀ r, b = some r → ∃ r', b' = some r' ∧ SameLine r r' := by
  rintro r rfl
  cases h with
  | nothing => exact ⟨r, rfl, .refl r⟩
  | advanced now _ _ => exact ⟨_, rfl, rfl, rfl, rfl⟩
  | cancelled now _ _ => exact ⟨_, rfl, rfl, rfl, rfl⟩

/-- The items and the offers. -/
def itemsAndOffers (k : Key) : Prop := (∃ i, k = .orderItem i) ∨ isOffer k

/-- No row is new. -/
def AbsentStay (st : Db) (s : AppSession) : Prop :=
  ∀ k, st.lookup k = none → (merge st s.held).lookup k = none

/-- **A request that moves an item on** keeps every line. -/
lemma wp_keeps_movesOn {r : OrderRequest} (hr : r.run.AllOps movesOn) :
    wp bookOutline r.run (fun _ _ _ => True) st ∅ := by
  have hdid : wp { bookOutline with commit := Did freeTerms {} } r.run (fun _ _ _ => True) st ∅ :=
    wp_orderRequest_did (free_tells _) (fun _ _ h => h) (fun _ _ => trivial) r
  have hwithin : r.run.AllOps (Op.within itemsAndOffers) := hr.mono fun op hop => by
    cases op with
    | assign k r => exact .inl hop
    | update k m f => exact .inr hop
    | delete k referenced => exact hop.elim
    | add k r => exact hop.elim
    | insertNested k r => exact hop.elim
    | _ => trivial
  have hkept : wp { bookOutline with commit := Kept itemsAndOffers } r.run
    (fun _ _ _ => True) st ∅ :=
    wp_within hwithin (fun _ _ _ h => h) fun _ _ _ => trivial
  have hstay : wp { bookOutline with commit := OffersStay } r.run (fun _ _ _ => True) st ∅ := by
    refine wp_lasts (hr.mono fun op hop => ?_) (fun _ _ h => h) st
    cases op with
    | delete k referenced => exact hop.elim
    | _ => trivial
  have hnone : wp { bookOutline with commit := AbsentStay } r.run (fun _ _ _ => True) st ∅ := by
    refine wp_sparing (F := fun _ => True) (hr.mono fun op hop => ?_)
      (fun _ _ h k => h k trivial) st
    cases op with
    | add k r => exact hop.elim
    | insertNested k r => exact hop.elim
    | _ => trivial
  refine wp_commit_mono (fun st s h => ?_) (wp_and (o := bookOutline) hdid
    (wp_and (o := bookOutline) hkept (wp_and (o := bookOutline) hstay hnone)))
  obtain ⟨⟨news, hdeeds⟩, hkept, hstay, hnone⟩ := h
  have horder : ∀ o, Db.order (merge st s.held) o = Db.order st o := fun o =>
    hkept (.order o) (by simp [itemsAndOffers, isOffer])
  exact ⟨⟨fun o r hr => (horder o).trans hr, fun i => (hdeeds.item i).sameLine,
    fun o ho => .inl (hstay.isSome ho)⟩,
    .inl ⟨fun o => hnone (.order o), fun i => hnone (.orderItem i)⟩⟩

/-- A step that deletes no offer. -/
lemma lasts_catalog {request : CatalogRequest} (h : ∀ o seller, request ≠ .deleteOffer o seller) :
    request.run.AllOps (Op.lasts isOffer) := by
  -- only `delete_offer` deletes a row
  have hget : ∀ k : Key, (Prog.get k : Txn (Option (Row k))).AllOps (Op.lasts isOffer) := fun k =>
    Prog.allOps_get trivial trivial
  have hflush : (Prog.flush : Txn Unit).AllOps (Op.lasts isOffer) :=
    Prog.allOps_flush trivial fun _ => trivial
  have hending : ∀ {β : Type} {body : Txn β}, body.AllOps (Op.lasts isOffer) →
      (ending body fun _ => ()).AllOps (Op.lasts isOffer) := fun hbody =>
    hbody.bind fun _ => hflush.bind fun _ => trivial
  have hrole : ∀ user, (requireSeller user).AllOps (Op.lasts isOffer) := fun user => by
    rw [requireSeller]
    split <;> trivial
  have hseller : ∀ offer, (sellerForOffer offer).AllOps (Op.lasts isOffer) := fun offer =>
    (hget _).bind fun seller => by cases seller <;> trivial
  cases request with
  | createOffer payload seller =>
      rw [CatalogRequest.run, transaction_ignore]
      refine hending ((hrole seller).bind fun sellerId => (hget _).bind fun product => ?_)
      dsimp only
      split
      · trivial
      · exact ⟨trivial, fun id => ⟨trivial, fun _ => hflush.bind fun _ =>
          (hseller _).bind fun _ => trivial⟩⟩
  | getOffer offerId =>
      rw [CatalogRequest.run, transaction_ignore]
      refine hending ((hget _).bind fun offer => ?_)
      cases offer with
      | none => trivial
      | some offer => exact (hseller offer).bind fun _ => trivial
  | updateOffer offerId payload seller =>
      rw [CatalogRequest.run, transaction_ignore]
      have hprice : ∀ stored, (mergePrice payload.price stored).AllOps (Op.lasts isOffer) := by
        intro stored
        rcases payload.price with _ | _ | _ <;> trivial
      have howned : ∀ offer sellerId, (requireOwnedOffer offer sellerId).AllOps
          (Op.lasts isOffer) := by
        intro offer sellerId
        cases offer with
        | none => trivial
        | some offer =>
            rw [requireOwnedOffer]
            split <;> trivial
      refine hending ((hrole seller).bind fun sellerId => (hget _).bind fun offer =>
        (howned _ _).bind fun offer => (hprice _).bind fun price =>
          ⟨trivial, fun _ => hflush.bind fun _ => ?_⟩)
      split
      · trivial
      · exact (hseller _).bind fun _ => trivial
  | deleteOffer offerId seller => exact absurd rfl (h offerId seller)

/-- **Every request keeps the orders in their places.** -/
theorem wp_serviceRequest_keeps (settings : Settings) (r : ServiceRequest) :
    wp bookOutline (r.run settings) (fun _ _ _ => True) st ∅ := by
  have helsewhere : (∀ o, ¬ r.tables (.order o)) → (∀ i, ¬ r.tables (.orderItem i)) →
      (∀ o, ¬ r.tables (.offer o)) → wp bookOutline (r.run settings) (fun _ _ _ => True) st ∅ :=
    wp_keeps_elsewhere (r.run_within settings)
  cases r with
  | catalog request =>
      by_cases hdelete : ∃ o seller, request = .deleteOffer o seller
      · obtain ⟨offerId, seller, rfl⟩ := hdelete
        exact wp_deleteOffer_keeps offerId seller
      · push Not at hdelete
        exact wp_keeps_catalog (ServiceRequest.run_within settings (.catalog request))
          (lasts_catalog hdelete)
  | order request =>
      cases request with
      | createOrder payload buyer =>
          exact wp_createOrder_booked payload buyer (fun _ _ h => h) fun _ _ => trivial
      | updateOrderItemStatus itemId status seller =>
          exact wp_keeps_movesOn (movesOn_run
            (.updateOrderItemStatus itemId status seller) (by simp))
      | cancelOrderItem itemId user =>
          exact wp_keeps_movesOn (movesOn_run (.cancelOrderItem itemId user) (by simp))
  | conversation request => exact helsewhere (fun _ h => h) (fun _ h => h) fun _ h => h
  | ops request => exact helsewhere (fun _ h => h) (fun _ h => h) fun _ h => h
  | runReconcile now pageSize fuel => exact helsewhere (fun _ h => h) (fun _ h => h) fun _ h => h

end Others

/-! ### All interleavings -/

/-- **Orders stay in place.** From a state in which they are, whatever requests of the service run
at the same time, and without any foreign key of the database but the `RESTRICT` key
`order_items.offer_id`, on which `delete_offer` relies: in every reachable state the items of every
order have the lines `1..n`, each once, for some `n ≥ 1`; every item belongs to an order that
exists; and the offer of every item exists, for an offer is deleted under the lock that a checkout
takes to consume it. -/
theorem orders_in_place (settings : Settings) {st₀ : Db} (hst₀ : InPlace st₀)
    {s : Sys Row Event DomainError Unit}
    (h : Reachable (IsServiceRequest settings) (fun _ _ => True) (Sys.rest st₀) s) :
    InPlace s.committed := by
  have hok : s.Ok bookOutline fun _ _ _ => True := by
    refine h.ok bookOutline_sound hst₀ ?_ fun _ _ _ _ _ _ _ _ _ _ => trivial
    rintro p ⟨r, rfl⟩ st log -
    exact wp_serviceRequest_keeps settings r
  exact hok.inv

/-- Mugs are ordered while their offer is deleted. -/
def orderOrDelete : List (Action Row Event DomainError Unit) :=
  [.start 1 ((ServiceRequest.order (.createOrder (mugCheckout 2 one_le_two_mugs) mugBuyer)).run {}),
    .start 2 ((ServiceRequest.catalog (.deleteOffer 3 ⟨8, .seller, some 1⟩)).run {})]
  ++ Action.steps 2 3 200 ++ Action.steps 1 25 100 ++ Action.steps 2 1 203

lemma orderOrDelete_starts : ∀ a ∈ orderOrDelete, a.Starts (IsServiceRequest {}) := by
  intro a ha
  simp only [orderOrDelete, List.mem_append, List.mem_cons, List.not_mem_nil, or_false] at ha
  rcases ha with (((rfl | rfl) | h) | h) | h
  · exact ⟨_, rfl⟩
  · exact ⟨_, rfl⟩
  all_goals exact Action.starts_of_mem_steps h

lemma mugShop_inPlace : InPlace mugShop := by
  have hitem : ∀ i, Db.orderItem mugShop i = none := fun i => by
    simp [Db.orderItem, mugShop, AList.lookup_insert_ne, -AList.insert_empty]
  have horder : ∀ o, Db.order mugShop o = none := fun o => by
    simp [Db.order, mugShop, AList.lookup_insert_ne, -AList.insert_empty]
  refine ⟨fun i r hr => ?_, fun i r hr => ?_, fun o r hr => ?_⟩
  · rw [hitem] at hr
    cases hr
  · rw [hitem] at hr
    cases hr
  · rw [horder] at hr
    cases hr

/-- What is shown of a state: the items, and whether the seller has been refused. -/
def shownLines (s : Sys Row Event DomainError Unit) : List (UUID × UUID × ℕ) × Bool :=
  ((Db.orderItems s.committed).map fun item => (item.2.orderId, item.2.offerId, item.2.line),
    (s.threads.lookup 2).any fun th =>
      match th.prog with
      | .raise (.domain (.resourceInUse _)) => true
      | _ => false)

theorem orders_in_place_mugs : ∃ s, Sys.run orderOrDelete (Sys.rest mugShop) = some s
    ∧ shownLines s = ([(103, 3, 1)], true) ∧ InPlace s.committed := by
  have hshown : (Sys.run orderOrDelete (Sys.rest mugShop)).map shownLines
      = some ([(103, 3, 1)], true) := by
    decide +kernel
  obtain ⟨s, hs, hmugs⟩ := Option.map_eq_some_iff.mp hshown
  exact ⟨s, hs, hmugs, orders_in_place {} mugShop_inPlace
    (reachable_of_run (fun _ _ => trivial) .init orderOrDelete_starts hs)⟩

end MarketHub
