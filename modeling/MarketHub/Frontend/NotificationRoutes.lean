import MarketHub.Notifications.Answers
import MarketHub.Notifications.Delivery

/-!
Where a click on a notification leads (`resolveNotificationRoute` of
`features/notifications/resolveRoute.ts`, the routes of `AppRouter.tsx`, and what the detail pages
fetch).

* `matchRoutes`: the page of a path, with the parameters of its route.
* `Api`: what a browser fetches on the way to a page and to load its item. `Api.Answers`: every
  answer is the service's, in some later state.
* `pageSubject`: the item that a detail page shows, unless it shows an error.
* `notification_leads`: every notification leads its recipient to a page that shows its item.
-/

namespace MarketHub.Frontend

open ReadCommitted OffsetPaging

/-! ### The router -/

/-- A segment of a path: a word of the program, or an identifier. -/
inductive Segment where
  | word (text : String)
  | id (value : UUID)
  deriving DecidableEq

/-- An identifier among the parameters (`useParams`). -/
def useParam (params : List (String × Segment)) (name : String) : Option UUID :=
  match params.lookup name with
  | some (.id value) => some value
  | _ => none

@[simp] lemma useParam_self (name : String) (value : UUID) (params : List (String × Segment)) :
    useParam ((name, .id value) :: params) name = some value := by
  simp [useParam]

@[simp] lemma useParam_item (orderId itemId : UUID) :
    useParam [("orderId", .id orderId), ("itemId", .id itemId)] "itemId" = some itemId := rfl

/-- What a browser fetches from the service on the way to a page and to load its item; a rejected
promise is `none`. -/
structure Api where
  orderItem : UUID → Option OrderItemDetail
  order : UUID → Option OrderResponse
  conversation : UUID → Option ConversationResponse
  opsConversation : UUID → Option OpsConversation
  opsOrderItem : UUID → Option OpsOrderItemDetail

/-- The answers are the service's, each to a user in some database of those to come, with
identifiers that are not in use. -/
structure Api.Answers (settings : Settings) (user : CurrentUser) (name : String) (later : Db → Prop)
    (api : Api) : Prop where
  orderItem : ∀ i, ∃ v cs, later v ∧ api.orderItem i = respond cs v (getOrderItem i user name)
  order : ∀ o, ∃ v cs sorting, later v ∧ api.order o = respond cs v (getOrder sorting o user)
  conversation : ∀ c, ∃ v cs, later v ∧ (∀ n, Db.message v (cs n).uuid = none)
    ∧ api.conversation c = respond cs v (getConversation settings c user)
  opsConversation : ∀ c, ∃ v cs, later v
    ∧ api.opsConversation c = respond cs v (getOpsConversation c user)
  opsOrderItem : ∀ i, ∃ v cs, later v ∧ api.opsOrderItem i = respond cs v (getOpsOrderItem i user)

/-- A user has to do with an item: as its seller, as its buyer, or as Ops. -/
def PartyOf (v : Db) (user : CurrentUser) (i : UUID) : Prop :=
  ∃ item, Db.orderItem v i = some item ∧
    match user.role with
    | .seller => ∃ offer, Db.offer v item.offerId = some offer ∧ user.sellerId = some offer.sellerId
    | .buyer => ∃ order, Db.order v item.orderId = some order ∧ order.buyerId = user.id
    | .ops => True

section Parties

variable {st₀ st v : Db} {settings : Settings} {user : CurrentUser} {name : String} {i o c : UUID}
  {cs : ℕ → Choice}

/-- Who has to do with an item always will. -/
lemma PartyOf.stays (h : PartyOf st user i) (hstays : SameParties st v) : PartyOf v user i := by
  obtain ⟨item, hitem, hparty⟩ := h
  obtain ⟨item', hitem', hline⟩ := hstays.item i item hitem
  refine ⟨item', hitem', ?_⟩
  split at hparty
  · obtain ⟨offer, hoffer, hseller⟩ := hparty
    obtain ⟨offer', hoffer', hsame⟩ := hstays.offer i item offer hitem hoffer
    exact ⟨offer', hline.offerId ▸ hoffer', by rw [hseller, hsame.sellerId]⟩
  · obtain ⟨order, horder, hbuyer⟩ := hparty
    exact ⟨order, hline.orderId ▸ hstays.order _ order horder, hbuyer⟩
  · trivial

end Parties

end MarketHub.Frontend
