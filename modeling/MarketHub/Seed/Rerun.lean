import MarketHub.Seed.Demo
import MarketHub.Service
import MarketHub.Communication.Refusal
import MarketHub.ReadCommitted.Columns

/-!
Running the seed again.

* `Kept`: rows stay, with what neither the seed nor the requests around orders change of them.
* `Repeats step step'`: after `step` has gone through, and whatever rows have been kept since,
  `step'` goes through too and leaves everything but texts as it is.
* `runSeed_again`: a second run of the seed goes through and sets the stock of the demonstration.
* `kept_of_reachable`: requests around orders keep the rows.
* `rerun_neutral_iff`: a second run leaves the account of every offer as it is exactly if no
  stock has moved.
-/

namespace MarketHub.Seed

open ReadCommitted Session

/-! ### What is kept -/

/-- What is fixed of a row. -/
def fixed : ∀ k : Key, Row k → Row k
  | .offer _, r => { r with stock := 0 }
  | .orderItem _, r => { r with status := .placed, updatedAt := 0, statusUpdatedAt := 0 }
  | .message _, r => { r with content := "" }
  | .internalComment _, r => { r with content := "" }
  | .user _, r => r
  | .seller _, r => r
  | .product _, r => r
  | .order _, r => r
  | .conversation _, r => r
  | .notification _, r => r

/-- Rows stay, with what is fixed of them. -/
def Kept (v w : Db) : Prop := ∀ k b, v.lookup k = some b → ∃ c, w.lookup k = some c
    ∧ fixed k c = fixed k b

/-- There is a row. -/
def Present (k : Key) (v : Db) : Prop := ∃ r : Row k, v.lookup k = some r

/-- The texts that the seed writes again. -/
def isText : Key → Prop
  | .message _ => True
  | .internalComment _ => True
  | _ => False

/-- Only texts change. -/
def Steady (u u' : Db) : Prop := ∀ k, ¬ isText k → u'.lookup k = u.lookup k

section Kept

variable {u v w : Db} {k : Key} {r : Row k}

lemma kept_refl (v : Db) : Kept v v := fun _ b hb => ⟨b, hb, rfl⟩

lemma Kept.trans (h : Kept u v) (h' : Kept v w) : Kept u w := by
  intro k b hb
  obtain ⟨c, hc, hcb⟩ := h k b hb
  obtain ⟨d, hd, hdc⟩ := h' k c hc
  exact ⟨d, hd, hdc.trans hcb⟩

lemma steady_refl (v : Db) : Steady v v := fun _ _ => rfl

lemma Steady.trans (h : Steady u v) (h' : Steady v w) : Steady u w :=
  fun k hk => (h' k hk).trans (h k hk)

lemma Kept.present (h : Kept v w) (hk : Present k v) : Present k w := by
  obtain ⟨b, hb⟩ := hk
  obtain ⟨c, hc, -⟩ := h k b hb
  exact ⟨c, hc⟩

/-- A row is written that fixes what was fixed. -/
lemma kept_insert (h : ∀ b, v.lookup k = some b → fixed k r = fixed k b) :
    Kept v (v.insert k r) := by
  intro k' b hb
  by_cases hk : k' = k
  · subst hk
    exact ⟨r, AList.lookup_insert v, h b hb⟩
  · exact ⟨b, by rw [AList.lookup_insert_ne hk, hb], rfl⟩

lemma steady_insert (hk : isText k) : Steady v (v.insert k r) := by
  intro k' hk'
  refine AList.lookup_insert_ne ?_
  rintro rfl
  exact hk' hk

/-- The order of an item, the seller of an offer and the rest of a row stay. -/
lemma Kept.order {id : UUID} {order : Order} (h : Kept v w) (ho : Db.order v id = some order) :
    Db.order w id = some order := by
  obtain ⟨c, hc, heq⟩ := h (.order id) order ho
  rw [Db.order, hc]
  exact congrArg some heq

lemma Kept.conversation {id : UUID} {conversation : Conversation} (h : Kept v w)
    (hc : Db.conversation v id = some conversation) : Db.conversation w id = some conversation := by
  obtain ⟨c, hc', heq⟩ := h (.conversation id) conversation hc
  rw [Db.conversation, hc']
  exact congrArg some heq

lemma Kept.orderItem {id : UUID} {item : OrderItem} (h : Kept v w)
    (hi : Db.orderItem v id = some item) :
    ∃ item', Db.orderItem w id = some item' ∧ item'.orderId = item.orderId
      ∧ item'.offerId = item.offerId := by
  obtain ⟨c, hc, heq⟩ := h (.orderItem id) item hi
  have horder := congrArg OrderItem.orderId heq
  have hoffer := congrArg OrderItem.offerId heq
  exact ⟨c, hc, horder, hoffer⟩

lemma Kept.offer {id : UUID} {offer : Offer} (h : Kept v w) (ho : Db.offer v id = some offer) :
    ∃ offer', Db.offer w id = some offer' ∧ offer'.sellerId = offer.sellerId := by
  obtain ⟨c, hc, heq⟩ := h (.offer id) offer ho
  have hseller := congrArg Offer.sellerId heq
  exact ⟨c, hc, hseller⟩

lemma Kept.sellerUser {sellerId userId : UUID} (h : Kept v w)
    (hu : sellerUserId v sellerId = some userId) :
    ∃ userId', sellerUserId w sellerId = some userId' := by
  obtain ⟨⟨id, user⟩, hfind, -⟩ := Option.map_eq_some_iff.mp hu
  have hmem := mem_users.mp (List.mem_of_find?_eq_some hfind)
  obtain ⟨c, hc, heq⟩ := h (.user id) user hmem
  obtain rfl : c = user := heq
  have hfound : ((Db.users w).find? fun user => user.2.sellerId = some sellerId).isSome := by
    have hseller := List.find?_some
      (p := fun user : UUID × User => decide (user.2.sellerId = some sellerId)) hfind
    exact List.find?_isSome.mpr ⟨(id, c), mem_users.mpr hc, hseller⟩
  obtain ⟨found, hfound⟩ := Option.isSome_iff_exists.mp hfound
  exact ⟨found.1, by rw [sellerUserId, hfound]; rfl⟩

end Kept

/-! ### Steps that can be repeated -/

/-- A step, and the same step of a later run. -/
structure Repeats (step step' : Step) : Prop where
  kept : ∀ v w, step v = .ok w → Kept v w
  again : ∀ v w u, step v = .ok w → Kept w u → ∃ u', step' u = .ok u' ∧ Steady u u' ∧ Kept u u'

section Repeats

variable {v w u : Db} {k : Key}

lemma insertRow_ok {r : Row k} (h : insertRow k r v = .ok w) : w = v.insert k r := by
  rw [insertRow] at h
  split at h
  · cases h
  · exact (Except.ok.inj h).symm

/-- A new row. -/
lemma insertRow_missing {r : Row k} (hk : v.lookup k = none) (h : insertRow k r v = .ok w) :
    Kept v w ∧ Present k w := by
  obtain rfl := insertRow_ok h
  refine ⟨kept_insert fun b hb => ?_, ?_⟩
  · rw [hk] at hb
    cases hb
  · exact ⟨r, AList.lookup_insert v⟩

/-- A row that is missing is added, and otherwise everything stays. -/
lemma addIfMissing_ok {r : Row k} (h : addIfMissing k r v = .ok w) :
    Kept v w ∧ Present k w := by
  rw [addIfMissing] at h
  cases hk : v.lookup k with
  | some b =>
      rw [hk] at h
      cases h
      exact ⟨kept_refl _, _, hk⟩
  | none =>
      rw [hk] at h
      exact insertRow_missing hk h

lemma addIfMissing_present {r : Row k} (h : Present k v) : addIfMissing k r v = .ok v := by
  obtain ⟨b, hb⟩ := h
  rw [addIfMissing, hb]

/-- A step that changes nothing when it comes again. -/
lemma Repeats.of_same {step step' : Step} {P : Db → Prop}
    (hstep : ∀ v w, step v = .ok w → Kept v w ∧ P w) (hP : ∀ w u, P w → Kept w u → P u)
    (hstep' : ∀ u, P u → step' u = .ok u) : Repeats step step' where
  kept v w h := (hstep v w h).1
  again v w u h hu := ⟨u, hstep' u (hP w u (hstep v w h).2 hu), steady_refl u, kept_refl u⟩

lemma repeats_addIfMissing (r r' : Row k) : Repeats (addIfMissing k r) (addIfMissing k r') :=
  .of_same (fun _ _ => addIfMissing_ok) (fun _ _ h hu => hu.present h) fun _ => addIfMissing_present

/-- A check of what the database does not hold. -/
lemma repeats_check {step : Step} (h : ∀ v, step v = .ok v ∨ ∃ e, ∀ v, step v = .error e) :
    Repeats step step := by
  refine .of_same (P := fun _ => ∀ u, step u = .ok u) (fun v w hv => ?_)
    (fun _ _ hP _ => hP) fun u hP => hP u
  have hok : ∀ u, step u = .ok u := by
    intro u
    rcases h u with hu | ⟨e, he⟩
    · exact hu
    · rw [he v] at hv
      cases hv
  rw [hok v] at hv
  cases hv
  exact ⟨kept_refl v, hok⟩

section Content

variable {content : Row k → String} {withContent : Row k → String → Row k} {entity : Row k}
  (hfixed : ∀ r text, fixed k (withContent r text) = fixed k r)
include hfixed

/-- A row with a content is added, or gets the content. -/
lemma addOrReplaceContent_ok (h : addOrReplaceContent k content withContent entity v = .ok w) :
    Kept v w ∧ Present k w := by
  rw [addOrReplaceContent] at h
  cases hk : v.lookup k with
  | none =>
      rw [hk] at h
      exact insertRow_missing hk h
  | some existing =>
      rw [hk] at h
      simp only at h
      split_ifs at h
      · cases h
        refine ⟨kept_insert fun b hb => ?_, _, AList.lookup_insert v⟩
        rw [hk] at hb
        cases hb
        exact hfixed _ _
      · cases h
        exact ⟨kept_refl _, _, hk⟩

/-- A row that is there gets its content. -/
lemma addOrReplaceContent_present (htext : isText k) (h : Present k v) :
    ∃ w, addOrReplaceContent k content withContent entity v = .ok w ∧ Steady v w ∧ Kept v w := by
  obtain ⟨existing, hk⟩ := h
  rw [addOrReplaceContent, hk]
  simp only
  split_ifs
  · refine ⟨_, rfl, steady_insert htext, kept_insert fun b hb => ?_⟩
    rw [hk] at hb
    cases hb
    exact hfixed _ _
  · exact ⟨v, rfl, steady_refl v, kept_refl v⟩

end Content

end Repeats

/-! ### The steps of the seed -/

section Steps

variable {now now' : DateTime}

/-- A step that first computes something. -/
lemma repeats_bind {α : Type} {e : Except SeedError α} {f f' : α → Step}
    (h : ∀ a, Repeats (f a) (f' a)) :
    Repeats (fun v => e >>= fun a => f a v) (fun v => e >>= fun a => f' a v) := by
  cases e with
  | error e => exact ⟨fun v w hv => (by cases hv), fun v w u hv => (by cases hv)⟩
  | ok a => exact h a

lemma repeats_requirePassword (seedPassword : Option String) :
    Repeats (requirePassword seedPassword) (requirePassword seedPassword) := by
  refine repeats_check fun v => ?_
  cases seedPassword with
  | none => exact .inr ⟨_, fun _ => rfl⟩
  | some secret =>
      by_cases h : secret = ""
      · exact .inr ⟨_, fun _ => if_pos h⟩
      · exact .inl (if_neg h)

lemma repeats_addUser (user : UUID × User) : Repeats (addUser user) (addUser user) := by
  cases hseller : user.2.sellerId with
  | none =>
      have hstep : addUser user = addIfMissing (.user user.1) user.2 := by
        funext v
        rw [addUser, hseller]
      rw [hstep]
      exact repeats_addIfMissing _ _
  | some sellerId =>
      have hnone : ∀ v, Db.seller v sellerId = none →
          addUser user v = .error (.sellerNotSeeded sellerId) := by
        intro v hs
        simp only [addUser, hseller, hs]
      have hsome : ∀ v seller, Db.seller v sellerId = some seller →
          addUser user v = addIfMissing (.user user.1) user.2 v := by
        intro v seller hs
        simp only [addUser, hseller, hs]
      refine .of_same (P := fun v => Present (.seller sellerId) v ∧ Present (.user user.1) v)
        (fun v w h => ?_) (fun w u h hu => ⟨hu.present h.1, hu.present h.2⟩) fun u h => ?_
      · cases hs : Db.seller v sellerId with
        | none => rw [hnone v hs] at h; cases h
        | some seller =>
            rw [hsome v seller hs] at h
            obtain ⟨hkept, huser⟩ := addIfMissing_ok h
            have hs' : Present (.seller sellerId) v := ⟨seller, hs⟩
            exact ⟨hkept, hkept.present hs', huser⟩
      · obtain ⟨seller, hs⟩ := h.1
        rw [hsome u seller hs]
        exact addIfMissing_present h.2

lemma repeats_assertUniqueDemoOrderIds :
    Repeats assertUniqueDemoOrderIds assertUniqueDemoOrderIds := by
  refine repeats_check fun v => ?_
  unfold assertUniqueDemoOrderIds
  cases hids : demoItems.mapM fun item => itemId item.2.1.itemN with
  | error e => exact .inr ⟨e, fun _ => rfl⟩
  | ok itemIds =>
      simp only [bind, Except.bind]
      split_ifs
      · exact .inl rfl
      · exact .inr ⟨_, fun _ => rfl⟩

lemma repeats_assertUniqueConversationItems :
    Repeats assertUniqueConversationItems assertUniqueConversationItems := by
  refine repeats_check fun v => ?_
  unfold assertUniqueConversationItems
  split_ifs
  · exact .inl rfl
  · exact .inr ⟨_, fun _ => rfl⟩

lemma repeats_addOrderItem (item : DemoOrder × DemoItem × ℕ) :
    Repeats (addOrderItem now item) (addOrderItem now' item) :=
  repeats_bind fun _ => repeats_addIfMissing _ _

/-- A conversation needs its item. -/
lemma repeats_addConversation (conversation : DemoConversation) :
    Repeats (addConversation now conversation) (addConversation now' conversation) := by
  refine repeats_bind fun id => ?_
  refine .of_same (P := fun v => Present (.orderItem id) v
    ∧ Present (.conversation (conversationId conversation.convN)) v)
    (fun v w h => ?_) (fun w u h hu => ⟨hu.present h.1, hu.present h.2⟩) fun u h => ?_
  · cases hitem : Db.orderItem v id with
    | none => rw [hitem] at h; cases h
    | some item =>
        rw [hitem] at h
        obtain ⟨hkept, hconversation⟩ := addIfMissing_ok h
        have hitem' : Present (.orderItem id) v := ⟨item, hitem⟩
        exact ⟨hkept, hkept.present hitem', hconversation⟩
  · obtain ⟨item, hitem⟩ := h.1
    rw [Db.orderItem, hitem]
    exact addIfMissing_present h.2

/-- A message needs the conversation, its item, the order, the offer and the user of its seller. -/
structure HasAuthors (v : Db) (conversationId : UUID) (conversation : Conversation)
    (item : OrderItem) (order : Order) (offer : Offer) (userId : UUID) : Prop where
  hasConversation : Db.conversation v conversationId = some conversation
  hasItem : Db.orderItem v conversation.orderItemId = some item
  hasOrder : Db.order v item.orderId = some order
  hasOffer : Db.offer v item.offerId = some offer
  hasUser : sellerUserId v offer.sellerId = some userId

lemma fixed_message (id : UUID) (r : Message) (text : String) :
    fixed (.message id) { r with content := text } = fixed (.message id) r := rfl

lemma fixed_comment (id : UUID) (r : InternalComment) (text : String) :
    fixed (.internalComment id) { r with content := text } = fixed (.internalComment id) r := rfl

lemma addMessage_eq {v : Db} {conversation : Conversation} {item : OrderItem} {order : Order}
    {offer : Offer} {userId : UUID} {isFirst : Bool} {message : DemoMessage}
    (h : HasAuthors v (conversationId message.convN) conversation item order offer userId) :
    addMessage now isFirst message v = addOrReplaceMessage (messageId message.msgN)
      ⟨conversationId message.convN, message.author,
        some (if message.author = .buyer then order.buyerId else userId),
        messageBody isFirst order item message.content, now - hours message.hoursAgo⟩ v := by
  simp only [addMessage, h.hasConversation, h.hasItem, h.hasOrder, h.hasOffer, h.hasUser]

lemma addMessage_authors {v w : Db} {isFirst : Bool} {message : DemoMessage}
    (h : addMessage now isFirst message v = .ok w) : ∃ conversation item order offer userId,
      HasAuthors v (conversationId message.convN) conversation item order offer userId := by
  rw [addMessage] at h
  cases hc : Db.conversation v (conversationId message.convN) with
  | none => rw [hc] at h; cases h
  | some conversation =>
      cases hi : Db.orderItem v conversation.orderItemId with
      | none => simp only [hc, hi] at h; cases h
      | some item =>
          cases ho : Db.order v item.orderId with
          | none => simp only [hc, hi, ho] at h; cases h
          | some order =>
              cases hf : Db.offer v item.offerId with
              | none => simp only [hc, hi, ho, hf] at h; cases h
              | some offer =>
                  cases hu : sellerUserId v offer.sellerId with
                  | none => simp only [hc, hi, ho, hf, hu] at h; cases h
                  | some userId => exact ⟨_, _, _, _, _, hc, hi, ho, hf, hu⟩

/-- The authors stay. -/
lemma HasAuthors.kept {v w : Db} {id : UUID} {conversation : Conversation} {item : OrderItem}
    {order : Order} {offer : Offer} {userId : UUID}
    (h : HasAuthors v id conversation item order offer userId) (hw : Kept v w) :
    ∃ item' offer' userId', HasAuthors w id conversation item' order offer' userId' := by
  obtain ⟨item', hitem, horder, hoffer⟩ := hw.orderItem h.hasItem
  obtain ⟨offer', hoffer', hseller⟩ := hw.offer h.hasOffer
  obtain ⟨userId', huser⟩ := hw.sellerUser h.hasUser
  exact ⟨item', offer', userId', hw.conversation h.hasConversation, hitem,
    by rw [horder, hw.order h.hasOrder], by rw [hoffer, hoffer'], by rw [hseller, huser]⟩

lemma repeats_addMessage (isFirst : Bool) (message : DemoMessage) :
    Repeats (addMessage now isFirst message) (addMessage now' isFirst message) where
  kept v w h := by
    obtain ⟨conversation, item, order, offer, userId, hauthors⟩ := addMessage_authors h
    rw [addMessage_eq hauthors] at h
    exact (addOrReplaceContent_ok (fixed_message _) h).1
  again v w u h hu := by
    obtain ⟨conversation, item, order, offer, userId, hauthors⟩ := addMessage_authors h
    rw [addMessage_eq hauthors] at h
    obtain ⟨hkept, hmessage⟩ := addOrReplaceContent_ok (fixed_message _) h
    obtain ⟨item', offer', userId', hauthors'⟩ := hauthors.kept (hkept.trans hu)
    rw [addMessage_eq hauthors']
    exact addOrReplaceContent_present (fixed_message _) trivial (hu.present hmessage)

lemma repeats_addNotification (row : DemoNotification) :
    Repeats (addNotification now row) (addNotification now' row) := by
  refine repeats_bind fun id => ?_
  cases buildCopy row.notificationType row.previous row.new with
  | none => exact ⟨fun v w hv => (by cases hv), fun v w u hv => (by cases hv)⟩
  | some texts => exact repeats_addIfMissing _ _

/-- A comment needs its item and the order. -/
lemma addComment_ok {t : DateTime} {comment : DemoComment} {v w : Db}
    (h : addComment t comment v = .ok w) :
    ∃ id item order, itemId comment.itemN = .ok id ∧ Db.orderItem v id = some item
      ∧ Db.order v item.orderId = some order ∧ Kept v w
      ∧ Present (.internalComment (commentId comment.n)) w := by
  unfold addComment at h
  cases hid : itemId comment.itemN with
  | error e => rw [hid] at h; cases h
  | ok id =>
      simp only [hid, bind, Except.bind] at h
      cases hi : Db.orderItem v id with
      | none => simp only [hi] at h; cases h
      | some item =>
          cases ho : Db.order v item.orderId with
          | none => simp only [hi, ho] at h; cases h
          | some order =>
              simp only [hi, ho] at h
              obtain ⟨hkept, hcomment⟩ := addOrReplaceContent_ok (fixed_comment _) h
              exact ⟨id, item, order, rfl, hi, ho, hkept, hcomment⟩

lemma repeats_addComment (comment : DemoComment) :
    Repeats (addComment now comment) (addComment now' comment) where
  kept v w h := by
    obtain ⟨id, item, order, -, -, -, hkept, -⟩ := addComment_ok h
    exact hkept
  again v w u h hu := by
    obtain ⟨id, item, order, hid, hitem, horder, hkept, hcomment⟩ := addComment_ok h
    obtain ⟨item', hitem', hsame, -⟩ := (hkept.trans hu).orderItem hitem
    unfold addComment
    simp only [hid, bind, Except.bind, hitem', hsame, (hkept.trans hu).order horder]
    exact addOrReplaceContent_present (fixed_comment _) trivial (hu.present hcomment)

end Steps

/-! ### Two runs -/

section Runs

variable {seedPassword : Option String} {now now' : DateTime}
    {steps steps' : List Step} {u v w : Db}

lemma repeats_map {α : Type} {f f' : α → Step} (h : ∀ a, Repeats (f a) (f' a)) (l : List α) :
    List.Forall₂ Repeats (l.map f) (l.map f') := by
  induction l with
  | nil => exact .nil
  | cons a l ih => exact .cons (h a) ih

lemma repeats_append {t t' : List Step} (h : List.Forall₂ Repeats steps steps')
    (h' : List.Forall₂ Repeats t t') : List.Forall₂ Repeats (steps ++ t) (steps' ++ t') :=
  List.rel_append h h'

lemma repeats_messageSteps (prefixed : List ℕ) (messages : List DemoMessage) :
    List.Forall₂ Repeats (messageSteps now prefixed messages)
      (messageSteps now' prefixed messages) := by
  induction messages generalizing prefixed with
  | nil => exact .nil
  | cons message messages ih => exact .cons (repeats_addMessage _ message) (ih _)

/-- The steps up to the stock. -/
lemma repeats_before (now now' : DateTime) :
    List.Forall₂ Repeats (seedAll seedPassword ++ seedBefore seedPassword now)
    (seedAll seedPassword ++ seedBefore seedPassword now') := by
  have hsellers : ∀ sellers, List.Forall₂ Repeats (sellerSteps sellers) (sellerSteps sellers) :=
    repeats_map fun _ => repeats_addIfMissing _ _
  have husers : ∀ users, List.Forall₂ Repeats (userSteps seedPassword users)
      (userSteps seedPassword users) :=
    fun users => .cons (repeats_requirePassword seedPassword) (repeats_map repeats_addUser users)
  have hcatalog : List.Forall₂ Repeats catalogSteps catalogSteps :=
    repeats_append (repeats_map (fun _ => repeats_addIfMissing _ _) _)
      (repeats_map (fun _ => repeats_addIfMissing _ _) _)
  have horders : List.Forall₂ Repeats (orderSteps now) (orderSteps now') :=
    .cons repeats_assertUniqueDemoOrderIds (repeats_append
      (repeats_map (fun _ => repeats_addIfMissing _ _) _) (repeats_map repeats_addOrderItem _))
  exact repeats_append (repeats_append (hsellers _) (husers _)) (repeats_append
    (repeats_append (repeats_append (hsellers _) (husers _)) hcatalog) horders)

/-- The steps after the stock. -/
lemma repeats_after (now now' : DateTime) :
    List.Forall₂ Repeats (seedAfter now) (seedAfter now') := by
  have hconversations : List.Forall₂ Repeats (conversationSteps now) (conversationSteps now') :=
    .cons repeats_assertUniqueConversationItems (repeats_append
      (repeats_map repeats_addConversation _) (repeats_messageSteps _ _))
  exact repeats_append (repeats_append hconversations (repeats_map repeats_addComment _))
    (repeats_map repeats_addNotification _)

lemma runSteps_cons_ok {step : Step} (h : runSteps (step :: steps) v = .ok w) :
    ∃ x, step v = .ok x ∧ runSteps steps x = .ok w := by
  rw [runSteps] at h
  cases hx : step v with
  | error e => rw [hx] at h; cases h
  | ok x =>
      rw [hx] at h
      exact ⟨x, rfl, h⟩

/-- A run keeps the rows. -/
lemma runSteps_kept (h : List.Forall₂ Repeats steps steps') (hrun : runSteps steps v = .ok w) :
    Kept v w := by
  induction h generalizing v with
  | nil => cases hrun; exact kept_refl _
  | cons hstep _ ih =>
      obtain ⟨x, hx, hrest⟩ := runSteps_cons_ok hrun
      exact (hstep.kept v x hx).trans (ih hrest)

/-- **A run can be repeated** as long as its rows have been kept. -/
lemma runSteps_again (h : List.Forall₂ Repeats steps steps') (hrun : runSteps steps v = .ok w)
    (hu : Kept w u) : ∃ u', runSteps steps' u = .ok u' ∧ Steady u u' ∧ Kept u u' := by
  induction h generalizing v u with
  | nil => exact ⟨u, rfl, steady_refl u, kept_refl u⟩
  | cons hstep hrest ih =>
      obtain ⟨x, hx, hxw⟩ := runSteps_cons_ok hrun
      have hkept := runSteps_kept hrest hxw
      obtain ⟨u₁, hu₁, hsteady, hkept₁⟩ := hstep.again v x u hx (hkept.trans hu)
      obtain ⟨u₂, hu₂, hsteady', hkept₂⟩ := ih hxw (hu.trans hkept₁)
      refine ⟨u₂, ?_, hsteady.trans hsteady', hkept₁.trans hkept₂⟩
      rw [runSteps, hu₁]
      exact hu₂

end Runs

/-! ### The stock -/

section Stock

variable {u v : Db}

/-- The offer with the stock that the seed sets. -/
def restocked (listed : List DemoOffer) (id : UUID) (offer : Offer) : Offer :=
  match listed.find? fun demo => offerId demo.n = id with
  | some demo => { offer with stock := remaining demo }
  | none => offer

/-- What setting the stock does. -/
structure Restocks (listed : List DemoOffer) (u u' : Db) : Prop where
  offers : ∀ id, Db.offer u' id = (Db.offer u id).map (restocked listed id)
  others : ∀ k, (∀ id, k ≠ .offer id) → u'.lookup k = u.lookup k

lemma Restocks.kept {listed : List DemoOffer} (h : Restocks listed u v) : Kept u v := by
  intro k b hb
  by_cases hoffer : ∃ id, k = .offer id
  · obtain ⟨id, rfl⟩ := hoffer
    have hv := h.offers id
    rw [Db.offer, Db.offer, hb] at hv
    refine ⟨_, hv, ?_⟩
    simp only [restocked]
    split <;> rfl
  · exact ⟨b, (h.others k fun id hid => hoffer ⟨id, hid⟩).trans hb, rfl⟩

/-- One offer gets its stock. -/
lemma setStock_ok {demo : DemoOffer} (h : 0 ≤ remaining demo) (u : Db) :
    ∃ u', setStock demo u = .ok u'
      ∧ Db.offer u' (offerId demo.n) = (Db.offer u (offerId demo.n)).map
          (fun offer => { offer with stock := remaining demo })
      ∧ ∀ k, k ≠ .offer (offerId demo.n) → u'.lookup k = u.lookup k := by
  rw [setStock]
  cases hoffer : Db.offer u (offerId demo.n) with
  | none => exact ⟨u, rfl, hoffer, fun _ _ => rfl⟩
  | some stored =>
      refine ⟨_, if_neg (not_lt.mpr h), ?_, fun k hk => AList.lookup_insert_ne hk⟩
      exact AList.lookup_insert u

/-- **The stock of the listed offers is set.** -/
lemma runSteps_setStock {listed : List DemoOffer} (hpos : ∀ demo ∈ listed, 0 ≤ remaining demo)
    (hnodup : (listed.map fun demo => offerId demo.n).Nodup) (u : Db) :
    ∃ u', runSteps (listed.map setStock) u = .ok u' ∧ Restocks listed u u' := by
  induction listed generalizing u with
  | nil => exact ⟨u, rfl, fun id => by cases h : Db.offer u id <;> rfl, fun _ _ => rfl⟩
  | cons demo listed ih =>
      obtain ⟨hfresh, hnodup⟩ := List.nodup_cons.mp hnodup
      obtain ⟨u₁, hu₁, hset, hkept⟩ := setStock_ok (hpos demo List.mem_cons_self) u
      obtain ⟨u₂, hu₂, hrest⟩ := ih (fun d hd => hpos d (List.mem_cons_of_mem _ hd)) hnodup u₁
      refine ⟨u₂, by rw [List.map_cons, runSteps, hu₁]; exact hu₂, fun id => ?_, fun k hk => ?_⟩
      · rw [hrest.offers id]
        by_cases hid : offerId demo.n = id
        · -- the offer is not listed again
          subst hid
          have hnone : listed.find? (fun d => offerId d.n = offerId demo.n) = none := by
            refine List.find?_eq_none.mpr fun d hd heq => hfresh ?_
            exact List.mem_map.mpr ⟨d, hd, of_decide_eq_true heq⟩
          rw [hset, Option.map_map]
          refine congrArg (Option.map · _) (funext fun offer => ?_)
          have hsome : (demo :: listed).find? (fun d => offerId d.n = offerId demo.n) = some demo :=
            List.find?_cons_of_pos (decide_eq_true rfl)
          rw [Function.comp_apply, restocked, restocked, hnone, hsome]
        · have hoffer : Db.offer u₁ id = Db.offer u id :=
            hkept (.offer id) fun heq => hid (Key.offer.inj heq).symm
          rw [hoffer]
          refine congrArg (Option.map · _) (funext fun offer => ?_)
          have hskip : (demo :: listed).find? (fun d => offerId d.n = id)
              = listed.find? fun d => offerId d.n = id :=
            List.find?_cons_of_neg fun heq => hid (of_decide_eq_true heq)
          rw [restocked, restocked, hskip]
      · rw [hrest.others k hk, hkept k (hk _)]

/-- The tables sell no more than there is. -/
lemma remaining_nonneg : ∀ demo ∈ offers, 0 ≤ remaining demo := by decide +kernel

lemma nodup_offerIds : (offers.map fun demo => offerId demo.n).Nodup := by decide +kernel

/-- **A second run** goes through, sets the stock of the demonstration and changes nothing but
texts besides. -/
lemma seed_again {seedPassword : Option String} {now : DateTime} (now' : DateTime) {v₀ v₁ : Db}
    (h : seed seedPassword now v₀ = .ok v₁) (hu : Kept v₁ u) :
    ∃ u', seed seedPassword now' u = .ok u'
      ∧ (∀ id, Db.offer u' id = (Db.offer u id).map (restocked offers id))
      ∧ ∀ k, ¬ isText k → (∀ id, k ≠ .offer id) → u'.lookup k = u.lookup k := by
  -- the three parts of the first run
  unfold seed at h
  cases ha : runSteps (seedAll seedPassword ++ seedBefore seedPassword now) v₀ with
  | error e => rw [ha] at h; cases h
  | ok va =>
      obtain ⟨vb, hb, hrestock⟩ := runSteps_setStock remaining_nonneg nodup_offerIds va
      simp only [ha, hb, bind, Except.bind] at h
      have hkept : Kept vb v₁ := runSteps_kept (repeats_after now now') h
      -- the three parts of the second run
      obtain ⟨u₁, hu₁, hsteady, hkept₁⟩ := runSteps_again (repeats_before now now') ha
        ((hrestock.kept.trans hkept).trans hu)
      obtain ⟨u₂, hu₂, hrestock'⟩ := runSteps_setStock remaining_nonneg nodup_offerIds u₁
      obtain ⟨u₃, hu₃, hsteady', -⟩ := runSteps_again (repeats_after now now') h
        ((hu.trans hkept₁).trans hrestock'.kept)
      refine ⟨u₃, ?_, fun id => ?_, fun k htext hoffer => ?_⟩
      · unfold seed
        simp only [hu₁, hu₂, hu₃, bind, Except.bind]
      · rw [Db.offer, hsteady' (.offer id) fun h => h, ← Db.offer, hrestock'.offers id, Db.offer,
          hsteady (.offer id) fun h => h]
      · rw [hsteady' k htext, hrestock'.others k hoffer, hsteady k htext]

end Stock

/-! ### Requests around orders -/

/-- The tables but `order_items`. -/
def besideItems : Key → Prop
  | .orderItem _ => False
  | _ => True

section Requests

/-- A step that changes nothing fixed beside the items. -/
abbrev keepsRows {γ : Type} (op : Op Row Event γ) : Prop := op.keeps fixed besideItems

lemma keeps_get (k : Key) : (Prog.get k : Txn (Option (Row k))).AllOps keepsRows :=
  Prog.allOps_get trivial trivial

lemma keeps_flush : (Prog.flush : Txn Unit).AllOps keepsRows :=
  Prog.allOps_flush trivial fun _ => trivial

lemma keeps_loadOr {k : Key} (e : DomainError) (row : Option (Row k)) :
    (loadOr e row).AllOps keepsRows := by
  cases row <;> trivial

lemma keeps_requireSeller (user : CurrentUser) : (requireSeller user).AllOps keepsRows := by
  rw [requireSeller]
  split <;> trivial

lemma keeps_ending {α β : Type} {body : Txn β} {g : β → α} (h : body.AllOps keepsRows) :
    (ending body g).AllOps keepsRows :=
  h.bind fun _ => keeps_flush.bind fun _ => trivial

lemma keeps_validateItems (items : List CheckoutItem) : (validateItems items).AllOps keepsRows := by
  induction items with
  | nil => trivial
  | cons item items ih =>
      have hitem : (validateItem item).AllOps keepsRows := by
        refine (keeps_get _).bind fun offer => ?_
        cases offer with
        | none => trivial
        | some offer =>
            dsimp only
            split
            · trivial
            · split
              · trivial
              · split <;> trivial
      refine hitem.bind fun ⟨offer, problem⟩ => ih.bind fun ⟨_, _⟩ => ?_
      dsimp only
      split <;> trivial

lemma keeps_consumeItems (orderId : UUID) (validItems : List (CheckoutItem × Offer)) :
    ∀ line, (consumeItems orderId line validItems).AllOps keepsRows := by
  induction validItems with
  | nil => exact fun _ => trivial
  | cons validItem validItems ih =>
      obtain ⟨item, offer⟩ := validItem
      intro line
      refine ⟨fun _ _ => rfl, fun consumed => ?_⟩
      cases consumed with
      | false => exact ⟨trivial, fun _ => ⟨trivial, fun _ => trivial⟩⟩
      | true =>
          have hitem : (newOrderItem orderId line item offer).AllOps keepsRows :=
            ⟨trivial, fun _ => ⟨trivial, fun _ => ⟨trivial, fun _ => ⟨trivial, fun _ =>
              ⟨trivial, fun _ => trivial⟩⟩⟩⟩⟩
          exact hitem.bind fun _ => ih (line + 1)

lemma keeps_createOrder (payload : CheckoutRequest) (buyer : CurrentUser) :
    (createOrder payload buyer).AllOps keepsRows := by
  have hbuyer : (requireBuyer buyer).AllOps keepsRows := by
    rw [requireBuyer]
    split <;> trivial
  have hcheckout : (checkout buyer.id payload).AllOps keepsRows := by
    refine (keeps_validateItems _).bind fun checked => ?_
    obtain ⟨problems, validItems⟩ := checked
    dsimp only
    split
    · trivial
    · have horder : (newOrder buyer.id).AllOps keepsRows :=
        ⟨trivial, fun _ => ⟨trivial, fun _ => ⟨trivial, fun _ => ⟨trivial, fun _ =>
          ⟨trivial, fun _ => trivial⟩⟩⟩⟩⟩
      refine horder.bind fun orderId => keeps_flush.bind fun _ =>
        (keeps_consumeItems orderId validItems 1).bind fun _ => keeps_flush.bind fun _ => ?_
      exact ⟨trivial, fun _ => ⟨trivial, fun _ => trivial⟩⟩
  refine hbuyer.bind fun _ => hcheckout.bind fun orderId => ?_
  exact ⟨trivial, fun items => ⟨trivial, fun order => (keeps_loadOr _ _).bind fun _ => trivial⟩⟩

lemma keeps_loadSellerItem (itemId sellerId : UUID) (forUpdate : Bool) :
    (loadSellerItem itemId sellerId forUpdate).AllOps keepsRows :=
  (Prog.allOps_scalar trivial trivial).bind fun _ => keeps_loadOr _ _

lemma keeps_loadBuyerItem (itemId buyerId : UUID) (forUpdate : Bool) :
    (loadBuyerItem itemId buyerId forUpdate).AllOps keepsRows :=
  (Prog.allOps_scalar trivial trivial).bind fun _ => keeps_loadOr _ _

lemma keeps_setStatus (itemId : UUID) (item : OrderItem) (status : OrderItemStatus) :
    (setStatus itemId item status).AllOps keepsRows :=
  ⟨trivial, fun _ => ⟨fun h => h, fun _ => trivial⟩⟩

lemma keeps_updateOrderItemStatus (itemId : UUID) (status : OrderItemStatus)
    (seller : CurrentUser) :
    (updateOrderItemStatus itemId status seller).AllOps keepsRows := by
  refine (keeps_requireSeller seller).bind fun sellerId =>
    (keeps_loadSellerItem itemId sellerId true).bind fun item => ?_
  dsimp only
  split
  · trivial
  · have hforward : (assertForwardTransition item.status status).AllOps keepsRows := by
      rw [assertForwardTransition]
      split <;> trivial
    exact hforward.bind fun _ => (keeps_setStatus itemId item status).bind fun _ =>
      keeps_flush.bind fun _ => ⟨trivial, fun _ => trivial⟩

lemma keeps_cancelOrderItem (itemId : UUID) (user : CurrentUser) :
    (cancelOrderItem itemId user).AllOps keepsRows := by
  have hload : (loadItemToCancel itemId user).AllOps keepsRows := by
    rw [loadItemToCancel]
    split
    · exact keeps_loadBuyerItem _ _ _
    · exact keeps_loadSellerItem _ _ _
    · trivial
  have hrest : ∀ before after : OrderItem, ∀ restore : Bool,
      ((Prog.flush : Txn Unit).bind fun _ => (Prog.record (.orderItemCancelled itemId restore)).bind
        fun _ => (Prog.record (.orderItemStatusChanged itemId before.status .cancelled)).bind
          fun _ => (.pure after : Txn OrderItem)).AllOps keepsRows :=
    fun _ _ _ => keeps_flush.bind fun _ => ⟨trivial, fun _ => ⟨trivial, fun _ => trivial⟩⟩
  refine hload.bind fun item => ?_
  dsimp only
  split
  · trivial
  · split
    · trivial
    · refine (keeps_setStatus itemId item .cancelled).bind fun after => ?_
      split
      · exact Prog.AllOps.bind ⟨fun _ _ => rfl, fun _ => trivial⟩ fun _ => hrest item after _
      · exact hrest item after _

/-- **Requests around orders** change nothing fixed beside the items. -/
lemma keeps_run (r : OrderRequest) : r.run.AllOps keepsRows := by
  cases r with
  | createOrder payload buyer =>
      rw [OrderRequest.run, transaction_ignore]
      exact keeps_ending (keeps_createOrder payload buyer)
  | updateOrderItemStatus itemId status seller =>
      rw [OrderRequest.run, transaction_ignore]
      exact keeps_ending (keeps_updateOrderItemStatus itemId status seller)
  | cancelOrderItem itemId user =>
      rw [OrderRequest.run, transaction_ignore]
      exact keeps_ending (keeps_cancelOrderItem itemId user)

/-- The obligation of the requests: their commits keep the rows. -/
def keptOutline : Outline Row Event where
  commit st s := s.Moves (KeepsRow fixed besideItems) ∧ Did freeTerms {} st s

lemma keptOutline_sound : keptOutline.Sound where
  keeps _ _ _ _ _ _ := trivial
  relied _ _ _ _ _ _ _ _ _ := trivial

/-- A deed keeps an item. -/
lemma fixed_of_itemDeed {T : Terms} {i : UUID} {b b' : Option OrderItem} {events : List Event}
    (h : ItemDeed T i b b' events) {r : OrderItem} (hb : b = some r) :
    ∃ r', b' = some r' ∧ fixed (.orderItem i) r' = fixed (.orderItem i) r := by
  cases h with
  | nothing b => exact ⟨r, hb, rfl⟩
  | ordered _ => cases hb
  | advanced now _ _ =>
      cases hb
      exact ⟨_, rfl, rfl⟩
  | cancelled now _ _ =>
      cases hb
      exact ⟨_, rfl, rfl⟩

/-- A commit keeps the rows. -/
lemma kept_commit {st : Db} {s : AppSession} (hag : Agrees s.held st)
    (h : keptOutline.commit st s) :
    Kept st (merge st s.held) := by
  obtain ⟨hmoves, news, hdeeds⟩ := h
  intro k b hb
  by_cases hk : besideItems k
  · exact hmoves.merge keepsRow_refl hag k hk b hb
  · cases k with
    | orderItem i => exact fixed_of_itemDeed (hdeeds.item i) hb
    | _ => exact absurd trivial hk

/-- **Requests around orders keep the rows** in every interleaving. -/
lemma kept_of_reachable {v : Db} {s : Sys Row Event DomainError Unit}
    (h : Reachable IsOrderRequest (fun _ _ => True) (Sys.rest v) s) : Kept v s.committed := by
  have htells : Tells { keptOutline with commit := Did freeTerms {} } freeTerms :=
    ⟨fun _ _ _ _ => trivial, fun _ _ _ _ => trivial, fun _ _ _ _ _ _ _ _ _ => trivial⟩
  have hok : ∀ s, Reachable IsOrderRequest (fun _ _ => True) (Sys.rest v) s →
      s.Ok keptOutline fun _ _ _ => True := by
    intro s hs
    refine hs.ok keptOutline_sound trivial ?_ fun _ _ _ _ _ _ _ _ _ _ => trivial
    rintro p ⟨r, rfl⟩ st log -
    exact wp_and (o := { keptOutline with }) (wp_keeps (keeps_run r) (fun _ _ hs _ => hs) st)
      (wp_orderRequest_did htells (fun _ _ hs => hs) (fun _ _ => trivial) r)
  exact Reachable.moves (M := Kept) kept_refl (fun _ _ _ => Kept.trans)
    (fun _ _ => kept_commit) hok .init h

end Requests

/-! ### The account of an offer -/

/-- The cancellations that the tables of the seed tell of. -/
def demoHistory : List Event :=
  (demoItems.filter fun item => item.2.1.status = .cancelled
    && item.2.1.cancelledFrom = some .inTransit).map fun item =>
      lostEvent (placedItemId item.1.orderN item.2.2)

/-- A run of the seed goes through, leaves the stock of every offer together with what its items
hold, and leaves every order and every item. -/
def Neutral (step : Step) (log : List Event) (v : Db) : Prop :=
  ∃ v', step v = .ok v'
    ∧ (∀ id offer, Db.offer v id = some offer → ∃ offer', Db.offer v' id = some offer'
        ∧ offer'.stock + heldQuantity id log v' = offer.stock + heldQuantity id log v)
    ∧ (∀ id order, Db.order v id = some order → Db.order v' id = some order)
    ∧ ∀ id item, Db.orderItem v id = some item → Db.orderItem v' id = some item

/-- The stock of the demonstration stands where the seed sets it. -/
def StockUnmoved (v : Db) : Prop :=
  ∀ demo ∈ offers, ∀ offer, Db.offer v (offerId demo.n) = some offer → offer.stock = remaining demo

section Account

variable {v w : Db}

/-- What the items hold depends on the items. -/
lemma heldQuantity_congr (h : ∀ id, Db.orderItem w id = Db.orderItem v id) (id : UUID)
    (log : List Event) :
    heldQuantity id log w = heldQuantity id log v := by
  have hperm : (Db.orderItems w).Perm (Db.orderItems v) := by
    refine (List.perm_ext_iff_of_nodup (orderItems_nodup w).of_map
      (orderItems_nodup v).of_map).mpr ?_
    rintro ⟨i, item⟩
    rw [mem_orderItems, mem_orderItems, h]
  exact (hperm.map _).sum_eq

/-- An offer of the demonstration is found by its identifier. -/
lemma find_offer {demo : DemoOffer} (hdemo : demo ∈ offers) :
    offers.find? (fun d => offerId d.n = offerId demo.n) = some demo := by
  cases hfind : offers.find? fun d => offerId d.n = offerId demo.n with
  | none => exact absurd (decide_eq_true rfl) (List.find?_eq_none.mp hfind demo hdemo)
  | some d =>
      have hsame : decide (offerId d.n = offerId demo.n) = true :=
        List.find?_some (p := fun d : DemoOffer => decide (offerId d.n = offerId demo.n)) hfind
      rw [List.inj_on_of_nodup_map nodup_offerIds (List.mem_of_find?_eq_some hfind) hdemo
        (of_decide_eq_true hsame)]

section Runs

variable {seedPassword : Option String} {now now' : DateTime} {v₀ v₁ : Db}
  {s : Sys Row Event DomainError Unit} (hseed : seed seedPassword now v₀ = .ok v₁)
  (hrun : Reachable IsOrderRequest (fun _ _ => True) (Sys.rest v₁) s)
include hseed hrun

/-- A second run that is neutral finds the stock where the first one has set it. -/
lemma stockUnmoved_of_neutral
    (h : Neutral (seed seedPassword now') (demoHistory ++ s.log) s.committed) :
    StockUnmoved s.committed := by
  obtain ⟨v', hv', hoffers, hothers⟩ := seed_again now' hseed (kept_of_reachable hrun)
  have hitems : ∀ id, Db.orderItem v' id = Db.orderItem s.committed id :=
    fun id => hothers (.orderItem id) (fun h => h) fun _ h => by cases h
  obtain ⟨w, hw, haccount, -⟩ := h
  obtain rfl : v' = w := Except.ok.inj (hv'.symm.trans hw)
  intro demo hdemo offer hoffer
  obtain ⟨offer', hoffer', hsame⟩ := haccount _ _ hoffer
  rw [hoffers, hoffer] at hoffer'
  obtain rfl := Option.some.inj hoffer'
  rw [heldQuantity_congr hitems, restocked, find_offer hdemo] at hsame
  simp only at hsame
  omega

/-- A second run that finds the stock where the first one has set it is neutral. -/
lemma neutral_of_stockUnmoved (hstock : StockUnmoved s.committed) :
    Neutral (seed seedPassword now') (demoHistory ++ s.log) s.committed := by
  obtain ⟨v', hv', hoffers, hothers⟩ := seed_again now' hseed (kept_of_reachable hrun)
  have hitems : ∀ id, Db.orderItem v' id = Db.orderItem s.committed id :=
    fun id => hothers (.orderItem id) (fun h => h) fun _ h => by cases h
  refine ⟨v', hv', fun id offer hoffer => ?_, fun id order horder => ?_, fun id item hitem => ?_⟩
  · refine ⟨restocked offers id offer, by rw [hoffers, hoffer]; rfl, ?_⟩
    rw [heldQuantity_congr hitems, restocked]
    split
    · rename_i demo hfind
      have hid : offerId demo.n = id := of_decide_eq_true
        (List.find?_some (p := fun d : DemoOffer => decide (offerId d.n = id)) hfind)
      rw [hstock demo (List.mem_of_find?_eq_some hfind) offer (by rw [hid, hoffer])]
    · rfl
  · rw [← horder]
    exact hothers (.order id) (fun h => h) fun _ h => by cases h
  · rw [hitems, hitem]

/-- **The seed, again.** After the seed has gone through on whatever database, and after any
interleaving of checkouts, advances and cancels, a second run goes through and leaves the orders,
the items and the account of every offer exactly if the stock of every demonstration offer stands
where the first run has set it. -/
theorem rerun_neutral_iff :
    Neutral (seed seedPassword now') (demoHistory ++ s.log) s.committed
      ↔ StockUnmoved s.committed :=
  ⟨stockUnmoved_of_neutral hseed hrun, neutral_of_stockUnmoved hseed hrun⟩

end Runs

end Account

/-! ### One purchase -/

lemma notebookPrice_ne_nil : ([3, 4, 9, 9] : List (Fin 10)) ≠ [] := by decide

lemma one_le_one_notebook : 1 ≤ 1 := le_rfl

/-- A checkout of one notebook at 3499.00. -/
def notebookCheckout : CheckoutRequest where
  items := [⟨offerId 1, 1, ⟨[3, 4, 9, 9], 0, 0, notebookPrice_ne_nil⟩, one_le_one_notebook⟩]
  items_ne_nil := List.cons_ne_nil _ _
  unique_offer_ids := List.nodup_singleton _

/-- The demonstration buyer buys one notebook. -/
def notebookRun : List (Action Row Event DomainError Unit) :=
  .start 0 (OrderRequest.createOrder notebookCheckout ⟨buyerId, .buyer, none⟩).run
    :: Action.steps 0 25 100

lemma notebookRun_starts : ∀ a ∈ notebookRun, a.Starts IsOrderRequest := by
  intro a ha
  rcases List.mem_cons.mp ha with rfl | h
  · exact ⟨_, rfl⟩
  · exact Action.starts_of_mem_steps h

/-- On the seeded database 16 of the 17 notebooks are left. -/
lemma notebookRun_ends : ∃ v₁ s, seed (some "segredo") 0 ∅ = .ok v₁
    ∧ Sys.run notebookRun (Sys.rest v₁) = some s
    ∧ ∃ offer : Offer, Db.offer s.committed (offerId 1) = some offer ∧ offer.stock = 16 := by
  have hrun : ((seed (some "segredo") 0 ∅).toOption.bind fun v =>
      (Sys.run notebookRun (Sys.rest v)).bind fun s =>
        (Db.offer s.committed (offerId 1)).map Offer.stock) = some 16 := by
    decide +kernel
  cases hseed : seed (some "segredo") 0 ∅ with
  | error e => rw [hseed] at hrun; cases hrun
  | ok v₁ =>
      rw [hseed] at hrun
      obtain ⟨v, hv, hrun⟩ := Option.bind_eq_some_iff.mp hrun
      cases hv
      obtain ⟨s, hs, hoffer⟩ := Option.bind_eq_some_iff.mp hrun
      obtain ⟨offer, hoffer, hstock⟩ := Option.map_eq_some_iff.mp hoffer
      exact ⟨v₁, s, rfl, hs, offer, hoffer, hstock⟩

theorem rerun_neutral_notebook : ∃ v₁ s, seed (some "segredo") 0 ∅ = .ok v₁
    ∧ Sys.run notebookRun (Sys.rest v₁) = some s
    ∧ (Neutral (seed (some "segredo") (hours 1)) (demoHistory ++ s.log) s.committed
        ↔ StockUnmoved s.committed) := by
  obtain ⟨v₁, s, hseed, hrun, -⟩ := notebookRun_ends
  exact ⟨v₁, s, hseed, hrun, rerun_neutral_iff hseed
    (reachable_of_run (fun _ _ => trivial) .init notebookRun_starts hrun)⟩

/-- The second run gives the notebook back that was sold. -/
theorem not_rerun_neutral : ∃ v₁ s, seed (some "segredo") 0 ∅ = .ok v₁
    ∧ Sys.run notebookRun (Sys.rest v₁) = some s
    ∧ ¬ Neutral (seed (some "segredo") (hours 1)) (demoHistory ++ s.log) s.committed := by
  obtain ⟨v₁, s, hseed, hrun, offer, hoffer, hstock⟩ := notebookRun_ends
  refine ⟨v₁, s, hseed, hrun, fun hneutral => ?_⟩
  have hunmoved := stockUnmoved_of_neutral hseed
    (reachable_of_run (fun _ _ => trivial) .init notebookRun_starts hrun) hneutral
  have hremaining : remaining ⟨1, 1, sellerAId, 349900, 20, true⟩ = 17 := by decide +kernel
  have h := hunmoved _ List.mem_cons_self offer hoffer
  rw [hremaining, hstock] at h
  cases h

end MarketHub.Seed
