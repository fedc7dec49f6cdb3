import MarketHub.ReadCommitted.Turns
import MarketHub.Service

/-!
Requests that are one transaction.

* `catalogTables`, `orderTables`, `conversationTables`, `opsTables`: the tables the requests
  write; `ServiceRequest.run_within` says that they write no others.
* `serialTerms`: what a request knows that runs alone, whatever the clock says.
* `ServiceRequest.single`: every request but the two jobs, which commit once for each
  conversation and once for each page. `ServiceRequest.settles`: a single request that runs
  alone is undone, or does one deed.
-/

namespace MarketHub

open ReadCommitted Session

/-! ### Footprints -/

/-- The tables the catalogue writes. -/
def catalogTables : Key → Prop
  | .offer _ => True
  | _ => False

/-- The tables the order requests write. -/
def orderTables : Key → Prop
  | .offer _ => True
  | .order _ => True
  | .orderItem _ => True
  | _ => False

/-- The tables the requests around conversations write. -/
def conversationTables : Key → Prop
  | .conversation _ => True
  | .message _ => True
  | _ => False

/-- The tables the requests of Ops write. -/
def opsTables : Key → Prop
  | .conversation _ => True
  | .internalComment _ => True
  | _ => False

section Bodies

variable {F : Key → Prop}

lemma body_loadOr {k : Key} (e : DomainError) (row : Option (Row k)) : (loadOr e row).Body F := by
  cases row <;> trivial

lemma body_requireSeller (user : CurrentUser) : (requireSeller user).Body F := by
  rw [requireSeller]
  split <;> trivial

lemma body_requireBuyer (user : CurrentUser) : (requireBuyer user).Body F := by
  rw [requireBuyer]
  split <;> trivial

lemma body_requireOps (user : CurrentUser) : (requireOps user).Body F := by
  rw [requireOps]
  split <;> trivial

/-! #### Catalogue -/

lemma body_sellerForOffer (offer : Offer) : (sellerForOffer offer).Body F := by
  refine (Prog.body_get _).bind fun seller => ?_
  cases seller <;> trivial

lemma body_requireOwnedOffer (offer : Option Offer) (sellerId : UUID) :
    (requireOwnedOffer offer sellerId).Body F := by
  cases offer with
  | none => trivial
  | some offer =>
      dsimp only [requireOwnedOffer]
      split <;> trivial

lemma body_createOffer (payload : OfferCreate) (seller : CurrentUser) :
    (createOffer payload seller).Body catalogTables := by
  refine (body_requireSeller seller).bind fun sellerId => (Prog.body_get _).bind fun product => ?_
  dsimp only
  split
  · trivial
  · exact ⟨trivial, fun id => ⟨trivial, fun _ => Prog.body_flush.bind fun _ =>
      (body_sellerForOffer _).bind fun _ => trivial⟩⟩

lemma body_getOffer (offerId : UUID) : (getOffer offerId).Body catalogTables := by
  refine (Prog.body_get _).bind fun offer => ?_
  cases offer with
  | none => trivial
  | some offer => exact (body_sellerForOffer _).bind fun _ => trivial

lemma body_updateOffer (offerId : UUID) (payload : OfferUpdate) (seller : CurrentUser) :
    (updateOffer offerId payload seller).Body catalogTables := by
  have hprice : ∀ stored, (mergePrice payload.price stored).Body catalogTables := by
    intro stored
    rcases payload.price with _ | _ | _ <;> trivial
  refine (body_requireSeller seller).bind fun sellerId => (Prog.body_get _).bind fun offer =>
    (body_requireOwnedOffer _ _).bind fun offer => (hprice _).bind fun price =>
      ⟨trivial, fun _ => Prog.body_flush.bind fun _ => ?_⟩
  split
  · trivial
  · exact (body_sellerForOffer _).bind fun _ => trivial

lemma body_deleteOffer (offerId : UUID) (seller : CurrentUser) :
    (deleteOffer offerId seller).Body catalogTables := by
  refine (body_requireSeller seller).bind fun sellerId => (Prog.body_get _).bind fun offer =>
    (body_requireOwnedOffer _ _).bind fun _ => ⟨trivial, fun deleted => ?_⟩
  cases deleted <;> trivial

/-! #### Orders -/

lemma body_validateItem (item : CheckoutItem) : (validateItem item).Body F := by
  refine (Prog.body_get _).bind fun offer => ?_
  cases offer with
  | none => trivial
  | some offer =>
      dsimp only
      split
      · trivial
      · split
        · trivial
        · split <;> trivial

lemma body_validateItems (items : List CheckoutItem) : (validateItems items).Body F := by
  induction items with
  | nil => trivial
  | cons item items ih =>
      refine (body_validateItem item).bind fun ⟨offer, problem⟩ => ih.bind fun ⟨_, _⟩ => ?_
      dsimp only
      split <;> trivial

lemma body_newOrderItem (hF : ∀ id, F (.orderItem id)) (orderId : UUID) (line : ℕ)
    (item : CheckoutItem) (offer : Offer) : (newOrderItem orderId line item offer).Body F :=
  ⟨trivial, fun id => ⟨trivial, fun _ => ⟨trivial, fun _ => ⟨trivial, fun _ =>
    ⟨hF id, fun _ => trivial⟩⟩⟩⟩⟩

lemma body_newOrder (hF : ∀ id, F (.order id)) (buyerId : UUID) : (newOrder buyerId).Body F :=
  ⟨trivial, fun id => ⟨trivial, fun _ => ⟨trivial, fun _ => ⟨trivial, fun _ =>
    ⟨hF id, fun _ => trivial⟩⟩⟩⟩⟩

lemma body_consumeItems (orderId : UUID) (validItems : List (CheckoutItem × Offer)) :
    ∀ line, (consumeItems orderId line validItems).Body orderTables := by
  induction validItems with
  | nil => exact fun _ => trivial
  | cons validItem validItems ih =>
      obtain ⟨item, offer⟩ := validItem
      intro line
      refine Prog.Body.bind ⟨trivial, fun _ => trivial⟩ fun consumed => ?_
      cases consumed with
      | false => exact ⟨trivial, fun _ => ⟨trivial, fun _ => trivial⟩⟩
      | true =>
          exact (body_newOrderItem (fun _ => trivial) orderId line item offer).bind fun _ =>
            ih (line + 1)

lemma body_createOrder (payload : CheckoutRequest) (buyer : CurrentUser) :
    (createOrder payload buyer).Body orderTables := by
  have hcheckout : (checkout buyer.id payload).Body orderTables := by
    refine (body_validateItems _).bind fun ⟨problems, validItems⟩ => ?_
    dsimp only
    split
    · trivial
    · exact (body_newOrder (fun _ => trivial) buyer.id).bind fun orderId =>
        Prog.body_flush.bind fun _ =>
        (body_consumeItems _ validItems 1).bind fun _ => Prog.body_flush.bind fun _ =>
          ⟨trivial, fun _ => ⟨trivial, fun _ => trivial⟩⟩
  exact (body_requireBuyer buyer).bind fun _ => hcheckout.bind fun orderId =>
    ⟨trivial, fun items => ⟨trivial, fun order => (body_loadOr _ _).bind fun _ => trivial⟩⟩

lemma body_loadSellerItem (itemId sellerId : UUID) (forUpdate : Bool) :
    (loadSellerItem itemId sellerId forUpdate).Body F :=
  (Prog.body_scalar _ _).bind fun _ => body_loadOr _ _

lemma body_loadBuyerItem (itemId buyerId : UUID) (forUpdate : Bool) :
    (loadBuyerItem itemId buyerId forUpdate).Body F :=
  (Prog.body_scalar _ _).bind fun _ => body_loadOr _ _

lemma body_updateOrderItemStatus (itemId : UUID) (status : OrderItemStatus) (seller : CurrentUser) :
    (updateOrderItemStatus itemId status seller).Body orderTables := by
  refine (body_requireSeller seller).bind fun sellerId =>
    (body_loadSellerItem _ _ _).bind fun item => ?_
  dsimp only
  split
  · trivial
  · have hforward : (assertForwardTransition item.status status).Body orderTables := by
      rw [assertForwardTransition]
      split <;> trivial
    exact hforward.bind fun _ => ⟨trivial, fun _ => ⟨trivial, fun _ => Prog.body_flush.bind fun _ =>
      ⟨trivial, fun _ => trivial⟩⟩⟩

lemma body_cancelOrderItem (itemId : UUID) (user : CurrentUser) :
    (cancelOrderItem itemId user).Body orderTables := by
  have hload : (loadItemToCancel itemId user).Body orderTables := by
    rw [loadItemToCancel]
    split
    · exact body_loadBuyerItem _ _ _
    · exact body_loadSellerItem _ _ _
    · trivial
  have hevents : ∀ (restored : Bool) (previous : OrderItemStatus) (item : OrderItem),
      ((Prog.flush : Txn Unit).bind fun _ =>
        (Prog.record (.orderItemCancelled itemId restored)).bind
        fun _ => (Prog.record (.orderItemStatusChanged itemId previous .cancelled)).bind fun _ =>
          (.pure item : Txn OrderItem)).Body orderTables :=
    fun _ _ _ => Prog.body_flush.bind fun _ => ⟨trivial, fun _ => ⟨trivial, fun _ => trivial⟩⟩
  refine hload.bind fun item => ?_
  dsimp only
  split
  · trivial
  · split
    · trivial
    · refine ⟨trivial, fun now => ⟨trivial, fun _ => ?_⟩⟩
      dsimp only
      split
      · exact ⟨trivial, fun _ => hevents _ _ _⟩
      · exact hevents _ _ _

/-! #### Conversations -/

lemma body_sendMessage (c : UUID) (authorType : AuthorType) (user : Option UUID)
    (content : String) (now : DateTime) :
    (sendMessage c authorType user content now).Body conversationTables :=
  ⟨trivial, fun _ => ⟨trivial, fun _ => Prog.body_flush.bind fun _ => trivial⟩⟩

lemma body_isInactive (settings : Settings) (conversation : Conversation) :
    (isInactive settings conversation).Body F := by
  rw [isInactive]
  split
  · trivial
  · exact ⟨trivial, fun _ => trivial⟩

lemma body_closeForInactivity (c : UUID) (conversation : Conversation) :
    (closeForInactivity c conversation).Body conversationTables := by
  rw [closeForInactivity]
  split
  · trivial
  · exact ⟨trivial, fun _ => (body_sendMessage _ _ _ _ _).bind fun _ => ⟨trivial, fun _ =>
      ⟨trivial, fun _ => ⟨trivial, fun _ => trivial⟩⟩⟩⟩

lemma body_maybeCloseInactive (settings : Settings) (c : UUID) (conversation : Conversation) :
    (maybeCloseInactive settings c conversation).Body conversationTables := by
  refine (body_isInactive _ _).bind fun inactive => ?_
  cases inactive with
  | false => trivial
  | true => exact (body_closeForInactivity _ _).bind fun _ => trivial

lemma body_openForItem (itemId : UUID) : (openForItem itemId).Body F := by
  refine Prog.Body.bind ⟨trivial, fun _ => trivial⟩ fun ids => ?_
  split
  · trivial
  · exact ⟨trivial, fun _ => trivial⟩

lemma body_loadParticipantItem (itemId : UUID) (user : CurrentUser) (forUpdate : Bool) :
    (loadParticipantItem itemId user forUpdate).Body F := by
  rw [loadParticipantItem]
  split
  · exact body_loadSellerItem _ _ _
  · exact body_loadBuyerItem _ _ _
  · trivial

lemma body_createConversation (itemId : UUID) (reason : ConversationReason) (user : CurrentUser) :
    (createConversation itemId reason user).Body conversationTables := by
  refine (body_loadParticipantItem _ _ _).bind fun _ => Prog.Body.bind ?_ fun _ => trivial
  refine (body_openForItem itemId).bind fun existing => ?_
  cases existing with
  | some existing => trivial
  | none =>
      refine ⟨trivial, fun now => (Prog.body_get _).bind fun item => (body_loadOr _ _).bind
        fun item => ⟨trivial, fun id => ⟨trivial, fun inserted => ?_⟩⟩⟩
      cases inserted with
      | true => exact ⟨trivial, fun _ => trivial⟩
      | false =>
          refine (body_openForItem itemId).bind fun existing => ?_
          cases existing <;> trivial

lemma body_loadParticipantConversation (c : UUID) (user : CurrentUser) :
    (loadParticipantConversation c user).Body F := by
  rw [loadParticipantConversation]
  split
  · exact (Prog.body_scalar _ _).bind fun _ => body_loadOr _ _
  · exact (Prog.body_scalar _ _).bind fun _ => body_loadOr _ _
  · trivial

lemma body_getConversation (settings : Settings) (c : UUID) (user : CurrentUser) :
    (getConversation settings c user).Body conversationTables :=
  (body_loadParticipantConversation c user).bind fun _ =>
    (body_maybeCloseInactive _ _ _).bind fun _ => trivial

lemma body_closeConversation (settings : Settings) (c : UUID) (seller : CurrentUser) :
    (closeConversation settings c seller).Body conversationTables := by
  refine (body_requireSeller seller).bind fun sellerId => Prog.Body.bind
    ((Prog.body_scalar _ _).bind fun _ => body_loadOr _ _) fun conversation =>
      Prog.Body.bind ((body_maybeCloseInactive _ _ _).bind fun conversation => ?_) fun _ => trivial
  split
  · trivial
  · exact ⟨trivial, fun _ => ⟨trivial, fun _ => ⟨trivial, fun _ => trivial⟩⟩⟩

lemma body_createMessage (settings : Settings) (c : UUID) (content : String) (user : CurrentUser) :
    (createMessage settings c content user).Body conversationTables := by
  have hauthor : (authorTypeFor user).Body conversationTables := by
    rw [authorTypeFor]
    split <;> trivial
  refine (body_loadParticipantConversation c user).bind fun conversation =>
    (body_maybeCloseInactive _ _ _).bind fun conversation => ?_
  split
  · trivial
  · exact ⟨trivial, fun _ => hauthor.bind fun _ => (body_sendMessage _ _ _ _ _).bind fun _ =>
      ⟨trivial, fun _ => ⟨trivial, fun _ => trivial⟩⟩⟩

lemma body_listMessages (settings : Settings) (c : UUID) (user : CurrentUser)
    (before : Option QueryDateTime) :
    (listMessages settings c user before).Body conversationTables := by
  have hbefore : (validateBefore before).Body conversationTables := by
    cases before with
    | none => trivial
    | some before =>
        dsimp only [validateBefore]
        split
        · trivial
        · refine Prog.Body.bind ⟨trivial, fun _ => trivial⟩ fun moment => ?_
          split <;> trivial
  exact hbefore.bind fun _ => (body_loadParticipantConversation c user).bind fun _ =>
    (body_maybeCloseInactive _ _ _).bind fun _ => ⟨trivial, fun _ => ⟨trivial, fun _ =>
      ⟨trivial, fun _ => trivial⟩⟩⟩

lemma body_closeAllListed (settings : Settings) (ids : List UUID) :
    (closeAllListed settings ids).Body conversationTables := by
  induction ids with
  | nil => trivial
  | cons id ids ih =>
      refine Prog.Body.bind (Prog.Body.bind ⟨trivial, fun _ => trivial⟩ fun conversation => ?_)
        fun _ => ih
      cases conversation with
      | none => trivial
      | some conversation =>
          dsimp only
          split
          · refine (Prog.body_scalar _ _).bind fun locked => ?_
            cases locked with
            | none => trivial
            | some locked => exact (body_maybeCloseInactive _ _ _).bind fun _ => trivial
          · trivial

lemma body_listResponses (ids : List UUID) : (listResponses ids).Body F := by
  induction ids with
  | nil => trivial
  | cons id ids ih => exact ⟨trivial, fun _ => ih.bind fun _ => trivial⟩

lemma body_listConversations (settings : Settings) (itemId : UUID) (user : CurrentUser) :
    (listConversations settings itemId user).Body conversationTables :=
  (body_loadParticipantItem _ _ _).bind fun _ => ⟨trivial, fun ids =>
    (body_closeAllListed settings ids).bind fun _ => ⟨trivial, fun _ => body_listResponses _⟩⟩

/-! #### Ops -/

lemma body_recordPriorityChange (c : UUID) (before after : Priority) (now : DateTime) :
    (recordPriorityChange c before after now).Body F := by
  rw [recordPriorityChange]
  split
  · exact ⟨trivial, fun _ => trivial⟩
  · trivial

lemma body_applyCalculatedPriority (c : UUID) (conversation : Conversation) (item : OrderItem)
    (now : DateTime) : (applyCalculatedPriority c conversation item now).Body opsTables :=
  ⟨trivial, fun _ => (body_recordPriorityChange _ _ _ _).bind fun _ => trivial⟩

lemma body_setOverride (c : UUID) (conversation : Conversation) (override : Option Priority) :
    (setOverride c conversation override).Body opsTables :=
  ⟨trivial, fun _ => ⟨trivial, fun _ => (body_recordPriorityChange _ _ _ _).bind fun _ =>
    Prog.body_flush.bind fun _ => trivial⟩⟩

lemma body_loadOpsConversation (c : UUID) : (loadOpsConversation c).Body F :=
  (Prog.body_scalar _ _).bind fun _ => body_loadOr _ _

lemma body_refreshOpsConversationPriority (c : UUID) (ops : CurrentUser) :
    (refreshOpsConversationPriority c ops).Body opsTables :=
  (body_requireOps ops).bind fun _ => (body_loadOpsConversation c).bind fun _ =>
    Prog.Body.bind ((Prog.body_get _).bind fun _ => body_loadOr _ _) fun _ => ⟨trivial, fun _ =>
      (body_applyCalculatedPriority _ _ _ _).bind fun _ => Prog.body_flush.bind fun _ => trivial⟩

lemma body_createComment (itemId : UUID) (user : CurrentUser) (content : String) :
    (createComment itemId user content).Body opsTables := by
  have hauthor : (commentAuthorTypeFor user).Body opsTables := by
    rw [commentAuthorTypeFor]
    split <;> trivial
  exact hauthor.bind fun _ => ⟨trivial, fun _ => ⟨trivial, fun _ => ⟨trivial, fun _ =>
    Prog.body_flush.bind fun _ => ⟨trivial, fun _ => trivial⟩⟩⟩⟩

lemma body_markConversationCritical (c : UUID) (justification : String) (ops : CurrentUser) :
    (markConversationCritical c justification ops).Body opsTables := by
  refine (body_requireOps ops).bind fun _ => (body_loadOpsConversation c).bind
    fun conversation => ?_
  rw [applyCritical]
  split
  · trivial
  · exact (body_createComment _ _ _).bind fun _ => body_setOverride _ _ _

lemma body_removeConversationCritical (c : UUID) (ops : CurrentUser) :
    (removeConversationCritical c ops).Body opsTables := by
  refine (body_requireOps ops).bind fun _ => (body_loadOpsConversation c).bind
    fun conversation => ?_
  rw [removeCritical]
  split
  · trivial
  · exact body_setOverride _ _ _

end Bodies

/-! ### The jobs -/

section Jobs

variable (settings : Settings)

/-- A closing job raises no business error. -/
lemma raises_runCloseInactive : (runCloseInactive settings).Raises (· = .database) := by
  have hsend : ∀ c now, (sendMessage c .system none systemCloseMessage now).Raises
      (· = .database) :=
    fun c now _ _ => (Prog.raises_flush _).bind fun _ => trivial
  have hclose : ∀ c conversation, (closeForInactivity c conversation).Raises (· = .database) := by
    intro c conversation
    rw [closeForInactivity]
    split
    · trivial
    · exact fun _ => (hsend _ _).bind fun _ _ _ _ => trivial
  have hone : ∀ c, (closeOneInactive settings c).Raises (· = .database) := by
    intro c
    refine Prog.Raises.bind (fun rows => ?_) fun conversation => ?_
    · dsimp only
      split
      · trivial
      · exact fun _ => trivial
    · cases conversation with
      | none => trivial
      | some conversation =>
          have hinactive : (isInactive settings conversation).Raises (· = .database) := by
            rw [isInactive]
            split
            · trivial
            · exact fun _ => trivial
          refine hinactive.bind fun inactive => ?_
          cases inactive with
          | false => trivial
          | true => exact (hclose _ _).bind fun _ => trivial
  have heach : ∀ ids, (closeEach settings ids).Raises (· = .database) := by
    intro ids
    induction ids with
    | nil => trivial
    | cons id ids ih =>
        refine Prog.Raises.bind ((hone id).bind fun _ =>
          (Prog.raises_flush _).bind fun _ => trivial)
          fun closed => ih.bind fun rest => ?_
        trivial
  refine Prog.Raises.bind (fun now => ?_) fun ids => heach ids
  exact fun _ => (Prog.raises_flush _).bind fun _ => trivial

/-- A reconciliation raises no business error. -/
lemma raises_runReconcile (now : Option DateTime) (pageSize : Option ℕ) (fuel : ℕ) :
    (runReconcile settings now pageSize fuel).Raises (· = .database) := by
  have hrecord : ∀ id before after moment,
      (recordPriorityChange id before after moment).Raises (· = .database) := by
    intro id before after moment
    rw [recordPriorityChange]
    split
    · exact fun _ => trivial
    · trivial
  -- by induction on the rows of a page, then on the pages
  have hrows : ∀ moment rows result, (reconcileRows moment rows result).Raises (· = .database) := by
    intro moment rows
    induction rows with
    | nil => exact fun _ => trivial
    | cons row rows ih =>
        obtain ⟨⟨id, conversation⟩, item⟩ := row
        intro result
        refine Prog.Raises.bind ?_ fun changed => ih _
        exact fun _ => (hrecord _ _ _ _).bind fun _ => trivial
  have hpage : ∀ moment size afterId result,
      (reconcilePage moment size afterId result).Raises (· = .database) := by
    intro moment size afterId result
    refine Prog.Raises.bind (fun rows => trivial) fun rows => ?_
    split
    · trivial
    · exact (hrows _ _ _).bind fun _ => trivial
  have hloop : ∀ moment size k afterId result,
      (reconcileLoop moment size k afterId result).Raises (· = .database) := by
    intro moment size k
    induction k with
    | zero => exact fun _ _ => rfl
    | succ k ih =>
        intro afterId result
        refine Prog.Raises.bind ((hpage _ _ _ _).bind fun _ => (Prog.raises_flush _).bind
          fun _ => trivial) fun page => ?_
        rcases page with _ | ⟨last, result⟩
        · trivial
        · exact ih _ _
  cases now with
  | none => exact fun moment => hloop _ _ _ _ _
  | some moment => exact hloop _ _ _ _ _

/-- The steps of the jobs: they change conversations and add messages. -/
def jobOp : {γ : Type} → Op Row Event γ → Prop
  | _, .assign k _ => ∃ c, k = .conversation c
  | _, .add k _ => ∃ id, k = .message id
  | _, .update _ _ _ => False
  | _, .delete _ _ => False
  | _, .insertNested _ _ => False
  | _, _ => True

lemma jobOp_within {γ : Type} (op : Op Row Event γ) (h : jobOp op) :
    op.within conversationTables := by
  cases op with
  | assign k r =>
      obtain ⟨c, rfl⟩ := h
      trivial
  | add k r =>
      obtain ⟨id, rfl⟩ := h
      trivial
  | update k m f => exact h.elim
  | delete k referenced => exact h.elim
  | insertNested k r => exact h.elim
  | _ => trivial

lemma jobOp_spares (c : UUID) {γ : Type} (op : Op Row Event γ) (h : jobOp op) :
    op.spares (.conversation c) := by
  cases op with
  | add k r =>
      obtain ⟨id, rfl⟩ := h
      exact Key.noConfusion
  | insertNested k r => exact h.elim
  | _ => trivial

lemma allOps_job_flush : (Prog.flush : Txn Unit).AllOps jobOp :=
  Prog.allOps_flush trivial fun _ => trivial

lemma allOps_closeOneInactive (c : UUID) : (closeOneInactive settings c).AllOps jobOp := by
  have hsend : ∀ now, (sendMessage c .system none systemCloseMessage now).AllOps jobOp :=
    fun now => ⟨trivial, fun id => ⟨⟨id, rfl⟩, fun _ =>
      allOps_job_flush.bind fun _ => trivial⟩⟩
  have hclose : ∀ conversation, (closeForInactivity c conversation).AllOps jobOp := by
    intro conversation
    rw [closeForInactivity]
    split
    · trivial
    · exact ⟨trivial, fun _ => (hsend _).bind fun _ => ⟨⟨_, rfl⟩, fun _ => ⟨trivial, fun _ =>
        ⟨trivial, fun _ => trivial⟩⟩⟩⟩
  refine Prog.AllOps.bind (Prog.allOps_scalar trivial trivial) fun conversation => ?_
  cases conversation with
  | none => trivial
  | some conversation =>
      have hinactive : (isInactive settings conversation).AllOps jobOp := by
        rw [isInactive]
        split
        · trivial
        · exact ⟨trivial, fun _ => trivial⟩
      refine hinactive.bind fun inactive => ?_
      cases inactive with
      | false => trivial
      | true => exact (hclose _).bind fun _ => trivial

lemma allOps_eligibleIds : (eligibleIds settings).AllOps jobOp :=
  ⟨trivial, fun _ => ⟨trivial, fun _ => trivial⟩⟩

lemma allOps_runCloseInactive : (runCloseInactive settings).AllOps jobOp := by
  have heach : ∀ ids, (closeEach settings ids).AllOps jobOp := by
    intro ids
    induction ids with
    | nil => trivial
    | cons id ids ih =>
        refine Prog.AllOps.bind ((allOps_closeOneInactive settings id).bind fun _ =>
          allOps_job_flush.bind fun _ => trivial) fun closed => ih.bind fun rest => ?_
        trivial
  refine Prog.AllOps.bind ?_ fun ids => heach ids
  exact (allOps_eligibleIds settings).bind fun _ => allOps_job_flush.bind fun _ => trivial

lemma allOps_runReconcile (now : Option DateTime) (pageSize : Option ℕ) (fuel : ℕ) :
    (runReconcile settings now pageSize fuel).AllOps jobOp := by
  have hrecord : ∀ id before after moment,
      (recordPriorityChange id before after moment).AllOps jobOp := by
    intro id before after moment
    rw [recordPriorityChange]
    split
    · exact ⟨trivial, fun _ => trivial⟩
    · trivial
  -- by induction on the rows of a page, then on the pages
  have hrows : ∀ moment rows result,
      (reconcileRows moment rows result).AllOps jobOp := by
    intro moment rows
    induction rows with
    | nil => exact fun _ => trivial
    | cons row rows ih =>
        obtain ⟨⟨id, conversation⟩, item⟩ := row
        intro result
        refine Prog.AllOps.bind ?_ fun changed => ih _
        exact ⟨⟨_, rfl⟩, fun _ => (hrecord _ _ _ _).bind fun _ => trivial⟩
  have hpage : ∀ moment size afterId result,
      (reconcilePage moment size afterId result).AllOps jobOp := by
    intro moment size afterId result
    refine Prog.AllOps.bind ⟨trivial, fun rows => trivial⟩ fun rows => ?_
    split
    · trivial
    · exact (hrows _ _ _).bind fun _ => trivial
  have hloop : ∀ moment size k afterId result,
      (reconcileLoop moment size k afterId result).AllOps jobOp := by
    intro moment size k
    induction k with
    | zero => exact fun _ _ => trivial
    | succ k ih =>
        intro afterId result
        refine Prog.AllOps.bind ((hpage _ _ _ _).bind fun _ => allOps_job_flush.bind
          fun _ => trivial) fun page => ?_
        rcases page with _ | ⟨last, result⟩
        · trivial
        · exact ih _ _
  cases now with
  | none => exact ⟨trivial, fun moment => hloop _ _ _ _ _⟩
  | some moment => exact hloop _ _ _ _ _

end Jobs

/-! ### Requests alone -/

/-- What is known of a request that runs alone. -/
def serialTerms : Terms where
  moved v v' := v' = v
  clock _ := True
  expired _ _ _ := True
  moved_refl _ := rfl
  moved_trans _ _ _ h h' := h'.trans h

lemma serial_tells (C : Db → AppSession → Prop) :
    Tells (Outline.serial Row Event C) serialTerms where
  moved _ _ _ h := h
  clock _ _ _ _ := trivial
  expired _ _ _ _ _ _ _ _ _ := trivial

/-- The requests that are one transaction: all but the jobs. -/
def ServiceRequest.single : ServiceRequest → Prop
  | .conversation .runCloseInactive => False
  | .runReconcile _ _ _ => False
  | _ => True

/-- The steps of a job. -/
lemma ServiceRequest.run_job (settings : Settings) {r : ServiceRequest} (hr : ¬ r.single) :
    (r.run settings).AllOps jobOp := by
  cases r with
  | catalog request => exact absurd trivial hr
  | order request => exact absurd trivial hr
  | conversation request =>
      cases request with
      | runCloseInactive => exact (allOps_runCloseInactive settings).bind fun _ => trivial
      | _ => exact absurd trivial hr
  | ops request => exact absurd trivial hr
  | runReconcile now pageSize fuel =>
      exact (allOps_runReconcile settings now pageSize fuel).bind fun _ => trivial

/-- A job raises no business error. -/
lemma ServiceRequest.run_raises (settings : Settings) {r : ServiceRequest} (hr : ¬ r.single) :
    (r.run settings).Raises (· = .database) := by
  cases r with
  | catalog request => exact absurd trivial hr
  | order request => exact absurd trivial hr
  | conversation request =>
      cases request with
      | runCloseInactive => exact (raises_runCloseInactive settings).bind fun _ => trivial
      | _ => exact absurd trivial hr
  | ops request => exact absurd trivial hr
  | runReconcile now pageSize fuel =>
      exact (raises_runReconcile settings now pageSize fuel).bind fun _ => trivial

/-- The tables a request writes. -/
def ServiceRequest.tables : ServiceRequest → Key → Prop
  | .catalog _ => catalogTables
  | .order _ => orderTables
  | .conversation _ => conversationTables
  | .ops _ => opsTables
  | .runReconcile _ _ _ => conversationTables

/-- A single request is a transaction with a body. -/
lemma ServiceRequest.run_single (settings : Settings) {r : ServiceRequest} (hr : r.single) :
    ∃ (β : Type) (body : Txn β) (g : β → Unit), r.run settings = ending body g
      ∧ body.Body r.tables := by
  cases r with
  | catalog request =>
      cases request with
      | createOffer payload seller =>
          exact ⟨_, _, _, transaction_ignore _, body_createOffer payload seller⟩
      | getOffer offerId => exact ⟨_, _, _, transaction_ignore _, body_getOffer offerId⟩
      | updateOffer offerId payload seller =>
          exact ⟨_, _, _, transaction_ignore _, body_updateOffer offerId payload seller⟩
      | deleteOffer offerId seller => exact ⟨_, _, id, rfl, body_deleteOffer offerId seller⟩
  | order request =>
      cases request with
      | createOrder payload buyer =>
          exact ⟨_, _, _, transaction_ignore _, body_createOrder payload buyer⟩
      | updateOrderItemStatus i status seller =>
          exact ⟨_, _, _, transaction_ignore _, body_updateOrderItemStatus i status seller⟩
      | cancelOrderItem i user =>
          exact ⟨_, _, _, transaction_ignore _, body_cancelOrderItem i user⟩
  | conversation request =>
      cases request with
      | createConversation itemId reason user =>
          exact ⟨_, _, _, transaction_ignore _, body_createConversation itemId reason user⟩
      | listConversations itemId user =>
          exact ⟨_, _, _, transaction_ignore _, body_listConversations settings itemId user⟩
      | getConversation c user =>
          exact ⟨_, _, _, transaction_ignore _, body_getConversation settings c user⟩
      | closeConversation c seller =>
          exact ⟨_, _, _, transaction_ignore _, body_closeConversation settings c seller⟩
      | createMessage c content user =>
          exact ⟨_, _, _, transaction_ignore _, body_createMessage settings c content user⟩
      | listMessages c user before =>
          exact ⟨_, _, _, transaction_ignore _, body_listMessages settings c user before⟩
      | runCloseInactive => exact hr.elim
  | ops request =>
      cases request with
      | refreshOpsConversationPriority c ops =>
          exact ⟨_, _, _, transaction_ignore _, body_refreshOpsConversationPriority c ops⟩
      | markConversationCritical c justification ops =>
          exact ⟨_, _, _, transaction_ignore _, body_markConversationCritical c justification ops⟩
      | removeConversationCritical c ops =>
          exact ⟨_, _, _, transaction_ignore _, body_removeConversationCritical c ops⟩
  | runReconcile now pageSize fuel => exact hr.elim

/-- **A request writes its tables only.** -/
theorem ServiceRequest.run_within (settings : Settings) (r : ServiceRequest) :
    (r.run settings).AllOps (Op.within r.tables) := by
  by_cases hr : r.single
  · obtain ⟨β, body, g, hrun, hbody⟩ := r.run_single settings hr
    rw [hrun]
    exact hbody.transaction g
  · have hjob := (r.run_job settings hr).mono jobOp_within
    cases r with
    | catalog request => exact absurd trivial hr
    | order request => exact absurd trivial hr
    | conversation request => exact hjob
    | ops request => exact absurd trivial hr
    | runReconcile now pageSize fuel => exact hjob

section Keeping

variable {settings : Settings} {T : Terms} {G : Choice → Prop}

lemma keeping_tells (hclock : ∀ ch, G ch → T.clock ch.now)
    (hexpired : ∀ ch b x, G ch → T.expired b x ch.now) (I : Db → List Event → Prop)
    (C : Db → AppSession → Prop) : Tells (Outline.keeping G I C) T where
  moved _ v v' h := by
    obtain rfl : v' = v := h
    exact T.moved_refl v'
  clock _ _ ch h := hclock ch h
  expired _ _ ch _ b x h _ _ := hexpired ch b x h

/-- What a request commits that runs alone, with whatever is kept on the side: a deed on its
tables. -/
lemma wp_keeping (hclock : ∀ ch, G ch → T.clock ch.now)
    (hexpired : ∀ ch b x, G ch → T.expired b x ch.now) (I : Db → List Event → Prop)
    (r : ServiceRequest) (hgiven : ∀ t, r.given = some t → T.clock t) (st : Db) :
    wp (Outline.keeping G I fun st s => Did T settings st s ∧ Kept r.tables st s)
      (r.run settings) (fun _ _ _ => True) st ∅ := by
  have hdid : wp (Outline.keeping G I (Did T settings)) (r.run settings) (fun _ _ _ => True) st ∅ :=
    wp_serviceRequest (keeping_tells hclock hexpired _ _) (fun _ _ h => h) (fun _ _ => trivial) r
      hgiven
  have hkept : wp (Outline.keeping G I (Kept r.tables)) (r.run settings) (fun _ _ _ => True) st ∅ :=
    wp_within (r.run_within settings) (fun _ _ _ h => h) fun _ _ _ => trivial
  exact wp_and (o := Outline.keeping G I fun _ _ => True) hdid hkept

end Keeping

/-- **A single request that runs alone** is undone, or does one deed. -/
theorem ServiceRequest.settles (settings : Settings) {r : ServiceRequest} (hr : r.single)
    (cs : ℕ → Choice) (n : ℕ) (st : Db) (log : List Event) :
    (exec cs (r.run settings) n st log ∅).Settles (Did serialTerms settings) st log := by
  obtain ⟨β, body, g, hrun, hbody⟩ := ServiceRequest.run_single settings hr
  have hwp : wp (Outline.serial Row Event (Did serialTerms settings)) (r.run settings)
      (fun _ _ _ => True) st ∅ :=
    wp_serviceRequest (serial_tells _) (fun _ _ h => h) (fun _ _ => trivial) r fun _ _ => trivial
  rw [hrun] at hwp ⊢
  exact exec_transaction hbody.uncommitted hwp

/-! ### Runs -/

/-- The rows and events after requests to the service that run one after another. -/
def afterTurns (settings : Settings) (st₀ : Db) (turns : List (Turn ServiceRequest)) :
    Db × List Event :=
  serially (ServiceRequest.run settings) (st₀, []) turns

lemma afterTurns_append {settings : Settings} {st₀ : Db} (turns : List (Turn ServiceRequest))
    (turn : Turn ServiceRequest) :
    afterTurns settings st₀ (turns ++ [turn])
      = takeTurn (ServiceRequest.run settings) (afterTurns settings st₀ turns) turn :=
  serially_append turns [turn]

end MarketHub
