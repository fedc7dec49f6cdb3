import MarketHub.ReadCommitted.Footprint
import MarketHub.Communication.Opening
import MarketHub.Communication.Closing
import MarketHub.Communication.Recalculation
import MarketHub.Orders.Progress

/-!
All requests of the service, and what they do to conversations and items.

* `Quiet`: the session of a request that touches neither conversations nor messages and
  at most places new items; `quietOp` is a step that keeps it so.
* `ServiceRequest`: the requests of the catalogue, of orders, of conversations, of Ops,
  and the jobs; `wp_serviceRequest` says that each of them does a deed.
-/

namespace MarketHub

open ReadCommitted Session

/-! ### Requests elsewhere -/

/-- A new item is placed. -/
def Placed : (k : Key) → Option (Row k) → Option (Row k) → Prop
  | .orderItem _, old, new => old = none ∧ ∃ r : OrderItem, new = some r ∧ r.status = .placed
  | _, _, _ => False

/-- An event about no conversation and no status. -/
def Event.elsewhere (e : Event) : Prop :=
  (∀ c, e.concerns c = false) ∧ ∀ i, e.concernsItem i = false

/-- A step that changes no tracked row, except that it may add a placed item. -/
def quietOp : {γ : Type} → Op Row Event γ → Prop
  | _, .assign k _ => k.tracked = false
  | _, .update k _ _ => k.tracked = false
  | _, .delete k _ => k.tracked = false
  | _, .add k r => k.tracked = false ∨ Placed k none (some r)
  | _, .insertNested k _ => k.tracked = false
  | _, .record e => e.elsewhere
  | _, _ => True

/-- The session of a request that has changed no tracked row, except that it may have
added placed items. -/
structure Quiet (s : AppSession) : Prop where
  held : ∀ k h, k.tracked = true → s.held.lookup k = some h →
    h.cur = h.base ∨ Placed k h.base h.cur
  objects : ∀ k ob, k.tracked = true → s.objects.lookup k = some ob →
    ob.loaded = some ob.cur ∨ ob.loaded = none ∧ Placed k none (some ob.cur)
  pending : ∀ e ∈ s.pending, e.elsewhere

lemma quiet_empty : Quiet ∅ where
  held k h _ hk := by
    change (∅ : AList (Held Row)).lookup k = some h at hk
    simp at hk
  objects k ob _ hob := by
    change (∅ : AList (Obj Row)).lookup k = some ob at hob
    simp at hob
  pending e he := by
    change e ∈ [] at he
    simp at he

namespace Quiet

variable {s : AppSession} {k : Key}

lemma load (h : Quiet s) (v : Db) (k : Key) : Quiet (s.load v k) where
  held k' hd htr hk := by
    rw [load_held] at hk
    exact h.held k' hd htr hk
  objects k' ob htr hob := by
    rcases lookup_load_cases v s k hob with hold | ⟨r, -, rfl⟩
    · exact h.objects k' ob htr hold
    · exact Or.inl rfl
  pending := by
    rw [load_pending]
    exact h.pending

lemma loads (h : Quiet s) (v : Db) (ks : List Key) : Quiet (ks.foldl (Session.load v) s) := by
  induction ks generalizing s with
  | nil => exact h
  | cons k ks ih => exact ih (h.load v k)

lemma lock (h : Quiet s) (st : Db) (k : Key) : Quiet (s.lock st k) where
  held k' hd htr hk := by
    by_cases hkk : k' = k
    · subst hkk
      rw [lookup_lock_self] at hk
      cases hk
      cases hkd : s.held.lookup k' with
      | none => exact Or.inl rfl
      | some hd => exact h.held k' hd htr hkd
    · rw [lookup_lock_ne st s k hkk] at hk
      exact h.held k' hd htr hk
  objects := by
    rw [lock_objects]
    exact h.objects
  pending := by
    rw [lock_pending]
    exact h.pending

lemma locks (h : Quiet s) (st : Db) (ks : List Key) : Quiet (ks.foldl (Session.lock st) s) := by
  induction ks generalizing s with
  | nil => exact h
  | cons k ks ih => exact ih (h.lock st k)

/-- A row of another table is written. -/
lemma write (h : Quiet s) (st : Db) (hk : k.tracked = false) (r : Option (Row k)) :
    Quiet (s.write st k r) where
  held k' hd htr hkd := by
    rw [lookup_write_ne st s k (by rintro rfl; rw [hk] at htr; cases htr)] at hkd
    exact h.held k' hd htr hkd
  objects := h.objects
  pending := h.pending

/-- An object is put in step. -/
lemma sync (h : Quiet s) (r : Row k) : Quiet (s.sync k r) where
  held := h.held
  objects k' ob htr hob := by
    rcases lookup_sync_cases hob with hclean | ⟨-, hold⟩
    · exact Or.inl hclean
    · exact h.objects k' ob htr hold
  pending := h.pending

lemma follow (h : Quiet s) (m : Row k → Bool) (f : Row k → Row k) : Quiet (s.follow k m f) := by
  rw [Session.follow]
  split
  · split
    · exact h.sync _
    · exact h
  · exact h

/-- The object of another table, or a new placed item. -/
lemma object (h : Quiet s) {ob : Obj Row k}
    (hob : k.tracked = false ∨ ob.loaded = none ∧ Placed k none (some ob.cur)) :
    Quiet { s with objects := s.objects.insert k ob } where
  held := h.held
  objects k' ob' htr hob' := by
    by_cases hkk : k' = k
    · subst hkk
      rw [AList.lookup_insert] at hob'
      cases hob'
      rcases hob with hk | hnew
      · rw [hk] at htr
        cases htr
      · exact Or.inr hnew
    · rw [AList.lookup_insert_ne hkk] at hob'
      exact h.objects k' ob' htr hob'
  pending := h.pending

/-- A change is sent. -/
lemma sends (h : Quiet s) {st : Db} {ob : Obj Row k} {r : Row k}
    (hob : s.objects.lookup k = some ob) (hsend : Sends (s.view st) k ob r) :
    Quiet ((s.write st k (some r)).sync k ob.cur) := by
  cases htracked : k.tracked with
  | false => exact (h.write st htracked _).sync _
  | true =>
      rcases h.objects k ob htracked hob with hclean | ⟨hnew, hplaced⟩
      · exact absurd hclean hsend.loaded_ne
      cases hsend with
      | update hloaded _ _ =>
          rw [hnew] at hloaded
          cases hloaded
      | insert _ hrow =>
          refine ⟨fun k' hd htr hk => ?_, fun k' ob' htr hob' => ?_, h.pending⟩
          · by_cases hkk : k' = k
            · subst hkk
              rw [sync_held, lookup_write_self] at hk
              cases hk
              refine Or.inr ?_
              have hbase : ((s.held.lookup k').getD ⟨st.lookup k', st.lookup k'⟩).base = none := by
                rw [lookup_view] at hrow
                cases hkd : s.held.lookup k' with
                | none =>
                    rw [hkd] at hrow
                    exact hrow
                | some hd =>
                    rw [hkd] at hrow
                    rcases h.held k' hd htr hkd with hsame | hplaced'
                    · exact hsame.symm.trans hrow
                    · cases k' with
                      | orderItem i => exact hplaced'.1
                      | _ => exact hplaced'.elim
              rw [hbase]
              exact hplaced
            · rw [sync_held, lookup_write_ne st s k hkk] at hk
              exact h.held k' hd htr hk
          · rcases lookup_sync_cases hob' with hcl | ⟨-, hold⟩
            · exact Or.inl hcl
            · exact h.objects k' ob' htr hold

/-- A quiet step keeps a session quiet. -/
lemma step {γ : Type} {op : Op Row Event γ} {c : Choice} {busy : Busy Row} {st : Db}
    {s' : AppSession} {b : γ} (hok : quietOp op) (h : Quiet s)
    (he : op.eval c busy st s = some (b, s')) : Quiet s' := by
  cases op with
  | utcnow => cases he; exact h
  | uuid4 => cases he; exact h
  | select skip rows ents locks =>
      rcases eval_select_skip he with ⟨-, rfl⟩ | ⟨-, rfl⟩
      · exact h
      · exact (h.locks _ _).loads _ _
  | query q => cases he; exact h
  | attrs k => cases he; exact h
  | assign k r =>
      obtain ⟨ob, -, rfl⟩ := eval_assign he
      exact h.object (Or.inl hok)
  | update k m f =>
      rcases eval_update he with ⟨-, rfl, -⟩ | ⟨r, -, -, -, rfl⟩
      · exact h.follow m f
      · exact (h.write st hok _).follow m f
  | delete k referenced =>
      rcases eval_delete he with ⟨-, rfl, -⟩ | ⟨-, -, rfl⟩
      · exact h
      · refine ⟨(h.write st hok none).held, fun k' ob htr hob => ?_, h.pending⟩
        by_cases hkk : k' = k
        · subst hkk
          rw [AList.lookup_erase] at hob
          cases hob
        · rw [AList.lookup_erase_ne hkk] at hob
          exact h.objects k' ob htr hob
  | add k r =>
      obtain ⟨-, rfl⟩ := eval_add he
      exact h.object (hok.imp_right fun hplaced => ⟨rfl, hplaced⟩)
  | insertNested k r =>
      rcases eval_insertNested he with ⟨-, rfl, -⟩ | ⟨-, -, -, rfl⟩
      · exact h
      · exact (h.write st hok _).sync _
  | refresh k =>
      obtain ⟨r, -, rfl⟩ := eval_refresh he
      exact h.sync r
  | dirty => cases he; exact h
  | flushKey k =>
      -- an object of a quiet session is sent as an insert, or with the same maintained columns
      rcases eval_flushKey he with ⟨rfl, -⟩ | ⟨ob, r, hob, hsend, rfl⟩
      · exact h
      · exact h.sends hob hsend
  | record e =>
      cases he
      refine ⟨h.held, h.objects, fun e' he' => ?_⟩
      rcases List.mem_append.mp he' with hold | hnew
      · exact h.pending e' hold
      · rw [List.mem_singleton.mp hnew]
        exact hok

/-- The deeds of a quiet session. -/
lemma deeds (h : Quiet s) {T : Terms} {settings : Settings} {st : Db} (hag : Agrees s.held st) :
    Did T settings st s := by
  have hmerge : ∀ k, k.tracked = true → (merge st s.held).lookup k = st.lookup k
      ∨ Placed k (st.lookup k) ((merge st s.held).lookup k) := by
    intro k htr
    cases hk : s.held.lookup k with
    | none => exact Or.inl (lookup_merge_of_not_held hk)
    | some hd =>
        rw [lookup_merge_of_held hk, hag k hd hk]
        exact h.held k hd htr hk
  have hevents : ∀ p : Event → Bool, (∀ e : Event, e.elsewhere → p e = false) →
      s.pending.filter p = [] := fun p hp =>
    List.filter_eq_nil_iff.mpr fun e he => by rw [hp e (h.pending e he)]; simp
  refine ⟨fun _ => none, ⟨fun c => ?_, fun i => ?_, fun _ _ _ hm => (by cases hm), fun id _ => ?_⟩⟩
  · rw [hevents _ fun e he => he.1 c, Db.conversation, Db.conversation,
      (hmerge (.conversation c) rfl).resolve_right id]
    exact .nothing _
  · rw [hevents _ fun e he => he.2 i]
    rcases hmerge (.orderItem i) rfl with hsame | ⟨hnone, r, hr, hplaced⟩
    · rw [Db.orderItem, Db.orderItem, hsame]
      exact .nothing _
    · rw [Db.orderItem, Db.orderItem, hnone, hr]
      exact .ordered hplaced
  · exact (hmerge (.message id) rfl).resolve_right fun hplaced => hplaced

end Quiet

section QuietRequests

lemma allOps_loadOr {k : Key} (e : DomainError) (row : Option (Row k)) :
    (loadOr e row).AllOps quietOp := by
  cases row <;> trivial

lemma allOps_requireSeller (user : CurrentUser) : (requireSeller user).AllOps quietOp := by
  rw [requireSeller]
  split <;> trivial

lemma allOps_quiet_get (k : Key) : (Prog.get k : Txn (Option (Row k))).AllOps quietOp :=
  Prog.allOps_get trivial trivial

lemma allOps_quiet_flush : (Prog.flush : Txn Unit).AllOps quietOp :=
  Prog.allOps_flush trivial fun _ => trivial

/-! #### Orders -/

lemma allOps_validateItem (item : CheckoutItem) : (validateItem item).AllOps quietOp := by
  refine (allOps_quiet_get _).bind fun offer => ?_
  cases offer with
  | none => trivial
  | some offer =>
      dsimp only
      split
      · trivial
      · split
        · trivial
        · split <;> trivial

lemma allOps_validateItems (items : List CheckoutItem) : (validateItems items).AllOps quietOp := by
  induction items with
  | nil => trivial
  | cons item items ih =>
      refine (allOps_validateItem item).bind fun ⟨offer, problem⟩ => ih.bind fun ⟨_, _⟩ => ?_
      dsimp only
      split <;> trivial

lemma allOps_newOrderItem (orderId : UUID) (line : ℕ) (item : CheckoutItem) (offer : Offer) :
    (newOrderItem orderId line item offer).AllOps quietOp :=
  ⟨trivial, fun _ => ⟨trivial, fun _ => ⟨trivial, fun _ => ⟨trivial, fun _ =>
    ⟨Or.inr ⟨rfl, _, rfl, rfl⟩, fun _ => trivial⟩⟩⟩⟩⟩

lemma allOps_consumeItems (orderId : UUID) (validItems : List (CheckoutItem × Offer)) :
    ∀ line, (consumeItems orderId line validItems).AllOps quietOp := by
  induction validItems with
  | nil => exact fun _ => trivial
  | cons validItem validItems ih =>
      obtain ⟨item, offer⟩ := validItem
      intro line
      refine ⟨rfl, fun consumed => ?_⟩
      cases consumed with
      | false => exact ⟨trivial, fun _ => ⟨trivial, fun _ => trivial⟩⟩
      | true => exact (allOps_newOrderItem orderId line item offer).bind fun _ => ih (line + 1)

lemma allOps_createOrder (payload : CheckoutRequest) (buyer : CurrentUser) :
    (createOrder payload buyer).AllOps quietOp := by
  have hcheckout : (checkout buyer.id payload).AllOps quietOp := by
    refine (allOps_validateItems _).bind fun ⟨problems, validItems⟩ => ?_
    dsimp only
    split
    · trivial
    · have horder : (newOrder buyer.id).AllOps quietOp :=
        ⟨trivial, fun _ => ⟨trivial, fun _ => ⟨trivial, fun _ => ⟨trivial, fun _ =>
          ⟨Or.inl rfl, fun _ => trivial⟩⟩⟩⟩⟩
      refine horder.bind fun orderId => allOps_quiet_flush.bind fun _ =>
        (allOps_consumeItems orderId validItems 1).bind fun _ => allOps_quiet_flush.bind fun _ => ?_
      exact ⟨trivial, fun _ => ⟨⟨fun _ => rfl, fun _ => rfl⟩, fun _ => trivial⟩⟩
  have hbuyer : (requireBuyer buyer).AllOps quietOp := by
    rw [requireBuyer]
    split <;> trivial
  refine hbuyer.bind fun _ => hcheckout.bind fun orderId => ?_
  exact ⟨trivial, fun items => ⟨trivial, fun order => (allOps_loadOr _ _).bind fun _ => trivial⟩⟩

/-! #### Catalogue -/

lemma allOps_sellerForOffer (offer : Offer) : (sellerForOffer offer).AllOps quietOp := by
  refine (allOps_quiet_get _).bind fun seller => ?_
  cases seller <;> trivial

lemma allOps_requireOwnedOffer (offer : Option Offer) (sellerId : UUID) :
    (requireOwnedOffer offer sellerId).AllOps quietOp := by
  cases offer with
  | none => trivial
  | some offer =>
      dsimp only [requireOwnedOffer]
      split <;> trivial

lemma allOps_createOffer (payload : OfferCreate) (seller : CurrentUser) :
    (createOffer payload seller).AllOps quietOp := by
  refine (allOps_requireSeller seller).bind fun sellerId =>
    (allOps_quiet_get _).bind fun product => ?_
  dsimp only
  split
  · trivial
  · refine ⟨trivial, fun id => ⟨Or.inl rfl, fun _ => allOps_quiet_flush.bind fun _ => ?_⟩⟩
    exact (allOps_sellerForOffer _).bind fun _ => trivial

lemma allOps_getOffer (offerId : UUID) : (getOffer offerId).AllOps quietOp := by
  refine (allOps_quiet_get _).bind fun offer => ?_
  cases offer with
  | none => trivial
  | some offer => exact (allOps_sellerForOffer _).bind fun _ => trivial

lemma allOps_updateOffer (offerId : UUID) (payload : OfferUpdate) (seller : CurrentUser) :
    (updateOffer offerId payload seller).AllOps quietOp := by
  have hprice : ∀ stored, (mergePrice payload.price stored).AllOps quietOp := by
    intro stored
    rcases payload.price with _ | _ | _ <;> trivial
  refine (allOps_requireSeller seller).bind fun sellerId => (allOps_quiet_get _).bind fun offer =>
    (allOps_requireOwnedOffer _ _).bind fun offer => (hprice _).bind fun price =>
      ⟨rfl, fun _ => allOps_quiet_flush.bind fun _ => ?_⟩
  split
  · trivial
  · exact (allOps_sellerForOffer _).bind fun _ => trivial

lemma allOps_deleteOffer (offerId : UUID) (seller : CurrentUser) :
    (deleteOffer offerId seller).AllOps quietOp := by
  refine (allOps_requireSeller seller).bind fun sellerId => (allOps_quiet_get _).bind fun offer =>
    (allOps_requireOwnedOffer _ _).bind fun _ => ⟨rfl, fun deleted => ?_⟩
  cases deleted <;> trivial

end QuietRequests

/-! ### The requests of the service -/

/-- The requests to the catalogue. -/
inductive CatalogRequest where
  | createOffer (payload : OfferCreate) (seller : CurrentUser)
  | getOffer (offerId : UUID)
  | updateOffer (offerId : UUID) (payload : OfferUpdate) (seller : CurrentUser)
  | deleteOffer (offerId : UUID) (seller : CurrentUser)

/-- The transaction of a request. -/
def CatalogRequest.run : CatalogRequest → Txn Unit
  | .createOffer payload seller =>
      Prog.transaction do let _ ← MarketHub.createOffer payload seller
  | .getOffer offerId => Prog.transaction do let _ ← MarketHub.getOffer offerId
  | .updateOffer offerId payload seller =>
      Prog.transaction do let _ ← MarketHub.updateOffer offerId payload seller
  | .deleteOffer offerId seller => Prog.transaction (MarketHub.deleteOffer offerId seller)

/-- The requests to the service, and its jobs. -/
inductive ServiceRequest where
  | catalog (request : CatalogRequest)
  | order (request : OrderRequest)
  | conversation (request : ConversationRequest)
  | ops (request : OpsRequest)
  | runReconcile (now : Option DateTime) (pageSize : Option ℕ) (fuel : ℕ)

/-- The program of a request. -/
def ServiceRequest.run (settings : Settings) : ServiceRequest → Txn Unit
  | .catalog request => request.run
  | .order request => request.run
  | .conversation request => request.run settings
  | .ops request => request.run
  | .runReconcile now pageSize fuel => do
      let _ ← MarketHub.runReconcile settings now pageSize fuel

/-- The moments a request is given instead of reading them. -/
def ServiceRequest.given : ServiceRequest → Option DateTime
  | .runReconcile now _ _ => now
  | _ => none

section Requests

variable {o : Outline Row Event} {st : Db} {T : Terms} {settings : Settings}
  {post : Unit → Db → AppSession → Prop}

/-- A request elsewhere does a deed. -/
lemma wp_quiet {α β : Type} {post : α → Db → AppSession → Prop} {body : Txn β} {g : β → α}
    (hquiet : ∀ st s, Quiet s → Agrees s.held st → o.commit st s) (hpost : ∀ a st, post a st ∅)
    (h : body.AllOps quietOp) : wp o (ending body g) post st ∅ := by
  have hflush : ∀ a st s, Quiet s → wp o (Prog.flush.bind fun _ =>
      (.commit (.publish (.pure (g a))) : Txn α)) post st s := by
    intro a st s hs
    refine wp_bind (wp_of_allOps allOps_quiet_flush (fun _ _ _ _ _ _ _ _ => Quiet.step) hquiet
      quiet_empty (fun _ st s hs => ?_) hs)
    exact fun st' hf => ⟨hquiet _ _ hs hf.agrees, fun st'' _ => hpost _ st''⟩
  exact wp_bind (wp_of_allOps h (fun _ _ _ _ _ _ _ _ => Quiet.step) hquiet quiet_empty hflush
    quiet_empty)

variable (hT : Tells o T) (hdid : ∀ st s, Did T settings st s → o.commit st s)
  (hpost : ∀ a st, post a st ∅)
include hT hdid hpost

/-- **The requests around conversations.** -/
theorem wp_conversationRequest (r : ConversationRequest) : wp o (r.run settings) post st ∅ := by
  cases r with
  | createConversation itemId reason user =>
      rw [ConversationRequest.run, transaction_ignore]
      exact wp_createConversation hT hdid fun _ st' _ => hpost _ st'
  | listConversations itemId user =>
      rw [ConversationRequest.run, transaction_ignore]
      exact wp_listConversations hT hdid hpost user _
  | getConversation c user =>
      rw [ConversationRequest.run, transaction_ignore]
      exact wp_getConversation hT hdid hpost user _
  | closeConversation c seller =>
      rw [ConversationRequest.run, transaction_ignore]
      exact wp_closeConversation hT hdid hpost seller _
  | createMessage c content user =>
      rw [ConversationRequest.run, transaction_ignore]
      exact wp_createMessage hT hdid hpost content user _
  | listMessages c user before =>
      rw [ConversationRequest.run, transaction_ignore]
      exact wp_listMessages hT hdid hpost user before _
  | runCloseInactive =>
      exact wp_bind (wp_runCloseInactive hT hdid fun _ _ => fun st' _ => hpost _ st')

/-- **The requests around orders.** -/
theorem wp_orderRequest_did (r : OrderRequest) : wp o r.run post st ∅ := by
  cases r with
  | createOrder payload buyer =>
      rw [OrderRequest.run, transaction_ignore]
      exact wp_quiet (fun st s hs hag => hdid st s (hs.deeds hag)) hpost
        (allOps_createOrder payload buyer)
  | updateOrderItemStatus i status seller =>
      rw [OrderRequest.run, transaction_ignore]
      exact wp_advance hT status seller (fun st s h _ => hdid st s h) hpost _
  | cancelOrderItem i user =>
      rw [OrderRequest.run, transaction_ignore]
      exact wp_cancel hT user (fun st s h _ => hdid st s h) hpost _

/-- **Every request does a deed.** -/
theorem wp_serviceRequest (r : ServiceRequest) (hgiven : ∀ t, r.given = some t → T.clock t) :
    wp o (r.run settings) post st ∅ := by
  cases r with
  | catalog request =>
      cases request with
      | createOffer payload seller =>
          rw [ServiceRequest.run, CatalogRequest.run, transaction_ignore]
          exact wp_quiet (fun st s hs hag => hdid st s (hs.deeds hag)) hpost
            (allOps_createOffer payload seller)
      | getOffer offerId =>
          rw [ServiceRequest.run, CatalogRequest.run, transaction_ignore]
          exact wp_quiet (fun st s hs hag => hdid st s (hs.deeds hag)) hpost
            (allOps_getOffer offerId)
      | updateOffer offerId payload seller =>
          rw [ServiceRequest.run, CatalogRequest.run, transaction_ignore]
          exact wp_quiet (fun st s hs hag => hdid st s (hs.deeds hag)) hpost
            (allOps_updateOffer offerId payload seller)
      | deleteOffer offerId seller =>
          rw [ServiceRequest.run, CatalogRequest.run, transaction_eq_ending]
          exact wp_quiet (fun st s hs hag => hdid st s (hs.deeds hag)) hpost
            (allOps_deleteOffer offerId seller)
  | order request => exact wp_orderRequest_did hT hdid hpost request
  | conversation request => exact wp_conversationRequest hT hdid hpost request
  | ops request => exact wp_opsRequest hT hdid hpost request
  | runReconcile now pageSize fuel =>
      exact wp_bind (wp_runReconcile hT hdid (fun _ _ => fun st' _ => hpost _ st') now hgiven
        pageSize fuel)

end Requests

end MarketHub
