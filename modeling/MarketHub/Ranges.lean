import MarketHub.Numbers

/-!
Requests to a database that refuses numbers out of range.

* `NumberRequest`: the requests of the service and the listings, as their schemas admit them.
  `NumberRequest.InRange`: every number that the request sends fits its type.
* `NumberRequest.Bounded`: the bounds on the request and on the stored rows.
* `ServiceRequest.serve`: the database refuses the first number that does not fit, and the
  request is rolled back. `Reached`: the states that requests reach.
* `numbers_fit_iff`: in every state that is reached the numbers of a request fit exactly within
  its bounds, and so does a cancel succeed that the status rules allow.
-/

namespace MarketHub

open ReadCommitted OffsetPaging Session

/-! ### The requests -/

/-- A request of the service, or a listing with a page size that the routes take. -/
inductive NumberRequest where
  | service (request : ServiceRequest)
  | listOrderItems (seller : CurrentUser) (filters : ItemFilters)
      (sorting : Sorting ItemContext.newestFirst) (query : PageQuery) (h : query.pageSize ≤ 100)
  | listOpsOrderItems (ops : CurrentUser) (filters : ItemFilters) (sellerId : Option UUID)
      (sorting : Sorting OpsItemContext.newestFirst) (query : PageQuery) (h : query.pageSize ≤ 100)
  | listOpenQueue (ops : CurrentUser) (filters : QueueFilters)
      (sorting : Sorting QueueRow.mostUrgentFirst) (query : PageQuery) (h : query.pageSize ≤ 100)
  | listNotifications (user : CurrentUser) (sorting : Sorting notificationsNewestFirst)
      (query : PageQuery) (h : query.pageSize ≤ 100)

/-- The database has refused no number of the answer. -/
def NotRefused {α : Type} (answer : Except (Failure DomainError) α) : Prop :=
  ∀ m, answer ≠ .error (.domain (.dataError m))

/-- Every number that the request sends fits its type. -/
def NumberRequest.InRange (settings : Settings) (cs : ℕ → Choice) (v : Db) : NumberRequest → Prop
  | .service request => ∀ x ∈ sentValues sendsNumbers cs (request.run settings) 0 v ∅, x.Fits
  | .listOrderItems seller filters sorting query _ =>
      NotRefused (answerOf cs v (MarketHub.listOrderItems seller filters sorting query))
  | .listOpsOrderItems ops filters sellerId sorting query _ =>
      NotRefused (answerOf cs v (MarketHub.listOpsOrderItems ops filters sellerId sorting query))
  | .listOpenQueue ops filters sorting query _ =>
      NotRefused (answerOf cs v (MarketHub.listOpenQueue ops filters sorting query))
  | .listNotifications user sorting query _ =>
      NotRefused (answerOf cs v (MarketHub.listNotifications user sorting query))

/-- The bounds of a listing: a number filter that Python takes has numbers that fit, and so has
the offset. -/
def ListingBounded (publicNumber : Option PublicNumber) (query : PageQuery) : Prop :=
  (∀ value ∈ publicNumber, value.Short) →
    (∀ value ∈ publicNumber, value.Sendable) ∧ FitsInteger query.offset

/-- The bounds of a request to the service. -/
def ServiceRequest.Bounded (v : Db) : ServiceRequest → Prop
  | .catalog request => request.Bounded v
  | .order request => request.Bounded v
  | _ => True

/-- The bounds of a request. -/
def NumberRequest.Bounded (v : Db) : NumberRequest → Prop
  | .service request => request.Bounded v
  | .listOrderItems seller filters _ query _ =>
      seller.role = .seller → seller.sellerId ≠ none → ListingBounded filters.publicNumber query
  | .listOpsOrderItems ops filters _ _ query _ =>
      ops.role = .ops → ListingBounded filters.publicNumber query
  | .listOpenQueue ops filters _ query _ =>
      ops.role = .ops → ListingBounded filters.publicNumber query
  | .listNotifications _ _ query _ => FitsInteger query.offset

/-! ### The database -/

instance : DecidablePred Number.Fits
  | .integer value => inferInstanceAs (Decidable (-2147483648 ≤ value ∧ value < 2147483648))
  | .numeric cents => inferInstanceAs (Decidable (cents < 1000000000000))

/-- What the database says to a number that does not fit. -/
def Number.refusal : Number → String
  | .integer _ => "integer out of range"
  | .numeric _ => "numeric field overflow"

/-- A request alone: the database refuses the first number that does not fit, and the request
is rolled back. -/
def ServiceRequest.serve (settings : Settings) (cs : ℕ → Choice) (v : Db)
    (request : ServiceRequest) :
    Except (Failure DomainError) Unit × Db :=
  match (sentValues sendsNumbers cs (request.run settings) 0 v ∅).find? (¬ ·.Fits) with
  | some x => (.error (.domain (.dataError x.refusal)), v)
  | none =>
      let outcome := exec cs (request.run settings) 0 v [] ∅
      (outcome.result, outcome.store)

/-- The states that requests reach one after another; the listings leave them as they are. -/
inductive Reached (settings : Settings) (v₀ : Db) : Db → Prop
  | start : Reached settings v₀ v₀
  | step {v : Db} (h : Reached settings v₀ v) (cs : ℕ → Choice) (request : ServiceRequest) :
      Reached settings v₀ (request.serve settings cs v).2

section Serve

variable {settings : Settings} {cs : ℕ → Choice} {v v₀ : Db} {request : ServiceRequest}

variable (settings request) in
/-- A request is refused when one of its numbers does not fit. -/
lemma serve_refused (h : ¬ ∀ x ∈ sentValues sendsNumbers cs (request.run settings) 0 v ∅, x.Fits) :
    ∃ x : Number, request.serve settings cs v = (.error (.domain (.dataError x.refusal)), v) := by
  rw [ServiceRequest.serve]
  cases hfind : (sentValues sendsNumbers cs (request.run settings) 0 v ∅).find? (¬ ·.Fits) with
  | some x => exact ⟨x, rfl⟩
  | none => exact absurd (fun x hx => by simpa using List.find?_eq_none.mp hfind x hx) h

variable (settings request) in
/-- A request whose numbers fit runs as if there were no bounds. -/
lemma serve_inRange (h : ∀ x ∈ sentValues sendsNumbers cs (request.run settings) 0 v ∅, x.Fits) :
    request.serve settings cs v
      = ((exec cs (request.run settings) 0 v [] ∅).result,
          (exec cs (request.run settings) 0 v [] ∅).store) := by
  have hfind : (sentValues sendsNumbers cs (request.run settings) 0 v ∅).find? (¬ ·.Fits) = none :=
    List.find?_eq_none.mpr fun x hx => by simpa using h x hx
  rw [ServiceRequest.serve, hfind]

/-- A request keeps the types of the columns. -/
lemma stored_serve (h : Stored RowFits v) : Stored RowFits (request.serve settings cs v).2 := by
  by_cases hfits : ∀ x ∈ sentValues sendsNumbers cs (request.run settings) 0 v ∅, x.Fits
  · rw [serve_inRange settings request hfits]
    exact (fit_exec columnTypes hfits h h).1
  · obtain ⟨x, hx⟩ := serve_refused settings request hfits
    rw [hx]
    exact h

/-- **The types of the columns** hold in every state that is reached. -/
lemma Reached.stored (h : Reached settings v₀ v) (h₀ : Stored RowFits v₀) : Stored RowFits v := by
  induction h with
  | start => exact h₀
  | step _ cs request ih => exact stored_serve ih

end Serve

/-! ### The numbers of the service -/

section Service

variable {settings : Settings} {cs : ℕ → Choice} {v : Db}

/-- Conversations, messages and comments have no numbers. -/
lemma rowFits_conversationTables (k : Key) (r : Row k) (h : conversationTables k) :
    RowFits k r := by
  cases k with
  | conversation id => exact fun x hx => nomatch hx
  | message id => exact fun x hx => nomatch hx
  | _ => exact h.elim

lemma rowFits_opsTables (k : Key) (r : Row k) (h : opsTables k) : RowFits k r := by
  cases k with
  | conversation id => exact fun x hx => nomatch hx
  | internalComment id => exact fun x hx => nomatch hx
  | _ => exact h.elim

lemma proper_getOffer (offerId : UUID) : (getOffer offerId).Proper RowFits fun _ => True := by
  refine (Prog.proper_get (Key.offer offerId)).bind fun offer _ => ?_
  cases offer with
  | none => trivial
  | some offer => exact (proper_sellerForOffer _).bind fun _ _ => trivial

/-- The numbers of a proper request fit. -/
lemma proper_fits {p : Txn Unit} (hp : p.Proper RowFits fun _ => True) (h : Stored RowFits v) :
    ∀ x ∈ sentValues sendsNumbers cs p 0 v ∅, x.Fits :=
  sent_fits columnTypes hp h h .empty

/-- **The numbers of a request to the service** fit exactly within its bounds. -/
lemma serviceRequest_iff (h : Stored RowFits v) (request : ServiceRequest) :
    (∀ x ∈ sentValues sendsNumbers cs (request.run settings) 0 v ∅, x.Fits)
      ↔ request.Bounded v := by
  have hwithin := request.run_within settings
  cases request with
  | catalog request =>
      cases request with
      | createOffer payload seller => exact createOffer_iff h payload seller
      | getOffer offerId =>
          refine iff_of_true (proper_fits ?_ h) trivial
          rw [ServiceRequest.run, CatalogRequest.run, transaction_ignore]
          exact proper_ending (proper_getOffer offerId)
      | updateOffer offerId payload seller => exact updateOffer_iff h offerId payload seller
      | deleteOffer offerId seller =>
          refine iff_of_true (proper_fits ?_ h) trivial
          rw [ServiceRequest.run, CatalogRequest.run, transaction_eq_ending]
          exact proper_ending (proper_deleteOffer offerId seller)
  | order request =>
      cases request with
      | createOrder payload buyer =>
          refine iff_of_true (proper_fits ?_ h) trivial
          rw [ServiceRequest.run, OrderRequest.run, transaction_ignore]
          exact proper_ending (proper_createOrder payload buyer)
      | updateOrderItemStatus itemId status seller =>
          refine iff_of_true (proper_fits ?_ h) trivial
          rw [ServiceRequest.run, OrderRequest.run, transaction_ignore]
          exact proper_ending (proper_updateOrderItemStatus itemId status seller)
      | cancelOrderItem itemId user => exact cancelOrderItem_iff cs h itemId user
  | conversation request =>
      exact iff_of_true (proper_fits (hwithin.proper rowFits_conversationTables) h) trivial
  | ops request => exact iff_of_true (proper_fits (hwithin.proper rowFits_opsTables) h) trivial
  | runReconcile now pageSize fuel =>
      exact iff_of_true (proper_fits (hwithin.proper rowFits_conversationTables) h) trivial

end Service

/-! ### The numbers of the listings -/

section Listings

variable {ρ β κ : Type} [LinearOrder κ] {key : ρ → κ} {cs : ℕ → Choice} {v : Db}
  (stmt : Option (ℕ × Option ℕ) → Db → List ρ) {entities : ρ → List Key} {item : ρ → β}
  {sorting : Sorting key} {query : PageQuery}

/-- A page size of the routes. -/
lemma fitsInteger_pageSize (h : query.pageSize ≤ 100) : FitsInteger query.pageSize :=
  lt_of_le_of_lt h (by norm_num)

/-- A page is shown exactly when its numbers fit. -/
lemma notRefused_paginate_iff (hsize : query.pageSize ≤ 100) {parameters : List ℕ}
    (stmt : Db → List ρ) :
    NotRefused (exec cs (paginate stmt parameters entities sorting item query) 0 v [] ∅).result
      ↔ (∀ n ∈ parameters, FitsInteger n) ∧ FitsInteger query.offset := by
  by_cases hfit : (∀ n ∈ parameters, FitsInteger n) ∧ FitsInteger query.offset
  · refine iff_of_true (fun m hm => ?_) hfit
    rw [exec_paginate_fit hfit.1 (fitsInteger_pageSize hsize) hfit.2] at hm
    cases hm
  · refine iff_of_false (fun hall => ?_) hfit
    exact hall _ (exec_paginate_unfit fun h => hfit ⟨h.1, h.2.2⟩)

/-- A listing with a number filter. -/
lemma notRefused_filtered_iff (hsize : query.pageSize ≤ 100) (publicNumber : Option PublicNumber) :
    NotRefused (exec cs ((parseNumberFilter publicNumber).bind fun number =>
        paginate (stmt number) (numberParameters number) entities sorting item query) 0
        v [] ∅).result
      ↔ ListingBounded publicNumber query := by
  rw [ListingBounded]
  by_cases hshort : ∀ value ∈ publicNumber, value.Short
  · rw [parseNumberFilter_short hshort, Prog.pure_eq, Prog.bind, notRefused_paginate_iff hsize,
      sendable_iff]
    exact ⟨fun h _ => ⟨⟨hshort, h.1⟩, h.2⟩, fun h => ⟨(h hshort).1.2, (h hshort).2⟩⟩
  · obtain ⟨e, he⟩ := parseNumberFilter_long hshort
    refine iff_of_true (fun m hm => ?_) fun h => absurd h hshort
    rw [he] at hm
    cases hm

/-- A role that is required. -/
lemma notRefused_requireOps_iff {ops : CurrentUser} {body : Unit → Txn β} {P : Prop}
    (h : NotRefused (exec cs (body ()) 0 v [] ∅).result ↔ P) :
    NotRefused (exec cs ((requireOps ops).bind body) 0 v [] ∅).result ↔ (ops.role = .ops → P) := by
  by_cases hrole : ops.role = .ops
  · have hok : requireOps ops = pure () := if_pos hrole
    rw [hok, Prog.pure_eq, Prog.bind, h]
    exact ⟨fun hp _ => hp, fun hp => hp hrole⟩
  · have hrefused : requireOps ops = Prog.throw (.forbidden "Ops role required") := if_neg hrole
    rw [hrefused]
    refine iff_of_true (fun m hm => ?_) fun hrole' => absurd hrole' hrole
    cases hm

lemma notRefused_requireSeller_iff {seller : CurrentUser} {body : UUID → Txn β} {P : Prop}
    (h : ∀ sellerId, NotRefused (exec cs (body sellerId) 0 v [] ∅).result ↔ P) :
    NotRefused (exec cs ((requireSeller seller).bind body) 0 v [] ∅).result
      ↔ (seller.role = .seller → seller.sellerId ≠ none → P) := by
  by_cases hseller : seller.role = .seller ∧ seller.sellerId ≠ none
  · obtain ⟨sellerId, hstore⟩ := Option.ne_none_iff_exists'.mp hseller.2
    rw [requireSeller_ok hseller.1 hstore, Prog.pure_eq, Prog.bind, h]
    exact ⟨fun hp _ _ => hp, fun hp => hp hseller.1 hseller.2⟩
  · rw [requireSeller_refused hseller]
    refine iff_of_true (fun m hm => ?_) fun hrole hstore => absurd ⟨hrole, hstore⟩ hseller
    cases hm

end Listings

/-! ### A cancel -/

section Cancel

variable {cs : ℕ → Choice} {n : ℕ} {v : Db} {s : AppSession} {itemId : UUID} {user : CurrentUser}
  {item : OrderItem}

/-- The end of a cancel. -/
lemma result_cancelled (h : s.Updates v) (hag : Agrees s.held v) (e₁ e₂ : Event) :
    (exec cs (Prog.flush.bind fun _ => (Prog.record e₁).bind fun _ => (Prog.record e₂).bind
      fun _ => finish ()) n v [] s).result = .ok () := by
  obtain ⟨n', s', -, hclean, -, hexec⟩ := exec_flush_updates cs n [] h hag
    fun _ => (Prog.record e₁).bind fun _ => (Prog.record e₂).bind fun _ => finish ()
  rw [hexec, exec_record, exec_record, finish, exec_flush_clean]
  · rfl
  · exact fun k o ho => hclean k o ho

/-- The stock that goes back, before the end of a cancel. -/
lemma result_restoreStock (h : s.Updates v) (hag : Agrees s.held v)
    (hoffer : s.objects.lookup (.offer item.offerId) = none) (e₁ e₂ : Event) :
    (exec cs ((restoreStock item).bind fun _ => Prog.flush.bind fun _ =>
      (Prog.record e₁).bind fun _ => (Prog.record e₂).bind fun _ => finish ()) n v [] s).result
        = .ok () := by
  simp only [restoreStock, Prog.bind_eq, Prog.bind_assoc, Prog.pure_eq, Prog.bind]
  obtain ⟨b, s', hobjects, hextends, hview, hexec⟩ := exec_update cs n v [] hoffer
    fun _ => Prog.flush.bind fun _ => (Prog.record e₁).bind fun _ => (Prog.record e₂).bind
      fun _ => finish ()
  rw [hexec]
  refine result_cancelled (fun k o ho hne => ?_) (hextends.agrees hag) e₁ e₂
  rw [hobjects] at ho
  obtain ⟨old, row, hold, hrow⟩ := h k o ho hne
  refine ⟨old, row, hold, (hview k fun hk => ?_).trans hrow⟩
  subst hk
  rw [hoffer] at ho
  cases ho

/-- A session in which at most the object of one row is changed. -/
lemma updates_insert {k : Key} (old cur : Row k) {row : Row k}
    (hclean : ∀ k' o, s.objects.lookup k' = some o → o.loaded = some o.cur)
    (hrow : (s.view v).lookup k = some row) :
    Session.Updates v { s with objects := s.objects.insert k ⟨some old, cur⟩ } := by
  intro k' o ho hne
  by_cases hk : k' = k
  · subst hk
    rw [AList.lookup_insert] at ho
    cases ho
    exact ⟨old, row, rfl, hrow⟩
  · rw [AList.lookup_insert_ne hk] at ho
    exact absurd (hclean k' o ho) hne

/-- **A cancel that the status rules allow** succeeds when its numbers are stored. -/
lemma result_cancelOrderItem (howns : Owns v itemId user item)
    (hcancel : canCancel item.status user.role = true) :
    (exec cs (OrderRequest.cancelOrderItem itemId user).run 0 v [] ∅).result = .ok () := by
  rw [OrderRequest.run, transaction_ignore, ending, cancelOrderItem]
  rcases loadItemToCancel_cases itemId user v with ⟨-, hforeign⟩ | ⟨stmt, hload, hstmt⟩
  · exact absurd howns (hforeign item)
  · rcases hstmt with ⟨-, hforeign⟩ | ⟨item', locks, howns', hsome⟩
    · exact absurd howns (hforeign item)
    · cases howns.found.symm.trans howns'.found
      have hread : Session.read v (∅ : AppSession) (.orderItem itemId) = some item := howns.found
      have hstatus : item.status ≠ .cancelled := by
        intro heq
        rw [heq] at hcancel
        cases hrole : user.role <;> simp [canCancel, hrole] at hcancel
      rw [hload]
      simp only [Prog.bind_eq, Prog.bind_assoc]
      rw [exec_scalar_some _ hsome, view_empty, hread]
      simp only [loadOr, Prog.pure_eq, Prog.bind]
      rw [if_neg hstatus, if_neg (by simp [hcancel])]
      simp only [setStatus, Prog.bind_eq, Prog.bind_assoc]
      set s := (locks.foldl (Session.lock v) ∅).load v (.orderItem itemId) with hs
      -- the item has been loaded under its lock
      have hob : s.objects.lookup (.orderItem itemId) = some ⟨some item, item⟩ := by
        have hrow : v.lookup (.orderItem itemId) = some item := howns.found
        rw [hs, load, foldl_lock_objects, show (∅ : AppSession).objects = ∅ from rfl,
          AList.lookup_empty, hrow]
        exact AList.lookup_insert _
      have hclean : s.Clean := (clean_empty.locks v locks).load v
      have hag : Agrees s.held v := by
        rw [hs, load_held]
        exact (Extends.locks (any_locked_nil locks)).agrees (agrees_empty v)
      have hrow : (s.view v).lookup (.orderItem itemId) = some item := by
        rw [hs, view, load_held]
        exact (lookup_view_locks (s := (∅ : AppSession)) locks (.orderItem itemId)).trans
          howns.found
      have hupdates := fun cur : OrderItem => updates_insert item cur hclean hrow
      rw [exec_utcnow, exec_assign _ hob]
      simp only [Prog.pure_eq, Prog.bind]
      -- with the stock given back, and without
      by_cases hrestore : restoresStockOnCancel item.status = true
      · rw [if_pos hrestore]
        simp only [Prog.bind_assoc]
        refine result_restoreStock (hupdates _) hag ?_ _ _
        rw [AList.lookup_insert_ne (by simp), hs, lookup_load_ne _ _ _ (by simp),
          foldl_lock_objects]
        rfl
      · rw [if_neg hrestore]
        simp only [Prog.bind_assoc]
        exact result_cancelled (hupdates _) hag _ _

end Cancel

/-! ### The bounds -/

section Bounds

variable {settings : Settings} {cs : ℕ → Choice} {v v₀ : Db}

/-- The numbers of a request fit exactly within its bounds. -/
lemma inRange_iff (h : Stored RowFits v) (request : NumberRequest) :
    request.InRange settings cs v ↔ request.Bounded v := by
  cases request with
  | service request => exact serviceRequest_iff h request
  | listOrderItems seller filters sorting query hsize =>
      exact notRefused_requireSeller_iff fun sellerId =>
        notRefused_filtered_iff (sellerItems sellerId filters) hsize filters.publicNumber
  | listOpsOrderItems ops filters sellerId sorting query hsize =>
      exact notRefused_requireOps_iff
        (notRefused_filtered_iff (opsItems filters sellerId) hsize filters.publicNumber)
  | listOpenQueue ops filters sorting query hsize =>
      exact notRefused_requireOps_iff
        (notRefused_filtered_iff (openQueue filters) hsize filters.publicNumber)
  | listNotifications user sorting query hsize =>
      refine (notRefused_paginate_iff hsize _).trans ?_
      simp [NumberRequest.Bounded]

/-- A cancel that the status rules allow succeeds exactly when the stock that it gives back
still fits. -/
lemma serve_cancel_iff (h : Stored RowFits v) {itemId : UUID} {user : CurrentUser}
    {item : OrderItem} (howns : Owns v itemId user item)
    (hcancel : canCancel item.status user.role = true) :
    ((ServiceRequest.order (.cancelOrderItem itemId user)).serve settings cs v).1 = .ok ()
      ↔ (OrderRequest.cancelOrderItem itemId user).Bounded v := by
  have hiff := cancelOrderItem_iff cs h itemId user
  rw [← hiff]
  constructor
  · intro hok
    by_contra hunfit
    obtain ⟨x, hx⟩ := serve_refused settings (.order (.cancelOrderItem itemId user)) hunfit
    rw [hx] at hok
    cases hok
  · intro hfits
    rw [serve_inRange settings (.order (.cancelOrderItem itemId user)) hfits]
    exact result_cancelOrderItem howns hcancel

/-- **The numbers of a request.** In every state that requests reach from stored rows, the
numbers that a request sends fit their types exactly within its bounds, and a cancel that the
status rules allow succeeds exactly within its bound. -/
theorem numbers_fit_iff (h₀ : Stored RowFits v₀) (h : Reached settings v₀ v) :
    (∀ request : NumberRequest, request.InRange settings cs v ↔ request.Bounded v)
      ∧ ∀ (itemId : UUID) (user : CurrentUser) (item : OrderItem), Owns v itemId user item →
        canCancel item.status user.role = true →
          (((ServiceRequest.order (.cancelOrderItem itemId user)).serve settings cs v).1 = .ok ()
            ↔ (OrderRequest.cancelOrderItem itemId user).Bounded v) :=
  ⟨inRange_iff (h.stored h₀), fun _ _ _ howns hcancel =>
    serve_cancel_iff (h.stored h₀) howns hcancel⟩

end Bounds

/-! ### The mugs -/

/-- The seller of the mugs. -/
def mugStockist : CurrentUser := ⟨9, .seller, some 1⟩

/-- Choices that repeat no identifier. -/
def countedChoices (n : ℕ) : Choice := ⟨0, 100 + n, false⟩

/-- Two of the mugs are ordered. -/
def mugsOrdered : Db :=
  ((ServiceRequest.order (.createOrder (mugCheckout 2 one_le_two_mugs) mugBuyer)).serve {}
    countedChoices mugShop).2

/-- The seller fills the stock up to the last integer. -/
def mugsFilled : Db :=
  ((ServiceRequest.catalog (.updateOffer 3 { stock := some (some 2147483647) } mugStockist)).serve
    {}
    countedChoices mugsOrdered).2

/-- The ordered mugs. -/
def orderedMugs : OrderItem := ⟨103, 3, 1, 2, 1000, .placed, 0, 0, 0⟩

lemma reached_ordered : Reached {} mugShop mugsOrdered :=
  .step .start countedChoices (.order (.createOrder (mugCheckout 2 one_le_two_mugs) mugBuyer))

lemma reached_filled : Reached {} mugShop mugsFilled :=
  .step reached_ordered countedChoices
    (.catalog (.updateOffer 3 { stock := some (some 2147483647) } mugStockist))

lemma stored_insert {v : Db} (h : Stored RowFits v) {k : Key} {r : Row k} (hr : RowFits k r) :
    Stored RowFits (v.insert k r) := by
  intro k' r' hr'
  by_cases hk : k' = k
  · subst hk
    rw [AList.lookup_insert] at hr'
    cases hr'
    exact hr
  · rw [AList.lookup_insert_ne hk] at hr'
    exact h k' r' hr'

lemma stored_mugShop : Stored RowFits mugShop := by
  have hempty : Stored RowFits (∅ : Db) := fun k r hr => by simp at hr
  refine stored_insert (stored_insert (stored_insert hempty ?_) ?_) ?_
  · exact fun x hx => nomatch hx
  · exact fun x hx => nomatch hx
  · exact rowFits_offer.mpr ⟨by decide, by decide⟩

/-- The mugs belong to their buyer. -/
lemma owns_mugs {v : Db} (hitem : Db.orderItem v 111 = some orderedMugs)
    (horder : (Db.order v 103).map Order.buyerId = some 7) : Owns v 111 mugBuyer orderedMugs := by
  obtain ⟨order, hsome, hbuyer⟩ := Option.map_eq_some_iff.mp horder
  exact ⟨hitem, Or.inl ⟨rfl, order, hsome, hbuyer⟩⟩

theorem numbers_fit_iff_mugs :
    ((ServiceRequest.order (.cancelOrderItem 111 mugBuyer)).serve {} countedChoices mugsOrdered).1
      = .ok () := by
  have howns : Owns mugsOrdered 111 mugBuyer orderedMugs :=
    owns_mugs (by decide +kernel) (by decide +kernel)
  refine ((numbers_fit_iff stored_mugShop reached_ordered).2 111 mugBuyer orderedMugs howns
    (by decide)).mpr ?_
  intro item offer howns' _ _ hoffer
  cases howns.found.symm.trans howns'.found
  have hstock : (Db.offer mugsOrdered 3).map Offer.stock = some 3 := by decide +kernel
  obtain ⟨offer', hsome, hstock'⟩ := Option.map_eq_some_iff.mp hstock
  cases hsome.symm.trans hoffer
  rw [hstock']
  decide

/-- A cancel that the status rules allow is refused: the stock would not fit. -/
theorem cancel_overflows :
    ∃ item, Reached {} mugShop mugsFilled ∧ Owns mugsFilled 111 mugBuyer item
      ∧ canCancel item.status mugBuyer.role = true
      ∧ ((ServiceRequest.order (.cancelOrderItem 111 mugBuyer)).serve
        {} countedChoices mugsFilled).1
        = .error (.domain (.dataError "integer out of range"))
      ∧ ¬ (NumberRequest.service (.order (.cancelOrderItem 111 mugBuyer))).InRange {} countedChoices
        mugsFilled := by
  refine ⟨orderedMugs, reached_filled, owns_mugs (by decide +kernel) (by decide +kernel), by decide,
    by decide +kernel, ?_⟩
  have hsent : ¬ ∀ x ∈ sentValues sendsNumbers countedChoices
      ((ServiceRequest.order (.cancelOrderItem 111 mugBuyer)).run {}) 0 mugsFilled ∅, x.Fits := by
    decide +kernel
  exact hsent

end MarketHub
