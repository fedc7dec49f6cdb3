import MarketHub.Support.Listing
import MarketHub.Notifications.Inbox
import MarketHub.ReadCommitted.Alone

/-!
Offset paging of the listings.

* `PagesExact`: pages `1` to `⌈total / page_size⌉` of a listing show every matching row once,
  in the declared order, and each gives their number.
* `PagesWhole`: the numbers of the request can be sent, and no rows with one sort key lie on
  both sides of a page boundary.
* `offset_paging_iff`: the first holds exactly when the second does, of the order items of a
  seller, those of Ops, the queue and the notifications.
-/

namespace MarketHub

open ReadCommitted OffsetPaging

/-! ### Numbers of a request -/

/-- The numbers of a number filter. -/
def PublicNumber.value (number : PublicNumber) : ℕ × Option ℕ :=
  (numberOf number.order, number.line.map numberOf)

/-- A text of digits that Python takes for a number and PostgreSQL for an `INTEGER`. -/
def SendableDigits (digits : List (Fin 10)) : Prop :=
  digits.length ≤ 4300 ∧ FitsInteger (numberOf digits)

/-- A number filter whose numbers can be sent. -/
def PublicNumber.Sendable (number : PublicNumber) : Prop :=
  SendableDigits number.order ∧ ∀ digits ∈ number.line, SendableDigits digits

/-- `page_size` and the offset of the last page can be sent. -/
def PagesSendable (total pageSize : ℕ) : Prop :=
  FitsInteger pageSize ∧ FitsInteger ((total - 1) / pageSize * pageSize)

/-! ### One page -/

section Page

variable {ρ β κ : Type} [LinearOrder κ] {key : ρ → κ} {cs : ℕ → Choice} {n : ℕ} {v : Db}
  {log : List Event} {s : AppSession}

lemma bindIntegers_fit {parameters : List ℕ} (h : ∀ n ∈ parameters, FitsInteger n) :
    bindIntegers parameters = pure () := if_pos h

lemma bindIntegers_unfit {parameters : List ℕ} (h : ¬ ∀ n ∈ parameters, FitsInteger n) :
    bindIntegers parameters = Prog.throw (.dataError "integer out of range") := if_neg h

/-- A page whose numbers can be sent. -/
lemma exec_paginate_fit {stmt : Db → List ρ} {parameters : List ℕ} {entities : ρ → List Key}
    {sorting : Sorting key} {item : ρ → β} {query : PageQuery}
    (hparameters : ∀ n ∈ parameters, FitsInteger n) (hsize : FitsInteger query.pageSize)
    (hoffset : FitsInteger query.offset) :
    (exec cs (paginate stmt parameters entities sorting item query) n v log ∅).result
      = .ok ⟨(((sorting.sort (stmt v)).drop query.offset).take query.pageSize).map item, query.page,
          query.pageSize, (stmt v).length⟩ := by
  have hall : ∀ n ∈ parameters ++ [query.pageSize, query.offset], FitsInteger n := by
    simp only [List.mem_append, List.mem_cons, List.not_mem_nil, or_false]
    rintro n (hn | rfl | rfl)
    · exact hparameters n hn
    · exact hsize
    · exact hoffset
  rw [paginate, bindIntegers_fit hparameters, bindIntegers_fit hall]
  change (exec cs ((Prog.query _).bind fun total => (Prog.lift _).bind _) n v log ∅).result = _
  rw [exec_query, exec_select]
  rfl

/-- A page with a number that cannot be sent. -/
lemma exec_paginate_unfit {stmt : Db → List ρ} {parameters : List ℕ} {entities : ρ → List Key}
    {sorting : Sorting key} {item : ρ → β} {query : PageQuery}
    (h : ¬ ((∀ n ∈ parameters, FitsInteger n) ∧ FitsInteger query.pageSize
      ∧ FitsInteger query.offset)) :
    (exec cs (paginate stmt parameters entities sorting item query) n v log s).result
      = .error (.domain (.dataError "integer out of range")) := by
  rw [paginate]
  by_cases hparameters : ∀ n ∈ parameters, FitsInteger n
  · have hall : ¬ ∀ n ∈ parameters ++ [query.pageSize, query.offset], FitsInteger n := by
      intro hall
      exact h ⟨hparameters, hall _ (by simp), hall _ (by simp)⟩
    rw [bindIntegers_fit hparameters, bindIntegers_unfit hall]
    rfl
  · rw [bindIntegers_unfit hparameters]
    rfl

end Page

/-! ### All pages -/

/-- The page `k + 1`. -/
def pageAt (pageSize k : ℕ) (h : 1 ≤ pageSize) : PageQuery :=
  ⟨k + 1, pageSize, Nat.le_add_left 1 k, h⟩

/-- `⌈total / page_size⌉`. -/
def pageCount (total pageSize : ℕ) : ℕ := (total + (pageSize - 1)) / pageSize

section Pages

variable {ρ β κ : Type} [LinearOrder κ] {key : ρ → κ}

/-- However the database orders the rows of each query: every page, and the first one in any
case, gives the number of matching rows, and the pages together show the matching rows once
each, in the declared order. -/
def PagesExact (answer : Sorting key → PageQuery → Except (Failure DomainError) (Envelope β))
    (rows : List ρ) (item : ρ → β) (pageSize : ℕ) (h : 1 ≤ pageSize) : Prop :=
  ∀ sortings : ℕ → Sorting key, ∃ (items : ℕ → List β) (l : List ρ),
    (∀ k < max 1 (pageCount rows.length pageSize),
      answer (sortings k) (pageAt pageSize k h)
        = .ok ⟨items k, k + 1, pageSize, rows.length⟩)
    ∧ IsAnswer key rows l
    ∧ (List.range (pageCount rows.length pageSize)).flatMap items = l.map item

/-- The numbers of the request can be sent, and no rows with one sort key lie on both sides of
a page boundary. -/
def PagesWhole (key : ρ → κ) (rows : List ρ) (number : Option PublicNumber) (pageSize : ℕ) : Prop :=
  (∀ value ∈ number, value.Sendable) ∧ PagesSendable rows.length pageSize
    ∧ ∀ row ∈ rows, ¬ Straddles key rows pageSize row

/-- The pages are enough for all rows. -/
lemma length_le_pageCount (total : ℕ) {pageSize : ℕ} (h : 1 ≤ pageSize) :
    total ≤ pageCount total pageSize * pageSize := by
  rw [pageCount]
  have hdiv := Nat.div_add_mod (total + (pageSize - 1)) pageSize
  have hmod := Nat.mod_lt (total + (pageSize - 1)) h
  rw [Nat.mul_comm] at hdiv
  omega

/-- The last page. -/
lemma max_pageCount (total : ℕ) {pageSize : ℕ} (h : 1 ≤ pageSize) :
    max 1 (pageCount total pageSize) = (total - 1) / pageSize + 1 := by
  rw [pageCount]
  cases total with
  | zero =>
      have hzero : (0 + (pageSize - 1)) / pageSize = 0 := Nat.div_eq_of_lt (by omega)
      rw [hzero]
      simp
  | succ m =>
      have hsum : m + 1 + (pageSize - 1) = m + pageSize := by omega
      rw [hsum, Nat.add_div_right m h, Nat.add_sub_cancel]
      exact max_eq_right (Nat.succ_le_succ (Nat.zero_le _))

/-- The numbers of all pages can be sent when those of the last page can. -/
lemma pagesSendable_iff {total pageSize : ℕ} (h : 1 ≤ pageSize) :
    PagesSendable total pageSize
      ↔ ∀ k < max 1 (pageCount total pageSize),
        FitsInteger (pageAt pageSize k h).pageSize ∧ FitsInteger (pageAt pageSize k h).offset := by
  have hoffset : ∀ k, (pageAt pageSize k h).offset = k * pageSize := fun k => by
    rw [PageQuery.offset, pageAt, Nat.add_sub_cancel]
  rw [max_pageCount total h]
  constructor
  · rintro ⟨hsize, hlast⟩ k hk
    refine ⟨hsize, ?_⟩
    rw [hoffset]
    exact lt_of_le_of_lt (Nat.mul_le_mul_right pageSize (Nat.lt_succ_iff.mp hk)) hlast
  · intro hall
    refine ⟨(hall 0 (Nat.succ_pos _)).1, ?_⟩
    rw [← hoffset]
    exact (hall _ (Nat.lt_succ_self _)).2

/-- A listing that answers with a page whenever the numbers of its filters and of the page can
be sent. -/
lemma pagesExact_iff {answer : Sorting key → PageQuery → Except (Failure DomainError) (Envelope β)}
    {rows : List ρ} {item : ρ → β} {sendable : Prop} {pageSize : ℕ} (h : 1 ≤ pageSize)
    (hitem : (rows.map item).Nodup)
    (hok : ∀ sorting query, sendable → FitsInteger query.pageSize → FitsInteger query.offset →
      answer sorting query
        = .ok ⟨(((sorting.sort rows).drop query.offset).take query.pageSize).map item, query.page,
            query.pageSize, rows.length⟩)
    (hsent : ∀ sorting query envelope, answer sorting query = .ok envelope →
      sendable ∧ FitsInteger query.pageSize ∧ FitsInteger query.offset) :
    PagesExact answer rows item pageSize h
      ↔ sendable ∧ PagesSendable rows.length pageSize
        ∧ ∀ row ∈ rows, ¬ Straddles key rows pageSize row := by
  have hshown : (∀ sortings : ℕ → Sorting key, _) ↔ _ :=
    pages_shown_iff h hitem (length_le_pageCount rows.length h)
  have hoffset : ∀ k, (pageAt pageSize k h).offset = k * pageSize := fun k => by
    rw [PageQuery.offset, pageAt, Nat.add_sub_cancel]
  rw [pagesSendable_iff h]
  constructor
  · intro hexact
    have hfits : ∀ k < max 1 (pageCount rows.length pageSize),
        sendable ∧ FitsInteger (pageAt pageSize k h).pageSize
          ∧ FitsInteger (pageAt pageSize k h).offset := by
      intro k hk
      obtain ⟨items, l, hpage, -, -⟩ := hexact fun _ => Sorting.stable key
      exact hsent _ _ _ (hpage k hk)
    refine ⟨(hfits 0 (by omega)).1, fun k hk => (hfits k hk).2, hshown.mp fun sortings => ?_⟩
    obtain ⟨items, l, hpage, hl, hitems⟩ := hexact sortings
    refine ⟨l, hl, Eq.trans (List.flatMap_congr fun k hk => ?_) hitems⟩
    have hk' : k < max 1 (pageCount rows.length pageSize) :=
      lt_of_lt_of_le (List.mem_range.mp hk) (le_max_right _ _)
    have heq := (hok (sortings k) (pageAt pageSize k h) (hfits k hk').1 (hfits k hk').2.1
      (hfits k hk').2.2).symm.trans (hpage k hk')
    rw [hoffset] at heq
    exact congrArg Envelope.items (Except.ok.inj heq)
  · rintro ⟨hsendable, hpages, hfits⟩ sortings
    obtain ⟨l, hl, hitems⟩ := hshown.mpr hfits sortings
    refine ⟨_, l, fun k hk => ?_, hl, hitems⟩
    rw [hok _ _ hsendable (hpages k hk).1 (hpages k hk).2, hoffset]
    rfl

end Pages

/-! ### The four listings -/

section Filters

variable {ρ β κ : Type} [LinearOrder κ] {key : ρ → κ} {digits : List (Fin 10)}
    {value : PublicNumber}
  {publicNumber : Option PublicNumber}

lemma parseInt_short (h : digits.length ≤ 4300) : parseInt digits = pure (numberOf digits) :=
  if_neg (not_lt.mpr h)

lemma parseInt_long (h : ¬ digits.length ≤ 4300) :
    ∃ e, parseInt digits = Prog.throw (.valueError e) :=
  ⟨_, if_pos (not_le.mp h)⟩

/-- The digits of a number filter are not too many for Python. -/
def PublicNumber.Short (value : PublicNumber) : Prop :=
  value.order.length ≤ 4300 ∧ ∀ digits ∈ value.line, digits.length ≤ 4300

/-- A number filter is parsed to its numbers. -/
lemma parseNumberFilter_short (h : ∀ value ∈ publicNumber, value.Short) :
    parseNumberFilter publicNumber = pure (publicNumber.map PublicNumber.value) := by
  cases publicNumber with
  | none => rfl
  | some value =>
      obtain ⟨horder, hline⟩ := h value rfl
      rw [parseNumberFilter, parsePublicNumber, parseInt_short horder]
      rcases value with ⟨order, _ | line, hne, hne'⟩
      · rfl
      · dsimp only
        rw [parseInt_short (hline line rfl)]
        rfl

/-- A number filter with too many digits is refused. -/
lemma parseNumberFilter_long (h : ¬ ∀ value ∈ publicNumber, value.Short) :
    ∃ e, parseNumberFilter publicNumber = Prog.throw (.valueError e) := by
  cases publicNumber with
  | none => exact absurd (fun _ hv => nomatch hv) h
  | some value =>
      rw [parseNumberFilter, parsePublicNumber]
      by_cases horder : value.order.length ≤ 4300
      · rw [parseInt_short horder]
        rcases value with ⟨order, _ | line, hne, hne'⟩
        · refine absurd (fun value hv => ?_) h
          cases hv
          exact ⟨horder, fun _ hd => nomatch hd⟩
        · have hline : ¬ line.length ≤ 4300 := fun hline => by
            refine h fun value hv => ?_
            cases hv
            refine ⟨horder, fun digits hd => ?_⟩
            cases hd
            exact hline
          obtain ⟨e, he⟩ := parseInt_long hline
          refine ⟨e, ?_⟩
          dsimp only
          rw [he]
          rfl
      · obtain ⟨e, he⟩ := parseInt_long horder
        refine ⟨e, ?_⟩
        rw [he]
        rfl

/-- The numbers of a filter that is short enough. -/
lemma sendable_iff : (∀ value ∈ publicNumber, value.Sendable)
    ↔ (∀ value ∈ publicNumber, value.Short)
      ∧ ∀ n ∈ numberParameters (publicNumber.map PublicNumber.value), FitsInteger n := by
  cases publicNumber with
  | none => simp [numberParameters]
  | some value =>
      rcases value with ⟨order, _ | line, hne, hne'⟩ <;>
        simp [PublicNumber.Sendable, PublicNumber.Short, SendableDigits, PublicNumber.value,
          numberParameters]
      tauto

/-- A listing with a number filter. -/
lemma filtered_exact_iff (cs : ℕ → Choice) (v : Db)
    (stmt : Option (ℕ × Option ℕ) → Db → List ρ) {entities : ρ → List Key} {item : ρ → β}
    {pageSize : ℕ} (h : 1 ≤ pageSize)
    (hitem : ((stmt (publicNumber.map PublicNumber.value) v).map item).Nodup) :
    PagesExact
        (fun (sorting : Sorting key) query =>
          (exec cs ((parseNumberFilter publicNumber).bind fun number =>
          paginate (stmt number) (numberParameters number) entities sorting item query)
            0 v [] ∅).result)
        (stmt (publicNumber.map PublicNumber.value) v) item pageSize h
      ↔ PagesWhole key (stmt (publicNumber.map PublicNumber.value) v) publicNumber pageSize := by
  refine pagesExact_iff h hitem (fun sorting query hsendable hsize hoffset => ?_)
    (fun sorting query envelope hok => ?_)
  · obtain ⟨hshort, hparameters⟩ := sendable_iff.mp hsendable
    rw [parseNumberFilter_short hshort]
    exact exec_paginate_fit hparameters hsize hoffset
  · by_cases hshort : ∀ value ∈ publicNumber, value.Short
    · rw [parseNumberFilter_short hshort] at hok
      by_contra hunfit
      rw [sendable_iff, and_assoc] at hunfit
      have herror := hok.symm.trans (exec_paginate_unfit fun hfit => hunfit ⟨hshort, hfit⟩)
      cases herror
    · obtain ⟨e, he⟩ := parseNumberFilter_long hshort
      rw [he] at hok
      cases hok

end Filters

/-! #### The rows of the listings -/

section Rows

variable {v : Db}

/-- Rows that are made of the rows of a table stand under their identifiers. -/
lemma nodup_filterMap {α ρ : Type} {l : List (UUID × α)} {f : UUID → α → Option ρ} {id : ρ → UUID}
    (hl : (l.map Prod.fst).Nodup) (hf : ∀ i a r, f i a = some r → id r = i) :
    ((l.filterMap fun e => f e.1 e.2).map id).Nodup := by
  have hsub : ((l.filterMap fun e => f e.1 e.2).map id).Sublist (l.map Prod.fst) := by
    clear hl
    induction l with
    | nil => exact List.Sublist.refl _
    | cons e l ih =>
        cases he : f e.1 e.2 with
        | none =>
            simp only [List.filterMap_cons, he]
            exact ih.cons _
        | some r =>
            simp only [List.filterMap_cons, he, List.map_cons, hf _ _ _ he]
            exact ih.cons_cons _
  exact hsub.nodup hl

/-- Items that show different identifiers are different. -/
lemma nodup_shown {ρ β : Type} {l : List ρ} {item : ρ → β} {id : ρ → UUID} (shown : β → UUID)
    (hshown : ∀ r, shown (item r) = id r) (hl : (l.map id).Nodup) : (l.map item).Nodup := by
  have hid : (l.map item).map shown = l.map id := by
    rw [List.map_map]
    exact List.map_congr_left fun r _ => hshown r
  exact List.Nodup.of_map shown (hid ▸ hl)

lemma id_of_itemContext {id : UUID} {item : OrderItem} {row : ItemContext}
    (h : itemContext v id item = some row) : row.id = id := by
  simp only [itemContext, Option.bind_eq_bind, Option.bind_eq_some_iff, Option.pure_def,
    Option.some.injEq] at h
  obtain ⟨_, _, _, _, _, _, _, _, rfl⟩ := h
  rfl

lemma id_of_opsItemContext {id : UUID} {item : OrderItem} {row : OpsItemContext}
    (h : opsItemContext v id item = some row) : row.context.id = id := by
  simp only [opsItemContext, Option.bind_eq_bind, Option.bind_eq_some_iff, Option.pure_def,
    Option.some.injEq] at h
  obtain ⟨context, hcontext, _, _, rfl⟩ := h
  exact id_of_itemContext hcontext

lemma id_of_queueRow {id : UUID} {conversation : Conversation} {row : QueueRow}
    (h : queueRow v id conversation = some row) : row.id = id := by
  simp only [queueRow, Option.bind_eq_bind, Option.bind_eq_some_iff, Option.pure_def,
    Option.some.injEq] at h
  obtain ⟨_, _, _, _, rfl⟩ := h
  rfl

lemma sellerItems_nodup (sellerId : UUID) (filters : ItemFilters) (number : Option (ℕ × Option ℕ)) :
    ((sellerItems sellerId filters number v).map ItemContext.listItem).Nodup :=
  nodup_shown OrderItemListItem.orderItemId (fun _ => rfl)
    ((((List.filter_sublist).trans List.filter_sublist).map _).nodup
      (nodup_filterMap (orderItems_nodup v) fun _ _ _ => id_of_itemContext))

lemma opsItems_nodup (filters : ItemFilters) (sellerId : Option UUID)
    (number : Option (ℕ × Option ℕ)) :
    ((opsItems filters sellerId number v).map OpsItemContext.listItem).Nodup :=
  nodup_shown OpsOrderItemListItem.orderItemId (fun _ => rfl)
    ((List.filter_sublist.map _).nodup
      (nodup_filterMap (orderItems_nodup v) fun _ _ _ => id_of_opsItemContext))

lemma openQueue_nodup (filters : QueueFilters) (number : Option (ℕ × Option ℕ)) :
    ((openQueue filters number v).map QueueRow.queueItem).Nodup :=
  nodup_shown (fun item => item.base.id) (fun _ => rfl)
    ((((List.filter_sublist).trans List.filter_sublist).map _).nodup
      (nodup_filterMap (conversations_nodup v) fun _ _ _ => id_of_queueRow))

lemma notificationsOf_nodup (userId : UUID) :
    ((notificationsOf userId v).map fun notification =>
      toResponse notification.1 notification.2).Nodup :=
  nodup_shown NotificationResponse.id (fun _ => rfl)
    ((List.filter_sublist.map Prod.fst).nodup (notifications_nodup v))

end Rows

section Listings

variable (cs : ℕ → Choice) (v : Db) {seller ops : CurrentUser} {sellerId : UUID} {pageSize : ℕ}

/-- What a request answers in an unchanging state. -/
def answerOf {α : Type} (p : Txn α) : Except (Failure DomainError) α := (exec cs p 0 v [] ∅).result

/-- The numbers that a listing filters by. -/
def ItemFilters.number (filters : ItemFilters) : Option (ℕ × Option ℕ) :=
  filters.publicNumber.map PublicNumber.value

/-- The numbers that the queue filters by. -/
def QueueFilters.number (filters : QueueFilters) : Option (ℕ × Option ℕ) :=
  filters.publicNumber.map PublicNumber.value

/-- The order items of a seller. -/
lemma listOrderItems_exact_iff (hrole : seller.role = .seller)
    (hstore : seller.sellerId = some sellerId) (filters : ItemFilters) (h : 1 ≤ pageSize) :
    PagesExact (fun sorting query => answerOf cs v (listOrderItems seller filters sorting query))
        (sellerItems sellerId filters filters.number v) ItemContext.listItem pageSize h
      ↔ PagesWhole ItemContext.newestFirst (sellerItems sellerId filters filters.number v)
        filters.publicNumber pageSize := by
  have hseller : requireSeller seller = pure sellerId := by rw [requireSeller, hrole, hstore]
  simp only [listOrderItems, hseller]
  exact filtered_exact_iff cs v (sellerItems sellerId filters) h (sellerItems_nodup _ _ _)

/-- The order items of Ops. -/
lemma listOpsOrderItems_exact_iff (hrole : ops.role = .ops) (filters : ItemFilters)
    (sellerId : Option UUID) (h : 1 ≤ pageSize) :
    PagesExact (fun sorting query =>
          answerOf cs v (listOpsOrderItems ops filters sellerId sorting query))
        (opsItems filters sellerId filters.number v) OpsItemContext.listItem pageSize h
      ↔ PagesWhole OpsItemContext.newestFirst (opsItems filters sellerId filters.number v)
        filters.publicNumber pageSize := by
  have hops : requireOps ops = pure () := if_pos hrole
  simp only [listOpsOrderItems, hops]
  exact filtered_exact_iff cs v (opsItems filters sellerId) h (opsItems_nodup _ _ _)

/-- The queue of Ops. -/
lemma listOpenQueue_exact_iff (hrole : ops.role = .ops) (filters : QueueFilters)
    (h : 1 ≤ pageSize) :
    PagesExact (fun sorting query => answerOf cs v (listOpenQueue ops filters sorting query))
        (openQueue filters filters.number v) QueueRow.queueItem pageSize h
      ↔ PagesWhole QueueRow.mostUrgentFirst (openQueue filters filters.number v)
        filters.publicNumber pageSize := by
  have hops : requireOps ops = pure () := if_pos hrole
  simp only [listOpenQueue, hops]
  exact filtered_exact_iff cs v (openQueue filters) h (openQueue_nodup _ _)

/-- The notifications of a user. -/
lemma listNotifications_exact_iff (user : CurrentUser) (h : 1 ≤ pageSize) :
    PagesExact (fun sorting query => answerOf cs v (listNotifications user sorting query))
        (notificationsOf user.id v) (fun notification => toResponse notification.1 notification.2)
        pageSize h
      ↔ PagesWhole notificationsNewestFirst (notificationsOf user.id v) none pageSize := by
  refine pagesExact_iff h (notificationsOf_nodup user.id)
    (fun sorting query _ hsize hoffset => exec_paginate_fit (by simp) hsize hoffset)
    fun sorting query envelope hok => ?_
  by_contra hunfit
  have herror := hok.symm.trans (exec_paginate_unfit fun hfit => hunfit ⟨by simp, hfit.2⟩)
  cases herror

/-- **Offset paging** loses and repeats nothing exactly when the numbers of the request can be
sent and no rows with one sort key lie on both sides of a page boundary: of the order items of
a seller, those of Ops, the queue of Ops and the notifications of a user. -/
theorem offset_paging_iff (user : CurrentUser) (hseller : seller.role = .seller)
    (hstore : seller.sellerId = some sellerId) (hops : ops.role = .ops)
    (sellerFilters opsFilters : ItemFilters) (opsSeller : Option UUID) (queueFilters : QueueFilters)
    (h : 1 ≤ pageSize) :
    (PagesExact (fun sorting query =>
            answerOf cs v (listOrderItems seller sellerFilters sorting query))
          (sellerItems sellerId sellerFilters sellerFilters.number v)
            ItemContext.listItem pageSize h
        ↔ PagesWhole ItemContext.newestFirst
          (sellerItems sellerId sellerFilters sellerFilters.number v) sellerFilters.publicNumber
          pageSize)
      ∧ (PagesExact (fun sorting query =>
            answerOf cs v (listOpsOrderItems ops opsFilters opsSeller sorting query))
          (opsItems opsFilters opsSeller opsFilters.number v) OpsItemContext.listItem pageSize h
        ↔ PagesWhole OpsItemContext.newestFirst (opsItems opsFilters opsSeller opsFilters.number v)
          opsFilters.publicNumber pageSize)
      ∧ (PagesExact (fun sorting query =>
            answerOf cs v (listOpenQueue ops queueFilters sorting query))
          (openQueue queueFilters queueFilters.number v) QueueRow.queueItem pageSize h
        ↔ PagesWhole QueueRow.mostUrgentFirst (openQueue queueFilters queueFilters.number v)
          queueFilters.publicNumber pageSize)
      ∧ (PagesExact (fun sorting query => answerOf cs v (listNotifications user sorting query))
          (notificationsOf user.id v) (fun notification => toResponse notification.1 notification.2)
          pageSize h
        ↔ PagesWhole notificationsNewestFirst (notificationsOf user.id v) none pageSize) :=
  ⟨listOrderItems_exact_iff cs v hseller hstore sellerFilters h,
    listOpsOrderItems_exact_iff cs v hops opsFilters opsSeller h,
    listOpenQueue_exact_iff cs v hops queueFilters h, listNotifications_exact_iff cs v user h⟩

end Listings

/-! ### A shop -/

/-- A seller with a mug and a plate, both bought in one order, which stamped them at one
moment. -/
def tableware : Db :=
  (((((((((∅ : Db).insert (.seller 1) (⟨"Loja"⟩ : Seller)).insert
    (.user 7) (⟨"ana@example.com", "Ana", .buyer, none⟩ : User)).insert
    (.product 2) (⟨"Caneca", none⟩ : Product)).insert
    (.product 3) (⟨"Prato", none⟩ : Product)).insert
    (.offer 4) (⟨2, 1, 1000, 5, true⟩ : Offer)).insert
    (.offer 5) (⟨3, 1, 2000, 5, true⟩ : Offer)).insert
    (.order 6) (⟨1001, 7, 0, 0⟩ : Order)).insert
    (.orderItem 8) (⟨6, 4, 1, 1, 1000, .placed, 0, 0, 0⟩ : OrderItem)).insert
    (.orderItem 9) (⟨6, 5, 2, 1, 2000, .placed, 0, 0, 0⟩ : OrderItem)

/-- The seller of the tableware. -/
def tablewareSeller : CurrentUser := ⟨10, .seller, some 1⟩

/-- Somebody of Ops. -/
def tablewareOps : CurrentUser := ⟨11, .ops, none⟩

theorem offset_paging_iff_tableware :
    PagesWhole ItemContext.newestFirst (sellerItems 1 {} none tableware) none 2
    ∧ PagesExact (fun sorting query => answerOf (fun _ => ⟨0, 0, false⟩) tableware
          (listOrderItems tablewareSeller {} sorting query))
        (sellerItems 1 {} none tableware) ItemContext.listItem 2 one_le_two := by
  have hwhole : PagesWhole ItemContext.newestFirst (sellerItems 1 {} none tableware) none 2 := by
    refine ⟨fun _ hv => (nomatch hv), ⟨by decide, by decide +kernel⟩, fun row hrow => ?_⟩
    rintro ⟨k, hbefore, hupTo⟩
    have hlast : upTo ItemContext.newestFirst (sellerItems 1 {} none tableware) row ≤ 2 :=
      le_trans List.countP_le_length
        (by decide +kernel : (sellerItems 1 {} none tableware).length ≤ 2)
    have hfirst : before ItemContext.newestFirst (sellerItems 1 {} none tableware) row = 0 := by
      have hall : ∀ row ∈ sellerItems 1 {} none tableware,
          before ItemContext.newestFirst (sellerItems 1 {} none tableware) row = 0 := by
        decide +kernel
      exact hall row hrow
    omega
  have hseller : tablewareSeller.role = .seller := rfl
  have hstore : tablewareSeller.sellerId = some 1 := rfl
  have hops : tablewareOps.role = .ops := rfl
  exact ⟨hwhole, (offset_paging_iff (fun _ => ⟨0, 0, false⟩) tableware tablewareSeller
    hseller hstore
    hops {} {} none {} one_le_two).1.mpr hwhole⟩

/-- One item on a page: the first page and the second may both show the mug. -/
theorem paging_repeats :
    ¬ PagesExact (fun sorting query => answerOf (fun _ => ⟨0, 0, false⟩) tableware
          (listOrderItems tablewareSeller {} sorting query))
        (sellerItems 1 {} none tableware) ItemContext.listItem 1 le_rfl := by
  have hstraddles : ∃ row ∈ sellerItems 1 {} none tableware,
      before ItemContext.newestFirst (sellerItems 1 {} none tableware) row < 1 * 1
        ∧ 1 * 1 < upTo ItemContext.newestFirst (sellerItems 1 {} none tableware) row := by
    decide +kernel
  obtain ⟨row, hrow, hrow'⟩ := hstraddles
  intro hexact
  have hseller : tablewareSeller.role = .seller := rfl
  have hwhole := (listOrderItems_exact_iff _ tableware hseller rfl {} le_rfl).mp hexact
  exact hwhole.2.2 row hrow ⟨1, hrow'⟩

end MarketHub
