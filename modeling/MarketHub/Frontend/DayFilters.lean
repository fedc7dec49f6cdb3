import MarketHub.Listings
import MarketHub.Python.Datetime

/-!
The day filters of the lists of order items (`toDayStartUTC` and `toDayEndUTC` of
`lib/utils/format.ts`, `SellerOrdersListPage.tsx`, `OpsOrderItemsListPage.tsx`).

The bounds have whole seconds and the service compares with microseconds: what is created after
`23:59:59` is on neither side of midnight.

* `dayFilters`: the filters that the service makes of two dates. How a query parameter is validated
  as a `datetime` is a parameter; `ReadsZulu` is what is known of it.
* `SellerPageShows`, `OpsPageShows`: an item is on some page of the list.
* `InDays`, `Caught`: the item is of one of the days; it is not lost between the seconds of the last
  day, nor between two pages.
* `day_filters_iff`: when the filters select whole days.
-/

namespace MarketHub.Frontend

open ReadCommitted OffsetPaging Python

/-! ### The pages -/

/-- `toDayStartUTC`. -/
def toDayStartUTC (date : Text) : Text := date ++ text "T00:00:00Z"

/-- `toDayEndUTC`. -/
def toDayEndUTC (date : Text) : Text := date ++ text "T23:59:59Z"

/-- The filters of a request with two dates. -/
def dayFilters (parse : Text → Option QueryDateTime) (fromDate toDate : Text) :
    Option ItemFilters := do
  let from_ ← parse (toDayStartUTC fromDate)
  let to_ ← parse (toDayEndUTC toDate)
  return { from_ := some from_, to_ := some to_ }

/-- A query parameter is validated as the `datetime` that it writes, if that is one of UTC with a
`Z` and whole seconds. -/
def ReadsZulu (parse : Text → Option QueryDateTime) : Prop :=
  ∀ d : Datetime, d.1.offset = some 0 → d.1.microsecond = 0 →
    parse (zuluformat d) = some ⟨d.instant, true⟩

/-- `PAGE_SIZE`. -/
def pageSize : ℕ := 20

section Pages

variable {ρ β κ : Type} [LinearOrder κ] {key : ρ → κ}

/-- One of the pages shows what has the identifier, each page being of a query of its own. -/
def Shows (answer : Sorting key → PageQuery → Except (Failure DomainError) (Envelope β))
    (shownId : β → UUID) (sortings : ℕ → Sorting key) (id : UUID) : Prop :=
  ∃ k envelope, answer (sortings k) (pageAt pageSize k (by decide)) = .ok envelope
    ∧ ∃ x ∈ envelope.items, shownId x = id

end Pages

section Lists

variable (cs : ℕ → Choice) (v : Db) (parse : Text → Option QueryDateTime) (user : CurrentUser)

/-- The list of the seller shows the item, filtered from one day to another. -/
def SellerPageShows (sortings : ℕ → Sorting ItemContext.newestFirst) (fromDay toDay : Date)
    (id : UUID) : Prop :=
  ∃ filters ∈ dayFilters parse fromDay.isoformat toDay.isoformat,
    Shows (fun sorting query => answerOf cs v (listOrderItems user filters sorting query))
      OrderItemListItem.orderItemId sortings id

/-- The list of Ops shows the item. -/
def OpsPageShows (sortings : ℕ → Sorting OpsItemContext.newestFirst) (fromDay toDay : Date)
    (id : UUID) : Prop :=
  ∃ filters ∈ dayFilters parse fromDay.isoformat toDay.isoformat,
    Shows (fun sorting query => answerOf cs v (listOpsOrderItems user filters none sorting query))
      OpsOrderItemListItem.orderItemId sortings id

end Lists

/-! ### Days -/

/-- The first instant of a day. -/
def dayStart (day : Date) : ℤ := (day.ordinal * dayMicroseconds : ℕ)

/-- `23:59:59` of a day. -/
def lastSecond (day : Date) : ℤ := dayStart day + 86399000000

/-- The instant lies in one of the days. -/
def InDays (fromDay toDay : Date) (t : ℤ) : Prop :=
  dayStart fromDay ≤ t ∧ t < dayStart toDay + dayMicroseconds

/-- The filters of two days. -/
def daysBetween (fromDay toDay : Date) : ItemFilters where
  from_ := some ⟨dayStart fromDay, true⟩
  to_ := some ⟨lastSecond toDay, true⟩

/-- The row is not lost: it is not of the last second of the last day, rows of its instant are not
on both sides of a page boundary, and the offset of its page can be sent. -/
def Caught {ρ κ : Type} [LinearOrder κ] (key : ρ → κ) (rows : List ρ) (toDay : Date) (row : ρ)
    (t : ℤ) : Prop :=
  t ≤ lastSecond toDay ∧ ¬ Straddles key rows pageSize row
    ∧ FitsInteger (before key rows row / pageSize * pageSize)

section Days

variable {parse : Text → Option QueryDateTime} {fromDay toDay day day' : Date} {t : ℤ}

/-- **The filters of two dates** are those of the two days. -/
lemma dayFilters_eq (hparse : ReadsZulu parse) :
    dayFilters parse fromDay.isoformat toDay.isoformat = some (daysBetween fromDay toDay) := by
  have hread : ∀ (day : Date) (hour minute second : ℕ) (h : hour < 24 ∧ minute < 60 ∧ second < 60),
      parse (day.isoformat ++ .char 'T' :: (clock hour minute second 0 ++ [.char 'Z']))
        = some ⟨(day.ordinal * dayMicroseconds + ((hour * 60 + minute) * 60 + second)
          * 1000000 : ℕ),
            true⟩ := by
    intro day hour minute second h
    rw [← Date.instant_at day h, ← hparse (day.at_ hour minute second h) rfl rfl]
    simp [Date.isoformat, zuluformat, Date.at_, List.append_assoc]
  have hstart : parse (toDayStartUTC fromDay.isoformat) = some ⟨dayStart fromDay, true⟩ := by
    have htext : text "T00:00:00Z" = .char 'T' :: (clock 0 0 0 0 ++ [.char 'Z']) := by decide
    rw [toDayStartUTC, htext, hread _ 0 0 0 (by decide), dayStart]
    simp
  have hend : parse (toDayEndUTC toDay.isoformat) = some ⟨lastSecond toDay, true⟩ := by
    have htext : text "T23:59:59Z" = .char 'T' :: (clock 23 59 59 0 ++ [.char 'Z']) := by decide
    rw [toDayEndUTC, htext, hread _ 23 59 59 (by decide), lastSecond, dayStart]
    simp
  rw [dayFilters, hstart, hend]
  rfl

lemma daysBetween_admits (row : ItemContext) : (daysBetween fromDay toDay).admits none row = true
    ↔ dayStart fromDay ≤ row.item.createdAt ∧ row.item.createdAt ≤ lastSecond toDay := by
  simp only [ItemFilters.admits, daysBetween, QueryDateTime.asUtc, applyPublicNumberFilter,
    Option.all_none, Option.all_some, Bool.and_true, Bool.true_and, Bool.and_eq_true]
  exact and_congr decide_eq_true_iff decide_eq_true_iff

/-- What is up to the last second of a day is of the day. -/
lemma inDays_of_le (hstart : dayStart fromDay ≤ t) (hend : t ≤ lastSecond toDay) :
    InDays fromDay toDay t := by
  refine ⟨hstart, ?_⟩
  rw [lastSecond] at hend
  simp only [dayMicroseconds]
  omega

/-- **An instant is of one day.** -/
lemma eq_of_inDays (h : InDays day day t) (h' : InDays day' day' t) : day = day' := by
  obtain ⟨hstart, hend⟩ := h
  obtain ⟨hstart', hend'⟩ := h'
  refine Date.ordinal_injective ?_
  rw [dayStart] at hstart hend hstart' hend'
  simp only [dayMicroseconds] at hstart hend hstart' hend'
  omega

end Days

/-! ### One list -/

section List

variable {ρ β : Type} {key : ρ → DateTimeᵒᵈ} {rows : List ρ} {item : ρ → β} {shownId : β → UUID}
  {rowId : ρ → UUID} {answer : Sorting key → PageQuery → Except (Failure DomainError) (Envelope β)}
  {row : ρ}

/-- A page is answered when its offset can be sent. -/
structure Pages (answer : Sorting key → PageQuery → Except (Failure DomainError) (Envelope β))
    (rows : List ρ) (item : ρ → β) : Prop where
  ok : ∀ sorting query, FitsInteger query.pageSize → FitsInteger query.offset → answer sorting query
    = .ok ⟨(((sorting.sort rows).drop query.offset).take query.pageSize).map item, query.page,
        query.pageSize, rows.length⟩
  sent : ∀ sorting query envelope, answer sorting query = .ok envelope → FitsInteger query.offset

/-- What the pages show. -/
lemma Pages.shows_iff (h : Pages answer rows item) (hshown : ∀ r, shownId (item r) = rowId r)
    {sortings : ℕ → Sorting key} {id : UUID} : Shows answer shownId sortings id
      ↔ ∃ k, FitsInteger (k * pageSize)
        ∧ ∃ r ∈ page pageSize k ((sortings k).sort rows), rowId r = id := by
  have hoffset : ∀ k, (pageAt pageSize k (by decide)).offset = k * pageSize := fun k => by
    rw [PageQuery.offset, pageAt, Nat.add_sub_cancel]
  have hsize : FitsInteger pageSize := by decide
  constructor
  · rintro ⟨k, envelope, hanswer, x, hx, rfl⟩
    have hfits := h.sent _ _ _ hanswer
    rw [h.ok _ _ hsize hfits, hoffset] at hanswer
    rw [hoffset] at hfits
    obtain rfl := Except.ok.inj hanswer
    obtain ⟨r, hr, rfl⟩ := List.mem_map.mp hx
    exact ⟨k, hfits, r, hr, (hshown r).symm⟩
  · rintro ⟨k, hfits, r, hr, rfl⟩
    rw [← hoffset] at hfits
    refine ⟨k, _, h.ok _ _ hsize hfits, item r, ?_, hshown r⟩
    rw [hoffset]
    exact List.mem_map_of_mem hr

/-- What is shown is one of the rows. -/
lemma Pages.mem_of_shows (h : Pages answer rows item) (hshown : ∀ r, shownId (item r) = rowId r)
    {sortings : ℕ → Sorting key} {id : UUID} (hshows : Shows answer shownId sortings id) :
    ∃ r ∈ rows, rowId r = id := by
  obtain ⟨k, -, r, hr, hid⟩ := (h.shows_iff hshown).mp hshows
  have hmem := page_sublist_take.subset hr
  exact ⟨r, ((sortings k).answers rows).perm.mem_iff.mp (List.mem_of_mem_take hmem), hid⟩

/-- **When a row is always shown.** -/
lemma Pages.always_shows_iff (h : Pages answer rows item)
    (hshown : ∀ r, shownId (item r) = rowId r) (hnodup : (rows.map rowId).Nodup)
    (hrow : row ∈ rows) :
    (∀ sortings, Shows answer shownId sortings (rowId row)) ↔ ¬ Straddles key rows pageSize row
      ∧ FitsInteger (before key rows row / pageSize * pageSize) := by
  rw [← mem_page_iff (P := fun k => FitsInteger (k * pageSize)) (by decide)
    (hnodup.of_map rowId) hrow]
  have hsame : ∀ r ∈ rows, rowId r = rowId row → r = row := fun r hr heq =>
    List.inj_on_of_nodup_map hnodup hr hrow heq
  constructor
  · intro hall answers hanswers
    obtain ⟨k, hfits, r, hr, hid⟩ := (h.shows_iff hshown).mp
      (hall fun k => Sorting.giving (hanswers k))
    rw [Sorting.giving_sort] at hr
    have hmem := (hanswers k).perm.mem_iff.mp (List.mem_of_mem_take (page_sublist_take.subset hr))
    rw [hsame r hmem hid] at hr
    exact ⟨k, hfits, hr⟩
  · intro hall sortings
    obtain ⟨k, hfits, hr⟩ := hall _ fun k => (sortings k).answers rows
    exact (h.shows_iff hshown).mpr ⟨k, hfits, row, hr, rfl⟩

/-- The rows of the days up to their last second. -/
def OfDays (all rows : List ρ) (created : ρ → ℤ) (fromDay toDay : Date) : Prop :=
  ∀ r, r ∈ rows ↔ r ∈ all ∧ dayStart fromDay ≤ created r ∧ created r ≤ lastSecond toDay

variable {all : List ρ} {created : ρ → ℤ} {fromDay toDay : Date}

/-- What is shown was created in the days. -/
lemma Pages.created_of_shows (h : Pages answer rows item) (hshown : ∀ r, shownId (item r) = rowId r)
    (hdays : OfDays all rows created fromDay toDay) (hids : (all.map rowId).Nodup)
    (hrow : row ∈ all) {sortings : ℕ → Sorting key}
    (hshows : Shows answer shownId sortings (rowId row)) :
    row ∈ rows ∧ InDays fromDay toDay (created row) ∧ created row ≤ lastSecond toDay := by
  obtain ⟨r, hr, hid⟩ := h.mem_of_shows hshown hshows
  obtain ⟨hall, hstart, hend⟩ := (hdays r).mp hr
  obtain rfl := List.inj_on_of_nodup_map hids hall hrow hid
  exact ⟨hr, inDays_of_le hstart hend, hend⟩

/-- **The list of some days** shows a row of the days exactly if the row is caught. -/
lemma Pages.exact_iff (h : Pages answer rows item) (hshown : ∀ r, shownId (item r) = rowId r)
    (hdays : OfDays all rows created fromDay toDay) (hnodup : (rows.map rowId).Nodup)
    (hids : (all.map rowId).Nodup) (hrow : row ∈ all) :
    (∀ sortings, Shows answer shownId sortings (rowId row) ↔ InDays fromDay toDay (created row))
      ↔ (InDays fromDay toDay (created row) → Caught key rows toDay row (created row)) := by
  constructor
  · intro hexact hin
    have hshows : ∀ sortings, Shows answer shownId sortings (rowId row) := fun sortings =>
      (hexact sortings).mpr hin
    obtain ⟨hmem, -, hend⟩ :=
      h.created_of_shows hshown hdays hids hrow (hshows fun _ => Sorting.stable key)
    exact ⟨hend, (h.always_shows_iff hshown hnodup hmem).mp hshows⟩
  · intro hcaught sortings
    constructor
    · intro hshows
      exact (h.created_of_shows hshown hdays hids hrow hshows).2.1
    · intro hin
      obtain ⟨hend, hpages⟩ := hcaught hin
      have hmem : row ∈ rows := (hdays row).mpr ⟨hrow, hin.1, hend⟩
      exact (h.always_shows_iff hshown hnodup hmem).mpr hpages sortings

end List

/-- **The lists of single days**: one of them shows a row exactly if the row is caught on its
day. -/
lemma single_day_iff {ρ β : Type} {key : ρ → DateTimeᵒᵈ} {rows : Date → List ρ} {item : ρ → β}
    {shownId : β → UUID} {rowId : ρ → UUID}
    {answer : Date → Sorting key → PageQuery → Except (Failure DomainError) (Envelope β)} {row : ρ}
    {all : List ρ} {created : ρ → ℤ} (h : ∀ day, Pages (answer day) (rows day) item)
    (hshown : ∀ r, shownId (item r) = rowId r)
    (hdays : ∀ day, OfDays all (rows day) created day day)
    (hnodup : ∀ day, ((rows day).map rowId).Nodup) (hids : (all.map rowId).Nodup)
    (hrow : row ∈ all) :
    (∀ sortings, ∃! day, Shows (answer day) shownId sortings (rowId row))
      ↔ ∃ day, InDays day day (created row) ∧ Caught key (rows day) day row (created row) := by
  constructor
  · intro hunique
    obtain ⟨day, hshows, -⟩ := hunique fun _ => Sorting.stable key
    obtain ⟨hmem, hin, hend⟩ := (h day).created_of_shows hshown (hdays day) hids hrow hshows
    refine ⟨day, hin, hend, ((h day).always_shows_iff hshown (hnodup day) hmem).mp
      fun sortings => ?_⟩
    obtain ⟨day', hshows', -⟩ := hunique sortings
    have hin' := ((h day').created_of_shows hshown (hdays day') hids hrow hshows').2.1
    rwa [eq_of_inDays hin hin']
  · rintro ⟨day, hin, hcaught⟩ sortings
    have hexact := ((h day).exact_iff hshown (hdays day) (hnodup day) hids hrow).mpr
      fun _ => hcaught
    refine ⟨day, (hexact sortings).mpr hin, fun day' hshows => ?_⟩
    exact eq_of_inDays ((h day').created_of_shows hshown (hdays day') hids hrow hshows).2.1 hin

/-! ### The two lists -/

section TwoLists

variable {cs : ℕ → Choice} {v : Db} {parse : Text → Option QueryDateTime} {seller ops : CurrentUser}
  {sellerId : UUID} {fromDay toDay : Date}

/-- The rows of the seller in the days. -/
def sellerRows (sellerId : UUID) (v : Db) (fromDay toDay : Date) : List ItemContext :=
  sellerItems sellerId (daysBetween fromDay toDay) none v

/-- The rows of Ops in the days. -/
def opsRows (v : Db) (fromDay toDay : Date) : List OpsItemContext :=
  opsItems (daysBetween fromDay toDay) none none v

lemma sellerPages (hrole : seller.role = .seller) (hstore : seller.sellerId = some sellerId) :
    Pages (fun sorting query =>
        answerOf cs v (listOrderItems seller (daysBetween fromDay toDay) sorting query))
      (sellerRows sellerId v fromDay toDay) ItemContext.listItem := by
  have hseller : requireSeller seller = pure sellerId := by rw [requireSeller, hrole, hstore]
  simp only [listOrderItems, hseller]
  exact {
    ok := fun sorting query hsize hoffset =>
      exec_paginate_fit (by simp [numberParameters]) hsize hoffset
    sent := fun sorting query envelope hok => by
      by_contra hunfit
      have herror := hok.symm.trans (exec_paginate_unfit fun hfit => hunfit hfit.2.2)
      cases herror }

lemma opsPages (hrole : ops.role = .ops) :
    Pages (fun sorting query =>
        answerOf cs v (listOpsOrderItems ops (daysBetween fromDay toDay) none sorting query))
      (opsRows v fromDay toDay) OpsItemContext.listItem := by
  have hops : requireOps ops = pure () := if_pos hrole
  simp only [listOpsOrderItems, hops]
  exact {
    ok := fun sorting query hsize hoffset =>
      exec_paginate_fit (by simp [numberParameters]) hsize hoffset
    sent := fun sorting query envelope hok => by
      by_contra hunfit
      have herror := hok.symm.trans (exec_paginate_unfit fun hfit => hunfit hfit.2.2)
      cases herror }

lemma sellerRows_ofDays : OfDays (sellerListStatement sellerId v)
    (sellerRows sellerId v fromDay toDay)
    (fun row => row.item.createdAt) fromDay toDay := by
  intro row
  rw [sellerRows, sellerItems, List.mem_filter, daysBetween_admits]

lemma opsRows_ofDays : OfDays (opsListStatement v) (opsRows v fromDay toDay)
    (fun row => row.context.item.createdAt) fromDay toDay := by
  intro row
  rw [opsRows, opsItems, List.mem_filter, Option.all_none, Bool.and_true, daysBetween_admits]

lemma sellerList_nodup : ((sellerListStatement sellerId v).map ItemContext.id).Nodup :=
  (List.filter_sublist.map _).nodup
    (nodup_filterMap (orderItems_nodup v) fun _ _ _ => id_of_itemContext)

lemma sellerRows_nodup : ((sellerRows sellerId v fromDay toDay).map ItemContext.id).Nodup :=
  (List.filter_sublist.map _).nodup sellerList_nodup

lemma opsList_nodup : ((opsListStatement v).map fun row => row.context.id).Nodup :=
  nodup_filterMap (orderItems_nodup v) fun _ _ _ => id_of_opsItemContext

lemma opsRows_nodup : ((opsRows v fromDay toDay).map fun row => row.context.id).Nodup :=
  (List.filter_sublist.map _).nodup opsList_nodup

lemma sellerPageShows_iff (hparse : ReadsZulu parse)
    {sortings : ℕ → Sorting ItemContext.newestFirst} {id : UUID} :
    SellerPageShows cs v parse seller sortings fromDay toDay id
      ↔ Shows (fun sorting query =>
          answerOf cs v (listOrderItems seller (daysBetween fromDay toDay) sorting query))
        OrderItemListItem.orderItemId sortings id := by
  rw [SellerPageShows, dayFilters_eq hparse]
  simp

lemma opsPageShows_iff (hparse : ReadsZulu parse)
    {sortings : ℕ → Sorting OpsItemContext.newestFirst} {id : UUID} :
    OpsPageShows cs v parse ops sortings fromDay toDay id
      ↔ Shows (fun sorting query =>
          answerOf cs v (listOpsOrderItems ops (daysBetween fromDay toDay) none sorting query))
        OpsOrderItemListItem.orderItemId sortings id := by
  rw [OpsPageShows, dayFilters_eq hparse]
  simp

/-- **Day filters select whole days** exactly of the items that are caught: an item of the days is
shown, however the database orders the rows of a page query, unless it was created within the last
second of the last day or may fall between two pages; and one single-day filter shows an item
exactly if it is caught on its day. -/
theorem day_filters_iff (hparse : ReadsZulu parse) (hseller : seller.role = .seller)
    (hstore : seller.sellerId = some sellerId) (hops : ops.role = .ops)
    {row : ItemContext} (hrow : row ∈ sellerListStatement sellerId v)
    {opsRow : OpsItemContext} (hopsRow : opsRow ∈ opsListStatement v) :
    ((∀ fromDay toDay,
          (∀ sortings, SellerPageShows cs v parse seller sortings fromDay toDay row.id
              ↔ InDays fromDay toDay row.item.createdAt)
            ↔ (InDays fromDay toDay row.item.createdAt →
              Caught ItemContext.newestFirst (sellerRows sellerId v fromDay toDay) toDay row
                row.item.createdAt))
        ∧ ((∀ sortings, ∃! day, SellerPageShows cs v parse seller sortings day day row.id)
          ↔ ∃ day, InDays day day row.item.createdAt
            ∧ Caught ItemContext.newestFirst (sellerRows sellerId v day day) day row
              row.item.createdAt))
      ∧ (∀ fromDay toDay,
          (∀ sortings, OpsPageShows cs v parse ops sortings fromDay toDay opsRow.context.id
              ↔ InDays fromDay toDay opsRow.context.item.createdAt)
            ↔ (InDays fromDay toDay opsRow.context.item.createdAt →
              Caught OpsItemContext.newestFirst (opsRows v fromDay toDay) toDay opsRow
                opsRow.context.item.createdAt))
        ∧ ((∀ sortings, ∃! day, OpsPageShows cs v parse ops sortings day day opsRow.context.id)
          ↔ ∃ day, InDays day day opsRow.context.item.createdAt
            ∧ Caught OpsItemContext.newestFirst (opsRows v day day) day opsRow
              opsRow.context.item.createdAt) := by
  simp only [sellerPageShows_iff hparse, opsPageShows_iff hparse]
  refine ⟨⟨fun fromDay toDay => ?_, ?_⟩, fun fromDay toDay => ?_, ?_⟩
  · exact (sellerPages hseller hstore).exact_iff (fun _ => rfl) sellerRows_ofDays sellerRows_nodup
      sellerList_nodup hrow
  · exact single_day_iff (fun _ => sellerPages hseller hstore) (fun _ => rfl)
      (fun _ => sellerRows_ofDays) (fun _ => sellerRows_nodup) sellerList_nodup hrow
  · exact (opsPages hops).exact_iff (fun _ => rfl) opsRows_ofDays opsRows_nodup
      opsList_nodup hopsRow
  · exact single_day_iff (fun _ => opsPages hops) (fun _ => rfl) (fun _ => opsRows_ofDays)
      (fun _ => opsRows_nodup) opsList_nodup hopsRow

end TwoLists

/-! ### Two shops -/

/-- A validation of query parameters. -/
def parseIso (t : Text) : Option QueryDateTime :=
  (fromisoformat t).map fun d => ⟨d.instant, d.1.offset.isSome⟩

lemma readsZulu_parseIso : ReadsZulu parseIso := by
  intro d hoffset _
  rw [parseIso, fromisoformat_zuluformat hoffset, Option.map_some, hoffset]
  rfl

/-- The first day of the tableware. -/
def firstDay : Date := ⟨1, 1, 1, by decide, by decide, by decide⟩

/-- The mug of the tableware is shown by one single-day filter. -/
theorem day_filters_tableware : ∃ row ∈ sellerListStatement 1 tableware, ∀ sortings, ∃! day,
    SellerPageShows (fun _ => ⟨0, 0, false⟩) tableware parseIso tablewareSeller sortings day day
      row.id := by
  have hseller : tablewareSeller.role = .seller := rfl
  have hstore : tablewareSeller.sellerId = some 1 := rfl
  have hops : tablewareOps.role = .ops := rfl
  have hrow : ∃ row ∈ sellerListStatement 1 tableware, row.item.createdAt = 0 := by decide +kernel
  have hopsRow : ∃ row ∈ opsListStatement tableware, row.context.item.createdAt = 0 := by
    decide +kernel
  obtain ⟨row, hrow, hcreated⟩ := hrow
  obtain ⟨opsRow, hopsRow, -⟩ := hopsRow
  have hlength : (sellerRows 1 tableware firstDay firstDay).length ≤ 2 := by decide +kernel
  have hbefore : before ItemContext.newestFirst
      (sellerRows 1 tableware firstDay firstDay) row ≤ 2 :=
    le_trans List.countP_le_length hlength
  have hupTo : upTo ItemContext.newestFirst (sellerRows 1 tableware firstDay firstDay) row ≤ 2 :=
    le_trans List.countP_le_length hlength
  refine ⟨row, hrow, (day_filters_iff readsZulu_parseIso hseller hstore hops hrow hopsRow).1.2.mpr
    ⟨firstDay, ?_, ?_, ?_, ?_⟩⟩
  · rw [hcreated]
    exact ⟨by decide, by decide⟩
  · rw [hcreated]
    decide
  · rintro ⟨k, hlow, hhigh⟩
    rw [pageSize] at hlow hhigh
    omega
  · have hfirst : before ItemContext.newestFirst (sellerRows 1 tableware firstDay firstDay) row
        / pageSize = 0 := Nat.div_eq_of_lt (lt_of_le_of_lt hbefore (by decide))
    rw [hfirst, Nat.zero_mul]
    decide

/-- The day of the late order. -/
def lateDay : Date := ⟨2026, 1, 15, by decide, by decide, by decide⟩

/-- A mug that was bought half a second before midnight. -/
def lateMug : Db :=
  ((((((∅ : Db).insert (.seller 1) (⟨"Loja"⟩ : MarketHub.Seller)).insert
    (.user 7) (⟨"ana@example.com", "Ana", .buyer, none⟩ : MarketHub.User)).insert
    (.product 2) (⟨"Caneca", none⟩ : MarketHub.Product)).insert
    (.offer 4) (⟨2, 1, 1000, 5, true⟩ : MarketHub.Offer)).insert
    (.order 6) (⟨1001, 7, 0, 0⟩ : MarketHub.Order)).insert
    (.orderItem 8) (⟨6, 4, 1, 1, 1000, .placed, lastSecond lateDay + 500000,
      lastSecond lateDay + 500000, lastSecond lateDay + 500000⟩ : MarketHub.OrderItem)

/-- The filter of its day does not show it. -/
theorem not_day_filters_late : ¬ ∀ (cs : ℕ → Choice) (v : Db) (parse : Text → Option QueryDateTime)
    (seller : CurrentUser) (sellerId : UUID), ReadsZulu parse → seller.role = .seller →
    seller.sellerId = some sellerId → ∀ row ∈ sellerListStatement sellerId v,
    ∀ (fromDay toDay : Date) (sortings : ℕ → Sorting ItemContext.newestFirst),
      SellerPageShows cs v parse seller sortings fromDay toDay row.id
        ↔ InDays fromDay toDay row.item.createdAt := by
  intro h
  have hrow : ∃ row ∈ sellerListStatement 1 lateMug,
      row.item.createdAt = lastSecond lateDay + 500000 := by decide +kernel
  obtain ⟨row, hrow, hcreated⟩ := hrow
  have hshows := h (fun _ => ⟨0, 0, false⟩) lateMug parseIso tablewareSeller 1
    readsZulu_parseIso rfl
    rfl row hrow lateDay lateDay
  simp only [sellerPageShows_iff readsZulu_parseIso] at hshows
  have hcaught := ((sellerPages rfl rfl).exact_iff (fun _ => rfl) sellerRows_ofDays sellerRows_nodup
    sellerList_nodup hrow).mp hshows
  rw [hcreated] at hcaught
  exact absurd (hcaught ⟨by decide, by decide⟩).1 (by decide)

end MarketHub.Frontend
