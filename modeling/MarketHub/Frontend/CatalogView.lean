import MarketHub.Frontend.CatalogRows
import MarketHub.JavaScript.Text
import MarketHub.OffsetPaging
import MarketHub.StableSort

/-!
Filters, order and pages of the catalogue (`features/catalog/catalogFilters.ts`, `catalogSort.ts`,
`ProductListPage.tsx`).

* `Builtins`: the functions of the language that the filters use, whatever their tables are.
* `applyCatalogFilters`, `Satisfies`: the filters, in one loop and each for itself.
* `sortCatalogRows`: the order. Arrays are references into a `Heap`; `sortRows` is what it makes of
  the rows.
* `pageRows`: a page.
* `catalog_view`: what is shown.
-/

namespace MarketHub.Frontend

open Python JavaScript StableSort OffsetPaging

/-! ### Filters -/

/-- `normalize('NFD')`, `\p{Diacritic}`, `toLowerCase`, and `Number` where it is finite. -/
structure Builtins where
  nfd : Text → Text
  isDiacritic : Code → Bool
  toLowerCase : Text → Text
  number : Text → Option ℚ

/-- `CatalogFilterValues`. -/
structure CatalogFilterValues where
  search : Text
  minPrice : Text
  maxPrice : Text
  availableOnly : Bool

/-- A price, as a number. -/
def priceNumber (price : Price) : ℚ := price.decimal / 100

section Filters

variable (js : Builtins)

/-- `normalizeText`. -/
def normalizeText (value : Text) : Text :=
  trim (js.toLowerCase ((js.nfd value).filter fun c => !js.isDiacritic c))

/-- `value.replace(',', '.')`: the first comma. -/
def replaceComma : Text → Text
  | [] => []
  | c :: t => if c = .char ',' then .char '.' :: t else c :: replaceComma t

/-- `parsePriceInput`. -/
def parsePriceInput (value : Text) : Option ℚ :=
  let trimmed := replaceComma (trim value)
  if trimmed = [] then none
  else
    match js.number trimmed with
    | none => none
    | some parsed => if parsed < 0 then none else some parsed

/-- `isPriceRangeInverted`. -/
def isPriceRangeInverted (minPrice maxPrice : Text) : Bool :=
  match parsePriceInput js minPrice, parsePriceInput js maxPrice with
  | some min, some max => max < min
  | _, _ => false

/-- The bounds that filter: none if the range is inverted. -/
def priceBounds (values : CatalogFilterValues) : Option ℚ × Option ℚ :=
  if isPriceRangeInverted js values.minPrice values.maxPrice then (none, none)
  else (parsePriceInput js values.minPrice, parsePriceInput js values.maxPrice)

/-- What the search looks through. -/
def haystack (row : CatalogRow) : Text :=
  normalizeText js (text row.product.name ++ .char ' ' :: text (row.product.description.getD ""))

/-- The callback of `applyCatalogFilters`. -/
def keepsRow (values : CatalogFilterValues) (row : CatalogRow) : Bool :=
  let term := normalizeText js values.search
  let bounds := priceBounds js values
  if term ≠ [] ∧ ¬ term <:+: haystack js row then false
  else if values.availableOnly ∧ ¬ row.inStock then false
  else if bounds.1.isSome ∨ bounds.2.isSome then
    match row.lowestPrice with
    | none => false
    | some lowest =>
        -- Rows without a price are out, whichever bound there is.
        if bounds.1.any (fun min => priceNumber lowest < min) then false
        else if bounds.2.any (fun max => priceNumber lowest > max) then false
        else true
  else true

/-- `applyCatalogFilters`. -/
def applyCatalogFilters (rows : List CatalogRow) (values : CatalogFilterValues) : List CatalogRow :=
  rows.filter (keepsRow js values)

/-- The row satisfies every filter. -/
structure Satisfies (values : CatalogFilterValues) (row : CatalogRow) : Prop where
  search : normalizeText js values.search <:+: haystack js row
  available : values.availableOnly = true → row.inStock = true
  min : ∀ min ∈ (priceBounds js values).1, ∃ lowest ∈ row.lowestPrice, min ≤ priceNumber lowest
  max : ∀ max ∈ (priceBounds js values).2, ∃ lowest ∈ row.lowestPrice, priceNumber lowest ≤ max

end Filters

/-! ### Order -/

/-- `CatalogSort`. -/
inductive CatalogSort where
  | relevance | price_asc | price_desc | name_asc
  deriving DecidableEq, Repr

/-- The comparator of the prices, in a direction of `1` or `-1`. -/
def comparePrices (direction : ℚ) (a b : CatalogRow) : ℚ :=
  match a.lowestPrice, b.lowestPrice with
  | none, none => 0
  | none, some _ => 1
  | some _, none => -1
  | some p, some q => (priceNumber p - priceNumber q) * direction

/-- The direction of a sort option. -/
def CatalogSort.direction (sort : CatalogSort) : ℚ := if sort = .price_asc then 1 else -1

/-- The comparator of the prices is consistent. -/
def priceComparator (direction : ℚ) : Comparator CatalogRow where
  compare := comparePrices direction
  swap a b := by
    rw [comparePrices, comparePrices]
    cases a.lowestPrice <;> cases b.lowestPrice
    · simp
    · simp
    · simp
    · rename_i p q
      have hneg : (priceNumber q - priceNumber p) * direction
          = -((priceNumber p - priceNumber q) * direction) := by ring
      simp only [hneg, Left.neg_neg_iff]
  trans a b x := by
    rw [comparePrices, comparePrices, comparePrices]
    cases a.lowestPrice <;> cases b.lowestPrice <;> cases x.lowestPrice
    all_goals simp only
    all_goals intro hab hbx
    all_goals linarith

/-- Arrays, by their references. -/
structure Heap where
  arrays : List (List CatalogRow)

namespace Heap

/-- The elements of an array. -/
def read (heap : Heap) (ref : ℕ) : List CatalogRow := heap.arrays[ref]?.getD []

/-- A new array. -/
def alloc (heap : Heap) (rows : List CatalogRow) : Heap × ℕ :=
  ({ arrays := heap.arrays ++ [rows] }, heap.arrays.length)

/-- New elements of an array. -/
def write (heap : Heap) (ref : ℕ) (rows : List CatalogRow) : Heap :=
  { arrays := heap.arrays.set ref rows }

end Heap

section Sorting

variable (localeCompare : Comparator String) (sorter : StableSorter CatalogRow)

/-- The comparator of a sort option. -/
def comparator (sort : CatalogSort) : Comparator CatalogRow :=
  if sort = .name_asc then localeCompare.on fun row => row.product.name
  else priceComparator sort.direction

/-- `sortCatalogRows`: the copy is sorted in its place. -/
def sortCatalogRows (heap : Heap) (rows : ℕ) (sort : CatalogSort) : Heap × ℕ :=
  if sort = .relevance then (heap, rows)
  else
    let (heap, sorted) := heap.alloc (heap.read rows)
    (heap.write sorted (sorter.sort (comparator localeCompare sort) (heap.read sorted)), sorted)

/-- The rows in the chosen order. -/
def sortRows (rows : List CatalogRow) (sort : CatalogSort) : List CatalogRow :=
  if sort = .relevance then rows else sorter.sort (comparator localeCompare sort) rows

end Sorting

/-! ### Pages -/

/-- `PAGE_SIZE`. -/
def catalogPageSize : ℕ := 24

/-- `l.slice(start, stop)`. -/
def slice (start stop : ℕ) (l : List CatalogRow) : List CatalogRow :=
  (l.drop start).take (stop - start)

/-- `pageRows`. -/
def pageRows (visible : List CatalogRow) (page : ℕ) : List CatalogRow :=
  slice ((page - 1) * catalogPageSize) (page * catalogPageSize) visible

/-- `Math.ceil(total / pageSize)`. -/
def catalogPages (total : ℕ) : ℕ := (total + (catalogPageSize - 1)) / catalogPageSize

/-! ### Filters, one by one -/

section Filters

variable {js : Builtins} {rows : List CatalogRow} {values : CatalogFilterValues} {row : CatalogRow}

/-- **The loop keeps what satisfies every filter.** -/
lemma keepsRow_iff : keepsRow js values row = true ↔ Satisfies js values row := by
  -- an empty search keeps every row
  have hsearch : ¬ (normalizeText js values.search ≠ []
      ∧ ¬ normalizeText js values.search <:+: haystack js row)
      ↔ normalizeText js values.search <:+: haystack js row := by
    rw [not_and, not_not]
    refine ⟨fun h => ?_, fun h _ => h⟩
    by_cases hnil : normalizeText js values.search = []
    · rw [hnil]
      exact List.nil_infix
    · exact h hnil
  rw [keepsRow]
  constructor
  · intro h
    split_ifs at h with hterm havailable hbounds
    · -- a price filter
      cases hlowest : row.lowestPrice with
      | none => rw [hlowest] at h; cases h
      | some lowest =>
          rw [hlowest] at h
          simp only at h
          split_ifs at h with hmin hmax
          refine ⟨hsearch.mp hterm, fun hvalue => ?_, fun min hmem => ?_, fun max hmem => ?_⟩
          · by_contra hstock
            exact havailable ⟨hvalue, hstock⟩
          · refine ⟨lowest, hlowest, not_lt.mp fun hlt => hmin ?_⟩
            rw [Option.mem_def.mp hmem]
            exact decide_eq_true hlt
          · refine ⟨lowest, hlowest, not_lt.mp fun hlt => hmax ?_⟩
            rw [Option.mem_def.mp hmem]
            exact decide_eq_true hlt
    · -- without price filters
      rw [not_or, Option.not_isSome_iff_eq_none, Option.not_isSome_iff_eq_none] at hbounds
      refine ⟨hsearch.mp hterm, fun hvalue => ?_, fun min hmem => ?_, fun max hmem => ?_⟩
      · by_contra hstock
        exact havailable ⟨hvalue, hstock⟩
      · rw [hbounds.1] at hmem
        cases hmem
      · rw [hbounds.2] at hmem
        cases hmem
  · -- no test of the loop fails
    rintro ⟨hterm, havailable, hmin, hmax⟩
    rw [if_neg (hsearch.mpr hterm), if_neg fun h => h.2 (havailable h.1)]
    split_ifs with hbounds
    · -- a bound that a row satisfies shows that it has a price
      have hlowest : ∃ lowest, row.lowestPrice = some lowest := by
        rcases hbounds with h | h
        · obtain ⟨min, hmem⟩ := Option.isSome_iff_exists.mp h
          obtain ⟨lowest, hlowest, -⟩ := hmin min hmem
          exact ⟨lowest, hlowest⟩
        · obtain ⟨max, hmem⟩ := Option.isSome_iff_exists.mp h
          obtain ⟨lowest, hlowest, -⟩ := hmax max hmem
          exact ⟨lowest, hlowest⟩
      obtain ⟨lowest, hlowest⟩ := hlowest
      rw [hlowest] at hmin hmax ⊢
      have hmin' : ¬ (priceBounds js values).1.any
          (fun min => priceNumber lowest < min) = true := by
        rw [Option.any_eq_true]
        rintro ⟨min, hmem, hlt⟩
        obtain ⟨_, ⟨⟩, hle⟩ := hmin min hmem
        exact absurd (of_decide_eq_true hlt) (not_lt.mpr hle)
      have hmax' : ¬ (priceBounds js values).2.any
          (fun max => priceNumber lowest > max) = true := by
        rw [Option.any_eq_true]
        rintro ⟨max, hmem, hlt⟩
        obtain ⟨_, ⟨⟩, hle⟩ := hmax max hmem
        exact absurd (of_decide_eq_true hlt) (not_lt.mpr hle)
      simp only
      rw [if_neg hmin', if_neg hmax']
    · rfl

instance : DecidablePred (Satisfies js values) := fun _ => decidable_of_iff _ keepsRow_iff

/-- The rows that are kept. -/
lemma applyCatalogFilters_eq (rows : List CatalogRow) :
    applyCatalogFilters js rows values = rows.filter fun row => Satisfies js values row :=
  List.filter_congr fun _ _ => by
    rw [Bool.eq_iff_iff, keepsRow_iff, decide_eq_true_iff]

/-- **A second time changes nothing.** -/
lemma applyCatalogFilters_twice (rows : List CatalogRow) :
    applyCatalogFilters js (applyCatalogFilters js rows values) values
      = applyCatalogFilters js rows values := by
  rw [applyCatalogFilters, applyCatalogFilters, List.filter_filter]
  exact List.filter_congr fun _ _ => Bool.and_self _

end Filters

/-! ### The order of the rows -/

section Sorting

variable {localeCompare : Comparator String} {sorter : StableSorter CatalogRow} {sort : CatalogSort}

/-- The place of two rows in a price order: rows without a price come last. -/
def InPriceOrder (sort : CatalogSort) (a b : CatalogRow) : Prop :=
  match a.lowestPrice, b.lowestPrice with
  | some p, some q => if sort = .price_asc then priceNumber p ≤ priceNumber q
      else priceNumber q ≤ priceNumber p
  | none, some _ => False
  | _, none => True

lemma inPriceOrder_of_le {a b : CatalogRow} (h : (priceComparator sort.direction).le a b = true) :
    InPriceOrder sort a b := by
  have hle : comparePrices sort.direction a b ≤ 0 := (Comparator.le_iff _).mp h
  rw [comparePrices] at hle
  rw [InPriceOrder]
  cases ha : a.lowestPrice with
  | none =>
      cases hb : b.lowestPrice with
      | none => trivial
      | some q =>
          rw [ha, hb] at hle
          norm_num at hle
  | some p =>
      cases hb : b.lowestPrice with
      | none => trivial
      | some q =>
          rw [ha, hb, CatalogSort.direction] at hle
          simp only at hle ⊢
          split_ifs at hle ⊢
          · linarith
          · linarith

/-- **The sort keeps its input**: it answers with the rows in order, and no array that was there has
changed. -/
lemma sortCatalogRows_spec (heap : Heap) (rows : ℕ) :
    (sortCatalogRows localeCompare sorter heap rows sort).1.read
        (sortCatalogRows localeCompare sorter heap rows sort).2
        = sortRows localeCompare sorter (heap.read rows) sort
      ∧ ∀ ref < heap.arrays.length,
        (sortCatalogRows localeCompare sorter heap rows sort).1.read ref = heap.read ref := by
  rw [sortCatalogRows, sortRows]
  split_ifs with hrelevance
  · exact ⟨rfl, fun _ _ => rfl⟩
  · have hcopy : ∀ l : List CatalogRow, (heap.alloc l).1.read (heap.alloc l).2 = l := by
      intro l
      simp [Heap.alloc, Heap.read]
    simp only [hcopy]
    refine ⟨?_, fun ref href => ?_⟩
    · simp [Heap.alloc, Heap.read, Heap.write]
    · simp only [Heap.alloc, Heap.read, Heap.write]
      rw [List.getElem?_set_ne (by omega), List.getElem?_append_left href]

end Sorting

/-! ### Pages of the rows -/

section Pages

variable {visible : List CatalogRow}

lemma pageRows_eq (visible : List CatalogRow) (k : ℕ) :
    pageRows visible (k + 1) = page catalogPageSize k visible := by
  have hlength : (k + 1) * catalogPageSize - k * catalogPageSize = catalogPageSize := by
    rw [Nat.succ_mul, Nat.add_sub_cancel_left]
  rw [pageRows, slice, Nat.add_sub_cancel, hlength, page]

/-- **The pages are the rows.** -/
lemma flatMap_pageRows (visible : List CatalogRow) :
    (List.range (catalogPages visible.length)).flatMap (fun k => pageRows visible (k + 1))
      = visible := by
  simp only [pageRows_eq]
  have hpages : pages catalogPageSize (catalogPages visible.length) (fun _ => visible)
      = visible.take (catalogPages visible.length * catalogPageSize) := pages_const
  rw [pages] at hpages
  rw [hpages, List.take_of_length_le]
  rw [catalogPages, catalogPageSize]
  omega

/-- No page is empty. -/
lemma pageRows_ne_nil {k : ℕ} (hk : k < catalogPages visible.length) :
    pageRows visible (k + 1) ≠ [] := by
  rw [pageRows_eq, page]
  have hlt : k * catalogPageSize < visible.length := by
    rw [catalogPages, catalogPageSize] at hk
    rw [catalogPageSize]
    omega
  rw [ne_eq, List.take_eq_nil_iff, List.drop_eq_nil_iff]
  rintro (h | h)
  · cases h
  · omega

end Pages

/-! ### What is shown -/

/-- What the catalogue shows. -/
structure LawfulView (js : Builtins) (localeCompare : Comparator String)
    (sorter : StableSorter CatalogRow) (rows : List CatalogRow) (values : CatalogFilterValues)
    (sort : CatalogSort) (shown : List CatalogRow) : Prop where
  /-- The rows that satisfy every filter, each as often as it is there. -/
  perm : shown.Perm (rows.filter fun row => Satisfies js values row)
  /-- Without an order, the rows as they stand; else sorted, and ties as they stand. -/
  relevance : sort = .relevance → shown = rows.filter fun row => Satisfies js values row
  stable : sort ≠ .relevance → IsStableSort (comparator localeCompare sort)
    (rows.filter fun row => Satisfies js values row) shown
  /-- Prices in the chosen order, and rows without a price behind them. -/
  priced : sort = .price_asc ∨ sort = .price_desc → shown.Pairwise (InPriceOrder sort)
  named : sort = .name_asc →
    shown.Pairwise fun a b => localeCompare.compare a.product.name b.product.name ≤ 0
  /-- The sort changes no array that is there. -/
  kept : ∀ (heap : Heap) (ref : ℕ), heap.read ref = applyCatalogFilters js rows values →
    (sortCatalogRows localeCompare sorter heap ref sort).1.read
        (sortCatalogRows localeCompare sorter heap ref sort).2 = shown
      ∧ ∀ ref' < heap.arrays.length,
        (sortCatalogRows localeCompare sorter heap ref sort).1.read ref' = heap.read ref'
  /-- Filters before the order or behind it, once or twice. -/
  commute : shown = applyCatalogFilters js (sortRows localeCompare sorter rows sort) values
  twice : shown = sortRows localeCompare sorter
    (applyCatalogFilters js (applyCatalogFilters js rows values) values) sort
  /-- The pages, one after the other. -/
  pages : (List.range (catalogPages shown.length)).flatMap (fun k => pageRows shown (k + 1)) = shown
  pages_ne_nil : ∀ k < catalogPages shown.length, pageRows shown (k + 1) ≠ []

/-- **The catalogue is a lawful view** of its rows, for all filters and orders. -/
theorem catalog_view (js : Builtins) (localeCompare : Comparator String)
    (sorter : StableSorter CatalogRow) (rows : List CatalogRow) (values : CatalogFilterValues)
    (sort : CatalogSort) :
    LawfulView js localeCompare sorter rows values sort
      (sortRows localeCompare sorter (applyCatalogFilters js rows values) sort) := by
  have hstable : ∀ rows, sort ≠ .relevance → IsStableSort (comparator localeCompare sort) rows
      (sortRows localeCompare sorter rows sort) := by
    intro rows hsort
    rw [sortRows, if_neg hsort]
    exact sorter.stable _ _
  refine {
    perm := ?_
    relevance := fun hsort => ?_
    stable := fun hsort => ?_
    priced := fun hsort => ?_
    named := fun hsort => ?_
    kept := fun heap ref href => ?_
    commute := ?_
    twice := ?_
    pages := flatMap_pageRows _
    pages_ne_nil := fun k hk => pageRows_ne_nil hk }
  · rw [← applyCatalogFilters_eq]
    by_cases hsort : sort = .relevance
    · rw [sortRows, if_pos hsort]
    · exact (hstable _ hsort).perm
  · rw [← applyCatalogFilters_eq, sortRows, if_pos hsort]
  · rw [← applyCatalogFilters_eq]
    exact hstable _ hsort
  · have hne : sort ≠ .relevance := by rcases hsort with rfl | rfl <;> decide
    have hcomparator : comparator localeCompare sort = priceComparator sort.direction :=
      if_neg (by rcases hsort with rfl | rfl <;> decide)
    refine (hstable _ hne).sorted.imp fun h => inPriceOrder_of_le ?_
    rwa [hcomparator] at h
  · subst hsort
    exact (hstable _ (by decide)).sorted.imp fun h => (Comparator.le_iff _).mp h
  · rw [← href]
    exact sortCatalogRows_spec heap ref
  · rw [sortRows, sortRows]
    split_ifs
    · rfl
    · exact (sorter.filter_sort _ rows _).symm
  · rw [applyCatalogFilters_twice]

end MarketHub.Frontend
