import MarketHub.Frontend.OrderNumber
import MarketHub.Python.Uuid

/-!
The lookup on the orders page of a buyer (`features/orders/OrdersListPage.tsx`), beside the filters
of the service.

* `matchesLookup`, `visible`: the orders that the page keeps.
* `Selected`: what the filters of the service select.
* `Named`: what the lookup means; `Spelled`: it is written as the service writes it.
* `matchesLookup_iff`, `selected_iff`: the page keeps what is named and spelled, the service selects
  what is named and has items.
* `visible_agrees_iff`: when the two agree.
-/

namespace MarketHub.Frontend

open Python JavaScript PublicNumbers

/-! ### The page -/

/-- `BuyerOrderItem`. -/
structure BuyerOrderItem where
  id : Text
  number : Text
  deriving DecidableEq, Repr

/-- `Order`. -/
structure Order where
  id : Text
  number : ℕ
  items : List BuyerOrderItem
  deriving DecidableEq, Repr

/-- `matchesLookup`. -/
def matchesLookup (order : Order) (lookup : OrderLookup) : Bool :=
  match lookup.status with
  | .number => decimal order.number == lookup.value
      || order.items.any fun item => item.number == lookup.value
  | .uuid => order.id == lookup.value || order.items.any fun item => item.id == lookup.value
  | _ => true

/-- The orders that the page shows. -/
def visible (orders : List Order) (lookupInput : Text) : List Order :=
  orders.filter (matchesLookup · (classifyOrderLookup lookupInput))

/-! ### The service -/

/-- An item of an order, as it is stored. -/
structure PlacedItem where
  id : Uuid
  line : ℕ
  fits : FitsInteger line

/-- An order, as it is stored. -/
structure PlacedOrder where
  id : Uuid
  number : ℕ
  items : List PlacedItem
  fits : FitsInteger number

/-- The public number of an item. -/
def numberText (number line : ℕ) : Text := decimal number ++ hyphen :: decimal line

/-- `_order_response`. -/
def PlacedOrder.response (order : PlacedOrder) : Order where
  id := order.id.str
  number := order.number
  items := order.items.map fun item =>
    { id := item.id.str
      number := numberText order.number item.line }

/-- The filter of the service for a lookup selects an item of the order. -/
def selectsItem (lookup : OrderLookup) (order : PlacedOrder) (item : PlacedItem) : Prop :=
  match lookup.status with
  | .number => PublicNumbers.applyPublicNumberFilter (some lookup.value) order.number item.line
      = .ok true
  | .uuid => parseUuid lookup.value = some item.id
  | _ => True

/-- The lookup is the id of the order, or the filter of the service selects one of its items. -/
def Selected (lookup : OrderLookup) (order : PlacedOrder) : Prop :=
  (lookup.status = .uuid ∧ parseUuid lookup.value = some order.id)
    ∨ ∃ item ∈ order.items, selectsItem lookup order item

/-! ### What a lookup means -/

/-- The lookup gives the order or one of its items, as numbers or as ids. -/
def Named (lookup : OrderLookup) (order : PlacedOrder) : Prop :=
  match lookup.status with
  | .number => ∃ v, PublicNumbers.parsePublicNumber lookup.value = .ok v ∧ (order.number : ℤ) = v.1
      ∧ ∀ line ∈ v.2, ∃ item ∈ order.items, (item.line : ℤ) = line
  | .uuid => parseUuid lookup.value = some order.id
      ∨ ∃ item ∈ order.items, parseUuid lookup.value = some item.id
  | _ => True

/-- An upper-case letter of a hexadecimal number. -/
def isUpperHex : Code → Bool
  | .char c => 'A' ≤ c && c ≤ 'F'
  | .surrogate _ => false

/-- The lookup has no leading zeros and no letters in upper case. -/
def Spelled (lookup : OrderLookup) : Prop :=
  match lookup.status with
  | .number => ∀ g, numberGroups isAsciiDigit lookup.value = some g →
      NoLeadingZero g.1 ∧ ∀ line ∈ g.2, NoLeadingZero line
  | .uuid => ∀ c ∈ lookup.value, isUpperHex c = false
  | _ => True

section Numbers

variable {n l : ℕ} {t : Text} {g : Text × Option Text} {order : PlacedOrder}

lemma codable_of_fits (h : FitsInteger n) : Codable (n : ℤ) := by
  refine ⟨by omega, ?_⟩
  have hlt : n < 10 ^ maxStrDigits :=
    calc n < 10 ^ 10 := by rw [FitsInteger] at h; omega
      _ ≤ 10 ^ maxStrDigits := Nat.pow_le_pow_right (by norm_num) (by decide)
  exact_mod_cast hlt

lemma length_decimal_of_fits (h : FitsInteger n) : (decimal n).length ≤ maxStrDigits :=
  (codable_iff.mp (codable_of_fits h)).2

/-- The number of an order is written as the lookup. -/
lemma decimal_eq_iff (hg : numberGroups isAsciiDigit t = some g) :
    decimal n = t ↔ g.2 = none ∧ NoLeadingZero g.1 ∧ n = Python.numberOf g.1 := by
  constructor
  · rintro rfl
    have hgroups := numberGroups_decimal n none
    rw [groupsText, Option.map_none, Option.map_none, Option.getD_none, List.append_nil, hg]
      at hgroups
    obtain rfl := Option.some.inj hgroups
    exact ⟨rfl, noLeadingZero_decimal n, (numberOf_decimal n).symm⟩
  · rintro ⟨hline, hzero, rfl⟩
    obtain ⟨order, line⟩ := g
    obtain rfl : line = none := hline
    obtain ⟨hne, horder, -, ht⟩ := (numberGroups_eq_some_iff isAsciiDigit_hyphen).mp hg
    rw [decimal_numberOf hne horder hzero, ht]
    simp

/-- The number of an item is written as the lookup. -/
lemma numberText_eq_iff (hg : numberGroups isAsciiDigit t = some g) :
    numberText n l = t ↔ ∃ line, g.2 = some line ∧ (NoLeadingZero g.1 ∧ NoLeadingZero line)
      ∧ n = Python.numberOf g.1 ∧ l = Python.numberOf line := by
  constructor
  · rintro rfl
    have hgroups := numberGroups_decimal n (some l)
    rw [show groupsText (decimal n, (some l).map decimal) = numberText n l from rfl, hg] at hgroups
    obtain rfl := Option.some.inj hgroups
    exact ⟨decimal l, rfl, ⟨noLeadingZero_decimal n, noLeadingZero_decimal l⟩,
      (numberOf_decimal n).symm, (numberOf_decimal l).symm⟩
  · rintro ⟨line, hline, ⟨hzero, hzero'⟩, rfl, rfl⟩
    obtain ⟨order, line'⟩ := g
    obtain rfl : line' = some line := hline
    obtain ⟨hne, horder, hdigits, ht⟩ := (numberGroups_eq_some_iff isAsciiDigit_hyphen).mp hg
    obtain ⟨hne', hdigits'⟩ := hdigits line rfl
    rw [numberText, decimal_numberOf hne horder hzero, decimal_numberOf hne' hdigits' hzero', ht]
    rfl

/-- What a public number means. -/
def NamesNumber (g : Text × Option Text) (order : PlacedOrder) : Prop :=
  ShortGroups g ∧ order.number = Python.numberOf g.1
    ∧ ∀ line ∈ g.2, ∃ item ∈ order.items, item.line = Python.numberOf line

lemma named_number_iff (hg : numberGroups isAsciiDigit t = some g) :
    Named ⟨.number, t⟩ order ↔ NamesNumber g order := by
  simp only [Named, parsePublicNumber_eq_ok_iff (publicNumberPattern_strip hg)]
  constructor
  · rintro ⟨v, ⟨hshort, rfl⟩, hnumber, hline⟩
    refine ⟨hshort, Int.ofNat_inj.mp hnumber, fun line hmem => ?_⟩
    obtain ⟨item, hitem, heq⟩ := hline _ (Option.map_eq_some_iff.mpr ⟨line, hmem, rfl⟩)
    exact ⟨item, hitem, by exact_mod_cast heq⟩
  · rintro ⟨hshort, hnumber, hline⟩
    refine ⟨_, ⟨hshort, rfl⟩, congrArg Nat.cast hnumber, fun line hmem => ?_⟩
    obtain ⟨line', hmem', rfl⟩ := Option.map_eq_some_iff.mp hmem
    obtain ⟨item, hitem, heq⟩ := hline line' hmem'
    exact ⟨item, hitem, by exact_mod_cast heq⟩

/-- What the service selects by a number. -/
lemma selectsItem_number_iff (hg : numberGroups isAsciiDigit t = some g) (item : PlacedItem) :
    selectsItem ⟨.number, t⟩ order item ↔ ShortGroups g ∧ order.number = Python.numberOf g.1
      ∧ ∀ line ∈ g.2, item.line = Python.numberOf line := by
  have hne : t ≠ [] := by
    rintro rfl
    cases hg
  have hparse := fun v => parsePublicNumber_eq_ok_iff (publicNumberPattern_strip hg) (v := v)
  obtain ⟨c, t, rfl⟩ := List.exists_cons_of_ne_nil hne
  simp only [selectsItem, PublicNumbers.applyPublicNumberFilter]
  cases hv : PublicNumbers.parsePublicNumber (c :: t) with
  | error e =>
      refine ⟨fun h => (by cases h), fun h => ?_⟩
      rw [(hparse _).mpr ⟨h.1, rfl⟩] at hv
      cases hv
  | ok v =>
      obtain ⟨hshort, rfl⟩ := (hparse v).mp hv
      obtain ⟨number, line⟩ := g
      cases line with
      | none =>
          constructor
          · intro h
            have hbeq := Except.ok.inj h
            exact ⟨hshort, by simpa using hbeq, fun _ hl => (by cases hl)⟩
          · rintro ⟨-, h, -⟩
            exact congrArg Except.ok (by simp [h])
      | some line =>
          constructor
          · intro h
            have hbeq := Except.ok.inj h
            simp only [Bool.and_eq_true, beq_iff_eq, Nat.cast_inj] at hbeq
            refine ⟨hshort, hbeq.1, fun l hl => ?_⟩
            cases hl
            exact hbeq.2
          · rintro ⟨-, h, hl⟩
            exact congrArg Except.ok (by simp [h, hl line rfl])

/-- **The page keeps by a number** what is named and spelled. -/
lemma matchesLookup_number_iff (hg : numberGroups isAsciiDigit t = some g) :
    matchesLookup order.response ⟨.number, t⟩ = true
      ↔ Spelled ⟨.number, t⟩ ∧ NamesNumber g order := by
  have hspelled : Spelled ⟨.number, t⟩ ↔ NoLeadingZero g.1 ∧ ∀ line ∈ g.2, NoLeadingZero line := by
    constructor
    · exact fun h => h g hg
    · intro h g' hg'
      obtain rfl := Option.some.inj (hg.symm.trans hg')
      exact h
  rw [hspelled]
  simp only [matchesLookup, PlacedOrder.response, Bool.or_eq_true, beq_iff_eq, List.any_map,
    List.any_eq_true, Function.comp_apply, decimal_eq_iff hg, numberText_eq_iff hg]
  obtain ⟨number, line⟩ := g
  -- a number of the database has fewer digits than `int` takes
  have hlength : NoLeadingZero number → (∀ c ∈ number, isAsciiDigit c = true) → number ≠ [] →
      order.number = Python.numberOf number → number.length ≤ maxStrDigits := by
    intro hzero hdigits hne h
    have hshort := length_decimal_of_fits order.fits
    rwa [h, decimal_numberOf hne hdigits hzero] at hshort
  obtain ⟨hne, hdigits, hline, -⟩ := (numberGroups_eq_some_iff isAsciiDigit_hyphen).mp hg
  constructor
  · rintro (⟨hnone, hzero, h⟩ | ⟨item, hitem, line', hsome, ⟨hzero, hzero'⟩, h, h'⟩)
    · obtain rfl : line = none := hnone
      exact ⟨⟨hzero, fun _ hl => (by cases hl)⟩,
        ⟨hlength hzero hdigits hne h, fun _ hl => (by cases hl)⟩, h, fun _ hl => (by cases hl)⟩
    · obtain rfl : line = some line' := hsome
      obtain ⟨hne', hdigits'⟩ := hline line' rfl
      have hshort := length_decimal_of_fits item.fits
      rw [h', decimal_numberOf hne' hdigits' hzero'] at hshort
      refine ⟨⟨hzero, ?_⟩, ⟨hlength hzero hdigits hne h, ?_⟩, h, ?_⟩
      · rintro _ ⟨⟩
        exact hzero'
      · rintro _ ⟨⟩
        exact hshort
      · rintro _ ⟨⟩
        exact ⟨item, hitem, h'⟩
  · rintro ⟨⟨hzero, hzeros⟩, -, h, hitems⟩
    cases line with
    | none => exact .inl ⟨rfl, hzero, h⟩
    | some line =>
        obtain ⟨item, hitem, h'⟩ := hitems line rfl
        exact .inr ⟨item, hitem, line, rfl, ⟨hzero, hzeros line rfl⟩, h, h'⟩

/-- **The service selects by a number** what is named and has items. -/
lemma selected_number_iff (hg : numberGroups isAsciiDigit t = some g) :
    Selected ⟨.number, t⟩ order ↔ order.items ≠ [] ∧ NamesNumber g order := by
  simp only [Selected, selectsItem_number_iff hg, NamesNumber]
  constructor
  · rintro (⟨h, -⟩ | ⟨item, hitem, hshort, h, hline⟩)
    · cases h
    · exact ⟨List.ne_nil_of_mem hitem, hshort, h, fun line hl => ⟨item, hitem, hline line hl⟩⟩
  · rintro ⟨hne, hshort, h, hline⟩
    obtain ⟨number, line⟩ := g
    cases line with
    | none =>
        obtain ⟨item, hitem⟩ := List.exists_mem_of_ne_nil _ hne
        exact .inr ⟨item, hitem, hshort, h, fun _ hl => (by cases hl)⟩
    | some line =>
        obtain ⟨item, hitem, h'⟩ := hline line rfl
        refine .inr ⟨item, hitem, hshort, h, ?_⟩
        rintro _ ⟨⟩
        exact h'

end Numbers

/-! ### Lookups by id -/

section Ids

variable {t : Text} {order : PlacedOrder}

/-- An id is 32 digits in five groups. -/
lemma exists_grouped (h : groupsOf (isDigit 16) [8, 4, 4, 4, 12] t = true) :
    ∃ ds, t = grouped ds ∧ ds.length = 32 ∧ ∀ c ∈ ds, isDigit 16 c = true := by
  obtain ⟨a, t, rfl, ha, ha', h⟩ := groupsOf_cons_cons h
  obtain ⟨b, t, rfl, hb, hb', h⟩ := groupsOf_cons_cons h
  obtain ⟨c, t, rfl, hc, hc', h⟩ := groupsOf_cons_cons h
  obtain ⟨d, e, rfl, hd, hd', h⟩ := groupsOf_cons_cons h
  simp only [groupsOf, decide_eq_true_eq, List.all_eq_true] at h
  obtain ⟨he, he'⟩ := h
  refine ⟨a ++ (b ++ (c ++ (d ++ e))), ?_, by simp [ha, hb, hc, hd, he], fun x hx => ?_⟩
  · simp [grouped, List.drop_append, List.drop_of_length_le, ha, hb, hc, hd]
  · simp only [List.mem_append] at hx
    rcases hx with hx | hx | hx | hx | hx
    · exact ha' x hx
    · exact hb' x hx
    · exact hc' x hx
    · exact hd' x hx
    · exact he' x hx

lemma exists_digitChar {c : Code} (h : isDigit 16 c = true) (hupper : isUpperHex c = false) :
    ∃ d < 16, c = .char (digitChar d) := by
  cases c with
  | surrogate c => cases h
  | char c =>
      have hlower : ('0' ≤ c ∧ c ≤ '9') ∨ ('a' ≤ c ∧ c ≤ 'f') := by
        simp only [isDigit, digitValue, charValue] at h
        split at h
        · exact .inl ‹_›
        · split at h
          · exact .inr ‹_›
          · split at h
            · rename_i hc
              rw [isUpperHex, decide_eq_true hc.1, decide_eq_true hc.2] at hupper
              cases hupper
            · cases h
      rw [← Char.ofNat_toNat c]
      rcases hlower with ⟨hlow, hhigh⟩ | ⟨hlow, hhigh⟩
      · have hlow' : 48 ≤ c.toNat := hlow
        have hhigh' : c.toNat ≤ 57 := hhigh
        generalize c.toNat = n at hlow' hhigh'
        interval_cases n <;> decide
      · have hlow' : 97 ≤ c.toNat := hlow
        have hhigh' : c.toNat ≤ 102 := hhigh
        generalize c.toNat = n at hlow' hhigh'
        interval_cases n <;> decide

/-- The service writes ids without upper case. -/
lemma isUpperHex_str (u : Uuid) : ∀ c ∈ u.str, isUpperHex c = false := by
  have hwrite : ∀ w n, ∀ c ∈ write 16 w n, isUpperHex c = false := by
    have hdigit : ∀ d < 16, isUpperHex (.char (digitChar d)) = false := by decide
    intro w
    induction w with
    | zero => exact fun _ _ hc => absurd hc List.not_mem_nil
    | succ w ih =>
        intro n c hc
        rcases List.mem_append.mp hc with hc | hc
        · exact ih _ c hc
        · rw [List.mem_singleton.mp hc]
          exact hdigit _ (Nat.mod_lt _ (by norm_num))
  intro c hc
  have hmem : c = hyphen ∨ c ∈ write 16 32 u := mem_grouped hc
  rcases hmem with rfl | hc
  · decide
  · exact hwrite 32 u c hc

/-- **What an id means**, and how the service writes it. -/
lemma exists_parseUuid (h : groupsOf (isDigit 16) [8, 4, 4, 4, 12] t = true) :
    ∃ u, parseUuid t = some u
      ∧ ∀ u' : Uuid, u'.str = t ↔ (∀ c ∈ t, isUpperHex c = false) ∧ u = u' := by
  obtain ⟨ds, rfl, hlength, hdigit⟩ := exists_grouped h
  obtain ⟨n, hn, hread⟩ := exists_read hdigit
  rw [hlength] at hn
  have hn' : n < 2 ^ 128 := lt_of_lt_of_eq hn (by norm_num)
  have hparse := parseUuid_grouped hdigit hlength hn' hread
  refine ⟨⟨n, hn'⟩, hparse, fun u' => ⟨?_, ?_⟩⟩
  · intro hstr
    refine ⟨fun c hc => isUpperHex_str u' c (hstr ▸ hc), ?_⟩
    rw [← hstr, parseUuid_str] at hparse
    exact (Option.some.inj hparse).symm
  · rintro ⟨hupper, rfl⟩
    have hmem : ∀ c ∈ ds, c ∈ grouped ds := by
      intro c hc
      have hfilter := filter_grouped hdigit
      rw [← hfilter] at hc
      exact (List.mem_filter.mp hc).1
    have hwrite := write_read (by norm_num) (fun c hc =>
      exists_digitChar (hdigit c hc) (hupper c (hmem c hc))) hread
    rw [hlength] at hwrite
    rw [str_eq_grouped]
    exact congrArg grouped hwrite

/-- **The page keeps by an id** what is named and spelled. -/
lemma matchesLookup_uuid_iff (h : groupsOf (isDigit 16) [8, 4, 4, 4, 12] t = true) :
    matchesLookup order.response ⟨.uuid, t⟩ = true
      ↔ Spelled ⟨.uuid, t⟩ ∧ Named ⟨.uuid, t⟩ order := by
  obtain ⟨u, hparse, hstr⟩ := exists_parseUuid h
  simp only [matchesLookup, PlacedOrder.response, Bool.or_eq_true, beq_iff_eq, List.any_map,
    List.any_eq_true, Function.comp_apply, hstr, Spelled, Named, hparse, Option.some.injEq]
  constructor
  · rintro (⟨hupper, rfl⟩ | ⟨item, hitem, hupper, rfl⟩)
    · exact ⟨hupper, .inl rfl⟩
    · exact ⟨hupper, .inr ⟨item, hitem, rfl⟩⟩
  · rintro ⟨hupper, rfl | ⟨item, hitem, rfl⟩⟩
    · exact .inl ⟨hupper, rfl⟩
    · exact .inr ⟨item, hitem, hupper, rfl⟩

/-- **The service selects by an id** what is named. -/
lemma selected_uuid_iff : Selected ⟨.uuid, t⟩ order ↔ Named ⟨.uuid, t⟩ order := by
  simp [Selected, selectsItem, Named]

end Ids

/-! ### Agreement -/

/-- The lookup does not name the order; or it is spelled, unless it is a number and the order has
no items. -/
def Answerable (lookup : OrderLookup) (order : PlacedOrder) : Prop :=
  Named lookup order → (Spelled lookup ↔ (lookup.status = .number → order.items ≠ []))

section Agreement

variable {raw : Text} {order : PlacedOrder}

lemma eq_lookup {lookup : OrderLookup} {status : OrderLookupStatus} {value : Text}
    (hstatus : lookup.status = status) (hvalue : lookup.value = value) :
    lookup = ⟨status, value⟩ := by
  subst hstatus hvalue
  rfl

/-- **One order.** -/
lemma matchesLookup_iff_selected_iff (h : (classifyOrderLookup raw).status = .number
    ∨ (classifyOrderLookup raw).status = .uuid) :
    (matchesLookup order.response (classifyOrderLookup raw) = true
      ↔ Selected (classifyOrderLookup raw) order) ↔ Answerable (classifyOrderLookup raw) order := by
  rcases h with h | h
  · obtain ⟨g, hg⟩ := Option.isSome_iff_exists.mp (classify_number_iff.mp h)
    rw [eq_lookup h (classify_value raw), matchesLookup_number_iff hg, selected_number_iff hg,
      Answerable, named_number_iff hg]
    simp only [forall_const]
    exact and_congr_left_iff
  · have huuid := classify_uuid_iff.mp h
    rw [eq_lookup h (classify_value raw), matchesLookup_uuid_iff huuid, selected_uuid_iff,
      Answerable]
    simp only [reduceCtorEq, false_implies, iff_true]
    exact and_iff_right_iff_imp

/-- **The page keeps what the service selects** exactly if every order that the lookup names is
answerable: the lookup has no leading zeros and no upper case, and a number names an order with
items. -/
theorem visible_agrees_iff (orders : List PlacedOrder) (raw : Text)
    (h : (classifyOrderLookup raw).status = .number ∨ (classifyOrderLookup raw).status = .uuid) :
    (∀ order ∈ orders, order.response ∈ visible (orders.map PlacedOrder.response) raw
        ↔ Selected (classifyOrderLookup raw) order)
      ↔ ∀ order ∈ orders, Answerable (classifyOrderLookup raw) order := by
  refine forall₂_congr fun order horder => ?_
  rw [← matchesLookup_iff_selected_iff h]
  have hmem : order.response ∈ orders.map PlacedOrder.response := List.mem_map_of_mem horder
  rw [visible, List.mem_filter, and_iff_right hmem]

/-- The order 1042, of one item. -/
def order1042 : PlacedOrder where
  id := 1
  number := 1042
  items := [{ id := 2, line := 1, fits := by decide }]
  fits := by decide

/-- The number of an order that the page and the service both find. -/
theorem visible_agrees_1042 :
    ((classifyOrderLookup (Python.text "1042")).status = .number
      ∨ (classifyOrderLookup (Python.text "1042")).status = .uuid)
    ∧ ((∀ order ∈ [order1042], order.response
          ∈ visible ([order1042].map PlacedOrder.response) (Python.text "1042")
          ↔ Selected (classifyOrderLookup (Python.text "1042")) order)
      ↔ ∀ order ∈ [order1042], Answerable (classifyOrderLookup (Python.text "1042")) order) :=
  ⟨.inl (by decide), visible_agrees_iff [order1042] (Python.text "1042") (.inl (by decide))⟩

/-- The page does not find the order 1042 by `01042`, which the service does. -/
theorem not_visible_agrees_01042 :
    ¬ ∀ (orders : List PlacedOrder) (raw : Text),
      ((classifyOrderLookup raw).status = .number ∨ (classifyOrderLookup raw).status = .uuid) →
      ∀ order ∈ orders, order.response ∈ visible (orders.map PlacedOrder.response) raw
        ↔ Selected (classifyOrderLookup raw) order := by
  intro h
  have hlookup := h [order1042] (Python.text "01042") (.inl (by decide)) order1042
    List.mem_cons_self
  have hselects : PublicNumbers.applyPublicNumberFilter (some (Python.text "01042")) 1042 1
      = .ok true := by rfl
  have hselected : Selected (classifyOrderLookup (Python.text "01042")) order1042 :=
    .inr ⟨_, List.mem_cons_self, hselects⟩
  exact absurd (hlookup.mpr hselected) (by decide)

end Agreement

end MarketHub.Frontend
