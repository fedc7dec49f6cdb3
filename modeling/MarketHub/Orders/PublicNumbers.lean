import MarketHub.Orders.Listing
import MarketHub.Python.Number

/-!
The texts of public numbers (`app/orders/numbers.py`).

* `itemNumber`, `parsePublicNumber`: from numbers to a text and back.
* `parse_itemNumber_iff`, `parse_strInt_iff`: which numbers come back.
* `parses_iff`: which of the texts that the routes admit are parsed.
* `PublicNumber.text`: what the listings take for a public number is a text that the routes
  admit, and the listings parse it as `parsePublicNumber` does.
-/

namespace MarketHub.PublicNumbers

open Python ReadCommitted

/-! ### The codec -/

/-- `item_number`. -/
def itemNumber (orderNumber line : ℤ) : Except String Text := do
  let order ← strInt orderNumber
  let item ← strInt line
  return order ++ hyphen :: item

/-- `PUBLIC_NUMBER_PATTERN.fullmatch`. -/
def publicNumberPattern (value : Text) : Option (Text × Option Text) := numberGroups isDecimal value

/-- `PUBLIC_NUMBER_QUERY_PATTERN`. -/
def publicNumberQueryPattern (value : Text) : Bool := (numberGroups isAsciiDigit value).isSome

/-- `parse_public_number`. -/
def parsePublicNumber (value : Text) : Except String (ℤ × Option ℤ) :=
  match publicNumberPattern (strip value) with
  | none => .error "Invalid public order number"
  | some (order, lineRaw) => do
      let orderNumber ← Python.parseInt order
      match lineRaw with
      | none => return (orderNumber, none)
      | some lineRaw => return (orderNumber, some (← Python.parseInt lineRaw))

/-- `apply_public_number_filter`, of the number of an order and the line of an item. -/
def applyPublicNumberFilter (publicNumber : Option Text) (number line : ℤ) : Except String Bool :=
  match publicNumber with
  | none | some [] => return true
  | some value => do
      match ← parsePublicNumber value with
      | (orderNumber, none) => return number == orderNumber
      | (orderNumber, some itemLine) => return number == orderNumber && line == itemLine

/-- The groups have no more digits than `int` reads. -/
def ShortGroups (g : Text × Option Text) : Prop :=
  g.1.length ≤ maxStrDigits ∧ ∀ line ∈ g.2, line.length ≤ maxStrDigits

instance (g : Text × Option Text) : Decidable (ShortGroups g) := inferInstanceAs (Decidable (_ ∧ _))

/-- The texts that the routes admit and `int` reads. -/
def ShortNumber (value : Text) : Prop :=
  ∀ g, numberGroups isAsciiDigit value = some g → ShortGroups g

/-! ### Parsing -/

section Parsing

variable {t order : Text} {line : Option Text} {g : Text × Option Text}

/-- The text of the groups. -/
def groupsText (g : Text × Option Text) : Text := g.1 ++ (g.2.map (hyphen :: ·)).getD []

/-- Plain digits and a hyphen leave nothing to strip. -/
lemma stripBy_of_numberGroups {p : Code → Bool} (hhyphen : p hyphen = false)
    (hdigit : ∀ c, isAsciiDigit c = true → p c = false)
    (h : numberGroups isAsciiDigit t = some g) : stripBy p t = t := by
  refine stripBy_of_forall fun c hc => ?_
  rcases mem_of_numberGroups isAsciiDigit_hyphen h hc with hc | rfl
  · exact hdigit c hc
  · exact hhyphen

/-- The groups of plain digits are those of the pattern. -/
lemma publicNumberPattern_strip (h : numberGroups isAsciiDigit t = some g) :
    publicNumberPattern (strip t) = some g := by
  have hsub : ∀ c, isAsciiDigit c = true → isDecimal c = true := fun _ => isDecimal_of_asciiDigit
  rw [strip, stripBy_of_numberGroups (by decide) (fun _ => not_isSpace_of_asciiDigit) h]
  exact numberGroups_mono hsub isAsciiDigit_hyphen isDecimal_hyphen h

lemma parseInt_eq_ok_iff {ds : Text} {n : ℤ} :
    Python.parseInt ds = .ok n ↔ ds.length ≤ maxStrDigits ∧ n = Python.numberOf ds := by
  rw [Python.parseInt]
  split
  · rename_i h
    exact ⟨fun h' => (by cases h'), fun h' => absurd h'.1 (by omega)⟩
  · rename_i h
    exact ⟨fun h' => ⟨by omega, (Except.ok.inj h').symm⟩, fun h' => by rw [h'.2]⟩

/-- **What is parsed of the groups.** -/
lemma parsePublicNumber_eq_ok_iff (h : publicNumberPattern (strip t) = some g) {v : ℤ × Option ℤ} :
    parsePublicNumber t = .ok v
      ↔ ShortGroups g ∧ v = (↑(Python.numberOf g.1),
        g.2.map fun line => ↑(Python.numberOf line)) := by
  obtain ⟨order, line⟩ := g
  rw [parsePublicNumber, h]
  simp only [ShortGroups]
  constructor
  · intro hv
    cases hn : Python.parseInt order with
    | error e => rw [hn] at hv; cases hv
    | ok n =>
        obtain ⟨horder, rfl⟩ := parseInt_eq_ok_iff.mp hn
        rw [hn] at hv
        cases line with
        | none => exact ⟨⟨horder, fun _ hl => (by cases hl)⟩, (Except.ok.inj hv).symm⟩
        | some l =>
            cases hk : Python.parseInt l with
            | error e => simp only [hk] at hv; cases hv
            | ok k =>
                obtain ⟨hline, rfl⟩ := parseInt_eq_ok_iff.mp hk
                simp only [hk] at hv
                refine ⟨⟨horder, fun l' hl => ?_⟩, (Except.ok.inj hv).symm⟩
                cases hl
                exact hline
  · rintro ⟨⟨horder, hline⟩, rfl⟩
    rw [parseInt_eq_ok_iff.mpr ⟨horder, rfl⟩]
    cases line with
    | none => rfl
    | some l =>
        simp only [parseInt_eq_ok_iff.mpr ⟨hline l rfl, rfl⟩]
        rfl

/-- **An admitted text is parsed exactly when its groups are short.** -/
lemma parses_iff (h : publicNumberQueryPattern t = true) :
    (∃ v, parsePublicNumber t = .ok v) ↔ ShortNumber t := by
  obtain ⟨g, hg⟩ := Option.isSome_iff_exists.mp h
  have hparse := fun v => parsePublicNumber_eq_ok_iff (publicNumberPattern_strip hg) (v := v)
  constructor
  · rintro ⟨v, hv⟩ g' hg'
    obtain rfl := Option.some.inj (hg.symm.trans hg')
    exact ((hparse v).mp hv).1
  · intro hshort
    exact ⟨_, (hparse _).mpr ⟨hshort g hg, rfl⟩⟩

end Parsing

/-! ### Round trips -/

/-- The numbers that `str` writes and `parse_public_number` reads. -/
def Codable (n : ℤ) : Prop := 0 ≤ n ∧ n < 10 ^ maxStrDigits

section RoundTrips

variable {n l : ℤ} {t : Text}

lemma strInt_eq_ok_iff :
    strInt n = .ok t ↔ (decimal n.natAbs).length ≤ maxStrDigits
      ∧ t = if n < 0 then hyphen :: decimal n.natAbs else decimal n.natAbs := by
  rw [strInt]
  split
  · exact ⟨fun h' => (by cases h'), fun h' => absurd h'.1 (by omega)⟩
  · exact ⟨fun h' => ⟨by omega, (Except.ok.inj h').symm⟩, fun h' => by rw [h'.2]⟩

lemma natAbs_lt_pow_iff (hn : 0 ≤ n) (k : ℕ) : n.natAbs < 10 ^ k ↔ n < 10 ^ k := by
  obtain ⟨m, rfl⟩ := Int.eq_ofNat_of_zero_le hn
  rw [Int.natAbs_natCast]
  norm_cast

lemma codable_iff : Codable n ↔ 0 ≤ n ∧ (decimal n.natAbs).length ≤ maxStrDigits := by
  rw [length_decimal_le_iff (by decide)]
  exact and_congr_right fun hn => (natAbs_lt_pow_iff hn _).symm

lemma strInt_of_codable (h : Codable n) : strInt n = .ok (decimal n.natAbs) := by
  obtain ⟨hn, hlength⟩ := codable_iff.mp h
  exact strInt_eq_ok_iff.mpr ⟨hlength, by rw [if_neg (by omega)]⟩

/-- The groups of a written number. -/
lemma numberGroups_decimal (n : ℕ) (line : Option ℕ) :
    numberGroups isAsciiDigit (groupsText (decimal n, line.map decimal))
      = some (decimal n, line.map decimal) := by
  refine (numberGroups_eq_some_iff isAsciiDigit_hyphen).mpr
    ⟨decimal_ne_nil, isAsciiDigit_decimal, fun l hl => ?_, rfl⟩
  obtain ⟨l, -, rfl⟩ := Option.map_eq_some_iff.mp hl
  exact ⟨decimal_ne_nil, isAsciiDigit_decimal⟩

/-- What is parsed has one hyphen at most. -/
lemma count_hyphen_of_parse {v : ℤ × Option ℤ} (h : parsePublicNumber t = .ok v) :
    t.count hyphen ≤ 1 := by
  rw [parsePublicNumber] at h
  cases hpattern : publicNumberPattern (strip t) with
  | none => rw [hpattern] at h; cases h
  | some g =>
      have hcount := count_hyphen_of_numberGroups isDecimal_hyphen hpattern
      rwa [strip, count_stripBy (by decide)] at hcount

/-- The digits of a number behind a hyphen are not parsed. -/
lemma parse_of_hyphen (n : ℕ) (v : ℤ × Option ℤ) :
    parsePublicNumber (hyphen :: decimal n) ≠ .ok v := by
  have hstrip : strip (hyphen :: decimal n) = hyphen :: decimal n := by
    refine stripBy_of_forall fun c hc => ?_
    rcases List.mem_cons.mp hc with rfl | hc
    · decide
    · exact not_isSpace_of_asciiDigit (isAsciiDigit_decimal c hc)
  have hnone : publicNumberPattern (hyphen :: decimal n) = none := by
    rw [publicNumberPattern, numberGroups, if_pos (List.takeWhile_cons_of_neg (by simp))]
  intro hv
  rw [parsePublicNumber, hstrip, hnone] at hv
  cases hv

lemma count_hyphen_decimal (n : ℕ) : (decimal n).count hyphen = 0 := by
  refine List.count_eq_zero.mpr fun hmem => ?_
  have hdigit := isAsciiDigit_decimal _ hmem
  rw [isAsciiDigit_hyphen] at hdigit
  cases hdigit

lemma count_hyphen_strInt (h : strInt n = .ok t) : t.count hyphen = if n < 0 then 1 else 0 := by
  obtain ⟨-, rfl⟩ := strInt_eq_ok_iff.mp h
  split
  · rw [List.count_cons_self, count_hyphen_decimal]
  · exact count_hyphen_decimal _

/-- **The number of an order comes back** exactly if it can be written with few digits. -/
theorem parse_strInt_iff : (strInt n >>= parsePublicNumber) = .ok (n, none) ↔ Codable n := by
  constructor
  · intro h
    cases ht : strInt n with
    | error e => rw [ht] at h; cases h
    | ok t =>
        rw [ht] at h
        obtain ⟨hlength, rfl⟩ := strInt_eq_ok_iff.mp ht
        by_cases hn : n < 0
        · rw [if_pos hn] at h
          exact absurd h (parse_of_hyphen _ _)
        · exact codable_iff.mpr ⟨by omega, hlength⟩
  · intro h
    obtain ⟨hn, hlength⟩ := codable_iff.mp h
    rw [strInt_of_codable h]
    have hgroups := numberGroups_decimal n.natAbs none
    rw [groupsText, Option.map_none, Option.map_none, Option.getD_none, List.append_nil] at hgroups
    refine (parsePublicNumber_eq_ok_iff (publicNumberPattern_strip hgroups)).mpr ⟨⟨hlength, ?_⟩, ?_⟩
    · exact fun _ hl => (by cases hl)
    · rw [numberOf_decimal]
      exact Prod.ext (by simp only; omega) rfl

/-- **The number of an item comes back** exactly if both of its numbers do. -/
theorem parse_itemNumber_iff :
    (itemNumber n l >>= parsePublicNumber) = .ok (n, some l) ↔ Codable n ∧ Codable l := by
  constructor
  · intro h
    rw [itemNumber] at h
    cases hn : strInt n with
    | error e => rw [hn] at h; cases h
    | ok order =>
        cases hl : strInt l with
        | error e => rw [hn, hl] at h; cases h
        | ok line =>
            rw [hn, hl] at h
            replace h : parsePublicNumber (order ++ hyphen :: line) = .ok (n, some l) := h
            have hcount := count_hyphen_of_parse h
            rw [List.count_append, List.count_cons_self, count_hyphen_strInt hn,
              count_hyphen_strInt hl] at hcount
            have hlength := (strInt_eq_ok_iff.mp hn).1
            have hlength' := (strInt_eq_ok_iff.mp hl).1
            split at hcount
            · omega
            · split at hcount
              · omega
              · exact ⟨codable_iff.mpr ⟨by omega, hlength⟩, codable_iff.mpr ⟨by omega, hlength'⟩⟩
  · rintro ⟨hn, hl⟩
    rw [itemNumber, strInt_of_codable hn, strInt_of_codable hl]
    refine (parsePublicNumber_eq_ok_iff (publicNumberPattern_strip
      (numberGroups_decimal n.natAbs (some l.natAbs)))).mpr ⟨⟨(codable_iff.mp hn).2, ?_⟩, ?_⟩
    · intro line hline
      cases hline
      exact (codable_iff.mp hl).2
    · simp only [Option.map_some, numberOf_decimal]
      rw [Int.natAbs_of_nonneg hn.1, Int.natAbs_of_nonneg hl.1]

end RoundTrips

/-! ### What the listings take -/

/-- A digit. -/
def digit (d : Fin 10) : Code := .char (digitChar d)

/-- The text of a public number. -/
def text (value : PublicNumber) : Text :=
  groupsText (value.order.map digit, value.line.map (·.map digit))

section Listings

variable {value : PublicNumber}

lemma isAsciiDigit_digit (d : Fin 10) : isAsciiDigit (digit d) = true :=
  isDigit_digitChar (by norm_num) d.isLt

lemma numberOf_map_digit (ds : List (Fin 10)) : Python.numberOf (ds.map digit) = numberOf ds := by
  have hdigit : ∀ d : Fin 10, (decimalValue (digit d)).getD 0 = d.val := by decide
  rw [Python.numberOf, List.foldl_map, numberOf]
  simp only [hdigit]

lemma numberGroups_text (value : PublicNumber) : numberGroups isAsciiDigit (text value)
    = some (value.order.map digit, value.line.map (·.map digit)) := by
  have hdigits : ∀ ds : List (Fin 10), ∀ c ∈ ds.map digit, isAsciiDigit c = true := by
    intro ds c hc
    obtain ⟨d, -, rfl⟩ := List.mem_map.mp hc
    exact isAsciiDigit_digit d
  refine (numberGroups_eq_some_iff isAsciiDigit_hyphen).mpr
    ⟨by simpa using value.order_ne_nil, hdigits _, fun l hl => ?_, rfl⟩
  obtain ⟨ds, hds, rfl⟩ := Option.map_eq_some_iff.mp hl
  exact ⟨by simpa using value.line_ne_nil ds hds, hdigits _⟩

lemma parseInt_map_digit (ds : List (Fin 10)) : MarketHub.parseInt ds
    = match Python.parseInt (ds.map digit) with
      | .ok n => pure n.toNat
      | .error e => Prog.throw (.valueError e) := by
  rw [MarketHub.parseInt, Python.parseInt, List.length_map, numberOf_map_digit]
  split
  · rw [if_pos ‹_›]
  · rw [if_neg ‹_›]
    rfl

/-- **The listings parse a public number as the text it is.** -/
theorem parsePublicNumber_text (value : PublicNumber) : MarketHub.parsePublicNumber value
    = match parsePublicNumber (text value) with
      | .ok (orderNumber, line) => pure (orderNumber.toNat, line.map Int.toNat)
      | .error e => Prog.throw (.valueError e) := by
  rw [MarketHub.parsePublicNumber, parsePublicNumber,
    publicNumberPattern_strip (numberGroups_text value), parseInt_map_digit]
  cases hn : Python.parseInt (value.order.map digit) with
  | error e => simp only [hn]; rfl
  | ok n =>
      cases value.line with
      | none => simp only [hn]; rfl
      | some l =>
          simp only [Option.map_some, hn, parseInt_map_digit]
          cases hl : Python.parseInt (l.map digit) with
          | error e => rfl
          | ok k => rfl

end Listings

end MarketHub.PublicNumbers
