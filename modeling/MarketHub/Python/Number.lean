import Mathlib.Data.List.DropRight
import Mathlib.Data.Nat.Digits.Lemmas
import Mathlib.Tactic.IntervalCases
import MarketHub.Python.Uuid

/-!
Integers in Python texts.

* `decimalValue`, `isSpace`: what Unicode says of a code point, for `\d`, `int` and `strip`.
* `strInt`, `parseInt`: `str` of an integer, and `int` of a text of digits. Both refuse more than
  `maxStrDigits` digits.
* `numberGroups`: the groups of `D+(-D+)?` in a whole text; `numberGroups_eq_some_iff`.
-/

namespace Python

/-- The most digits that `int` reads and that `str` writes. -/
def maxStrDigits : ℕ := 4300

/-! ### Code points -/

/-- The zeros of the category `Nd`; the other digits follow each of them. -/
def decimalZeros : List ℕ :=
  [0x30, 0x660, 0x6F0, 0x7C0, 0x966, 0x9E6, 0xA66, 0xAE6, 0xB66, 0xBE6, 0xC66, 0xCE6, 0xD66, 0xDE6,
    0xE50, 0xED0, 0xF20, 0x1040, 0x1090, 0x17E0, 0x1810, 0x1946, 0x19D0, 0x1A80, 0x1A90, 0x1B50,
    0x1BB0, 0x1C40, 0x1C50, 0xA620, 0xA8D0, 0xA900, 0xA9D0, 0xA9F0, 0xAA50, 0xABF0, 0xFF10, 0x104A0,
    0x10D30, 0x11066, 0x110F0, 0x11136, 0x111D0, 0x112F0, 0x11450, 0x114D0, 0x11650, 0x116C0,
    0x11730, 0x118E0, 0x11950, 0x11C50, 0x11D50, 0x11DA0, 0x11F50, 0x16A60, 0x16AC0, 0x16B50,
    0x1D7CE, 0x1D7D8, 0x1D7E2, 0x1D7EC, 0x1D7F6, 0x1E140, 0x1E2F0, 0x1E4F0, 0x1E950, 0x1FBF0]

/-- The value of a decimal digit. -/
def decimalValue : Code → Option ℕ
  | .char c => (decimalZeros.find? fun z => z ≤ c.toNat && c.toNat < z + 10).map (c.toNat - ·)
  | .surrogate _ => none

/-- `\d`. -/
def isDecimal (c : Code) : Bool := (decimalValue c).isSome

/-- `str.isspace` of one code point. -/
def isSpace : Code → Bool
  | .char c =>
      [0x9, 0xA, 0xB, 0xC, 0xD, 0x1C, 0x1D, 0x1E, 0x1F, 0x20, 0x85, 0xA0, 0x1680, 0x2000, 0x2001,
        0x2002, 0x2003, 0x2004, 0x2005, 0x2006, 0x2007, 0x2008, 0x2009, 0x200A, 0x2028, 0x2029,
        0x202F, 0x205F, 0x3000].contains c.toNat
  | .surrogate _ => false

/-- A text without the code points at its two ends that are of a kind. -/
def stripBy (p : Code → Bool) (t : Text) : Text := ((t.dropWhile p).reverse.dropWhile p).reverse

/-- `text.strip()`. -/
def strip (t : Text) : Text := stripBy isSpace t

/-- `[0-9]`. -/
def isAsciiDigit (c : Code) : Bool := isDigit 10 c

/-- The digits from `0` to `9`. -/
def asciiDigits : List Char := ['0', '1', '2', '3', '4', '5', '6', '7', '8', '9']

/-! ### Texts of numbers -/

/-- The number that is written with decimal digits. -/
def numberOf (digits : Text) : ℕ := digits.foldl (fun n c => 10 * n + (decimalValue c).getD 0) 0

/-- The digits of a number. -/
def decimal (n : ℕ) : Text := (Nat.toDigits 10 n).map .char

/-- `str(n)`. -/
def strInt (n : ℤ) : Except String Text :=
  let digits := decimal n.natAbs
  if maxStrDigits < digits.length then
    .error ("Exceeds the limit (4300 digits) for integer string conversion; " ++
      "use sys.set_int_max_str_digits() to increase the limit")
  else .ok (if n < 0 then hyphen :: digits else digits)

/-- `int` of decimal digits. -/
def parseInt (digits : Text) : Except String ℤ :=
  if maxStrDigits < digits.length then
    .error ("Exceeds the limit (4300 digits) for integer string conversion: value has " ++
      toString digits.length ++ " digits; use sys.set_int_max_str_digits() to increase the limit")
  else .ok (numberOf digits)

/-- The groups of `D+(-D+)?`, matched by a whole text. -/
def numberGroups (isDigit : Code → Bool) (t : Text) : Option (Text × Option Text) :=
  if t.takeWhile isDigit = [] then none
  else
    match t.dropWhile isDigit with
    | [] => some (t.takeWhile isDigit, none)
    | c :: line =>
        if c = hyphen ∧ line ≠ [] ∧ line.all isDigit = true then
          some (t.takeWhile isDigit, some line)
        else none

/-! ### Digits -/

/-- What holds of the ten digits. -/
lemma forall_mem_asciiDigits {p : Char → Prop} : (∀ d ∈ asciiDigits, p d)
    ↔ p '0' ∧ p '1' ∧ p '2' ∧ p '3' ∧ p '4' ∧ p '5' ∧ p '6' ∧ p '7' ∧ p '8' ∧ p '9' := by
  simp only [asciiDigits, List.forall_mem_cons, List.not_mem_nil, false_implies, implies_true,
    and_true]

lemma isAsciiDigit_iff {c : Code} : isAsciiDigit c = true ↔ ∃ d ∈ asciiDigits, c = .char d := by
  constructor
  · intro h
    cases c with
    | surrogate c => cases h
    | char c =>
        refine ⟨c, ?_, rfl⟩
        simp only [isAsciiDigit, isDigit, digitValue, charValue] at h
        split at h
        · rename_i hc
          obtain ⟨hlow, hhigh⟩ := hc
          have hlow' : 48 ≤ c.toNat := hlow
          have hhigh' : c.toNat ≤ 57 := hhigh
          rw [← Char.ofNat_toNat c]
          generalize c.toNat = n at hlow' hhigh' ⊢
          interval_cases n <;> decide
        · split at h
          · simp at h
          · split at h
            · simp at h
            · simp at h
  · rintro ⟨d, hd, rfl⟩
    revert d
    rw [forall_mem_asciiDigits]
    decide

lemma decimalValue_asciiDigit :
    ∀ d ∈ asciiDigits, decimalValue (.char d) = some (d.toNat - '0'.toNat) := by
  rw [forall_mem_asciiDigits]
  decide

lemma isDecimal_of_asciiDigit {c : Code} (h : isAsciiDigit c = true) : isDecimal c = true := by
  obtain ⟨d, hd, rfl⟩ := isAsciiDigit_iff.mp h
  rw [isDecimal, decimalValue_asciiDigit d hd]
  rfl

lemma not_isSpace_of_asciiDigit {c : Code} (h : isAsciiDigit c = true) : isSpace c = false := by
  obtain ⟨d, hd, rfl⟩ := isAsciiDigit_iff.mp h
  revert d
  rw [forall_mem_asciiDigits]
  decide

@[simp] lemma isAsciiDigit_hyphen : isAsciiDigit hyphen = false := by decide

@[simp] lemma isDecimal_hyphen : isDecimal hyphen = false := by decide

/-! ### Both ends of a text -/

/-- A text without code points of the kind is left alone. -/
lemma stripBy_of_forall {p : Code → Bool} {t : Text} (h : ∀ c ∈ t, p c = false) :
    stripBy p t = t := by
  have hdrop : ∀ t : Text, (∀ c ∈ t, p c = false) → t.dropWhile p = t := by
    intro t ht
    cases t with
    | nil => rfl
    | cons c t => rw [List.dropWhile_cons_of_neg (by rw [ht c List.mem_cons_self]; simp)]
  rw [stripBy, hdrop t h, hdrop _ fun c hc => h c (List.mem_reverse.mp hc), List.reverse_reverse]

lemma stripBy_eq_rdropWhile (p : Code → Bool) (t : Text) :
    stripBy p t = (t.dropWhile p).rdropWhile p := rfl

/-- What is stripped once has nothing left to strip. -/
@[simp] lemma stripBy_stripBy {p : Code → Bool} (t : Text) :
    stripBy p (stripBy p t) = stripBy p t := by
  have hstart : (stripBy p t).dropWhile p = stripBy p t := by
    rw [List.dropWhile_eq_self_iff]
    intro hpos
    have hstart : stripBy p t <+: t.dropWhile p := List.rdropWhile_prefix _ _
    have hlength := List.IsPrefix.length_le hstart
    rw [hstart.getElem hpos]
    exact List.dropWhile_get_zero_not _ _ (by omega)
  calc stripBy p (stripBy p t)
      = ((stripBy p t).dropWhile p).rdropWhile p := stripBy_eq_rdropWhile p _
    _ = (stripBy p t).rdropWhile p := by rw [hstart]
    _ = stripBy p t := by rw [stripBy_eq_rdropWhile, List.rdropWhile_idempotent]

/-- Code points of another kind stay. -/
lemma count_stripBy {p : Code → Bool} {c : Code} (hc : p c = false) (t : Text) :
    (stripBy p t).count c = t.count c := by
  have hdrop : ∀ t : Text, (t.dropWhile p).count c = t.count c := by
    intro t
    have htake : (t.takeWhile p).count c = 0 := by
      refine List.count_eq_zero.mpr fun hmem => ?_
      rw [List.all_eq_true.mp List.all_takeWhile c hmem] at hc
      cases hc
    have hsplit := congrArg (List.count c) (List.takeWhile_append_dropWhile (p := p) (l := t))
    rw [List.count_append] at hsplit
    omega
  rw [stripBy, List.count_reverse, hdrop, List.count_reverse, hdrop]

/-! ### Numbers of digits -/

lemma isAsciiDigit_decimal {n : ℕ} : ∀ c ∈ decimal n, isAsciiDigit c = true := by
  intro c hc
  obtain ⟨d, hd, rfl⟩ := List.mem_map.mp hc
  have hdigit := Nat.isDigit_of_mem_toDigits (by norm_num) (by norm_num) hd
  simp only [Char.isDigit, Bool.and_eq_true, decide_eq_true_eq] at hdigit
  have hvalue : charValue d = some (d.toNat - '0'.toNat) := if_pos hdigit
  have hlt : d.toNat - '0'.toNat < 10 := by
    have hhigh : d.toNat ≤ 57 := hdigit.2
    change d.toNat - 48 < 10
    omega
  simpa [isAsciiDigit, isDigit, digitValue, hvalue] using hlt

lemma decimal_ne_nil {n : ℕ} : decimal n ≠ [] := by
  simp [decimal]

/-- **The digits of a number write it.** -/
lemma numberOf_decimal (n : ℕ) : numberOf (decimal n) = n := by
  have hfold : ∀ (ds : List Char) (k : ℕ), (∀ d ∈ ds, isAsciiDigit (.char d) = true) →
      (ds.map Code.char).foldl (fun n c => 10 * n + (decimalValue c).getD 0) k
        = Nat.ofDigitChars 10 ds k := by
    intro ds
    induction ds with
    | nil => exact fun k _ => (Nat.ofDigitChars_nil).symm
    | cons d ds ih =>
        intro k h
        obtain ⟨d', hd', heq⟩ := isAsciiDigit_iff.mp (h d List.mem_cons_self)
        obtain rfl := Code.char.inj heq
        rw [List.map_cons, List.foldl_cons, decimalValue_asciiDigit d hd', Nat.ofDigitChars_cons]
        exact ih _ fun d hd => h d (List.mem_cons_of_mem _ hd)
  rw [numberOf, decimal, hfold _ _ fun d hd => isAsciiDigit_decimal _ (List.mem_map_of_mem hd)]
  exact Nat.ofDigitChars_ten_toDigits

/-- How many digits a number has. -/
lemma length_decimal_le_iff {n k : ℕ} (hk : 0 < k) : (decimal n).length ≤ k ↔ n < 10 ^ k := by
  rw [decimal, List.length_map]
  exact Nat.length_toDigits_le_iff (by norm_num) hk

/-- A text that does not start with a zero, unless it is one. -/
def NoLeadingZero (t : Text) : Prop := 1 < t.length → t.head? ≠ some (.char '0')

instance (t : Text) : Decidable (NoLeadingZero t) := inferInstanceAs (Decidable (_ → _))

lemma decimal_of_lt {n : ℕ} (h : n < 10) : decimal n = [.char n.digitChar] := by
  rw [decimal, Nat.toDigits_of_lt_base h]
  rfl

lemma decimal_of_le {n : ℕ} (h : 10 ≤ n) :
    decimal n = decimal (n / 10) ++ [.char (n % 10).digitChar] := by
  rw [decimal, Nat.toDigits_of_base_le (by norm_num) h, List.map_append]
  rfl

lemma head_decimal_ne_zero {n : ℕ} (h : 1 ≤ n) : (decimal n).head? ≠ some (.char '0') := by
  induction n using Nat.strong_induction_on with
  | _ n ih =>
      by_cases hlt : n < 10
      · rw [decimal_of_lt hlt]
        interval_cases n <;> decide
      · rw [decimal_of_le (by omega), List.head?_append_of_ne_nil _ decimal_ne_nil]
        exact ih (n / 10) (by omega) (by omega)

lemma noLeadingZero_decimal (n : ℕ) : NoLeadingZero (decimal n) := by
  intro hlength
  refine head_decimal_ne_zero ?_
  by_contra hzero
  rw [decimal_of_lt (by omega)] at hlength
  simp at hlength

lemma numberOf_append_singleton (t : Text) (c : Code) :
    numberOf (t ++ [c]) = 10 * numberOf t + (decimalValue c).getD 0 := by
  rw [numberOf, List.foldl_append]
  rfl

/-- **Digits without a leading zero are those of the number they write.** -/
lemma decimal_numberOf {t : Text} (hne : t ≠ []) (h : ∀ c ∈ t, isAsciiDigit c = true)
    (hzero : NoLeadingZero t) : decimal (numberOf t) = t := by
  have hdigit : ∀ d ∈ asciiDigits, (decimalValue (.char d)).getD 0 < 10
      ∧ ((decimalValue (.char d)).getD 0).digitChar = d := by
    rw [forall_mem_asciiDigits]
    decide
  induction t using List.reverseRecOn with
  | nil => exact absurd rfl hne
  | append_singleton t c ih =>
      obtain ⟨d, hd, rfl⟩ := isAsciiDigit_iff.mp (h c (by simp))
      obtain ⟨hlt, hchar⟩ := hdigit d hd
      rw [numberOf_append_singleton]
      by_cases hnil : t = []
      · subst hnil
        rw [decimal_of_lt (by simpa [numberOf] using hlt)]
        simp [numberOf, hchar]
      · have hhead : t.head? ≠ some (.char '0') := by
          have hpos := List.length_pos_iff.mpr hnil
          have hhead := hzero (by rw [List.length_append, List.length_singleton]; omega)
          rwa [List.head?_append_of_ne_nil _ hnil] at hhead
        have hdecimal := ih hnil (fun c hc => h c (List.mem_append_left _ hc)) fun _ => hhead
        have hpos : 1 ≤ numberOf t := by
          by_contra hzero'
          rw [show numberOf t = 0 by omega, decimal_of_lt (by norm_num)] at hdecimal
          rw [← hdecimal] at hhead
          exact hhead rfl
        rw [decimal_of_le (by omega), show (10 * numberOf t + (decimalValue (.char d)).getD 0) / 10
            = numberOf t by omega, hdecimal,
          show (10 * numberOf t + (decimalValue (.char d)).getD 0) % 10
            = (decimalValue (.char d)).getD 0 by omega, hchar]

/-! ### Groups -/

section Groups

variable {isDigit isDigit' : Code → Bool} {t : Text}

/-- What the groups are. -/
lemma numberGroups_eq_some_iff (hhyphen : isDigit hyphen = false) {order : Text}
    {line : Option Text} :
    numberGroups isDigit t = some (order, line) ↔ order ≠ [] ∧ (∀ c ∈ order, isDigit c = true)
      ∧ (∀ l ∈ line, l ≠ [] ∧ ∀ c ∈ l, isDigit c = true)
      ∧ t = order ++ (line.map (hyphen :: ·)).getD [] := by
  have htake : ∀ c ∈ t.takeWhile isDigit, isDigit c = true :=
    List.all_eq_true.mp List.all_takeWhile
  have hsplit := List.takeWhile_append_dropWhile (p := isDigit) (l := t)
  constructor
  · -- what the groups say of the text
    intro h
    rw [numberGroups] at h
    split at h
    · cases h
    · rename_i hne
      split at h
      · rename_i hrest
        obtain ⟨rfl, rfl⟩ := Prod.mk.inj (Option.some.inj h)
        refine ⟨hne, htake, fun _ hl => (by cases hl), ?_⟩
        rw [hrest, List.append_nil] at hsplit
        simpa using hsplit.symm
      · rename_i c rest hrest
        split at h
        · rename_i hc
          obtain ⟨rfl, hne', hall⟩ := hc
          obtain ⟨rfl, rfl⟩ := Prod.mk.inj (Option.some.inj h)
          refine ⟨hne, htake, fun l hl => ?_, ?_⟩
          · cases hl
            exact ⟨hne', List.all_eq_true.mp hall⟩
          · rw [hrest] at hsplit
            simpa using hsplit.symm
        · cases h
  · -- digits end at the hyphen
    rintro ⟨hne, horder, hline, rfl⟩
    have hrest : ((line.map (hyphen :: ·)).getD []).takeWhile isDigit = [] := by
      cases line with
      | none => rfl
      | some l => simp [hhyphen]
    have hdrop : ((line.map (hyphen :: ·)).getD []).dropWhile isDigit
        = (line.map (hyphen :: ·)).getD [] := by
      cases line with
      | none => rfl
      | some l => simp [hhyphen]
    rw [numberGroups, List.takeWhile_append_of_pos horder, List.dropWhile_append_of_pos horder,
      hrest, hdrop, List.append_nil, if_neg hne]
    cases line with
    | none => rfl
    | some l =>
        obtain ⟨hne', hall⟩ := hline l rfl
        exact if_pos ⟨rfl, hne', List.all_eq_true.mpr hall⟩

/-- The groups of digits are those of a larger kind of digits. -/
lemma numberGroups_mono (hsub : ∀ c, isDigit c = true → isDigit' c = true)
    (hhyphen : isDigit hyphen = false) (hhyphen' : isDigit' hyphen = false) {g : Text × Option Text}
    (h : numberGroups isDigit t = some g) : numberGroups isDigit' t = some g := by
  obtain ⟨order, line⟩ := g
  obtain ⟨hne, horder, hline, ht⟩ := (numberGroups_eq_some_iff hhyphen).mp h
  exact (numberGroups_eq_some_iff hhyphen').mpr ⟨hne, fun c hc => hsub c (horder c hc),
    fun l hl => ⟨(hline l hl).1, fun c hc => hsub c ((hline l hl).2 c hc)⟩, ht⟩

/-- Such a text has digits and hyphens. -/
lemma mem_of_numberGroups (hhyphen : isDigit hyphen = false) {g : Text × Option Text}
    (h : numberGroups isDigit t = some g) {c : Code} (hc : c ∈ t) :
    isDigit c = true ∨ c = hyphen := by
  obtain ⟨order, line⟩ := g
  obtain ⟨-, horder, hline, rfl⟩ := (numberGroups_eq_some_iff hhyphen).mp h
  rcases List.mem_append.mp hc with hc | hc
  · exact .inl (horder c hc)
  · cases line with
    | none => cases hc
    | some l =>
        rcases List.mem_cons.mp hc with rfl | hc
        · exact .inr rfl
        · exact .inl ((hline l rfl).2 c hc)

/-- There is one hyphen at most. -/
lemma count_hyphen_of_digits (hhyphen : isDigit hyphen = false) (ht : ∀ c ∈ t, isDigit c = true) :
    t.count hyphen = 0 := by
  refine List.count_eq_zero.mpr fun hmem => ?_
  rw [ht _ hmem] at hhyphen
  cases hhyphen

lemma count_hyphen_of_numberGroups (hhyphen : isDigit hyphen = false) {g : Text × Option Text}
    (h : numberGroups isDigit t = some g) : t.count hyphen ≤ 1 := by
  obtain ⟨order, line⟩ := g
  obtain ⟨-, horder, hline, rfl⟩ := (numberGroups_eq_some_iff hhyphen).mp h
  rw [List.count_append, count_hyphen_of_digits hhyphen horder]
  cases line with
  | none => simp
  | some l => simp [count_hyphen_of_digits hhyphen (hline l rfl).2]

end Groups

end Python
