import MarketHub.JavaScript.Text
import MarketHub.Orders.PublicNumbers

/-!
The lookup of an order in the frontend (`lib/utils/orderNumber.ts`, `isCompleteUuid` of
`lib/utils/useUrlFilters.ts`).

* `classifyOrderLookup`: the kind of what a user typed.
* `not_isPublicNumber_of_isCompleteUuid`: hyphens tell ids from numbers.
* `numbersAgree_iff`: when the codec of the numbers and the grammars of the two sides agree.
-/

namespace MarketHub.Frontend

open Python JavaScript PublicNumbers

/-! ### Kinds of lookups -/

/-- `isCompleteUuid`. -/
def isCompleteUuid (value : Text) : Bool := groupsOf (isDigit 16) [8, 4, 4, 4, 12] (trim value)

/-- `isPublicNumber`. -/
def isPublicNumber (value : Text) : Bool := (numberGroups isAsciiDigit (trim value)).isSome

/-- `OrderLookupStatus`. -/
inductive OrderLookupStatus where
  | empty | uuid | number | invalid
  deriving DecidableEq, Repr

/-- `OrderLookup`. -/
structure OrderLookup where
  status : OrderLookupStatus
  value : Text
  deriving DecidableEq, Repr

/-- `classifyOrderLookup`. -/
def classifyOrderLookup (raw : Text) : OrderLookup :=
  let value := trim raw
  if value = [] then { status := .empty, value := [] }
  else if isCompleteUuid value then { status := .uuid, value := value }
  else if isPublicNumber value then { status := .number, value := value }
  else { status := .invalid, value := value }

/-- `OrderLookupParams`. -/
structure OrderLookupParams where
  number : Option Text
  orderItemId : Option Text
  deriving DecidableEq, Repr

/-- `nextLookupParams`. -/
def nextLookupParams (raw : Text) : OrderLookupParams :=
  let classified := classifyOrderLookup raw
  match classified.status with
  | .empty => { number := none, orderItemId := none }
  | .uuid => { number := none, orderItemId := some classified.value }
  | .number => { number := some classified.value, orderItemId := none }
  | .invalid =>
      if classified.value.head?.any isAsciiDigit then
        { number := some classified.value, orderItemId := none }
      else { number := none, orderItemId := some classified.value }

/-! ### The two grammars -/

section Grammars

variable {t : Text}

lemma isDigit_hyphen : isDigit 16 hyphen = false := by decide

@[simp] lemma isCompleteUuid_trim (t : Text) : isCompleteUuid (trim t) = isCompleteUuid t := by
  rw [isCompleteUuid, trim_trim, isCompleteUuid]

@[simp] lemma isPublicNumber_trim (t : Text) : isPublicNumber (trim t) = isPublicNumber t := by
  rw [isPublicNumber, trim_trim, isPublicNumber]

lemma count_hyphen_of_isCompleteUuid (h : isCompleteUuid t = true) : t.count hyphen = 4 := by
  have hcount := count_hyphen_of_groupsOf isDigit_hyphen h
  rwa [trim, count_stripBy isWhiteSpace_hyphen] at hcount

lemma count_hyphen_of_isPublicNumber (h : isPublicNumber t = true) : t.count hyphen ≤ 1 := by
  obtain ⟨g, hg⟩ := Option.isSome_iff_exists.mp h
  have hcount := count_hyphen_of_numberGroups isAsciiDigit_hyphen hg
  rwa [trim, count_stripBy isWhiteSpace_hyphen] at hcount

/-- **A text is not both an id and a number.** -/
lemma not_isPublicNumber_of_isCompleteUuid (h : isCompleteUuid t = true) :
    isPublicNumber t = false := by
  have hfour := count_hyphen_of_isCompleteUuid h
  by_contra hnumber
  have hone := count_hyphen_of_isPublicNumber (Bool.eq_true_of_not_eq_false hnumber)
  omega

/-- Neither of them is empty. -/
lemma ne_nil_of_isCompleteUuid (h : isCompleteUuid t = true) : trim t ≠ [] := by
  intro hnil
  rw [isCompleteUuid, hnil] at h
  cases h

lemma ne_nil_of_isPublicNumber (h : isPublicNumber t = true) : trim t ≠ [] := by
  intro hnil
  rw [isPublicNumber, hnil] at h
  cases h

theorem classify_uuid_iff : (classifyOrderLookup t).status = .uuid ↔ isCompleteUuid t = true := by
  rw [classifyOrderLookup]
  simp only [isCompleteUuid_trim, isPublicNumber_trim]
  constructor
  · intro h
    split_ifs at h with hempty huuid
    exact huuid
  · intro h
    rw [if_neg (ne_nil_of_isCompleteUuid h), if_pos h]

theorem classify_number_iff :
    (classifyOrderLookup t).status = .number ↔ isPublicNumber t = true := by
  rw [classifyOrderLookup]
  simp only [isCompleteUuid_trim, isPublicNumber_trim]
  constructor
  · intro h
    split_ifs at h with hempty huuid hnumber
    exact hnumber
  · intro h
    have huuid : ¬ isCompleteUuid t = true := by
      intro huuid
      rw [not_isPublicNumber_of_isCompleteUuid huuid] at h
      cases h
    rw [if_neg (ne_nil_of_isPublicNumber h), if_neg huuid, if_pos h]

/-- The value is the trimmed text. -/
@[simp] lemma classify_value (t : Text) : (classifyOrderLookup t).value = trim t := by
  rw [classifyOrderLookup]
  split_ifs with hempty
  · exact hempty.symm
  · rfl
  · rfl
  · rfl

end Grammars

/-! ### Agreement -/

/-- The codec and its grammars agree on two numbers and a text. -/
structure NumbersAgree (n l : ℤ) (t : Text) : Prop where
  item : (PublicNumbers.itemNumber n l >>= PublicNumbers.parsePublicNumber) = .ok (n, some l)
  order : (strInt n >>= PublicNumbers.parsePublicNumber) = .ok (n, none)
  query : publicNumberQueryPattern t = true → ∃ v, PublicNumbers.parsePublicNumber t = .ok v
  classified : (classifyOrderLookup t).status = .number ↔ publicNumberQueryPattern (trim t) = true
  apart : ¬ (isCompleteUuid t = true ∧ (isPublicNumber t = true ∨ publicNumberQueryPattern t = true
    ∨ ∃ v, PublicNumbers.parsePublicNumber t = .ok v))

lemma not_admitted_of_isCompleteUuid {t : Text} (h : isCompleteUuid t = true) :
    ¬ (isPublicNumber t = true ∨ publicNumberQueryPattern t = true
      ∨ ∃ v, PublicNumbers.parsePublicNumber t = .ok v) := by
  have hfour := count_hyphen_of_isCompleteUuid h
  rintro (hnumber | hquery | ⟨v, hv⟩)
  · have hone := count_hyphen_of_isPublicNumber hnumber
    omega
  · obtain ⟨g, hg⟩ := Option.isSome_iff_exists.mp hquery
    have hone := count_hyphen_of_numberGroups isAsciiDigit_hyphen hg
    omega
  · have hone := count_hyphen_of_parse hv
    omega

/-- **The codec and its grammars agree** exactly on the numbers that are not negative and have at
most 4300 digits, and on the texts of such numbers and those that are of no number. -/
theorem numbersAgree_iff (n l : ℤ) (t : Text) :
    NumbersAgree n l t ↔ (Codable n ∧ Codable l) ∧ ShortNumber t := by
  constructor
  · intro h
    refine ⟨parse_itemNumber_iff.mp h.item, fun g hg => ?_⟩
    have hquery : publicNumberQueryPattern t = true := Option.isSome_iff_exists.mpr ⟨g, hg⟩
    exact (parses_iff hquery).mp (h.query hquery) g hg
  · rintro ⟨hcodable, hshort⟩
    exact {
      item := parse_itemNumber_iff.mpr hcodable
      order := parse_strInt_iff.mpr hcodable.1
      query := fun hquery => (parses_iff hquery).mpr hshort
      classified := classify_number_iff
      apart := fun h => not_admitted_of_isCompleteUuid h.1 h.2 }

/-- A text of ones is the number of an order. -/
lemma numberGroups_ones {k : ℕ} (hk : 0 < k) :
    numberGroups isAsciiDigit (List.replicate k (.char '1'))
      = some (List.replicate k (.char '1'), none) := by
  refine (numberGroups_eq_some_iff isAsciiDigit_hyphen).mpr
    ⟨by simp [hk.ne'], fun c hc => ?_, fun _ hl => (by cases hl), by simp⟩
  rw [List.eq_of_mem_replicate hc]
  decide

/-- A text of 4301 digits is admitted and not parsed. -/
theorem not_numbersAgree_ones : ¬ ∀ (n l : ℤ) (t : Text), NumbersAgree n l t := by
  intro h
  have hgroups := numberGroups_ones (k := 4301) (by decide)
  have hagree := h 1042 1 (List.replicate 4301 (.char '1'))
  have hquery : publicNumberQueryPattern (List.replicate 4301 (.char '1')) = true :=
    Option.isSome_iff_exists.mpr ⟨_, hgroups⟩
  have hlength := ((parses_iff hquery).mp (hagree.query hquery) _ hgroups).1
  rw [List.length_replicate] at hlength
  exact absurd hlength (by decide)

end MarketHub.Frontend
