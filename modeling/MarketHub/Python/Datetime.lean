import Mathlib.Data.Int.Notation
import Mathlib.Tactic.Ring
import Mathlib.Tactic.Tauto
import MarketHub.Python.Text

/-!
The text of a `datetime`.

* `Datetime`: the fields of a date and time, with its offset from UTC unless it is naive.
* `isoformat` and `fromisoformat`, which reads the calendar dates of ISO 8601; the week dates that
  it also reads are left out.
* `fromisoformat_isoformat`: the round trip; `fromisoformat_zuluformat`: that of a text with a `Z`.
* `ordinal`: the days before a date, all different.
-/

namespace Python

/-! ### Dates and times -/

/-- The fields of a `datetime`. The offset is in microseconds. -/
structure Fields where
  year : ℕ
  month : ℕ
  day : ℕ
  hour : ℕ
  minute : ℕ
  second : ℕ
  microsecond : ℕ
  offset : Option ℤ
  deriving DecidableEq

/-- A leap year. -/
def leap (year : ℕ) : Bool := year % 4 = 0 ∧ (year % 100 ≠ 0 ∨ year % 400 = 0)

/-- The days of a month. -/
def daysInMonth (year month : ℕ) : ℕ :=
  if month = 2 then if leap year then 29 else 28
  else if month = 4 ∨ month = 6 ∨ month = 9 ∨ month = 11 then 30
  else 31

/-- The microseconds of a day. -/
def dayMicroseconds : ℕ := 24 * 60 * 60 * 1000000

/-- What `datetime` checks. -/
structure Fields.Valid (d : Fields) : Prop where
  year : 1 ≤ d.year ∧ d.year ≤ 9999
  month : 1 ≤ d.month ∧ d.month ≤ 12
  day : 1 ≤ d.day ∧ d.day ≤ daysInMonth d.year d.month
  hour : d.hour < 24
  minute : d.minute < 60
  second : d.second < 60
  microsecond : d.microsecond < 1000000
  offset : ∀ z ∈ d.offset, z.natAbs < dayMicroseconds

instance (d : Fields) : Decidable d.Valid :=
  decidable_of_iff
    ((1 ≤ d.year ∧ d.year ≤ 9999) ∧ (1 ≤ d.month ∧ d.month ≤ 12)
      ∧ (1 ≤ d.day ∧ d.day ≤ daysInMonth d.year d.month) ∧ d.hour < 24 ∧ d.minute < 60
        ∧ d.second < 60
      ∧ d.microsecond < 1000000 ∧ ∀ z ∈ d.offset, z.natAbs < dayMicroseconds)
    ⟨fun ⟨h₁, h₂, h₃, h₄, h₅, h₆, h₇, h₈⟩ => ⟨h₁, h₂, h₃, h₄, h₅, h₆, h₇, h₈⟩,
      fun h => ⟨h.year, h.month, h.day, h.hour, h.minute, h.second, h.microsecond, h.offset⟩⟩

/-- A `datetime`. -/
abbrev Datetime := { d : Fields // d.Valid }

/-- The days before a year. -/
def daysBeforeYear (year : ℕ) : ℕ := (year - 1) * 365 + (year - 1) / 4 - (year - 1) / 100
    + (year - 1) / 400

/-- The days of a year before a month. -/
def daysBeforeMonth (year month : ℕ) : ℕ :=
  ((List.range (month - 1)).map fun m => daysInMonth year (m + 1)).sum

/-- The instant of an aware `datetime`: the microseconds of UTC since the year 1. -/
def Datetime.instant (d : Datetime) : ℤ :=
  let days := daysBeforeYear d.1.year + daysBeforeMonth d.1.year d.1.month + (d.1.day - 1)
  ((((days * 24 + d.1.hour) * 60 + d.1.minute) * 60 + d.1.second) * 1000000 + d.1.microsecond : ℕ)
    - d.1.offset.getD 0

/-! ### The text -/

/-- A colon. -/
def colon : Code := .char ':'

/-- The fraction of a second, if there is one. -/
def fraction (microsecond : ℕ) : Text :=
  if microsecond = 0 then [] else .char '.' :: write 10 6 microsecond

/-- Hours and minutes. -/
def hourMinute (hour minute : ℕ) : Text := write 10 2 hour ++ colon :: write 10 2 minute

/-- A time with its seconds. -/
def clock (hour minute second microsecond : ℕ) : Text :=
  hourMinute hour minute ++ colon :: (write 10 2 second ++ fraction microsecond)

/-- The time that an offset stands for: its seconds are written if they are not zero. -/
def zoneTime (total : ℕ) : Text :=
  let microsecond := total % 1000000
  let second := total / 1000000 % 60
  let minute := total / 60000000 % 60
  let hour := total / 3600000000
  if second = 0 ∧ microsecond = 0 then hourMinute hour minute else clock hour minute
    second microsecond

/-- The offset. -/
def zone (offset : ℤ) : Text := .char (if offset < 0 then '-' else '+') :: zoneTime offset.natAbs

/-- `isoformat`. -/
def isoformat (d : Datetime) : Text :=
  write 10 4 d.1.year ++ .char '-' :: (write 10 2 d.1.month ++ .char '-' :: (write 10 2 d.1.day
    ++ .char 'T' :: (clock d.1.hour d.1.minute d.1.second d.1.microsecond
      ++ (d.1.offset.map zone).getD [])))

/-! ### Reading it -/

/-- A number of `w` digits at the front. -/
def scanDigits (w : ℕ) (t : Text) : Option (ℕ × Text) :=
  if (t.take w).length = w then (read 10 (t.take w)).map fun n => (n, t.drop w) else none

/-- A character at the front. -/
def scanChar (c : Char) : Text → Option Text
  | .char c' :: t => if c' = c then some t else none
  | _ => none

/-- A date, with hyphens or without. -/
def scanDate (t : Text) : Option ((ℕ × ℕ × ℕ) × Text) := do
  let (year, t) ← scanDigits 4 t
  let separated := (scanChar '-' t).isSome
  let t ← if separated then scanChar '-' t else some t
  let (month, t) ← scanDigits 2 t
  let t ← if separated then scanChar '-' t else some t
  let (day, t) ← scanDigits 2 t
  return ((year, month, day), t)

/-- The fraction of a second: digits behind a point or a comma, of which six count. -/
def readFraction : Text → Option ℕ
  | [] => some 0
  | .char c :: ds =>
      if (c = '.' ∨ c = ',') ∧ ds ≠ [] ∧ ds.all (isDigit 10) then
        (read 10 (ds.take 6)).map fun n => n * 10 ^ (6 - (ds.take 6).length)
      else none
  | _ => none

/-- A time of hours, minutes and seconds, with colons or without. -/
def readClock (t : Text) : Option (ℕ × ℕ × ℕ × ℕ) := do
  let (hour, t) ← scanDigits 2 t
  if t = [] then return (hour, 0, 0, 0)
  let separated := (scanChar ':' t).isSome
  let t ← if separated then scanChar ':' t else some t
  let (minute, t) ← scanDigits 2 t
  if t = [] then return (hour, minute, 0, 0)
  let t ← if separated then scanChar ':' t else some t
  let (second, t) ← scanDigits 2 t
  let microsecond ← readFraction t
  return (hour, minute, second, microsecond)

/-- A character that starts an offset. -/
def zoneMark (c : Code) : Bool := c = .char '+' ∨ c = .char '-' ∨ c = .char 'Z'

/-- The microseconds of a time. -/
def microseconds (c : ℕ × ℕ × ℕ × ℕ) : ℕ := ((c.1 * 60 + c.2.1) * 60 + c.2.2.1) * 1000000 + c.2.2.2

/-- The offset: none, that of `Z`, or a sign and a time. -/
def readZone : Text → Option (Option ℤ)
  | [] => some none
  | .char 'Z' :: t => if t = [] then some (some 0) else none
  | .char sign :: t => (readClock t).map fun c =>
      some (if sign = '-' then -(microseconds c : ℤ) else microseconds c)
  | _ => none

/-- The fields of a text. -/
def readFields (t : Text) : Option Fields := do
  let ((year, month, day), t) ← scanDate t
  let time := t.drop 1
  if time = [] then return ⟨year, month, day, 0, 0, 0, 0, none⟩
  let (hour, minute, second, microsecond) ← readClock (time.takeWhile fun c => !zoneMark c)
  let offset ← readZone (time.dropWhile fun c => !zoneMark c)
  return ⟨year, month, day, hour, minute, second, microsecond, offset⟩

/-- `datetime.fromisoformat`. -/
def fromisoformat (t : Text) : Option Datetime :=
  (readFields t).bind fun d => if h : d.Valid then some ⟨d, h⟩ else none

/-! ### The round trip -/

lemma scanDigits_write {w n : ℕ} (hn : n < 10 ^ w) (rest : Text) :
    scanDigits w (write 10 w n ++ rest) = some (n, rest) := by
  have htake : (write 10 w n ++ rest).take w = write 10 w n := List.take_left' (length_write 10 w n)
  have hdrop : (write 10 w n ++ rest).drop w = rest := List.drop_left' (length_write 10 w n)
  rw [scanDigits, htake, hdrop, if_pos (length_write 10 w n),
    read_write (by norm_num) (by norm_num) hn]
  rfl

lemma scanChar_cons (c : Char) (t : Text) : scanChar c (.char c :: t) = some t := by
  rw [scanChar, if_pos rfl]

lemma readFraction_fraction {microsecond : ℕ} (h : microsecond < 1000000) :
    readFraction (fraction microsecond) = some microsecond := by
  rw [fraction]
  split
  · rename_i hzero
    rw [hzero]
    rfl
  · have hlen : (write 10 6 microsecond).length = 6 := length_write 10 6 microsecond
    have htake : (write 10 6 microsecond).take 6 = write 10 6 microsecond :=
      List.take_of_length_le (by omega)
    have hne : write 10 6 microsecond ≠ [] := List.ne_nil_of_length_pos (by omega)
    have hall : (write 10 6 microsecond).all (isDigit 10) = true :=
      List.all_eq_true.mpr (isDigit_write (by norm_num) (by norm_num) 6 microsecond)
    rw [readFraction, if_pos ⟨.inl rfl, hne, hall⟩, htake, hlen,
      read_write (by norm_num) (by norm_num) (by omega)]
    simp

lemma readClock_hourMinute {hour minute : ℕ} (hh : hour < 100) (hm : minute < 100) :
    readClock (hourMinute hour minute) = some (hour, minute, 0, 0) := by
  have hminute : scanDigits 2 (write 10 2 minute) = some (minute, []) := by
    have hread := scanDigits_write (w := 2) (n := minute) (by omega) []
    rwa [List.append_nil] at hread
  rw [readClock, hourMinute, scanDigits_write (by omega)]
  simp [colon, scanChar_cons, hminute]

lemma readClock_clock {hour minute second microsecond : ℕ} (hh : hour < 100) (hm : minute < 100)
    (hs : second < 100) (hu : microsecond < 1000000) :
    readClock (clock hour minute second microsecond)
      = some (hour, minute, second, microsecond) := by
  rw [readClock, clock, hourMinute, List.append_assoc, scanDigits_write (by omega)]
  simp [colon, scanChar_cons, scanDigits_write (show minute < 10 ^ 2 by omega),
    scanDigits_write (show second < 10 ^ 2 by omega), readFraction_fraction hu]

/-- The time of an offset reads back. -/
lemma readClock_zoneTime {total : ℕ} (h : total < dayMicroseconds) :
    ∃ c, readClock (zoneTime total) = some c ∧ microseconds c = total := by
  rw [dayMicroseconds] at h
  rw [zoneTime]
  split
  · rename_i hzero
    refine ⟨_, readClock_hourMinute (by omega) (by omega), ?_⟩
    rw [microseconds]
    dsimp only
    omega
  · refine ⟨_, readClock_clock (by omega) (by omega) (by omega) (by omega), ?_⟩
    rw [microseconds]
    dsimp only
    omega

/-- A signed time is an offset. -/
lemma readZone_signed {z : ℤ} {t : Text} {c : ℕ × ℕ × ℕ × ℕ} (hread : readClock t = some c)
    (hmicro : microseconds c = z.natAbs) :
    readZone (.char (if z < 0 then '-' else '+') :: t) = some (some z) := by
  by_cases hneg : z < 0
  · simp [readZone, hneg, hread, hmicro, abs_of_neg hneg]
  · have hpos : 0 ≤ z := not_lt.mp hneg
    simp [readZone, hneg, hread, hmicro, abs_of_nonneg hpos]

/-- **An offset reads back.** -/
lemma readZone_zone {z : ℤ} (hz : z.natAbs < dayMicroseconds) :
    readZone (zone z) = some (some z) := by
  obtain ⟨c, hread, hmicro⟩ := readClock_zoneTime hz
  rw [zone]
  exact readZone_signed hread hmicro

/-- The characters of a written number. -/
lemma mem_write {w n : ℕ} {c : Code} (h : c ∈ write 10 w n) : zoneMark c = false := by
  have hdigit := isDigit_write (by norm_num) (by norm_num) w n c h
  have hne : c ≠ .char '+' ∧ c ≠ .char '-' ∧ c ≠ .char 'Z' := by
    refine ⟨?_, ?_, ?_⟩ <;>
      · rintro rfl
        exact absurd hdigit (by decide)
  simpa [zoneMark] using hne

/-- The characters of a time. -/
lemma mem_clock {hour minute second microsecond : ℕ} {c : Code}
    (h : c ∈ clock hour minute second microsecond) : zoneMark c = false := by
  have hfraction : c ∈ fraction microsecond → zoneMark c = false := by
    intro hc
    rw [fraction] at hc
    split at hc
    · cases hc
    · rcases List.mem_cons.mp hc with rfl | hc
      · decide
      · exact mem_write hc
  simp only [clock, hourMinute, List.mem_append, List.mem_cons] at h
  rcases h with (h | rfl | h) | rfl | h | h
  · exact mem_write h
  · decide
  · exact mem_write h
  · decide
  · exact mem_write h
  · exact hfraction h

lemma zoneMark_zone (z : ℤ) : ∃ c t, zone z = c :: t ∧ zoneMark c = true := by
  rw [zone]
  split
  · exact ⟨_, _, rfl, by decide⟩
  · exact ⟨_, _, rfl, by decide⟩

/-- A time and what follows it are told apart. -/
lemma split_clock {t z : Text} (ht : ∀ c ∈ t, zoneMark c = false)
    (hz : z = [] ∨ ∃ c z', z = c :: z' ∧ zoneMark c = true) :
    ((t ++ z).takeWhile fun c => !zoneMark c) = t
      ∧ ((t ++ z).dropWhile fun c => !zoneMark c) = z := by
  have hall : ∀ c ∈ t, (!zoneMark c) = true := fun c hc => by rw [ht c hc]; rfl
  rw [List.takeWhile_append_of_pos hall, List.dropWhile_append_of_pos hall]
  rcases hz with rfl | ⟨c, z', rfl, hc⟩
  · simp
  · simp [hc]

/-- The date and the time are read in front of any offset. -/
lemma fromisoformat_append (d : Datetime) {z : Text}
    (hz : z = [] ∨ ∃ c z', z = c :: z' ∧ zoneMark c = true) (hread : readZone z = some d.1.offset) :
    fromisoformat (write 10 4 d.1.year ++ .char '-' :: (write 10 2 d.1.month ++ .char '-'
      :: (write 10 2 d.1.day ++ .char 'T'
        :: (clock d.1.hour d.1.minute d.1.second d.1.microsecond ++ z)))) = some d := by
  have hyear := d.2.year
  have hmonth := d.2.month
  have hday := d.2.day
  have hhour := d.2.hour
  have hminute := d.2.minute
  have hsecond := d.2.second
  have hdays : daysInMonth d.1.year d.1.month ≤ 31 := by
    rw [daysInMonth]
    split_ifs <;> omega
  have hclock := readClock_clock (show d.1.hour < 100 by omega) (show d.1.minute < 100 by omega)
    (show d.1.second < 100 by omega) d.2.microsecond
  obtain ⟨htake, hdrop⟩ := split_clock
    (t := clock d.1.hour d.1.minute d.1.second d.1.microsecond) (fun c hc => mem_clock hc) hz
  have hne : clock d.1.hour d.1.minute d.1.second d.1.microsecond ++ z ≠ [] := by
    simp [clock, hourMinute]
  rw [fromisoformat, readFields, scanDate, scanDigits_write (show d.1.year < 10 ^ 4 by omega)]
  simp only [Option.bind_eq_bind, Option.bind_some, scanChar_cons, Option.isSome_some, if_true,
    scanDigits_write (show d.1.month < 10 ^ 2 by omega),
    scanDigits_write (show d.1.day < 10 ^ 2 by omega), Option.pure_def, List.drop_one,
    List.tail_cons,
    hne, if_false, htake, hdrop, hclock, hread]
  rw [dif_pos d.2]

/-- **The text of a `datetime` reads back.** -/
theorem fromisoformat_isoformat (d : Datetime) : fromisoformat (isoformat d) = some d := by
  have hoffset := d.2.offset
  refine fromisoformat_append d ?_ ?_
  · cases d.1.offset with
    | none => exact .inl rfl
    | some z => exact .inr (zoneMark_zone z)
  · generalize d.1.offset = offset at hoffset
    cases offset with
    | none => rfl
    | some z => exact readZone_zone (hoffset z rfl)

/-- The text of a `datetime` of UTC, with the `Z` of ISO 8601. -/
def zuluformat (d : Datetime) : Text :=
  write 10 4 d.1.year ++ .char '-' :: (write 10 2 d.1.month ++ .char '-' :: (write 10 2 d.1.day
    ++ .char 'T' :: (clock d.1.hour d.1.minute d.1.second d.1.microsecond ++ [.char 'Z'])))

/-- It reads back, too. -/
theorem fromisoformat_zuluformat {d : Datetime} (h : d.1.offset = some 0) :
    fromisoformat (zuluformat d) = some d :=
  fromisoformat_append d (.inr ⟨_, [], rfl, by decide⟩) (by rw [h]; rfl)

lemma scalar_hourMinute (hour minute : ℕ) : (hourMinute hour minute).Scalar :=
  (scalar_write 10 2 hour).append ((scalar_write 10 2 minute).cons ':')

lemma scalar_clock (hour minute second microsecond : ℕ) :
    (clock hour minute second microsecond).Scalar := by
  have hfraction : (fraction microsecond).Scalar := by
    rw [fraction]
    split
    · exact scalar_nil
    · exact (scalar_write 10 6 microsecond).cons '.'
  exact (scalar_hourMinute hour minute).append
    (((scalar_write 10 2 second).append hfraction).cons ':')

lemma scalar_zone (z : ℤ) : (zone z).Scalar := by
  have htime : (zoneTime z.natAbs).Scalar := by
    rw [zoneTime]
    split
    · exact scalar_hourMinute _ _
    · exact scalar_clock _ _ _ _
  exact htime.cons _

lemma scalar_isoformat (d : Datetime) : (isoformat d).Scalar := by
  have hzone : Text.Scalar ((d.1.offset.map zone).getD []) := by
    cases d.1.offset with
    | none => exact scalar_nil
    | some z => exact scalar_zone z
  exact (scalar_write 10 4 _).append (((scalar_write 10 2 _).append
    (((scalar_write 10 2 _).append (((scalar_clock _ _ _ _).append hzone).cons 'T')).cons '-')).cons
    '-')

/-! ### Days -/

/-- A `date`. -/
structure Date where
  year : ℕ
  month : ℕ
  day : ℕ
  year_le : 1 ≤ year ∧ year ≤ 9999
  month_le : 1 ≤ month ∧ month ≤ 12
  day_le : 1 ≤ day ∧ day ≤ daysInMonth year month
  deriving DecidableEq

namespace Date

/-- The days before a date, since the year 1. -/
def ordinal (d : Date) : ℕ :=
  daysBeforeYear d.year + daysBeforeMonth d.year d.month + (d.day - 1)

/-- The text of a date. -/
def isoformat (d : Date) : Text :=
  write 10 4 d.year ++ .char '-' :: (write 10 2 d.month ++ .char '-' :: write 10 2 d.day)

/-- A time of a date in UTC, in whole seconds. -/
def at_ (d : Date) (hour minute second : ℕ) (h : hour < 24 ∧ minute < 60 ∧ second < 60) :
    Datetime :=
  ⟨⟨d.year, d.month, d.day, hour, minute, second, 0, some 0⟩,
    { year := d.year_le
      month := d.month_le
      day := d.day_le
      hour := h.1
      minute := h.2.1
      second := h.2.2
      microsecond := by norm_num
      offset := by simp [dayMicroseconds] }⟩

/-- The instant of a time of a date. -/
lemma instant_at (d : Date) {hour minute second : ℕ} (h : hour < 24 ∧ minute < 60 ∧ second < 60) :
    (d.at_ hour minute second h).instant
      = (d.ordinal * dayMicroseconds + ((hour * 60 + minute) * 60 + second) * 1000000 : ℕ) := by
  rw [Datetime.instant]
  simp only [at_, Option.getD_some, sub_zero]
  refine congrArg Nat.cast ?_
  rw [ordinal, dayMicroseconds]
  ring

end Date

section Ordinals

variable {year month month' : ℕ}

/-- The days of a year. -/
def daysInYear (year : ℕ) : ℕ := if leap year then 366 else 365

lemma daysBeforeYear_succ (h : 1 ≤ year) :
    daysBeforeYear (year + 1) = daysBeforeYear year + daysInYear year := by
  obtain ⟨n, rfl⟩ : ∃ n, year = n + 1 := ⟨year - 1, by omega⟩
  have hfour : 100 ∣ n + 1 → 4 ∣ n + 1 := (by norm_num : 4 ∣ 100).trans
  have hhundred : 400 ∣ n + 1 → 100 ∣ n + 1 := (by norm_num : 100 ∣ 400).trans
  have hle : n / 100 ≤ n / 4 := Nat.div_le_div_left (by norm_num) (by norm_num)
  have hleap : leap (n + 1) = true ↔ 4 ∣ n + 1 ∧ (¬ 100 ∣ n + 1 ∨ 400 ∣ n + 1) := by
    simp only [leap, decide_eq_true_eq, Nat.dvd_iff_mod_eq_zero, ne_eq]
  rw [daysBeforeYear, daysBeforeYear, daysInYear, Nat.add_sub_cancel, Nat.add_sub_cancel,
    Nat.succ_div, Nat.succ_div, Nat.succ_div]
  generalize n / 4 = a at hle
  generalize n / 100 = b at hle
  generalize n / 400 = c
  by_cases h₄ : 4 ∣ n + 1
  · by_cases h₁₀₀ : 100 ∣ n + 1
    · by_cases h₄₀₀ : 400 ∣ n + 1
      · rw [if_pos h₄, if_pos h₁₀₀, if_pos h₄₀₀, if_pos (hleap.mpr ⟨h₄, .inr h₄₀₀⟩)]
        omega
      · have hnot : ¬ leap (n + 1) = true := fun h => by tauto
        rw [if_pos h₄, if_pos h₁₀₀, if_neg h₄₀₀, if_neg hnot]
        omega
    · rw [if_pos h₄, if_neg h₁₀₀, if_neg fun h => h₁₀₀ (hhundred h),
        if_pos (hleap.mpr ⟨h₄, .inl h₁₀₀⟩)]
      omega
  · have h₁₀₀ : ¬ 100 ∣ n + 1 := fun h => h₄ (hfour h)
    rw [if_neg h₄, if_neg h₁₀₀, if_neg fun h => h₁₀₀ (hhundred h),
      if_neg fun h => h₄ (hleap.mp h).1]
    omega

lemma daysBeforeYear_le {year' : ℕ} (h : 1 ≤ year) (hlt : year < year') :
    daysBeforeYear year + daysInYear year ≤ daysBeforeYear year' := by
  induction hlt with
  | refl => rw [daysBeforeYear_succ h]
  | step hlt ih =>
      rw [daysBeforeYear_succ (le_trans h (Nat.le_of_lt hlt))]
      exact le_trans ih (Nat.le_add_right _ _)

lemma daysBeforeMonth_succ (h : 1 ≤ month) :
    daysBeforeMonth year (month + 1) = daysBeforeMonth year month + daysInMonth year month := by
  obtain ⟨m, rfl⟩ : ∃ m, month = m + 1 := ⟨month - 1, by omega⟩
  rw [daysBeforeMonth, daysBeforeMonth, Nat.add_sub_cancel, Nat.add_sub_cancel, List.range_succ,
    List.map_append, List.sum_append]
  simp

lemma daysBeforeMonth_le (h : 1 ≤ month) (hlt : month < month') :
    daysBeforeMonth year month + daysInMonth year month ≤ daysBeforeMonth year month' := by
  induction hlt with
  | refl => rw [daysBeforeMonth_succ h]
  | step hlt ih =>
      rw [daysBeforeMonth_succ (le_trans h (Nat.le_of_lt hlt))]
      exact le_trans ih (Nat.le_add_right _ _)

lemma daysBeforeMonth_thirteen : daysBeforeMonth year 13 = daysInYear year := by
  simp [daysBeforeMonth, List.range_succ, daysInMonth, daysInYear]
  split <;> rfl

/-- The day of a year. -/
lemma dayOfYear_lt (d : Date) : daysBeforeMonth d.year d.month + (d.day - 1)
    < daysInYear d.year := by
  have hlt : d.month < 13 := Nat.lt_succ_of_le d.month_le.2
  have hmonth : daysBeforeMonth d.year d.month + daysInMonth d.year d.month
      ≤ daysBeforeMonth d.year 13 := daysBeforeMonth_le d.month_le.1 hlt
  rw [daysBeforeMonth_thirteen] at hmonth
  have hday := d.day_le
  omega

/-- **Different dates have different days before them.** -/
lemma Date.ordinal_injective : Function.Injective Date.ordinal := by
  have hyear : ∀ d d' : Date, d.year < d'.year → d.ordinal < d'.ordinal := by
    intro d d' hlt
    have hbefore := daysBeforeYear_le d.year_le.1 hlt
    have hday := dayOfYear_lt d
    rw [Date.ordinal, Date.ordinal]
    omega
  have hmonth : ∀ d d' : Date, d.year = d'.year → d.month < d'.month → d.ordinal < d'.ordinal := by
    intro d d' hyear hlt
    have hbefore : daysBeforeMonth d.year d.month + daysInMonth d.year d.month
        ≤ daysBeforeMonth d.year d'.month := daysBeforeMonth_le d.month_le.1 hlt
    have hday := d.day_le
    rw [Date.ordinal, Date.ordinal, ← hyear]
    omega
  intro d d' h
  have heq : d.year = d'.year := by
    by_contra hne
    rcases Nat.lt_or_gt_of_ne hne with hlt | hlt
    · exact absurd h (hyear d d' hlt).ne
    · exact absurd h (hyear d' d hlt).ne'
  have heq' : d.month = d'.month := by
    by_contra hne
    rcases Nat.lt_or_gt_of_ne hne with hlt | hlt
    · exact absurd h (hmonth d d' heq hlt).ne
    · exact absurd h (hmonth d' d heq.symm hlt).ne'
  have hday := d.day_le
  have hday' := d'.day_le
  rw [Date.ordinal, Date.ordinal, heq, heq'] at h
  obtain ⟨year, month, day, _, _, _⟩ := d
  obtain ⟨year', month', day', _, _, _⟩ := d'
  simp only [Date.mk.injEq]
  simp only at h heq heq' hday hday'
  exact ⟨heq, heq', by omega⟩

end Ordinals

end Python
