import Mathlib.Data.List.Basic
import Mathlib.Data.List.Induction
import Mathlib.Tactic.NormNum

/-!
Python texts and the numbers written in them.

* `Code`, `Text`: a `str` is a list of code points, of which some are surrogates.
* `Text.Scalar`: a text without surrogates, such as that of a Lean string.
* `write`, `read`: a number in a fixed number of digits, and its value; `read_write`.
-/

namespace Python

/-- A code point: a character, or a surrogate, counted from `U+D800`. -/
inductive Code where
  | char (c : Char)
  | surrogate (c : Fin 2048)
  deriving DecidableEq, Repr

/-- A `str`. -/
abbrev Text := List Code

/-- The text of a string. -/
def text (s : String) : Text := s.toList.map .char

/-- A text without surrogates. -/
def Text.Scalar (t : Text) : Prop := ∀ c ∈ t, ∃ ch, c = .char ch

lemma scalar_text (s : String) : (text s).Scalar := by
  intro c hc
  obtain ⟨ch, -, rfl⟩ := List.mem_map.mp hc
  exact ⟨ch, rfl⟩

lemma Text.Scalar.append {t t' : Text} (h : t.Scalar) (h' : t'.Scalar) : Text.Scalar (t ++ t') := by
  intro c hc
  rcases List.mem_append.mp hc with hc | hc
  · exact h c hc
  · exact h' c hc

lemma Text.Scalar.cons {t : Text} (h : t.Scalar) (ch : Char) : Text.Scalar (.char ch :: t) := by
  intro c hc
  rcases List.mem_cons.mp hc with rfl | hc
  · exact ⟨ch, rfl⟩
  · exact h c hc

lemma scalar_nil : Text.Scalar [] := fun _ hc => absurd hc List.not_mem_nil

lemma text_inj {s s' : String} (h : text s = text s') : s = s' :=
  String.ext (List.map_injective_iff.mpr (fun _ _ hc => Code.char.inj hc) h)

/-! ### Digits -/

/-- The digits up to the base 16, in lower case. -/
def digitChar (d : ℕ) : Char :=
  match d with
  | 0 => '0' | 1 => '1' | 2 => '2' | 3 => '3' | 4 => '4' | 5 => '5' | 6 => '6' | 7 => '7'
  | 8 => '8' | 9 => '9' | 10 => 'a' | 11 => 'b' | 12 => 'c' | 13 => 'd' | 14 => 'e' | _ => 'f'

/-- The value of a digit, in either case. -/
def charValue (c : Char) : Option ℕ :=
  if '0' ≤ c ∧ c ≤ '9' then some (c.toNat - '0'.toNat)
  else if 'a' ≤ c ∧ c ≤ 'f' then some (c.toNat - 'a'.toNat + 10)
  else if 'A' ≤ c ∧ c ≤ 'F' then some (c.toNat - 'A'.toNat + 10)
  else none

/-- The value of a digit of a base up to 16. -/
def digitValue (b : ℕ) : Code → Option ℕ
  | .char c => (charValue c).filter (· < b)
  | .surrogate _ => none

/-- A digit of the base. -/
def isDigit (b : ℕ) (c : Code) : Bool := (digitValue b c).isSome

lemma charValue_digitChar : ∀ d < 16, charValue (digitChar d) = some d := by decide

@[simp] lemma digitValue_digitChar {b d : ℕ} (hb : b ≤ 16) (hd : d < b) :
    digitValue b (.char (digitChar d)) = some d := by
  simp [digitValue, charValue_digitChar d (by omega), hd]

@[simp] lemma isDigit_digitChar {b d : ℕ} (hb : b ≤ 16) (hd : d < b) :
    isDigit b (.char (digitChar d)) = true := by
  rw [isDigit, digitValue_digitChar hb hd]
  rfl

/-! ### Numbers in a fixed number of digits -/

/-- A number in `w` digits of the base, without those that do not fit. -/
def write (b : ℕ) : ℕ → ℕ → Text
  | 0, _ => []
  | w + 1, n => write b w (n / b) ++ [.char (digitChar (n % b))]

/-- The digits read so far, and one more. -/
def readDigit (b : ℕ) (n : Option ℕ) (c : Code) : Option ℕ := do
  let n ← n
  let d ← digitValue b c
  return n * b + d

/-- The number that a text of digits writes. -/
def read (b : ℕ) (t : Text) : Option ℕ := t.foldl (readDigit b) (some 0)

@[simp] lemma length_write (b w n : ℕ) : (write b w n).length = w := by
  induction w generalizing n with
  | zero => rfl
  | succ w ih => simp [write, ih]

lemma scalar_write (b w n : ℕ) : (write b w n).Scalar := by
  induction w generalizing n with
  | zero => exact scalar_nil
  | succ w ih => exact (ih _).append (scalar_nil.cons _)

lemma isDigit_write {b : ℕ} (hb : 1 < b) (hb' : b ≤ 16) (w n : ℕ) :
    ∀ c ∈ write b w n, isDigit b c = true := by
  induction w generalizing n with
  | zero => exact fun _ hc => absurd hc List.not_mem_nil
  | succ w ih =>
      intro c hc
      rcases List.mem_append.mp hc with hc | hc
      · exact ih _ c hc
      · rw [List.mem_singleton.mp hc]
        exact isDigit_digitChar hb' (Nat.mod_lt _ (by omega))

/-- **A written number reads back**, if its digits fit. -/
lemma read_write {b w n : ℕ} (hb : 1 < b) (hb' : b ≤ 16) (hn : n < b ^ w) :
    read b (write b w n) = some n := by
  induction w generalizing n with
  | zero =>
      obtain rfl : n = 0 := by simpa using hn
      rfl
  | succ w ih =>
      have hdiv : n / b < b ^ w := Nat.div_lt_of_lt_mul (by rwa [pow_succ'] at hn)
      have hdigit : n % b < b := Nat.mod_lt _ (by omega)
      have hread : read b (write b w (n / b)) = some (n / b) := ih hdiv
      rw [read] at hread
      rw [write, read, List.foldl_append, hread]
      simp only [List.foldl_cons, List.foldl_nil, readDigit, digitValue_digitChar hb' hdigit]
      exact congrArg some (Nat.div_add_mod' n b)

lemma read_append_singleton (b : ℕ) (t : Text) (c : Code) :
    read b (t ++ [c]) = readDigit b (read b t) c := by
  rw [read, List.foldl_append]
  rfl

/-- Digits write a number. -/
lemma exists_read {b : ℕ} {t : Text} (h : ∀ c ∈ t, isDigit b c = true) :
    ∃ n < b ^ t.length, read b t = some n := by
  induction t using List.reverseRecOn with
  | nil => exact ⟨0, by simp, rfl⟩
  | append_singleton t c ih =>
      obtain ⟨n, hn, hread⟩ := ih fun c hc => h c (List.mem_append_left _ hc)
      obtain ⟨d, hd⟩ := Option.isSome_iff_exists.mp (h c (by simp))
      refine ⟨n * b + d, ?_, ?_⟩
      · have hlt : d < b := by
          cases c with
          | surrogate => cases hd
          | char c => simpa using (Option.filter_eq_some_iff.mp hd).2
        rw [List.length_append, List.length_singleton, pow_succ]
        calc n * b + d < n * b + b := by omega
          _ = (n + 1) * b := by rw [Nat.add_mul, Nat.one_mul]
          _ ≤ b ^ t.length * b := Nat.mul_le_mul_right _ hn
      · rw [read_append_singleton, hread]
        simp [readDigit, hd]

/-- **Digits in lower case are those of the number they write.** -/
lemma write_read {b n : ℕ} (hb : b ≤ 16) {t : Text}
    (h : ∀ c ∈ t, ∃ d < b, c = .char (digitChar d)) (hread : read b t = some n) :
    write b t.length n = t := by
  induction t using List.reverseRecOn generalizing n with
  | nil => rfl
  | append_singleton t c ih =>
      obtain ⟨d, hd, rfl⟩ := h c (by simp)
      rw [read_append_singleton] at hread
      cases hm : read b t with
      | none => rw [hm] at hread; cases hread
      | some m =>
          rw [hm] at hread
          simp only [readDigit, digitValue_digitChar hb hd] at hread
          obtain rfl : m * b + d = n := Option.some.inj hread
          have hdiv : (m * b + d) / b = m := by
            rw [Nat.add_comm, Nat.add_mul_div_right _ _ (by omega), Nat.div_eq_of_lt hd,
              Nat.zero_add]
          have hmod : (m * b + d) % b = d := by
            rw [Nat.add_comm, Nat.add_mul_mod_self_right, Nat.mod_eq_of_lt hd]
          rw [List.length_append, List.length_singleton, write, hdiv, hmod,
            ih (fun c hc => h c (List.mem_append_left _ hc)) hm]

end Python
