import MarketHub.Python.Number

/-!
JavaScript strings, as the texts of their code points.

* `isWhiteSpace`, `trim`: `String.prototype.trim`. Its white space is not that of Python.
* `trim_trim`: a second `trim` changes nothing.
* `groupsOf`: the groups of `D{k}-…-D{k'}` in a whole text.
-/

namespace JavaScript

open Python

/-! ### Both ends of a string -/

/-- A white space or the end of a line. -/
def isWhiteSpace : Code → Bool
  | .char c =>
      [0x9, 0xA, 0xB, 0xC, 0xD, 0x20, 0xA0, 0x1680, 0x2000, 0x2001, 0x2002, 0x2003, 0x2004, 0x2005,
        0x2006, 0x2007, 0x2008, 0x2009, 0x200A, 0x2028, 0x2029, 0x202F, 0x205F, 0x3000,
        0xFEFF].contains c.toNat
  | .surrogate _ => false

/-- `text.trim()`. -/
def trim (t : Text) : Text := stripBy isWhiteSpace t

@[simp] lemma isWhiteSpace_hyphen : isWhiteSpace hyphen = false := by decide

/-- **A second `trim` changes nothing.** -/
@[simp] lemma trim_trim (t : Text) : trim (trim t) = trim t := stripBy_stripBy t

/-! ### Groups of digits -/

/-- `D{k}-…-D{k'}`, matched by a whole text. -/
def groupsOf (isDigit : Code → Bool) : List ℕ → Text → Bool
  | [], t => t = []
  | [k], t => t.length = k ∧ t.all isDigit = true
  | k :: ks, t => (t.take k).length = k ∧ (t.take k).all isDigit = true
      ∧ (t.drop k).head? = some hyphen ∧ groupsOf isDigit ks (t.drop (k + 1)) = true

section Groups

variable {isDigit : Code → Bool}

lemma groupsOf_cons_cons {k k' : ℕ} {ks : List ℕ} {t : Text}
    (h : groupsOf isDigit (k :: k' :: ks) t = true) : ∃ first rest, t = first ++ hyphen :: rest
      ∧ first.length = k ∧ (∀ c ∈ first, isDigit c = true)
        ∧ groupsOf isDigit (k' :: ks) rest = true := by
  simp only [groupsOf, decide_eq_true_eq] at h
  obtain ⟨hlength, hall, hhead, hrest⟩ := h
  refine ⟨t.take k, t.drop (k + 1), ?_, hlength, List.all_eq_true.mp hall, hrest⟩
  have hdrop : t.drop k = hyphen :: t.drop (k + 1) := by
    rw [List.head?_eq_some_iff] at hhead
    obtain ⟨rest, hrest⟩ := hhead
    rw [← List.drop_drop, hrest]
    rfl
  rw [← hdrop, List.take_append_drop]

/-- There is a hyphen between any two groups. -/
lemma count_hyphen_of_groupsOf (hhyphen : isDigit hyphen = false) {k : ℕ} {ks : List ℕ} :
    ∀ {t : Text}, groupsOf isDigit (k :: ks) t = true → t.count hyphen = ks.length := by
  induction ks generalizing k with
  | nil =>
      intro t h
      simp only [groupsOf, decide_eq_true_eq] at h
      exact count_hyphen_of_digits hhyphen (List.all_eq_true.mp h.2)
  | cons k' ks ih =>
      intro t h
      obtain ⟨first, rest, rfl, -, hfirst, hrest⟩ := groupsOf_cons_cons h
      rw [List.count_append, count_hyphen_of_digits hhyphen hfirst, List.count_cons_self, ih hrest,
        List.length_cons, Nat.zero_add]

end Groups

end JavaScript
