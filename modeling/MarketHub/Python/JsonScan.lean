import Mathlib.Tactic.Linarith
import MarketHub.Python.Json

/-!
What the scanner of `json` takes from a text.

* `Json.size`: the size of a value, in which a string counts its code points.
* `scanOnce_size`: a value is no larger than the text it is scanned from, so that what is decoded
  from a string inside a value is smaller than the value.
* `scanOnce_fuel`: the fuel of `loads` does not matter.
-/

namespace Python

/-! ### Sizes -/

mutual
/-- The size of a value. -/
def Json.size : Json → ℕ
  | .str t => t.length + 1
  | .arr items => sizeItems items + 1
  | .obj fields => sizeFields fields + 1
  | .null => 1
  | .bool _ => 1
  | .int _ => 1
  | .float _ => 1

/-- The size of the items of an array. -/
def sizeItems : List Json → ℕ
  | [] => 0
  | value :: items => value.size + sizeItems items

/-- The size of the members of an object. -/
def sizeFields : List (Text × Json) → ℕ
  | [] => 0
  | (_, value) :: fields => value.size + sizeFields fields
end

lemma Json.size_pos (v : Json) : 0 < v.size := by
  cases v <;> simp [Json.size]

lemma get_cons (key' : Text) (value : Json) (fields : List (Text × Json)) (key : Text) :
    get ((key', value) :: fields) key = if key' = key then some value else get fields key := by
  by_cases h : key' = key <;> simp [get, h]

/-- A member is smaller than its object. -/
lemma size_get {fields : List (Text × Json)} {key : Text} {value : Json}
    (h : get fields key = some value) : value.size ≤ sizeFields fields := by
  induction fields with
  | nil => cases h
  | cons field fields ih =>
      obtain ⟨key', old⟩ := field
      rw [get_cons] at h
      rw [sizeFields]
      split at h
      · cases h
        omega
      · have hle := ih h
        omega

lemma sizeFields_setItem (fields : List (Text × Json)) (key : Text) (value : Json) :
    sizeFields (setItem fields key value) ≤ sizeFields fields + value.size := by
  induction fields with
  | nil => simp [setItem, sizeFields]
  | cons field fields ih =>
      obtain ⟨key', old⟩ := field
      rw [setItem]
      split
      · simp only [sizeFields]
        omega
      · simp only [sizeFields]
        omega

/-- A `dict` keeps one value for a key. -/
lemma sizeFields_dict (members : List (Text × Json)) :
    sizeFields (dict members) ≤ sizeFields members := by
  suffices h : ∀ fields, sizeFields
      (members.foldl (fun fields member => setItem fields member.1 member.2) fields)
      ≤ sizeFields fields + sizeFields members by
    simpa [dict, sizeFields] using h []
  induction members with
  | nil => simp [sizeFields]
  | cons member members ih =>
      intro fields
      obtain ⟨key, value⟩ := member
      have hset := sizeFields_setItem fields key value
      have hrest := ih (setItem fields key value)
      rw [List.foldl_cons, sizeFields]
      dsimp only
      omega

/-! ### What is scanned -/

/-- A scanner takes at least the size of the value that it gives. -/
def Shrinks (scan : Text → Option (Json × Text)) : Prop :=
  ∀ {t v rest}, scan t = some (v, rest) → v.size + rest.length ≤ t.length

lemma length_skip (t : Text) : (skip t).length ≤ t.length := by
  exact (List.dropWhile_suffix _).length_le

lemma length_join (ps : List Piece) : (join ps).length ≤ ps.length := by
  fun_induction join ps <;> simp_all
  omega

lemma length_scanPieces {t rest : Text} {ps : List Piece} (h : scanPieces t = some (ps, rest)) :
    ps.length + rest.length < t.length := by
  fun_induction scanPieces t generalizing ps rest with
  | case1 => cases h
  | case2 t =>
      cases h
      simp
  | case3 a b c d t ih =>
      simp only [Option.bind_eq_bind, Option.bind_eq_some_iff] at h
      obtain ⟨n, -, ⟨ps', rest'⟩, hscan, hsome⟩ := h
      cases hsome
      have hlt := ih hscan
      simp only [List.length_cons]
      omega
  | case4 c t hu ih =>
      simp only [Option.bind_eq_bind, Option.bind_eq_some_iff] at h
      obtain ⟨c', -, ⟨ps', rest'⟩, hscan, hsome⟩ := h
      cases hsome
      have hlt := ih hscan
      simp only [List.length_cons]
      omega
  | case5 => cases h
  | case6 => cases h
  | case7 c t _ _ _ _ hcontrol ih =>
      simp only [Option.bind_eq_bind, Option.bind_eq_some_iff] at h
      obtain ⟨⟨ps', rest'⟩, hscan, hsome⟩ := h
      cases hsome
      have hlt := ih hscan
      simp only [List.length_cons]
      omega

lemma length_scanString {t s rest : Text} (h : scanString t = some (s, rest)) :
    s.length + rest.length < t.length := by
  obtain ⟨⟨ps, rest'⟩, hscan, hjoin⟩ := Option.map_eq_some_iff.mp h
  cases hjoin
  have hlt := length_scanPieces hscan
  have hle := length_join ps
  dsimp only
  omega

/-- The digits at the front of a text. -/
lemma length_span {p : Code → Bool} {t ds rest : Text} (h : t.span p = (ds, rest)) :
    ds.length + rest.length = t.length := by
  rw [List.span_eq_takeWhile_dropWhile] at h
  cases h
  rw [← List.length_append, List.takeWhile_append_dropWhile]

lemma length_scanMinus (t : Text) : (scanMinus t).2.length ≤ t.length := by
  rw [scanMinus.eq_def]
  split <;> simp

lemma length_scanWhole {t ds rest : Text} (h : scanWhole t = some (ds, rest)) :
    rest.length < t.length := by
  rw [scanWhole.eq_def] at h
  split at h
  · cases h
    simp
  · split at h
    rename_i ds' rest' hspan
    split at h
    · cases h
    · rename_i hne
      cases h
      have hlen := length_span hspan
      have hpos : 0 < ds.length := List.length_pos_iff.mpr (by simpa using hne)
      omega

lemma length_scanFraction {t ds rest : Text} (h : scanFraction t = some (ds, rest)) :
    rest.length ≤ t.length := by
  rw [scanFraction.eq_def] at h
  split at h
  · split at h
    rename_i ds' rest' hspan
    split at h
    · cases h
    · cases h
      have hlen := length_span hspan
      simp only [List.length_cons]
      omega
  · cases h

lemma length_scanSign (t : Text) : (scanSign t).2.length ≤ t.length := by
  rw [scanSign.eq_def]
  split
  · simp
  · exact length_scanMinus _

lemma length_scanExponent {t rest : Text} {e : ℤ} (h : scanExponent t = some (e, rest)) :
    rest.length ≤ t.length := by
  rw [scanExponent.eq_def] at h
  split at h
  · rename_i c t
    have hsign := length_scanSign t
    generalize scanSign t = p at h hsign
    obtain ⟨negative, t'⟩ := p
    dsimp only at h hsign
    generalize hspan : t'.span (isDigit 10) = q at h
    obtain ⟨ds, rest'⟩ := q
    have hlen := length_span hspan
    split at h
    · obtain ⟨n, -, hsome⟩ := Option.map_eq_some_iff.mp h
      cases hsome
      simp only [List.length_cons]
      omega
    · cases h
  · cases h

lemma length_scanNumber {t rest : Text} {v : Json} (h : scanNumber t = some (v, rest)) :
    v.size = 1 ∧ rest.length < t.length := by
  have hminus := length_scanMinus t
  rw [scanNumber] at h
  generalize scanMinus t = p at h hminus
  obtain ⟨negative, t₁⟩ := p
  simp only [Option.bind_eq_bind, Option.bind_eq_some_iff] at h
  obtain ⟨⟨whole, t₂⟩, hwhole, n, -, h⟩ := h
  have hlt := length_scanWhole hwhole
  dsimp only at hminus
  have hfraction : (((scanFraction t₂).map Prod.snd).getD t₂).length ≤ t₂.length := by
    cases hf : scanFraction t₂ with
    | none => exact le_rfl
    | some p => exact length_scanFraction hf
  generalize ((scanFraction t₂).map Prod.snd).getD t₂ = t₃ at h hfraction
  have hexponent : (((scanExponent t₃).map Prod.snd).getD t₃).length ≤ t₃.length := by
    cases he : scanExponent t₃ with
    | none => exact le_rfl
    | some p => exact length_scanExponent he
  split at h
  · split at h
    · cases h
      exact ⟨rfl, by omega⟩
    · cases h
  · cases h
    exact ⟨rfl, by omega⟩

lemma length_after {word t rest : Text} (h : after word t = some rest) :
    word.length + rest.length = t.length := by
  rw [after] at h
  split at h
  · rename_i hprefix
    cases h
    have hle := (List.isPrefixOf_iff_prefix.mp hprefix).length_le
    rw [List.length_drop]
    omega
  · cases h

lemma length_scanWord {t rest : Text} {v : Json} (h : scanWord t = some (v, rest)) :
    v.size = 1 ∧ rest.length < t.length := by
  obtain ⟨word, hmem, hword⟩ := List.exists_of_findSome?_eq_some h
  obtain ⟨rest', hafter, hpair⟩ := Option.map_eq_some_iff.mp hword
  cases hpair
  have hlen := length_after hafter
  have hwords : ∀ w ∈ words, w.2.size = 1 ∧ 0 < w.1.length := by
    simp [words, Json.size, text]
  obtain ⟨hsize, hpos⟩ := hwords word hmem
  exact ⟨hsize, by omega⟩

/-! ### The scanner takes what it gives -/

section Loops

variable {scan scan' : Text → Option (Json × Text)} {n m : ℕ} {t rest : Text}

lemma size_scanItems (hscan : Shrinks scan) {items : List Json}
    (h : scanItems scan n t = some (items, rest)) : sizeItems items + rest.length ≤ t.length := by
  induction n generalizing t items rest with
  | zero => cases h
  | succ n ih =>
      simp only [scanItems, Option.bind_eq_bind, Option.bind_eq_some_iff] at h
      obtain ⟨⟨v, t₁⟩, hv, h⟩ := h
      have hsize := hscan hv
      have hskip := length_skip t₁
      generalize skip t₁ = t₂ at h hskip
      split at h
      · cases h
        simp only [sizeItems, List.length_cons] at *
        omega
      · rename_i t₃
        simp only [Option.bind_eq_some_iff] at h
        obtain ⟨⟨items', rest'⟩, hitems, hsome⟩ := h
        cases hsome
        have hrest := ih hitems
        have hskip' := length_skip t₃
        simp only [sizeItems, List.length_cons] at *
        omega
      · cases h

lemma size_scanMembers (hscan : Shrinks scan) {members : List (Text × Json)}
    (h : scanMembers scan n t = some (members, rest)) :
    sizeFields members + rest.length ≤ t.length := by
  -- what is scanned and what is left take no more than the text
  induction n generalizing t members rest with
  | zero => cases h
  | succ n ih =>
      rw [scanMembers.eq_def] at h
      dsimp only at h
      split at h
      · rename_i t₀
        simp only [Option.bind_eq_bind, Option.bind_eq_some_iff] at h
        obtain ⟨⟨key, t₁⟩, hkey, h⟩ := h
        have hlt := length_scanString hkey
        have hskip₁ := length_skip t₁
        dsimp only at h
        generalize skip t₁ = t₂ at h hskip₁
        split at h
        · rename_i t₂
          simp only [Option.bind_eq_some_iff] at h
          obtain ⟨⟨v, t₃⟩, hv, h⟩ := h
          have hsize := hscan hv
          have hskip₂ := length_skip t₂
          have hskip₃ := length_skip t₃
          dsimp only at h
          generalize skip t₃ = t₄ at h hskip₃
          split at h
          · cases h
            simp only [sizeFields, List.length_cons] at *
            omega
          · rename_i t₅
            simp only [Option.bind_eq_some_iff] at h
            obtain ⟨⟨members', rest'⟩, hmembers, hsome⟩ := h
            cases hsome
            have hrest := ih hmembers
            have hskip₅ := length_skip t₅
            simp only [sizeFields, List.length_cons] at *
            omega
          · cases h
        · cases h
      · cases h

lemma size_scanValue (hscan : Shrinks scan) (n : ℕ) : Shrinks (scanValue scan n) := by
  intro t v rest h
  rw [scanValue.eq_def] at h
  -- a string, a list, an object, or a word or number
  split at h
  · rename_i t
    obtain ⟨⟨s, rest'⟩, hs, hpair⟩ := Option.map_eq_some_iff.mp h
    cases hpair
    have hlt := length_scanString hs
    simp only [Json.size, List.length_cons]
    omega
  · rename_i t
    have hskip := length_skip t
    generalize skip t = t₁ at h hskip
    split at h
    · cases h
      simp only [Json.size, sizeItems, List.length_cons] at *
      omega
    · obtain ⟨⟨items, rest'⟩, hitems, hpair⟩ := Option.map_eq_some_iff.mp h
      cases hpair
      have hsize := size_scanItems hscan hitems
      simp only [Json.size, List.length_cons]
      omega
  · rename_i t
    have hskip := length_skip t
    generalize skip t = t₁ at h hskip
    split at h
    · cases h
      simp only [Json.size, sizeFields, List.length_cons] at *
      omega
    · obtain ⟨⟨members, rest'⟩, hmembers, hpair⟩ := Option.map_eq_some_iff.mp h
      cases hpair
      have hsize := size_scanMembers hscan hmembers
      have hdict := sizeFields_dict members
      simp only [Json.size, List.length_cons]
      omega
  · have hsmall : v.size = 1 ∧ rest.length < t.length := by
      rcases Option.or_eq_some_iff.mp h with hword | ⟨-, hnumber⟩
      · exact length_scanWord hword
      · exact length_scanNumber hnumber
    omega

end Loops

/-- **A value is no larger than its text.** -/
lemma scanOnce_size : ∀ n, Shrinks (scanOnce n)
  | 0 => fun h => (by cases h)
  | n + 1 => size_scanValue (scanOnce_size n) n

/-- **What a text decodes to is no larger than the text.** -/
lemma size_loads {t : Text} {v : Json} (h : loads t = some v) : v.size ≤ t.length := by
  rw [loads.eq_def] at h
  split at h
  · cases h
  · split at h
    · rename_i value rest hscan
      split at h
      · cases h
        have hsize := scanOnce_size _ hscan
        have hskip := length_skip t
        omega
      · cases h
    · cases h

/-! ### Fuel -/

section Fuel

variable {scan scan' : Text → Option (Json × Text)} {n m : ℕ} {t : Text}

lemma scanItems_fuel (hscan : Shrinks scan)
    (hsame : ∀ t' : Text, t'.length ≤ t.length → scan t' = scan' t') (hn : t.length < n)
    (hm : t.length < m) : scanItems scan n t = scanItems scan' m t := by
  induction n generalizing t m with
  | zero => omega
  | succ n ih =>
      obtain ⟨m, rfl⟩ : ∃ m', m = m' + 1 := ⟨m - 1, by omega⟩
      rw [scanItems, scanItems, ← hsame t le_rfl]
      cases hv : scan t with
      | none => rfl
      | some p =>
          obtain ⟨v, t₁⟩ := p
          have hsize := hscan hv
          have hpos := v.size_pos
          have hskip := length_skip t₁
          simp only [Option.bind_eq_bind, Option.bind_some]
          generalize skip t₁ = t₂ at hskip
          split
          · rfl
          · rename_i t₃
            have hskip₃ := length_skip t₃
            rw [List.length_cons] at hskip
            rw [ih (fun t' ht' => hsame t' (by omega)) (by omega)
              (show (skip t₃).length < m by omega)]
          · rfl

lemma scanMembers_fuel (hscan : Shrinks scan)
    (hsame : ∀ t' : Text, t'.length ≤ t.length → scan t' = scan' t') (hn : t.length < n)
    (hm : t.length < m) : scanMembers scan n t = scanMembers scan' m t := by
  -- by induction on the fuel; every member takes one character at least
  induction n generalizing t m with
  | zero => omega
  | succ n ih =>
      obtain ⟨m, rfl⟩ : ∃ m', m = m' + 1 := ⟨m - 1, by omega⟩
      rw [scanMembers.eq_def, scanMembers.eq_def]
      dsimp only
      split
      · rename_i t₀
        cases hkey : scanString t₀ with
        | none => rfl
        | some p =>
            obtain ⟨key, t₁⟩ := p
            have hlt := length_scanString hkey
            have hskip₁ := length_skip t₁
            simp only [Option.bind_eq_bind, Option.bind_some, List.length_cons] at *
            generalize skip t₁ = t₂ at hskip₁
            split
            · rename_i t₂
              have hskip₂ := length_skip t₂
              rw [List.length_cons] at hskip₁
              rw [← hsame (skip t₂) (by omega)]
              cases hv : scan (skip t₂) with
              | none => rfl
              | some p =>
                  obtain ⟨v, t₃⟩ := p
                  have hsize := hscan hv
                  have hskip₃ := length_skip t₃
                  simp only [Option.bind_some]
                  generalize skip t₃ = t₄ at hskip₃
                  split
                  · rfl
                  · rename_i t₅
                    have hskip₅ := length_skip t₅
                    rw [List.length_cons] at hskip₃
                    rw [ih (fun t' ht' => hsame t' (by omega)) (by omega)
                      (show (skip t₅).length < m by omega)]
                  · rfl
            · rfl
      · rfl

lemma scanValue_fuel (hscan : Shrinks scan)
    (hsame : ∀ t' : Text, t'.length < t.length → scan t' = scan' t') (hn : t.length ≤ n)
    (hm : t.length ≤ m) : scanValue scan n t = scanValue scan' m t := by
  rw [scanValue.eq_def, scanValue.eq_def]
  split
  · rfl
  · rename_i t
    have hskip := length_skip t
    rw [List.length_cons] at hn hm
    generalize skip t = t₁ at hskip
    split
    · rfl
    · rw [scanItems_fuel hscan (fun t' ht' => hsame t' ?_) (by omega) (show t₁.length < m by omega)]
      rw [List.length_cons]
      omega
  · rename_i t
    have hskip := length_skip t
    rw [List.length_cons] at hn hm
    generalize skip t = t₁ at hskip
    split
    · rfl
    · rw [scanMembers_fuel hscan (fun t' ht' => hsame t' ?_) (by omega)
        (show t₁.length < m by omega)]
      rw [List.length_cons]
      omega
  · rfl

end Fuel

/-- **More fuel than the text is long changes nothing.** -/
lemma scanOnce_fuel {n m : ℕ} {t : Text} (hn : t.length < n) (hm : t.length < m) :
    scanOnce n t = scanOnce m t := by
  induction n generalizing t m with
  | zero => omega
  | succ n ih =>
      obtain ⟨m, rfl⟩ : ∃ m', m = m' + 1 := ⟨m - 1, by omega⟩
      rw [scanOnce, scanOnce]
      exact scanValue_fuel (scanOnce_size n) (fun t' ht' => ih (by omega) (by omega)) (by omega)
        (by omega)

end Python
