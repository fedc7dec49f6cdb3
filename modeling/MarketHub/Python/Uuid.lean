import MarketHub.Python.Text

/-!
The text of a `UUID`.

* `Uuid.str`: `str(uuid)`.
* `parseUuid`: `UUID(text)`, of which the digits may only be the plain ones.
* `parseUuid_grouped`: what is read of digits in groups; `parseUuid_str`: the round trip.
-/

namespace Python

/-- `UUID`: a number of 128 bits. -/
abbrev Uuid := Fin (2 ^ 128)

/-- The hyphen between the groups of digits. -/
def hyphen : Code := .char '-'

/-- `str(uuid)`: 32 digits in five groups. -/
def Uuid.str (u : Uuid) : Text :=
  let hex := write 16 32 u
  hex.take 8 ++ hyphen :: ((hex.drop 8).take 4 ++ hyphen :: ((hex.drop 12).take 4
    ++ hyphen :: ((hex.drop 16).take 4 ++ hyphen :: hex.drop 20)))

/-- The text without a word, of which `k` more code points are passed over. -/
def removeFrom (word : Text) : ℕ → Text → Text
  | _, [] => []
  | k + 1, _ :: t => removeFrom word k t
  | 0, c :: t =>
      if word.isPrefixOf (c :: t) then removeFrom word (word.length - 1) t
      else c :: removeFrom word 0 t

/-- `text.replace(word, "")`. -/
def remove (word t : Text) : Text := removeFrom word 0 t

/-- A brace. -/
def brace (c : Code) : Bool := c = .char '{' ∨ c = .char '}'

/-- `UUID(text)`. -/
def parseUuid (t : Text) : Option Uuid :=
  let t := remove (text "uuid:") (remove (text "urn:") t)
  let hex := ((t.dropWhile brace).reverse.dropWhile brace).reverse.filter (· ≠ hyphen)
  if hex.length = 32 then
    (read 16 hex).bind fun n => if h : n < 2 ^ 128 then some ⟨n, h⟩ else none
  else none

/-- A text without the first character of a word keeps everything. -/
lemma removeFrom_of_not_mem {first : Code} (word t : Text) (h : first ∉ t) :
    removeFrom (first :: word) 0 t = t := by
  induction t with
  | nil => rfl
  | cons c t ih =>
      rw [List.mem_cons, not_or] at h
      rw [removeFrom, if_neg, ih h.2]
      simp [h.1]

/-- The digits in five groups. -/
def grouped (ds : Text) : Text :=
  ds.take 8 ++ hyphen :: ((ds.drop 8).take 4 ++ hyphen :: ((ds.drop 12).take 4
    ++ hyphen :: ((ds.drop 16).take 4 ++ hyphen :: ds.drop 20)))

lemma str_eq_grouped (u : Uuid) : u.str = grouped (write 16 32 u) := rfl

lemma mem_grouped {ds : Text} {c : Code} (h : c ∈ grouped ds) : c = hyphen ∨ c ∈ ds := by
  simp only [grouped, List.mem_append, List.mem_cons] at h
  rcases h with h | h | h | h | h | h | h | h | h
  · exact .inr (List.mem_of_mem_take h)
  · exact .inl h
  · exact .inr (List.mem_of_mem_drop (List.mem_of_mem_take h))
  · exact .inl h
  · exact .inr (List.mem_of_mem_drop (List.mem_of_mem_take h))
  · exact .inl h
  · exact .inr (List.mem_of_mem_drop (List.mem_of_mem_take h))
  · exact .inl h
  · exact .inr (List.mem_of_mem_drop h)

lemma mem_str {u : Uuid} {c : Code} (h : c ∈ u.str) : c = hyphen ∨ isDigit 16 c = true :=
  (mem_grouped h).imp_right (isDigit_write (by norm_num) (by norm_num) 32 u c)

/-- The groups make the digits. -/
lemma groups_append (ds : Text) :
    ds.take 8 ++ ((ds.drop 8).take 4
      ++ ((ds.drop 12).take 4 ++ ((ds.drop 16).take 4 ++ ds.drop 20)))
      = ds := by
  have hgroup : ∀ i, (ds.drop i).take 4 ++ ds.drop (i + 4) = ds.drop i := by
    intro i
    rw [← List.drop_drop, List.take_append_drop]
  rw [hgroup 16, hgroup 12, hgroup 8, List.take_append_drop]

/-- The digits without the hyphens. -/
lemma filter_grouped {ds : Text} (hdigit : ∀ c ∈ ds, isDigit 16 c = true) :
    (grouped ds).filter (· ≠ hyphen) = ds := by
  have hkeep : ∀ t : Text, t ⊆ ds → t.filter (· ≠ hyphen) = t := by
    intro t ht
    refine List.filter_eq_self.mpr fun c hc => ?_
    have hne : c ≠ hyphen := by
      rintro rfl
      exact absurd (hdigit _ (ht hc)) (by decide)
    simpa using hne
  have hslice : ∀ i, (ds.drop i).take 4 ⊆ ds := fun i _ hc =>
    List.mem_of_mem_drop (List.mem_of_mem_take hc)
  have hhyphen : ∀ t : Text, (hyphen :: t).filter (· ≠ hyphen) = t.filter
      (· ≠ hyphen) := fun t => by
    simp
  rw [grouped, List.filter_append, hhyphen, List.filter_append, hhyphen,
    List.filter_append, hhyphen,
    List.filter_append, hhyphen, hkeep _ (List.take_subset _ _), hkeep _ (hslice 8),
    hkeep _ (hslice 12), hkeep _ (hslice 16), hkeep _ (List.drop_subset _ _), groups_append]

/-- A text without braces at its front. -/
lemma dropWhile_brace {t : Text} (h : ∀ c ∈ t, brace c = false) : t.dropWhile brace = t := by
  cases t with
  | nil => rfl
  | cons c t => rw [List.dropWhile_cons_of_neg (by simp [h c List.mem_cons_self])]

/-- Digits in groups are read as the number they write. -/
lemma parseUuid_grouped {ds : Text} (hdigit : ∀ c ∈ ds, isDigit 16 c = true)
    (hlength : ds.length = 32) {n : ℕ} (hn : n < 2 ^ 128) (hread : read 16 ds = some n) :
    parseUuid (grouped ds) = some ⟨n, hn⟩ := by
  have hnot : ∀ c ∈ grouped ds, c ≠ .char 'u' ∧ brace c = false := by
    intro c hc
    rcases mem_grouped hc with rfl | hmem
    · decide
    · have hhex := hdigit c hmem
      refine ⟨?_, ?_⟩
      · rintro rfl
        exact absurd hhex (by decide)
      · have hne : c ≠ .char '{' ∧ c ≠ .char '}' := by
          constructor <;>
            · rintro rfl
              exact absurd hhex (by decide)
        simpa [brace] using hne
  have hremove : ∀ word, remove (.char 'u' :: word) (grouped ds) = grouped ds := fun word =>
    removeFrom_of_not_mem word _ fun hmem => (hnot _ hmem).1 rfl
  rw [parseUuid, show remove (text "urn:") (grouped ds) = grouped ds from hremove _,
    show remove (text "uuid:") (grouped ds) = grouped ds from hremove _]
  rw [dropWhile_brace fun c hc => (hnot c hc).2, dropWhile_brace fun c hc =>
    (hnot c (List.mem_reverse.mp hc)).2, List.reverse_reverse, filter_grouped hdigit,
    if_pos hlength, hread, Option.bind_some, dif_pos hn]

/-- **The text of a UUID reads back.** -/
theorem parseUuid_str (u : Uuid) : parseUuid u.str = some u :=
  parseUuid_grouped (isDigit_write (by norm_num) (by norm_num) 32 u) (length_write 16 32 u) u.isLt
    (read_write (by norm_num) (by norm_num) (by have := u.isLt; omega))

lemma scalar_str (u : Uuid) : u.str.Scalar := by
  intro c hc
  rcases mem_str hc with rfl | hdigit
  · exact ⟨_, rfl⟩
  · cases c with
    | char ch => exact ⟨ch, rfl⟩
    | surrogate => cases hdigit

lemma str_ne_nil (u : Uuid) : u.str ≠ [] := by
  simp [Uuid.str]

end Python
