import MarketHub.Python.JsonScan

/-!
What `json.dumps` writes, `json.loads` reads back.

* `Json.Scalar`: the texts of a value have no surrogates, and the keys of an object differ.
* `loads_dumps`: the round trip, for the values whose text `dumps` gives.
-/

namespace Python

/-! ### Strings -/

/-- The pieces that the scanner makes of an escaped character. -/
def pieces (c : Char) : List Piece :=
  if c = '"' ∨ c = '\\' ∨ c = '\n' ∨ c = '\r' ∨ c = '\t' ∨ c = '\x0c' ∨ c = '\x08'
      ∨ 0x20 ≤ c.toNat ∧ c.toNat < 0x7F then [.code (.char c)]
  else if c.toNat < 0x10000 then [.unit c.toNat]
  else [.unit (0xD800 + (c.toNat - 0x10000) / 0x400), .unit (0xDC00 + (c.toNat - 0x10000) % 0x400)]

lemma toNat_valid (c : Char) : c.toNat < 0xD800 ∨ 0xE000 ≤ c.toNat ∧ c.toNat < 0x110000 := by
  rcases c.valid with h | ⟨h, h'⟩
  · exact .inl h
  · exact .inr ⟨h, h'⟩

lemma unitCode_toNat (c : Char) : unitCode c.toNat = .char c := by
  have hvalid := toNat_valid c
  rw [unitCode, dif_neg (by omega), Char.ofNat_toNat]

/-- The units of an escaped character do not pair with what follows. -/
lemma join_pieces (c : Char) (ps : List Piece) : join (pieces c ++ ps) = .char c :: join ps := by
  have hvalid := toNat_valid c
  rw [pieces]
  split
  · rfl
  · split
    · have hhigh : ¬ High c.toNat := fun h => by
        obtain ⟨hlow, hlt⟩ := h
        omega
      have hunit := unitCode_toNat c
      match ps with
      | [] => simp [join, hunit]
      | .code _ :: _ => simp [join, hunit]
      | .unit _ :: _ => simp [join, hunit, hhigh]
    · have hpair : High (0xD800 + (c.toNat - 0x10000) / 0x400)
          ∧ Low (0xDC00 + (c.toNat - 0x10000) % 0x400) :=
        ⟨⟨by omega, by omega⟩, by omega, by omega⟩
      have hsum : 0x10000 + (0xD800 + (c.toNat - 0x10000) / 0x400 - 0xD800) * 0x400
          + (0xDC00 + (c.toNat - 0x10000) % 0x400 - 0xDC00) = c.toNat := by omega
      rw [List.cons_append, List.cons_append, List.nil_append, join, if_pos hpair, hsum,
        Char.ofNat_toNat]

/-- A unit reads back. -/
lemma scanPieces_unicodeEscape {n : ℕ} (hn : n < 0x10000) (rest : Text) :
    scanPieces (unicodeEscape n ++ rest)
      = (scanPieces rest).map fun p => (.unit n :: p.1, p.2) := by
  have hread : read 16 (write 16 4 n) = some n := read_write (by norm_num) (by norm_num) (by omega)
  have hlen : (write 16 4 n).length = 4 := length_write 16 4 n
  have hescape : text "\\u" = [.char '\\', .char 'u'] := rfl
  rw [unicodeEscape, hescape]
  generalize write 16 4 n = ds at hread hlen
  match ds, hlen with
  | [a, b, c, d], _ =>
    simp only [List.cons_append, List.nil_append, scanPieces, hread]
    cases scanPieces rest <;> rfl

/-- A character that needs no escape reads back. -/
lemma scanPieces_plain {c : Char} (hquote : c ≠ '"') (hback : c ≠ '\\') (hcontrol : 0x20 ≤ c.toNat)
    (rest : Text) :
    scanPieces (.char c :: rest) = (scanPieces rest).map fun p =>
      (.code (.char c) :: p.1, p.2) := by
  have hc : control (.char c) = false := by simpa [control] using hcontrol
  rw [scanPieces.eq_def]
  split
  · rename_i h
    cases h
  · rename_i h
    cases h
    exact absurd rfl hquote
  · rename_i h
    cases h
    exact absurd rfl hback
  · rename_i h
    cases h
    exact absurd rfl hback
  · rename_i h
    cases h
    exact absurd rfl hback
  · rename_i h
    cases h
    rw [hc]
    cases scanPieces rest <;> rfl

lemma scanPieces_escapeChar (c : Char) (rest : Text) :
    scanPieces (escapeChar c ++ rest)
      = (scanPieces rest).map fun p => (pieces c ++ p.1, p.2) := by
  by_cases hletter : c = '"' ∨ c = '\\' ∨ c = '\n' ∨ c = '\r' ∨ c = '\t' ∨ c = '\x0c' ∨ c = '\x08'
  · rcases hletter with rfl | rfl | rfl | rfl | rfl | rfl | rfl <;>
      · change (scanPieces rest).bind _ = _
        cases scanPieces rest <;> rfl
  · simp only [not_or] at hletter
    obtain ⟨hquote, hback, hn, hr, ht, hf, hb⟩ := hletter
    simp only [escapeChar, pieces, hquote, hback, hn, hr, ht, hf, hb, if_false, false_or]
    split
    · rename_i hplain
      exact scanPieces_plain hquote hback hplain.1 rest
    · have hvalid := toNat_valid c
      split
      · rename_i hlt
        exact scanPieces_unicodeEscape hlt rest
      · rw [List.append_assoc, scanPieces_unicodeEscape (by omega),
          scanPieces_unicodeEscape (by omega),
          Option.map_map]
        rfl

/-- **A string reads back.** -/
lemma scanString_escape {t : Text} (ht : t.Scalar) (rest : Text) :
    scanString (t.flatMap escape ++ .char '"' :: rest) = some (t, rest) := by
  have hpieces : ∃ ps, scanPieces (t.flatMap escape ++ .char '"' :: rest) = some (ps, rest)
      ∧ join ps = t := by
    induction t with
    | nil => exact ⟨[], rfl, rfl⟩
    | cons c t ih =>
        obtain ⟨ps, hscan, hjoin⟩ := ih fun c' hc' => ht c' (List.mem_cons_of_mem _ hc')
        obtain ⟨ch, rfl⟩ := ht c List.mem_cons_self
        refine ⟨pieces ch ++ ps, ?_, by rw [join_pieces, hjoin]⟩
        rw [List.flatMap_cons, List.append_assoc, escape, scanPieces_escapeChar, hscan]
        rfl
  obtain ⟨ps, hscan, hjoin⟩ := hpieces
  rw [scanString, hscan, Option.map_some, hjoin]

/-! ### Values -/

mutual
/-- The texts of a value have no surrogates, and the keys of an object differ. -/
def Json.Scalar : Json → Prop
  | .str t => t.Scalar
  | .arr items => ScalarItems items
  | .obj fields => ScalarFields fields ∧ (fields.map Prod.fst).Nodup
  | .null => True
  | .bool _ => True
  | .int _ => True
  | .float _ => True

/-- The same of the items of an array. -/
def ScalarItems : List Json → Prop
  | [] => True
  | value :: items => value.Scalar ∧ ScalarItems items

/-- The same of the members of an object. -/
def ScalarFields : List (Text × Json) → Prop
  | [] => True
  | (key, value) :: fields => key.Scalar ∧ value.Scalar ∧ ScalarFields fields
end

lemma setItem_of_not_mem {fields : List (Text × Json)} {key : Text} (value : Json)
    (h : key ∉ fields.map Prod.fst) : setItem fields key value = fields ++ [(key, value)] := by
  induction fields with
  | nil => rfl
  | cons field fields ih =>
      obtain ⟨key', old⟩ := field
      rw [List.map_cons, List.mem_cons, not_or] at h
      rw [setItem, if_neg (Ne.symm h.1), ih h.2, List.cons_append]

/-- Members whose keys differ are a `dict`. -/
lemma dict_of_nodup {members : List (Text × Json)} (h : (members.map Prod.fst).Nodup) :
    dict members = members := by
  suffices hall : ∀ fields, ((fields ++ members).map Prod.fst).Nodup →
      members.foldl (fun fields member => setItem fields member.1 member.2) fields
        = fields ++ members from hall [] h
  clear h
  induction members with
  | nil => simp
  | cons member members ih =>
      intro fields hnodup
      have hnew : member.1 ∉ fields.map Prod.fst := by
        rw [List.map_append, List.map_cons] at hnodup
        exact fun hmem => (List.nodup_append.mp hnodup).2.2 _ hmem _ List.mem_cons_self rfl
      rw [List.foldl_cons, setItem_of_not_mem _ hnew, ih, List.append_assoc]
      · rfl
      · rwa [List.append_assoc]

/-- A text whose white space is nothing. -/
lemma skip_char {c : Char} (h : space (.char c) = false) (t : Text) :
    skip (.char c :: t) = .char c :: t := by
  rw [skip, List.dropWhile_cons_of_neg (by simp [h])]

/-- The text of a value starts with no white space and no mark, and closes no bracket. -/
lemma dumps_head {v : Json} {t : Text} (h : dumps v = some t) :
    ∃ c t', t = .char c :: t' ∧ space (.char c) = false ∧ c ≠ ']' ∧ c ≠ '\ufeff' := by
  rw [dumps.eq_def] at h
  split at h
  · cases h
    exact ⟨'n', _, rfl, rfl, by decide, by decide⟩
  · cases h
    exact ⟨'t', _, rfl, rfl, by decide, by decide⟩
  · cases h
    exact ⟨'f', _, rfl, rfl, by decide, by decide⟩
  · cases h
  · cases h
  · cases h
    exact ⟨'"', _, rfl, rfl, by decide, by decide⟩
  · cases h
    exact ⟨'[', _, rfl, rfl, by decide, by decide⟩
  · simp only [Option.bind_eq_bind, Option.bind_eq_some_iff] at h
    obtain ⟨_, -, _, -, h⟩ := h
    cases h
    exact ⟨'[', _, rfl, rfl, by decide, by decide⟩
  · cases h
    exact ⟨'{', _, rfl, rfl, by decide, by decide⟩
  · simp only [Option.bind_eq_bind, Option.bind_eq_some_iff] at h
    obtain ⟨_, -, _, -, h⟩ := h
    cases h
    exact ⟨'{', _, rfl, rfl, by decide, by decide⟩

lemma skip_dumps {v : Json} {t : Text} (h : dumps v = some t) (rest : Text) :
    skip (t ++ rest) = t ++ rest := by
  obtain ⟨c, t', rfl, hspace, -, -⟩ := dumps_head h
  exact skip_char hspace _

/-! ### One step of the scanner -/

section Steps

variable {scan : Text → Option (Json × Text)} {n : ℕ} {t : Text}

lemma scanValue_arr {c : Char} (hspace : space (.char c) = false) (hc : c ≠ ']') :
    scanValue scan n (.char '[' :: .char c :: t)
      = (scanItems scan n (.char c :: t)).map fun p => (.arr p.1, p.2) := by
  rw [scanValue, skip_char hspace]
  split
  · rename_i heq
    cases heq
    exact absurd rfl hc
  · rfl

lemma scanItems_next {item : Json} {ti tn : Text} (hitem : scan ti = some (item, text ", " ++ tn))
    (htn : skip tn = tn) :
    scanItems scan (n + 1) ti = (scanItems scan n tn).map fun p => (item :: p.1, p.2) := by
  have hskip : skip (text " " ++ tn) = tn := htn
  rw [scanItems, hitem]
  change ((scanItems scan n (skip (text " " ++ tn))).bind fun p => some (item :: p.1, p.2)) = _
  rw [hskip]
  cases scanItems scan n tn <;> rfl

/-- The key of a member, its value and what follows. -/
lemma scanMembers_key {key : Text} {value : Json} {tv rest : Text} (hkey : key.Scalar)
    (htv : skip tv = tv) (hvalue : scan tv = some (value, rest)) :
    scanMembers scan (n + 1) (dumpString key ++ (text ": " ++ tv))
      = match skip rest with
        | .char '}' :: rest => some ([(key, value)], rest)
        | .char ',' :: rest =>
            (scanMembers scan n (skip rest)).bind fun p => some ((key, value) :: p.1, p.2)
        | _ => none := by
  have hscan : scanString (key.flatMap escape ++ .char '"' :: (text ": " ++ tv))
      = some (key, text ": " ++ tv) := scanString_escape hkey _
  have htext : dumpString key ++ (text ": " ++ tv)
      = .char '"' :: (key.flatMap escape ++ .char '"' :: (text ": " ++ tv)) := by
    rw [dumpString, List.append_assoc, List.append_assoc]
    rfl
  have hskip : skip (text " " ++ tv) = tv := htv
  rw [htext, scanMembers, hscan]
  change ((scan (skip (text " " ++ tv))).bind _) = _
  rw [hskip, hvalue]
  rfl

lemma scanMembers_last {key : Text} {value : Json} {tv rest : Text} (hkey : key.Scalar)
    (htv : skip tv = tv) (hvalue : scan tv = some (value, text "\x7d" ++ rest)) :
    scanMembers scan (n + 1) (dumpString key ++ (text ": " ++ tv))
      = some ([(key, value)], rest) := by
  rw [scanMembers_key hkey htv hvalue]
  rfl

lemma scanMembers_next {key : Text} {value : Json} {tv tn : Text} (hkey : key.Scalar)
    (htv : skip tv = tv) (hvalue : scan tv = some (value, text ", " ++ tn)) (htn : skip tn = tn) :
    scanMembers scan (n + 1) (dumpString key ++ (text ": " ++ tv))
      = (scanMembers scan n tn).map fun p => ((key, value) :: p.1, p.2) := by
  have hskip : skip (text " " ++ tn) = tn := htn
  rw [scanMembers_key hkey htv hvalue]
  change ((scanMembers scan n (skip (text " " ++ tn))).bind fun p =>
    some ((key, value) :: p.1, p.2)) = _
  rw [hskip]
  cases scanMembers scan n tn <;> rfl

end Steps

mutual
/-- **The text of a value is scanned as the value.** -/
theorem scanOnce_dumps : ∀ (v : Json) {t : Text} {n : ℕ}, dumps v = some t → v.Scalar → v.size ≤ n →
    ∀ rest, scanOnce n (t ++ rest) = some (v, rest)
  | .null, t, n + 1, h, _, _, rest => by
      rw [dumps] at h
      cases h
      rfl
  | .bool true, t, n + 1, h, _, _, rest => by
      rw [dumps] at h
      cases h
      rfl
  | .bool false, t, n + 1, h, _, _, rest => by
      rw [dumps] at h
      cases h
      rfl
  | .int _, t, n, h, _, _, rest => by
      rw [dumps] at h
      cases h
  | .float _, t, n, h, _, _, rest => by
      rw [dumps] at h
      cases h
  | .str s, t, n + 1, h, hs, _, rest => by
      rw [dumps] at h
      cases h
      have hscan : scanString (s.flatMap escape ++ .char '"' :: rest) = some (s, rest) :=
        scanString_escape (by simpa [Json.Scalar] using hs) rest
      change (scanString (s.flatMap escape ++ text "\"" ++ rest)).map _ = _
      rw [List.append_assoc]
      exact congrArg (Option.map _) hscan
  | .arr [], t, n + 1, h, _, _, rest => by
      rw [dumps] at h
      cases h
      rfl
  | .arr (item :: items), t, n + 1, h, hs, hn, rest => by
      -- the fuel of `scanOnce` is the size, so each item leaves enough for the rest
      rw [dumps] at h
      simp only [Option.bind_eq_bind, Option.bind_eq_some_iff] at h
      obtain ⟨ti, hti, tr, htr, h⟩ := h
      cases h
      rw [Json.Scalar, ScalarItems] at hs
      rw [Json.size, sizeItems] at hn
      have hitem := scanOnce_dumps item hti hs.1 (show item.size ≤ n by omega)
      have hitems := scanItems_dumps items hitem htr hs.2 (by omega)
        (show sizeItems items < n by have := item.size_pos; omega) rest
      obtain ⟨c, t', rfl, hspace, hc, -⟩ := dumps_head hti
      change scanValue (scanOnce n) n (.char '[' :: .char c :: (t' ++ tr ++ rest)) = _
      rw [scanValue_arr hspace hc, List.append_assoc]
      exact congrArg (Option.map _) hitems
  | .obj [], t, n + 1, h, _, _, rest => by
      rw [dumps] at h
      cases h
      rfl
  | .obj ((key, value) :: fields), t, n + 1, h, hs, hn, rest => by
      -- distinct keys, so that the dict keeps every field
      rw [dumps] at h
      simp only [Option.bind_eq_bind, Option.bind_eq_some_iff] at h
      obtain ⟨tv, htv, tr, htr, h⟩ := h
      cases h
      rw [Json.Scalar, ScalarFields] at hs
      rw [Json.size, sizeFields] at hn
      obtain ⟨⟨hkey, hvalue, hfields⟩, hnodup⟩ := hs
      have hpos := value.size_pos
      have hmembers := scanMembers_dumps fields hkey (skip_dumps htv)
        (scanOnce_dumps value htv hvalue (show value.size ≤ n by omega)) htr hfields (by omega)
        (show sizeFields fields < n by omega) rest
      have htext : text "\x7b" ++ dumpString key ++ text ": " ++ tv ++ tr ++ rest
          = text "\x7b" ++ (dumpString key ++ (text ": " ++ (tv ++ (tr ++ rest)))) := by
        simp only [List.append_assoc]
      rw [htext]
      change (scanMembers (scanOnce n) n
        (dumpString key ++ (text ": " ++ (tv ++ (tr ++ rest))))).map
        (fun p => (Json.obj (dict p.1), p.2)) = _
      rw [hmembers, Option.map_some, dict_of_nodup hnodup]
  | v, t, 0, h, _, hn, rest => by
      have hpos := v.size_pos
      omega

theorem scanItems_dumps : ∀ (items : List Json) {item : Json} {ti tr : Text} {n k : ℕ},
    (∀ rest, scanOnce n (ti ++ rest) = some (item, rest)) → dumpItems items = some tr →
    ScalarItems items → sizeItems items ≤ n → sizeItems items < k →
    ∀ rest, scanItems (scanOnce n) k (ti ++ (tr ++ rest)) = some (item :: items, rest)
  | [], item, ti, tr, n, k + 1, hitem, h, _, _, _, rest => by
      rw [dumpItems] at h
      cases h
      rw [scanItems, hitem]
      rfl
  | next :: items, item, ti, tr, n, k + 1, hitem, h, hs, hn, hk, rest => by
      rw [dumpItems] at h
      simp only [Option.bind_eq_bind, Option.bind_eq_some_iff] at h
      obtain ⟨tn, htn, tr', htr, h⟩ := h
      cases h
      rw [ScalarItems] at hs
      rw [sizeItems] at hn hk
      have hpos := next.size_pos
      have hnext := scanOnce_dumps next htn hs.1 (show next.size ≤ n by omega)
      have hitems := scanItems_dumps items hnext htr hs.2 (by omega)
        (show sizeItems items < k by omega) rest
      have hstep : scanOnce n (ti ++ (text ", " ++ tn ++ tr' ++ rest))
          = some (item, text ", " ++ (tn ++ (tr' ++ rest))) := by
        rw [hitem]
        simp only [List.append_assoc]
      rw [scanItems_next hstep (skip_dumps htn _), hitems]
      rfl

theorem scanMembers_dumps : ∀ (fields : List (Text × Json)) {key : Text} {value : Json}
    {tv tr : Text} {n k : ℕ}, key.Scalar → (∀ rest, skip (tv ++ rest) = tv ++ rest) →
    (∀ rest, scanOnce n (tv ++ rest) = some (value, rest)) → dumpFields fields = some tr →
    ScalarFields fields → sizeFields fields ≤ n → sizeFields fields < k →
    ∀ rest, scanMembers (scanOnce n) k (dumpString key ++ (text ": " ++ (tv ++ (tr ++ rest))))
      = some ((key, value) :: fields, rest)
  | [], key, value, tv, tr, n, k + 1, hkey, hskip, hvalue, h, _, _, _, rest => by
      rw [dumpFields] at h
      cases h
      exact scanMembers_last hkey (hskip _) (hvalue _)
  | (key', next) :: fields, key, value, tv, tr, n, k + 1, hkey, hskip, hvalue, h, hs, hn,
        hk, rest => by
      rw [dumpFields] at h
      simp only [Option.bind_eq_bind, Option.bind_eq_some_iff] at h
      obtain ⟨tn, htn, tr', htr, h⟩ := h
      cases h
      rw [ScalarFields] at hs
      rw [sizeFields] at hn hk
      have hpos := next.size_pos
      have hnext := scanOnce_dumps next htn hs.2.1 (show next.size ≤ n by omega)
      have hfields := scanMembers_dumps fields hs.1 (skip_dumps htn) hnext htr hs.2.2 (by omega)
        (show sizeFields fields < k by omega) rest
      have hstep : scanOnce n (tv ++ (text ", " ++ dumpString key' ++ text ": " ++ tn
          ++ tr' ++ rest))
          = some (value, text ", "
            ++ (dumpString key' ++ (text ": " ++ (tn ++ (tr' ++ rest))))) := by
        rw [hvalue]
        simp only [List.append_assoc]
      rw [scanMembers_next hkey (hskip _) hstep (skip_char rfl _), hfields]
      rfl
end

/-- **What is written reads back.** -/
theorem loads_dumps {v : Json} {t : Text} (h : dumps v = some t) (hv : v.Scalar) :
    loads t = some v := by
  have hscan : scanOnce (t.length + 1 + v.size) t = some (v, []) := by
    have hread := scanOnce_dumps v (n := t.length + 1 + v.size) h hv (by omega) []
    rwa [List.append_nil] at hread
  rw [scanOnce_fuel (show t.length < t.length + 1 + v.size by omega) (Nat.lt_succ_self _)] at hscan
  have hskip : skip t = t := by simpa using skip_dumps h []
  obtain ⟨c, t', rfl, -, -, hmark⟩ := dumps_head h
  rw [loads.eq_def]
  split
  · rename_i heq
    cases heq
    exact absurd rfl hmark
  · rw [hskip, hscan]
    rfl

end Python
