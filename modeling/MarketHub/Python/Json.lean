import Mathlib.Data.Int.Log
import Mathlib.Data.Rat.Floor
import MarketHub.Python.Number

/-!
The module `json` of Python.

* `Json`: the decoded values. An object is a `dict`, with its keys in the order of insertion.
* `loads`: what a text decodes to. The scanner has fuel, one unit for each nested value or member.
* `dumps`: the text of a value that holds no numbers.
-/

namespace Python

/-! ### Values -/

/-- A binary floating-point number of 64 bits. The magnitude of a finite one is exact. -/
inductive Float64 where
  | nan
  | infinity (negative : Bool)
  | finite (negative : Bool) (magnitude : ℚ)

/-- The integer nearest to a number, an even one where two are. -/
def roundHalfEven (x : ℚ) : ℤ :=
  if x - ⌊x⌋ < 1 / 2 then ⌊x⌋
  else if 1 / 2 < x - ⌊x⌋ then ⌊x⌋ + 1
  else if ⌊x⌋ % 2 = 0 then ⌊x⌋ else ⌊x⌋ + 1

/-- The float nearest to a number, which is given by its sign and its magnitude. -/
def Float64.nearest (negative : Bool) (x : ℚ) : Float64 :=
  if x = 0 then .finite negative 0
  else
    let unit : ℚ := 2 ^ max (Int.log 2 x - 52) (-1074)
    let magnitude := roundHalfEven (x / unit) * unit
    if magnitude < 2 ^ 1024 then .finite negative magnitude else .infinity negative

/-- A decoded value. -/
inductive Json where
  | null
  | bool (b : Bool)
  | int (n : ℤ)
  | float (x : Float64)
  | str (t : Text)
  | arr (items : List Json)
  | obj (fields : List (Text × Json))

/-- `bool(value)`. -/
def Json.truthy : Json → Bool
  | .null => false
  | .bool b => b
  | .int n => n ≠ 0
  | .float (.finite _ x) => x ≠ 0
  | .float _ => true
  | .str t => !t.isEmpty
  | .arr items => !items.isEmpty
  | .obj fields => !fields.isEmpty

/-- `fields.get(key)`. -/
def get (fields : List (Text × Json)) (key : Text) : Option Json :=
  (fields.find? fun field => field.1 = key).map Prod.snd

/-- `fields[key] = value`. -/
def setItem : List (Text × Json) → Text → Json → List (Text × Json)
  | [], key, value => [(key, value)]
  | (key', old) :: fields, key, value =>
      if key' = key then (key, value) :: fields else (key', old) :: setItem fields key value

/-! ### Strings -/

/-- A piece of a string: a code point, or an escaped unit of 16 bits. -/
inductive Piece where
  | code (c : Code)
  | unit (n : ℕ)

/-- The code point of a unit that is not paired. -/
def unitCode (n : ℕ) : Code :=
  if h : 0xD800 ≤ n ∧ n < 0xE000 then .surrogate ⟨n - 0xD800, by omega⟩ else .char (Char.ofNat n)

/-- The first unit of a pair. -/
def High (n : ℕ) : Prop := 0xD800 ≤ n ∧ n < 0xDC00

/-- The second unit of a pair. -/
def Low (n : ℕ) : Prop := 0xDC00 ≤ n ∧ n < 0xE000

instance (n : ℕ) : Decidable (High n) := inferInstanceAs (Decidable (_ ∧ _))

instance (n : ℕ) : Decidable (Low n) := inferInstanceAs (Decidable (_ ∧ _))

/-- The code points of the pieces: two escaped units may make one. -/
def join : List Piece → Text
  | [] => []
  | .code c :: ps => c :: join ps
  | .unit n :: .unit m :: ps =>
      if High n ∧ Low m then
        .char (Char.ofNat (0x10000 + (n - 0xD800) * 0x400 + (m - 0xDC00))) :: join ps
      else unitCode n :: join (.unit m :: ps)
  | .unit n :: ps => unitCode n :: join ps

/-- The character after a backslash. -/
def unescape (c : Char) : Option Char :=
  if c = '"' ∨ c = '\\' ∨ c = '/' then some c
  else if c = 'b' then some '\x08'
  else if c = 'f' then some '\x0c'
  else if c = 'n' then some '\n'
  else if c = 'r' then some '\r'
  else if c = 't' then some '\t'
  else none

/-- A control character, which a string may not hold as it is. -/
def control : Code → Bool
  | .char c => c.toNat < 0x20
  | .surrogate _ => false

/-- The pieces up to the closing quote, and the text after it. -/
def scanPieces : Text → Option (List Piece × Text)
  | [] => none
  | .char '"' :: rest => some ([], rest)
  | .char '\\' :: .char 'u' :: a :: b :: c :: d :: rest => do
      let n ← read 16 [a, b, c, d]
      let (ps, rest) ← scanPieces rest
      return (.unit n :: ps, rest)
  | .char '\\' :: .char c :: rest => do
      let c ← unescape c
      let (ps, rest) ← scanPieces rest
      return (.code (.char c) :: ps, rest)
  | .char '\\' :: _ => none
  | c :: rest =>
      if control c then none
      else do
        let (ps, rest) ← scanPieces rest
        return (.code c :: ps, rest)

/-- A string, behind its opening quote. -/
def scanString (t : Text) : Option (Text × Text) := (scanPieces t).map fun p => (join p.1, p.2)

/-! ### Numbers and words -/

/-- An optional minus. -/
def scanMinus : Text → Bool × Text
  | .char '-' :: t => (true, t)
  | t => (false, t)

/-- The digits before the point. -/
def scanWhole : Text → Option (Text × Text)
  | .char '0' :: t => some ([.char '0'], t)
  | t =>
      let (ds, rest) := t.span (isDigit 10)
      if ds = [] then none else some (ds, rest)

/-- The digits behind the point, if there are a point and digits. -/
def scanFraction : Text → Option (Text × Text)
  | .char '.' :: t =>
      let (ds, rest) := t.span (isDigit 10)
      if ds = [] then none else some (ds, rest)
  | _ => none

/-- An optional sign. -/
def scanSign : Text → Bool × Text
  | .char '+' :: t => (false, t)
  | t => scanMinus t

/-- The exponent, if there are an `e` and digits. -/
def scanExponent : Text → Option (ℤ × Text)
  | .char c :: t =>
      let (negative, t) := scanSign t
      let (ds, rest) := t.span (isDigit 10)
      if (c = 'e' ∨ c = 'E') ∧ ds ≠ [] then
        (read 10 ds).map fun n => (if negative then -n else n, rest)
      else none
  | _ => none

/-- A number. -/
def scanNumber (t : Text) : Option (Json × Text) := do
  let (negative, t) := scanMinus t
  let (whole, t) ← scanWhole t
  let fraction := scanFraction t
  let t := (fraction.map Prod.snd).getD t
  let exponent := scanExponent t
  let t := (exponent.map Prod.snd).getD t
  let ds := (fraction.map Prod.fst).getD []
  let n ← read 10 (whole ++ ds)
  if fraction.isNone ∧ exponent.isNone then
    if whole.length ≤ maxStrDigits then some (.int (if negative then -n else n), t) else none
  else
    let scale : ℤ := (exponent.map Prod.fst).getD 0 - ds.length
    some (.float (.nearest negative (n * (10 : ℚ) ^ scale)), t)

/-- The words that write a value. -/
def words : List (Text × Json) :=
  [(text "null", .null), (text "true", .bool true), (text "false", .bool false),
    (text "NaN", .float .nan), (text "Infinity", .float (.infinity false)),
    (text "-Infinity", .float (.infinity true))]

/-- The text after a word that it starts with. -/
def after (word t : Text) : Option Text :=
  if word.isPrefixOf t then some (t.drop word.length) else none

/-- A word. -/
def scanWord (t : Text) : Option (Json × Text) :=
  words.findSome? fun word => (after word.1 t).map fun rest => (word.2, rest)

/-! ### Values in a text -/

/-- White space. -/
def space : Code → Bool
  | .char c => c = ' ' ∨ c = '\t' ∨ c = '\n' ∨ c = '\r'
  | .surrogate _ => false

/-- The text behind its white space. -/
def skip (t : Text) : Text := t.dropWhile space

/-- The items of an array and its bracket, given how a value is scanned. -/
def scanItems (scan : Text → Option (Json × Text)) : ℕ → Text → Option (List Json × Text)
  | 0, _ => none
  | n + 1, t => do
      let (value, t) ← scan t
      match skip t with
      | .char ']' :: rest => return ([value], rest)
      | .char ',' :: rest =>
          let (items, rest) ← scanItems scan n (skip rest)
          return (value :: items, rest)
      | _ => none

/-- The members of an object and its brace, given how a value is scanned. -/
def scanMembers (scan : Text → Option (Json × Text)) : ℕ → Text → Option (List (Text × Json) × Text)
  | 0, _ => none
  | n + 1, t => do
      let .char '"' :: t := t | none
      let (key, t) ← scanString t
      let .char ':' :: t := skip t | none
      let (value, t) ← scan (skip t)
      match skip t with
      | .char '}' :: rest => return ([(key, value)], rest)
      | .char ',' :: rest =>
          let (members, rest) ← scanMembers scan n (skip rest)
          return ((key, value) :: members, rest)
      | _ => none

/-- The members in the order of the text make a `dict`: the last of a key counts. -/
def dict (members : List (Text × Json)) : List (Text × Json) :=
  members.foldl (fun fields member => setItem fields member.1 member.2) []

/-- A value and the text after it, given how the values inside it are scanned. -/
def scanValue (scan : Text → Option (Json × Text)) (n : ℕ) : Text → Option (Json × Text)
  | .char '"' :: t => (scanString t).map fun p => (.str p.1, p.2)
  | .char '[' :: t =>
      match skip t with
      | .char ']' :: rest => some (.arr [], rest)
      | t => (scanItems scan n t).map fun p => (.arr p.1, p.2)
  | .char '{' :: t =>
      match skip t with
      | .char '}' :: rest => some (.obj [], rest)
      | t => (scanMembers scan n t).map fun p => (.obj (dict p.1), p.2)
  | t => (scanWord t).or (scanNumber t)

/-- A value and the text after it. -/
def scanOnce : ℕ → Text → Option (Json × Text)
  | 0, _ => none
  | n + 1, t => scanValue (scanOnce n) n t

/-- `json.loads`: the value of a text, with nothing but white space around it. -/
def loads (t : Text) : Option Json :=
  match t with
  | .char '\ufeff' :: _ => none
  | t =>
      match scanOnce (t.length + 1) (skip t) with
      | some (value, rest) => if (skip rest).isEmpty then some value else none
      | none => none

/-! ### The text of a value -/

/-- The escape of a unit. -/
def unicodeEscape (n : ℕ) : Text := text "\\u" ++ write 16 4 n

/-- A character in a string. -/
def escapeChar (c : Char) : Text :=
  if c = '"' then text "\\\""
  else if c = '\\' then text "\\\\"
  else if c = '\n' then text "\\n"
  else if c = '\r' then text "\\r"
  else if c = '\t' then text "\\t"
  else if c = '\x0c' then text "\\f"
  else if c = '\x08' then text "\\b"
  else if 0x20 ≤ c.toNat ∧ c.toNat < 0x7F then [.char c]
  else if c.toNat < 0x10000 then unicodeEscape c.toNat
  else unicodeEscape (0xD800 + (c.toNat - 0x10000) / 0x400)
    ++ unicodeEscape (0xDC00 + (c.toNat - 0x10000) % 0x400)

/-- A code point in a string. -/
def escape : Code → Text
  | .char c => escapeChar c
  | .surrogate c => unicodeEscape (0xD800 + c)

/-- A string with its quotes. -/
def dumpString (t : Text) : Text := text "\"" ++ t.flatMap escape ++ text "\""

mutual
/-- `json.dumps` of a value without numbers, whose texts are left out. -/
def dumps : Json → Option Text
  | .null => some (text "null")
  | .bool true => some (text "true")
  | .bool false => some (text "false")
  | .int _ => none
  | .float _ => none
  | .str t => some (dumpString t)
  | .arr [] => some (text "[]")
  | .arr (item :: items) => do return text "[" ++ (← dumps item) ++ (← dumpItems items)
  | .obj [] => some (text "\x7b\x7d")
  | .obj ((key, value) :: fields) => do
      return text "\x7b" ++ dumpString key ++ text ": " ++ (← dumps value) ++ (← dumpFields fields)

/-- The items behind the first, and the bracket. -/
def dumpItems : List Json → Option Text
  | [] => some (text "]")
  | item :: items => do return text ", " ++ (← dumps item) ++ (← dumpItems items)

/-- The members behind the first, and the brace. -/
def dumpFields : List (Text × Json) → Option Text
  | [] => some (text "\x7d")
  | (key, value) :: fields => do
      return text ", " ++ dumpString key ++ text ": " ++ (← dumps value) ++ (← dumpFields fields)
end

end Python
