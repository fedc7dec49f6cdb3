import MarketHub.Frontend.CatalogView

/-!
The offer editor of the seller (`SellerOfferDetailPage.tsx`, `price.ts`).

The editor keeps the fields of the offer it was opened on as text. `handleSaveOffer`
turns them into the body of a `PATCH`, which always carries all three fields.

* `NumberBuiltins`: `Number` and `toFixed`. Of `Number` nothing is used but that it reads
  back what `String` writes of an integer of 32 bits (`ReadsIntegers`).
* `handleSaveOffer_stock`: a save whose stock field was not touched carries the stock
  the editor was opened with.
* `decimalLiterals`: the two functions on plain decimal literals.
-/

namespace MarketHub

open Python JavaScript

/-! ### Numbers as text -/

/-- `Number(text)` where it is finite, and `amount.toFixed(2)`. -/
structure NumberBuiltins where
  number : Text → Option ℚ
  toFixed : ℚ → Text

/-- `String(n)`. -/
def stringOfInt (n : ℤ) : Text :=
  if n < 0 then hyphen :: decimal n.natAbs else decimal n.natAbs

/-- `Number(String(n))` is `n` for the integers of 32 bits. -/
def NumberBuiltins.ReadsIntegers (js : NumberBuiltins) : Prop :=
  ∀ n : ℤ, -2147483648 ≤ n → n < 2147483648 → js.number (stringOfInt n) = some (n : ℚ)

/-- `toApiPrice`. -/
def toApiPrice (js : NumberBuiltins) (value : Text) : Option Text :=
  let normalized := Frontend.replaceComma (trim value)
  if normalized = [] then none
  else
    match js.number normalized with
    | none => none
    | some amount => if amount < 0 then none else some (js.toFixed amount)

/-! ### The editor -/

/-- The state of `SellerOfferEditor`. -/
structure OfferEditor where
  offerId : UUID
  price : Text
  stock : Text
  available : Bool

/-- The editor opened on an offer. -/
def OfferEditor.opened (offer : OfferResponse) : OfferEditor where
  offerId := offer.id
  price := text offer.price
  stock := stringOfInt offer.stock
  available := offer.available

/-- What the seller may do to the fields besides the stock. -/
inductive OfferEdit where
  | setPrice (price : Text)
  | setAvailable (available : Bool)

/-- One edit. -/
def OfferEditor.edit (editor : OfferEditor) : OfferEdit → OfferEditor
  | .setPrice price => { editor with price := price }
  | .setAvailable available => { editor with available := available }

/-- The body of the `PATCH`. -/
structure OfferBody where
  price : Text
  stock : ℕ
  available : Bool
  deriving DecidableEq

/-- `handleSaveOffer`: the body of the request, or the message shown instead. -/
def OfferEditor.handleSaveOffer (js : NumberBuiltins) (editor : OfferEditor) :
    Except String OfferBody :=
  -- `!apiPrice` is true of null and of the empty text
  match (toApiPrice js editor.price).filter (· ≠ []) with
  | none => .error "Informe um preço válido (ex.: 10.00)."
  | some apiPrice =>
      match js.number editor.stock with
      | none => .error "Informe um estoque inteiro maior ou igual a zero."
      | some stockValue =>
          if stockValue.den ≠ 1 || stockValue < 0 then
            .error "Informe um estoque inteiro maior ou igual a zero."
          else
            .ok { price := apiPrice, stock := stockValue.num.toNat, available := editor.available }

/-- The body as the service takes it when its price is the text of a `Price`; otherwise the answer
is a 422. -/
def OfferBody.update (body : OfferBody) (price : Price) : OfferUpdate where
  price := some (some price)
  stock := some (some body.stock)
  available := some (some body.available)

/-! ### What a save carries -/

/-- The stock field is left as it was loaded. -/
lemma stock_edits (editor : OfferEditor) (edits : List OfferEdit) :
    (edits.foldl OfferEditor.edit editor).stock = editor.stock := by
  induction edits generalizing editor with
  | nil => rfl
  | cons e edits ih =>
      rw [List.foldl_cons, ih]
      cases e <;> rfl

/-- A save whose stock field was not touched carries the loaded stock. -/
lemma handleSaveOffer_stock {js : NumberBuiltins} (hjs : js.ReadsIntegers) {offer : OfferResponse}
    (hfits : -2147483648 ≤ offer.stock ∧ offer.stock < 2147483648) {edits : List OfferEdit}
    {body : OfferBody}
    (h : (edits.foldl OfferEditor.edit (OfferEditor.opened offer)).handleSaveOffer js = .ok body) :
    (body.stock : ℤ) = offer.stock := by
  rw [OfferEditor.handleSaveOffer] at h
  split at h
  · cases h
  · have hstock : (edits.foldl OfferEditor.edit (OfferEditor.opened offer)).stock
        = stringOfInt offer.stock := stock_edits _ edits
    rw [hstock, hjs offer.stock hfits.1 hfits.2] at h
    simp only at h
    split at h
    · cases h
    · rename_i hneg
      cases h
      have hpos : 0 ≤ offer.stock := by simpa using hneg
      simpa using hpos

/-! ### Plain decimal literals -/

/-- Digits, with at most one point. -/
def unsignedLiteral (t : Text) : Option ℚ :=
  match t.dropWhile isAsciiDigit with
  | [] => if t = [] then none else some (numberOf t)
  | c :: fraction =>
      if c = .char '.' ∧ fraction.all isAsciiDigit = true then
        some (numberOf (t.takeWhile isAsciiDigit ++ fraction) / 10 ^ fraction.length)
      else none

/-- A sign is a hyphen. -/
def signedLiteral (t : Text) : Option ℚ :=
  match t with
  | [] => none
  | c :: rest => if c = hyphen then (unsignedLiteral rest).map (- ·) else unsignedLiteral t

/-- The functions on plain decimal literals, with exact values. -/
def decimalLiterals : NumberBuiltins where
  number := signedLiteral
  toFixed amount :=
    let cents := ⌊amount * 100 + 1 / 2⌋.toNat
    decimal (cents / 100) ++ .char '.' :: write 10 2 (cents % 100)

lemma unsignedLiteral_decimal (n : ℕ) : unsignedLiteral (decimal n) = some (n : ℚ) := by
  have hdrop : (decimal n).dropWhile isAsciiDigit = [] :=
    List.dropWhile_eq_nil_iff.mpr isAsciiDigit_decimal
  rw [unsignedLiteral, hdrop]
  simp [decimal_ne_nil, numberOf_decimal]

/-- Integers read back. -/
lemma decimalLiterals_readsIntegers : decimalLiterals.ReadsIntegers := by
  intro n _ _
  by_cases hn : n < 0
  · have htext : stringOfInt n = hyphen :: decimal n.natAbs := if_pos hn
    have habs : (n.natAbs : ℚ) = -n := by
      rw [Nat.cast_natAbs, abs_of_neg hn, Int.cast_neg]
    calc decimalLiterals.number (stringOfInt n)
        = (unsignedLiteral (decimal n.natAbs)).map (- ·) := by rw [htext]; rfl
      _ = some (n : ℚ) := by rw [unsignedLiteral_decimal, habs]; simp
  · have htext : stringOfInt n = decimal n.natAbs := if_neg hn
    have habs : (n.natAbs : ℚ) = n := by
      rw [Nat.cast_natAbs, abs_of_nonneg (not_lt.mp hn)]
    have hunsigned : signedLiteral (decimal n.natAbs) = unsignedLiteral (decimal n.natAbs) := by
      cases hdecimal : decimal n.natAbs with
      | nil => exact absurd hdecimal decimal_ne_nil
      | cons c rest =>
          have hdigit : isAsciiDigit c = true :=
            isAsciiDigit_decimal c (hdecimal ▸ List.mem_cons_self)
          have hc : c ≠ hyphen := by
            rintro rfl
            exact absurd hdigit (by decide)
          exact if_neg hc
    calc decimalLiterals.number (stringOfInt n)
        = signedLiteral (decimal n.natAbs) := by rw [htext]; rfl
      _ = some (n : ℚ) := by rw [hunsigned, unsignedLiteral_decimal, habs]

end MarketHub
