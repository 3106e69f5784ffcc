/-
  PcmRender.Decimal.Literal — **decimal text as floating point.**

  A literal has an optional sign and is a decimal with an optional fraction and exponent, at least
  one digit before or behind the point, or one of the words `inf`, `infinity` and `nan` in letters
  of either case.  Its value is the word nearest to it.

  Main definitions:
    * `BinaryFormat.nearestDecimal` — the word nearest to a decimal,
    * `FloatLiteral.parse?` — the literal in a text,
    * `FloatLiteral.word` — its value in a format.
-/
import PcmRender.Decimal.Shortest

namespace PcmRender

/-! ## §1. Values. -/

/-- The magnitude word nearest to `digits · 10 ^ exponent`.  A leading digit far outside the range
of the format decides at once. -/
def BinaryFormat.nearestDecimal (b : BinaryFormat) (d : Decimal) : Nat :=
  let lead : Int := ((Nat.toDigits 10 d.digits).length : Int) + d.exponent
  if d.digits = 0 then 0
  else if (b.unitPlaces : Int) < lead then b.infinity
  else if lead < -(b.unitPlaces : Int) then 0
  else b.nearestRatio (d.digits * Nat.pow 10 d.exponent.toNat) (Nat.pow 10 (-d.exponent).toNat)

/-- What a literal says, sign aside. -/
inductive FloatMagnitude
  /-- A decimal. -/
  | decimal (value : Decimal)
  /-- Infinity. -/
  | infinity
  /-- No number. -/
  | notNumber
deriving DecidableEq, Inhabited, Repr

/-- A floating point literal. -/
structure FloatLiteral where
  /-- Whether it has a minus sign. -/
  negative : Bool
  /-- The rest. -/
  magnitude : FloatMagnitude
deriving DecidableEq, Inhabited, Repr

/-! ## §2. Digits. -/

/-- The number that decimal digits write. -/
def digitsValue (digits : List Char) : Nat :=
  digits.foldl (fun n c => 10 * n + (c.toNat - '0'.toNat)) 0

/-- A sign in front of a text, and the text behind it. -/
def splitSign : List Char → Bool × List Char
  | '-' :: rest => (true, rest)
  | '+' :: rest => (false, rest)
  | text => (false, text)

/-- The exponent that a text is, if it is one; no text is the exponent zero. -/
def exponent? : List Char → Option Int
  | [] => some 0
  | e :: text =>
    let (negative, digits) := splitSign text
    if (e = 'e' ∨ e = 'E') ∧ digits ≠ [] ∧ digits.all Char.isDigit then
      some (if negative then -(digitsValue digits : Int) else digitsValue digits)
    else none

namespace FloatLiteral

/-! ## §3. Literals. -/

/-- The decimal that a text without a sign is. -/
def decimal? (text : List Char) : Option Decimal :=
  let whole := text.takeWhile Char.isDigit
  let rest := text.dropWhile Char.isDigit
  let (part, rest) := match rest with
    | '.' :: rest => (rest.takeWhile Char.isDigit, rest.dropWhile Char.isDigit)
    | rest => ([], rest)
  if whole = [] ∧ part = [] then none
  else (exponent? rest).map fun e => ⟨digitsValue (whole ++ part), e - part.length⟩

/-- The literal that a text is. -/
def parse? (text : List Char) : Option FloatLiteral :=
  let (negative, rest) := splitSign text
  let word := String.ofList (rest.map Char.toLower)
  if word = "inf" ∨ word = "infinity" then some ⟨negative, .infinity⟩
  else if word = "nan" then some ⟨negative, .notNumber⟩
  else (decimal? rest).map fun d => ⟨negative, .decimal d⟩

/-- The magnitude word of a literal in a format. -/
def magnitudeWord (b : BinaryFormat) (l : FloatLiteral) : Nat :=
  match l.magnitude with
  | .decimal d => b.nearestDecimal d
  | .infinity => b.infinity
  | .notNumber => b.infinity + Nat.pow 2 (b.fractionBits - 1)

/-- The word of a literal in a format. -/
def word (b : BinaryFormat) (l : FloatLiteral) : Nat :=
  (if l.negative then b.signWeight else 0) + l.magnitudeWord b

end FloatLiteral

/-- The 32-bit number that a text is. -/
def Single.ofText? (text : List Char) : Option Single :=
  (FloatLiteral.parse? text).map fun l => ⟨UInt32.ofNat (l.word Single.layout)⟩

end PcmRender
