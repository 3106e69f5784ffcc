/-
  PcmRender.Number.Binary — **binary floating point formats, rounded to nearest.**

  A format has a fraction of `fractionBits` bits and an exponent of `exponentBits`; its least
  positive value is one *unit*.  Every finite magnitude is then `m · 2^e` units, and its word is

      e · 2^fractionBits + m

  both below the normal range (where `e = 0`) and in it: the leading bit of `m` carries into the
  exponent field, and so does a significand that rounds up to a power of two.

  Main definitions:
    * `BinaryFormat.nearest` — the word closest to a quotient of units, a tie to the even word,
    * `BinaryFormat.split` — the significand and the exponent of a finite word.
-/

namespace PcmRender

/-- A binary floating point format, sign bit aside. -/
structure BinaryFormat where
  /-- Bits of the fraction. -/
  fractionBits : Nat
  /-- Bits of the exponent. -/
  exponentBits : Nat
deriving DecidableEq, Repr

namespace BinaryFormat

/-! ## §1. The two formats in use. -/

/-- Words of 32 bits. -/
def single : BinaryFormat := ⟨23, 8⟩

/-- Words of 64 bits. -/
def double : BinaryFormat := ⟨52, 11⟩

/-- How many powers of two one unit lies below one. -/
def unitPlaces (b : BinaryFormat) : Nat := Nat.pow 2 (b.exponentBits - 1) + b.fractionBits - 2

/-- The word of infinity. -/
def infinity (b : BinaryFormat) : Nat := (Nat.pow 2 b.exponentBits - 1) * Nat.pow 2 b.fractionBits

/-- The weight of the sign bit. -/
def signWeight (b : BinaryFormat) : Nat := Nat.pow 2 (b.fractionBits + b.exponentBits)

/-! ## §2. From a word to its value and back. -/

/-- The significand and the exponent of a finite word without its sign: `(m, e)` is `m · 2^e`
units. -/
def split (b : BinaryFormat) (word : Nat) : Nat × Nat :=
  let field := word / Nat.pow 2 b.fractionBits
  if field = 0 then (word, 0)
  else (Nat.pow 2 b.fractionBits + word % Nat.pow 2 b.fractionBits, field - 1)

/-- The value of a finite word in units. -/
def units (b : BinaryFormat) (word : Nat) : Nat :=
  let (m, e) := b.split word
  m * Nat.pow 2 e

/-- `num / den` rounded to an integer, a tie to the even one. -/
def roundEven (num den : Nat) : Nat :=
  let low := num / den
  let rest := 2 * (num % den)
  if rest < den then low
  else if den < rest then low + 1
  else low + low % 2

/-- `num / den` rounded to an integer, a tie away from zero. -/
def roundAway (num den : Nat) : Nat := (2 * num + den) / (2 * den)

/-- The word whose value is nearest to `num / den` units, a tie to the even word; what lies
beyond the largest finite value is infinity. -/
def nearest (b : BinaryFormat) (num den : Nat) : Nat :=
  -- Below the normal range the exponent stays at zero, because the subtraction stops there.
  let e := (num / den).log2 - b.fractionBits
  min (e * Nat.pow 2 b.fractionBits + roundEven num (den * Nat.pow 2 e)) b.infinity

/-- The word whose value is nearest to the number `num / den`. -/
def nearestRatio (b : BinaryFormat) (num den : Nat) : Nat :=
  b.nearest (num * Nat.pow 2 b.unitPlaces) den

/-- A magnitude word of one format in another, rounded to nearest.  Infinity stays infinity, and
what is no number stays so. -/
def convert (b c : BinaryFormat) (word : Nat) : Nat :=
  if word < b.infinity then c.nearest (b.units word * Nat.pow 2 c.unitPlaces) (Nat.pow 2 b.unitPlaces)
  else if word = b.infinity then c.infinity
  else c.infinity + Nat.pow 2 (c.fractionBits - 1)

end BinaryFormat

end PcmRender
