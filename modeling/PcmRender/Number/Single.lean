/-
  PcmRender.Number.Single — **32-bit floating point as words.**

  A `Single` is its word, so equality is equality of bits: the two zeros differ, and a NaN equals
  itself.  The arithmetic rounds the exact result once, to nearest with ties to even.

  NaN travels by these rules.  An operation that meets one answers the first operand that is NaN,
  made quiet; an operation without a value (`∞ - ∞`, `∞ · 0`) answers the quiet NaN with its sign
  set.

  Main definitions:
    * `Single.reading` — what a word stands for,
    * `Single.add`, `Single.sub`, `Single.mul`,
    * `Single.clamp`, `Single.scaled?` — limiting, and rounding to an integer.
-/
import PcmRender.Number.Binary

namespace PcmRender

/-- A 32-bit floating point number, by its word. -/
structure Single where
  /-- The word. -/
  word : UInt32
deriving DecidableEq, Inhabited, Repr

namespace Single

/-! ## §1. Words and what they stand for. -/

/-- The format of a word. -/
abbrev layout : BinaryFormat := BinaryFormat.single

/-- What a word stands for. -/
inductive Reading
  /-- No number. -/
  | notNumber
  /-- Positive or negative infinity. -/
  | infinite (negative : Bool)
  /-- `± significand · 2 ^ exponent` units. -/
  | finite (negative : Bool) (significand exponent : Nat)
deriving DecidableEq, Repr

/-- The word without its sign. -/
def magnitude (x : Single) : Nat := x.word.toNat % layout.signWeight

/-- Whether the sign bit is set. -/
def negative (x : Single) : Bool := decide (layout.signWeight ≤ x.word.toNat)

/-- Whether the word is no number. -/
def isNaN (x : Single) : Bool := decide (layout.infinity < x.magnitude)

/-- What the word stands for. -/
def reading (x : Single) : Reading :=
  if layout.infinity < x.magnitude then .notNumber
  else if x.magnitude = layout.infinity then .infinite x.negative
  else .finite x.negative (layout.split x.magnitude).1 (layout.split x.magnitude).2

/-- The number with this sign and this magnitude word. -/
def ofMagnitude (negative : Bool) (magnitude : Nat) : Single :=
  ⟨UInt32.ofNat (if negative then layout.signWeight + magnitude else magnitude)⟩

/-- The NaN of an operation without a value. -/
def invalid : Single := ⟨0xffc00000⟩

/-- A NaN made quiet. -/
def quiet (x : Single) : Single := ⟨x.word ||| 0x00400000⟩

/-- Infinity with a sign. -/
def infinity (negative : Bool) : Single := ofMagnitude negative layout.infinity

/-- Zero with a sign. -/
def zero (negative : Bool) : Single := ofMagnitude negative 0

/-- One. -/
def one : Single := ⟨0x3f800000⟩

/-- Minus one. -/
def minusOne : Single := ⟨0xbf800000⟩

/-- The number nearest to `n / 2 ^ k`. -/
def ratio (n : Int) (k : Nat) : Single :=
  ofMagnitude (decide (n < 0)) (layout.nearestRatio n.natAbs (Nat.pow 2 k))

/-! ## §2. Order. -/

/-- A key that orders the numbers, and the two zeros alike. -/
def key (x : Single) : Int := if x.negative then -(x.magnitude : Int) else x.magnitude

/-- Whether `x < y`; false if one of them is NaN. -/
def lt (x y : Single) : Bool := !x.isNaN && !y.isNaN && decide (x.key < y.key)

/-- `x` held between `low` and `high`; a NaN stays as it is. -/
def clamp (low high x : Single) : Single :=
  if x.lt low then low else if high.lt x then high else x

/-- The number without its sign. -/
def abs (x : Single) : Single := ofMagnitude false x.magnitude

/-! ## §3. Arithmetic. -/

/-- The number with the other sign. -/
def neg (x : Single) : Single := ofMagnitude (!x.negative) x.magnitude

/-- The exact integer `± m · 2^e` as a number of units shifted down by `low` places. -/
def signedUnits (negative : Bool) (m e low : Nat) : Int :=
  let n : Int := (m * Nat.pow 2 (e - low) : Nat)
  if negative then -n else n

/-- `x + y`. -/
def add (x y : Single) : Single :=
  if x.isNaN then x.quiet
  else if y.isNaN then y.quiet
  else match x.reading, y.reading with
    | .infinite s, .infinite r => if s = r then x else invalid
    | .infinite _, _ => x
    | _, .infinite _ => y
    | .finite s m e, .finite r n f =>
      let low := min e f
      let sum := signedUnits s m e low + signedUnits r n f low
      if sum = 0 then zero (s && r)
      else ofMagnitude (decide (sum < 0)) (layout.nearest (sum.natAbs * Nat.pow 2 low) 1)
    | _, _ => invalid

/-- `x - y`; a NaN in `y` keeps its sign. -/
def sub (x y : Single) : Single := if y.isNaN then x.add y else x.add y.neg

/-- `x · y`. -/
def mul (x y : Single) : Single :=
  if x.isNaN then x.quiet
  else if y.isNaN then y.quiet
  else match x.reading, y.reading with
    | .finite s m e, .finite r n f =>
      ofMagnitude (s != r) (layout.nearest (m * n * Nat.pow 2 (e + f)) (Nat.pow 2 layout.unitPlaces))
    | _, _ =>
      if x.magnitude = 0 || y.magnitude = 0 then invalid else infinity (x.negative != y.negative)

/-! ## §4. Rounding to an integer. -/

/-- The narrower of the two binary formats that holds `scale` exactly. -/
def formatFor (scale : Nat) : BinaryFormat :=
  if scale < Nat.pow 2 (layout.fractionBits + 1) then layout else BinaryFormat.double

/-- `x · scale`, formed in the format of `scale` and then rounded to an integer, a tie away from
zero, within `low` and `high`.  `none` for NaN. -/
def scaled? (x : Single) (scale : Nat) (low high : Int) : Option Int :=
  match x.reading with
  | .notNumber => none
  | .infinite negative => some (if negative then low else high)
  | .finite negative m e =>
    let wide := formatFor scale
    -- The product is a floating point number before it is rounded to an integer.
    let word := wide.nearest (m * scale * Nat.pow 2 (e + wide.unitPlaces)) (Nat.pow 2 layout.unitPlaces)
    let n : Int := BinaryFormat.roundAway (wide.units word) (Nat.pow 2 wide.unitPlaces)
    some (max low (min high (if negative then -n else n)))

end Single

end PcmRender
