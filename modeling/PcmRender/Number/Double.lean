/-
  PcmRender.Number.Double — **64-bit floating point as words.**

  A `Double` is its word, as a `Single` is.  Each finite number is a whole number of units, the least
  positive value of the format, so a sum is formed exactly, as an integer, and rounded once.

  NaN travels as among the numbers of 32 bits: an operation that meets one answers the first operand
  that is NaN, made quiet; an operation without a value answers the quiet NaN with its sign set.

  Main definitions:
    * `Double.signedUnits` — what a word stands for,
    * `Double.add`, `Double.sub`, `Double.div`,
    * `Double.floor`, `Double.whole` — the integer below, as a number and as an integer of 64 bits,
    * `Double.narrow` — the nearest number of 32 bits.
-/
import PcmRender.Number.Single

namespace PcmRender

/-- A 64-bit floating point number, by its word. -/
structure Double where
  /-- The word. -/
  word : UInt64
deriving DecidableEq, Inhabited, Repr

namespace Double

/-! ## §1. Words and what they stand for. -/

/-- The format of a word. -/
abbrev layout : BinaryFormat := BinaryFormat.double

/-- The word without its sign. -/
def magnitude (x : Double) : Nat := x.word.toNat % layout.signWeight

/-- Whether the sign bit is set. -/
def negative (x : Double) : Bool := decide (layout.signWeight ≤ x.word.toNat)

/-- Whether the word is no number. -/
def isNaN (x : Double) : Bool := decide (layout.infinity < x.magnitude)

/-- Whether the word is one of the two infinities. -/
def isInfinite (x : Double) : Bool := decide (x.magnitude = layout.infinity)

/-- The number in units.  An infinity is read as the power of two behind the largest finite number. -/
def signedUnits (x : Double) : Int :=
  if x.negative then -(layout.units x.magnitude : Int) else layout.units x.magnitude

/-- The units of one. -/
def unity : Nat := Nat.pow 2 layout.unitPlaces

/-- The number with this sign and this magnitude word. -/
def ofMagnitude (negative : Bool) (magnitude : Nat) : Double :=
  ⟨UInt64.ofNat (if negative then layout.signWeight + magnitude else magnitude)⟩

/-- Zero with a sign. -/
def zero (negative : Bool) : Double := ofMagnitude negative 0

/-- The NaN of an operation without a value. -/
def invalid : Double := ⟨0xfff8000000000000⟩

/-- A NaN made quiet. -/
def quiet (x : Double) : Double := ⟨x.word ||| 0x0008000000000000⟩

/-- The number nearest to so many units.  A zero among them has the sign that is given. -/
def ofUnits (zeroSign : Bool) (n : Int) : Double :=
  if n = 0 then zero zeroSign
  else ofMagnitude (decide (n < 0)) (layout.nearest n.natAbs 1)

/-- The number nearest to an integer. -/
def ofInt (n : Int) : Double := ofUnits false (n * unity)

/-! ## §2. Order. -/

/-- A key that orders the numbers, and the two zeros alike. -/
def key (x : Double) : Int := if x.negative then -(x.magnitude : Int) else x.magnitude

/-- Whether `x < y`; false if one of them is NaN. -/
def lt (x y : Double) : Bool := !x.isNaN && !y.isNaN && decide (x.key < y.key)

/-- Whether `x ≤ y`; false if one of them is NaN. -/
def le (x y : Double) : Bool := !x.isNaN && !y.isNaN && decide (x.key ≤ y.key)

/-- The larger of two numbers; the other one if one of them is NaN. -/
def max (x y : Double) : Double := if x.isNaN || x.lt y then y else x

/-! ## §3. Arithmetic. -/

/-- `x + y`. -/
def add (x y : Double) : Double :=
  if x.isNaN then x.quiet
  else if y.isNaN then y.quiet
  else if x.isInfinite then
    if y.isInfinite && x.negative != y.negative then invalid else x
  else if y.isInfinite then y
  else ofUnits (x.negative && y.negative) (x.signedUnits + y.signedUnits)

/-- `x - y`; a NaN in `y` keeps its sign. -/
def sub (x y : Double) : Double :=
  if y.isNaN then x.add y else x.add (ofMagnitude (!y.negative) y.magnitude)

/-- `x / y`. -/
def div (x y : Double) : Double :=
  let negative := x.negative != y.negative
  if x.isNaN then x.quiet
  else if y.isNaN then y.quiet
  else if x.isInfinite then
    if y.isInfinite then invalid else ofMagnitude negative layout.infinity
  else if y.isInfinite then zero negative
  else if y.magnitude = 0 then
    if x.magnitude = 0 then invalid else ofMagnitude negative layout.infinity
  else ofMagnitude negative
    (layout.nearest (layout.units x.magnitude * unity) (layout.units y.magnitude))

/-! ## §4. Whole numbers. -/

/-- The largest integer that is not above `x`, as a number.  A number that is an integer stays as it is,
minus zero included. -/
def floor (x : Double) : Double :=
  if x.isNaN || x.isInfinite || x.signedUnits % unity = 0 then x
  else ofInt (x.signedUnits / unity)

/-- The same within signed integers of 64 bits, and zero for NaN. -/
def whole (x : Double) : Int :=
  if x.isNaN then 0
  else Max.max (-(Nat.pow 2 63 : Int)) (min (Nat.pow 2 63 - 1) (x.signedUnits / unity))

/-! ## §5. Fewer bits. -/

/-- The nearest number of 32 bits. -/
def narrow (x : Double) : Single :=
  Single.ofMagnitude x.negative (layout.convert Single.layout x.magnitude)

end Double

end PcmRender
