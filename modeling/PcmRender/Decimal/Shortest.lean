/-
  PcmRender.Decimal.Shortest — **the fewest digits that read back.**

  Every finite floating point word stands for an interval of numbers: those that round to it.  The
  shortest decimal of a word is the point of that interval which lies on the coarsest decimal grid;
  of two such points it is the one nearer to the value of the word, and of two equally near ones
  the greater.

  Grids are tried from the coarsest on.  All comparisons are exact: the value of a word and the
  ends of its interval are natural numbers of quarter units.

  Main definitions:
    * `Decimal` — digits and a power of ten, with its text without an exponent,
    * `BinaryFormat.shortest` — the shortest decimal of a word,
    * `Single.text` — the text of a 32-bit number.
-/
import PcmRender.Number.Single

namespace PcmRender

/-! ## §1. Decimals. -/

/-- The number `digits · 10 ^ exponent`. -/
structure Decimal where
  /-- The digits. -/
  digits : Nat
  /-- The power of ten. -/
  exponent : Int
deriving DecidableEq, Inhabited, Repr

/-- The text of a decimal, without an exponent and without a point where nothing follows it. -/
def Decimal.text (d : Decimal) : String :=
  let digits := Nat.toDigits 10 d.digits
  let places := (-d.exponent).toNat
  if places = 0 then String.ofList (digits ++ List.replicate d.exponent.toNat '0')
  else
    let padded := List.replicate (places + 1 - digits.length) '0' ++ digits
    let whole := padded.length - places
    String.ofList (padded.take whole ++ '.' :: padded.drop whole)

/-! ## §2. The interval of a word. -/

/-- The numbers that round to a word, in quarters of a unit. -/
structure RoundingInterval where
  /-- The lower end. -/
  low : Nat
  /-- The value of the word. -/
  value : Nat
  /-- The upper end. -/
  high : Nat
  /-- Whether the ends round to the word too. -/
  closed : Bool
deriving DecidableEq, Repr

namespace BinaryFormat

/-- The interval of a positive finite word.  Below a power of two the numbers are twice as dense as
above it, so that the interval reaches half as far down. -/
def interval (b : BinaryFormat) (word : Nat) : RoundingInterval :=
  let (m, e) := b.split word
  let down := if m = Nat.pow 2 b.fractionBits ∧ 0 < e then 1 else 2
  { low := (4 * m - down) * Nat.pow 2 e
    value := 4 * m * Nat.pow 2 e
    high := (4 * m + 2) * Nat.pow 2 e
    closed := m % 2 == 0 }

/-! ## §3. Grids. -/

/-- The point of an interval on the grid of multiples of `10 ^ place` that is nearest to its value,
the greater of two equally near ones, by its number on the grid; `none` if there is no point of the
grid in the interval. -/
def gridPoint? (b : BinaryFormat) (i : RoundingInterval) (place : Int) : Option Nat :=
  let scale := Nat.pow 10 (-place).toNat
  let step := 4 * Nat.pow 2 b.unitPlaces * Nat.pow 10 place.toNat
  let inside (n : Nat) : Bool :=
    if i.closed then decide (i.low * scale ≤ n * step) && decide (n * step ≤ i.high * scale)
    else decide (i.low * scale < n * step) && decide (n * step < i.high * scale)
  -- The neighbours of the value on the grid; zero is no point, for a positive word needs a digit.
  let below := i.value * scale / step
  let above := below + 1
  match inside below && decide (0 < below), inside above with
  | true, true =>
    if above * step - i.value * scale ≤ i.value * scale - below * step then some above
    else some below
  | true, false => some below
  | false, true => some above
  | false, false => none

/-- The first grid with a point, from the one at `place` on towards finer ones. -/
def firstGrid (b : BinaryFormat) (i : RoundingInterval) : Nat → Int → Decimal
  | 0, place => ⟨0, place⟩
  | tries + 1, place =>
    match b.gridPoint? i place with
    | some n => ⟨n, place⟩
    | none => firstGrid b i tries (place - 1)

/-- The shortest decimal that rounds to a finite word without its sign.  On the grid as fine as the
unit every value has a point, so the search ends. -/
def shortest (b : BinaryFormat) (word : Nat) : Decimal :=
  if word = 0 then ⟨0, 0⟩
  else
    let i := b.interval word
    let top := (Nat.toDigits 10 (i.value / (4 * Nat.pow 2 b.unitPlaces))).length
    b.firstGrid i (top + b.unitPlaces + 1) top

end BinaryFormat

/-! ## §4. Text. -/

/-- The text of a finite or infinite magnitude word, `NaN` where it is no number. -/
def BinaryFormat.magnitudeText (b : BinaryFormat) (word : Nat) : String :=
  if word < b.infinity then (b.shortest word).text
  else if word = b.infinity then "inf"
  else "NaN"

/-- The text of a number: the shortest decimal without an exponent; a NaN has no sign. -/
def Single.text (x : Single) : String :=
  (if x.negative && !x.isNaN then "-" else "") ++ Single.layout.magnitudeText x.magnitude

end PcmRender
