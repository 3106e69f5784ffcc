/-
  PcmRender.Duration — **lengths of time in whole nanoseconds, and their text.**

  Every time the library hands out is a natural number of nanoseconds.  The text picks the largest
  unit that makes the whole part non-zero (`s`, `ms`, `µs`, `ns`) and writes the exact fraction
  after a point, without the zeros at its end:

      1_500_000_000 ↦ 1.5s      20_000_000 ↦ 20ms      0 ↦ 0ns
-/

namespace PcmRender

/-- A length of time. -/
structure Duration where
  /-- Its whole nanoseconds. -/
  nanos : Nat
deriving DecidableEq, Inhabited, Repr

namespace Duration

/-! ## §1. Construction and order. -/

/-- No time at all. -/
def zero : Duration := ⟨0⟩

/-- The first length of time whose whole seconds 64 bits do not hold. -/
def limit : Duration := ⟨Nat.pow 2 64 * 1000000000⟩

/-- `n` milliseconds. -/
def ofMillis (n : Nat) : Duration := ⟨n * 1000000⟩

/-- The completed milliseconds. -/
def millis (d : Duration) : Nat := d.nanos / 1000000

/-- What a field of 64 bits keeps of its nanoseconds. -/
def kept (d : Duration) : Duration := ⟨d.nanos % Nat.pow 2 64⟩

/-- The longer of two. -/
def longest (a b : Duration) : Duration := ⟨max a.nanos b.nanos⟩

/-- Half of it, the odd nanosecond dropped. -/
def half (d : Duration) : Duration := ⟨d.nanos / 2⟩

/-- Twice as long. -/
def twice (d : Duration) : Duration := ⟨2 * d.nanos⟩

/-- One after the other. -/
def plus (a b : Duration) : Duration := ⟨a.nanos + b.nanos⟩

instance : LT Duration := ⟨fun a b => a.nanos < b.nanos⟩

instance : LE Duration := ⟨fun a b => a.nanos ≤ b.nanos⟩

instance (a b : Duration) : Decidable (a < b) := inferInstanceAs (Decidable (a.nanos < b.nanos))

instance (a b : Duration) : Decidable (a ≤ b) := inferInstanceAs (Decidable (a.nanos ≤ b.nanos))

/-! ## §2. Text. -/

/-- `n` in decimal, with zeros in front up to `width` digits. -/
def padded (width n : Nat) : List Char :=
  let digits := Nat.toDigits 10 n
  List.replicate (width - digits.length) '0' ++ digits

/-- `.` and the fraction `part / 10 ^ width` without its last zeros; nothing for a zero fraction. -/
def fraction (width part : Nat) : String :=
  if part = 0 then "" else
    "." ++ String.ofList ((padded width part).reverse.dropWhile (· == '0')).reverse

/-- `total` nanoseconds in a unit of `10 ^ width` of them. -/
def inUnit (total width : Nat) (unit : String) : String :=
  toString (total / Nat.pow 10 width) ++ fraction width (total % Nat.pow 10 width) ++ unit

/-- The text of a duration: the largest unit that is not zero, with an exact fraction. -/
def text (d : Duration) : String :=
  if 1000000000 ≤ d.nanos then inUnit d.nanos 9 "s"
  else if 1000000 ≤ d.nanos then inUnit d.nanos 6 "ms"
  else if 1000 ≤ d.nanos then inUnit d.nanos 3 "µs"
  else inUnit d.nanos 0 "ns"

end Duration

end PcmRender
