/-
  PcmRender.Number.Exact — **amplitudes and positions without rounding.**

  The same arithmetic as that of samples and read heads, on rational numbers.  A codec or a
  conversion that runs on these does what it does on floats, except that nothing is rounded on the
  way: only a sample that is written is rounded, to the nearest integer or to the nearest word.

  Words that are no numbers and the infinite ones have no exact value.  They are read as silence.

  Main definitions:
    * `Single.exact`, `Single.ofExact` — words and the numbers that they stand for,
    * the instances of `Amplitude` and `ReadHead` on the rationals.
-/
import PcmRender.Number.Amplitude
import PcmRender.Number.ReadHead
import Mathlib.Data.Rat.Floor

namespace PcmRender

/-! ## §1. Words. -/

namespace Single

/-- The number that a word stands for. -/
def exact (x : Single) : ℚ :=
  match x.reading with
  | .finite negative m e =>
    let size : ℚ := m * 2 ^ e / 2 ^ layout.unitPlaces
    if negative then -size else size
  | _ => 0

/-- The word whose number is nearest to an exact one. -/
def ofExact (x : ℚ) : Single :=
  ofMagnitude (decide (x < 0)) (layout.nearestRatio x.num.natAbs x.den)

end Single

/-! ## §2. Amplitudes. -/

/-- An exact number as an integer, a half away from zero. -/
def roundExact (x : ℚ) : Int := if x < 0 then -⌊1 / 2 - x⌋ else ⌊x + 1 / 2⌋

instance : Amplitude ℚ where
  ratio n k := n / 2 ^ k
  ofWord w := (Single.mk w).exact
  toWord x := (Single.ofExact x).word
  times x y := x * y
  blend a b f := a + (b - a) * f
  clampUnit x := max (-1) (min 1 x)
  nearUnit g := decide (|g - 1| < Single.unitStep.exact)
  scaled? x scale low high := some (max low (min high (roundExact (x * scale))))

/-! ## §3. Positions. -/

instance : ReadHead ℚ ℚ where
  origin := 0
  step num den := num / den
  notBefore t n := max t n
  within t n := decide (t ≤ n)
  whole t := ⌊t⌋
  part t := Int.fract t
  advance t d := t + d
  rewind t n := t - n

end PcmRender
