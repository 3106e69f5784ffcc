/-
  PcmRender.Number.Amplitude — **the arithmetic that samples need.**

  Decoding, scaling, interpolation and encoding of samples use seven operations and nothing else of
  the numbers they work on.  `Amplitude` lists them, so that the codec, the gain and the conversion
  stage can be run on 32-bit floats and reasoned about on exact numbers.

  Main definitions:
    * `Amplitude` — the operations,
    * the instance on `Single`.
-/
import PcmRender.Number.Single

namespace PcmRender

/-- Numbers that can hold the amplitude of a sample, silence at zero and full scale at one. -/
class Amplitude (α : Type) where
  /-- `n / 2 ^ k`. -/
  ratio : Int → Nat → α
  /-- The number that a 32-bit float word stands for. -/
  ofWord : UInt32 → α
  /-- The 32-bit float word of a number. -/
  toWord : α → UInt32
  /-- The product. -/
  times : α → α → α
  /-- `blend a b f` lies the part `f` of the way from `a` to `b`. -/
  blend : α → α → α → α
  /-- The number held between minus one and one. -/
  clampUnit : α → α
  /-- Whether a gain is one, up to the least step of a float above one. -/
  nearUnit : α → Bool
  /-- The number times a scale as an integer, a half away from zero, held between two bounds;
  `none` if it is no number. -/
  scaled? : α → Nat → Int → Int → Option Int

namespace Single

/-- The step between one and the next larger number. -/
def unitStep : Single := ⟨0x34000000⟩

/-- The part `f` of the way from `a` to `b`.  The difference stands first in the sum, so that of two
ends that are no numbers the second is kept. -/
def blend (a b f : Single) : Single := ((b.sub a).mul f).add a

/-- Whether `g` is closer to one than `unitStep`. -/
def nearUnit (g : Single) : Bool := (g.sub one).abs.lt unitStep

instance : Amplitude Single where
  ratio := Single.ratio
  ofWord := Single.mk
  toWord := Single.word
  times := Single.mul
  blend := Single.blend
  clampUnit := Single.clamp minusOne one
  nearUnit := Single.nearUnit
  scaled? := Single.scaled?

end Single

end PcmRender
