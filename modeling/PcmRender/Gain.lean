/-
  PcmRender.Gain — **the volume of samples in their bytes.**

  A gain is a number from zero to one.  Near one it leaves the bytes as they are.  Otherwise each
  whole sample is scaled, in one of three ways:

      little-endian 16-bit integers   the integer times the gain, rounded, held in 16 bits
      little-endian 32-bit floats     the float times the gain, whatever it is
      anything else                   decoded, times the gain, encoded

  Bytes at the end that make no whole sample stay.

  Main definitions:
    * `Gain.limit` — what a requested gain becomes,
    * `Gain.scaleBytes?` — the scaling; `none` where the format has samples without bytes.
-/
import PcmRender.Sample

namespace PcmRender

namespace Gain

/-! ## §1. The level. -/

/-- A requested gain held between zero and one; what is no number silences. -/
def limit (g : Single) : Single :=
  if g.isNaN then Single.zero false else Single.clamp (Single.zero false) Single.one g

/-! ## §2. Scaling. -/

variable {α : Type} [Amplitude α]

/-- Each whole piece of `size` bytes changed, the rest behind them kept. -/
def mapPieces (size : Nat) (change : List UInt8 → List UInt8) (data : List UInt8) : List UInt8 :=
  (wholePieces size data).flatMap change ++ data.drop (data.length / size * size)

/-- A 16-bit integer times the gain, rounded and held in its width; what is no number becomes
zero. -/
def scaleWord16 (g : α) (bytes : List UInt8) : List UInt8 :=
  let n := twosComplement 16 (ofLittleBytes bytes)
  let scaled := Amplitude.scaled? (Amplitude.times (Amplitude.ratio n 0) g) 1 (-32768) 32767
  signedBytes 2 (scaled.getD 0)

/-- A float word times the gain. -/
def scaleFloat (g : α) (bytes : List UInt8) : List UInt8 :=
  let x : α := Amplitude.ofWord (UInt32.ofNat (ofLittleBytes bytes))
  littleBytes 4 (Amplitude.toWord (Amplitude.times x g)).toNat

/-- A sample of any layout decoded, scaled and encoded. -/
def scaleSample (f : Format) (g : α) (bytes : List UInt8) : List UInt8 :=
  Sample.encode f (Amplitude.times (Sample.decode f bytes) g) bytes

/-- The bytes of samples scaled by a gain. -/
def scaleBytes? (f : Format) (g : α) (data : List UInt8) : Option (List UInt8) :=
  if Amplitude.nearUnit g then some data
  else match f.kind, f.bits, f.order with
    | .int, 16, .little => some (mapPieces 2 (scaleWord16 g) data)
    | .float, 32, .little => some (mapPieces 4 (scaleFloat g) data)
    | _, _, _ =>
      if f.sampleSize = 0 then none else some (mapPieces f.sampleSize (scaleSample f g) data)

end Gain

end PcmRender
