/-
  PcmRender.Sample — **samples as bytes and samples as amplitudes.**

  A sample of `w` bytes is read from, and written to, its first four bytes at most:

      int, 1 byte     unsigned around 128      read n / 2^7     written ×127
      int, 2 bytes    two's complement         read n / 2^15    written ×32767
      int, 3 bytes    two's complement         read n / 2^23    written ×8388607
      int, otherwise  two's complement, 32 bit read n / 2^31    written ×2147483647
      float           the word itself          read as it is    written as it is

  Writing holds the amplitude between minus one and one first, and rounds to the nearest integer,
  a half away from zero; what is no number becomes zero bytes.  Reading divides by a power of two
  and writing multiplies by one less, so that full scale stays representable on both sides.

  Main definitions:
    * `Sample.decode`, `Sample.encode` — one sample,
    * `Sample.decodeFrames?`, `Sample.encodeFrames?` — interleaved frames, `none` where the format
      has samples or frames without bytes.
-/
import PcmRender.Format
import PcmRender.Number.Amplitude

namespace PcmRender

/-! ## §1. Integers in bytes. -/

/-- The natural number whose bytes these are, the least significant first. -/
def ofLittleBytes : List UInt8 → Nat
  | [] => 0
  | b :: rest => b.toNat + 256 * ofLittleBytes rest

/-- The low `count` bytes of a natural number, the least significant first. -/
def littleBytes : Nat → Nat → List UInt8
  | 0, _ => []
  | count + 1, n => UInt8.ofNat n :: littleBytes count (n / 256)

/-- The number in two's complement of `bits` bits that a natural number below `2 ^ bits` stands
for. -/
def twosComplement (bits n : Nat) : Int :=
  if Nat.pow 2 (bits - 1) ≤ n then (n : Int) - Nat.pow 2 bits else n

/-- The low `count` bytes of an integer in two's complement, the least significant first. -/
def signedBytes (count : Nat) (n : Int) : List UInt8 :=
  littleBytes count (n % Nat.pow 2 (8 * count)).toNat

/-- `count` consecutive pieces of `size` elements each. -/
def pieces (size : Nat) : Nat → List α → List (List α)
  | 0, _ => []
  | count + 1, l => l.take size :: pieces size count (l.drop size)

/-- The pieces of `size` elements that fit into a list; what is left at its end is no piece. -/
def wholePieces (size : Nat) (l : List α) : List (List α) := pieces size (l.length / size) l

namespace Sample

variable {α : Type} [Amplitude α]

/-! ## §2. One sample. -/

/-- Bytes in a byte order, brought into the order with the least significant first, or back. -/
def arrange (order : ByteOrder) (bytes : List UInt8) : List UInt8 :=
  match order with
  | .little => bytes
  | .big => bytes.reverse

/-- The amplitude of the sample in these bytes. -/
def decode (f : Format) (bytes : List UInt8) : α :=
  let raw := arrange f.order (bytes.take 4)
  let n := ofLittleBytes raw
  match f.kind, raw.length with
  | .float, _ => Amplitude.ofWord (UInt32.ofNat n)
  | .int, 1 => Amplitude.ratio ((n : Int) - 128) 7
  | .int, 2 => Amplitude.ratio (twosComplement 16 n) 15
  | .int, 3 => Amplitude.ratio (twosComplement 24 n) 23
  | .int, _ => Amplitude.ratio (twosComplement 32 n) 31

/-- An amplitude times a scale as an integer within the scale. -/
def level? (scale : Nat) (x : α) : Option Int := Amplitude.scaled? x scale (-scale) scale

/-- The four bytes of a sample of `width` bytes, the least significant first. -/
def rawBytes (kind : SampleKind) (width : Nat) (x : α) : List UInt8 :=
  match kind, width with
  | .float, _ => littleBytes 4 (Amplitude.toWord x).toNat
  | .int, 1 => signedBytes 4 (((level? 127 x).map (· + 128)).getD 0)
  | .int, 2 => signedBytes 4 ((level? 32767 x).getD 0)
  | .int, 3 => signedBytes 4 ((level? 8388607 x).getD 0)
  | .int, _ => signedBytes 4 ((level? 2147483647 x).getD 0)

/-- The first bytes of a sample of `width` bytes, four at most. -/
def written (f : Format) (width : Nat) (x : α) : List UInt8 :=
  arrange f.order ((rawBytes f.kind width (Amplitude.clampUnit x)).take width)

/-- An amplitude written over the bytes of a sample; bytes behind the fourth stay. -/
def encode (f : Format) (x : α) (place : List UInt8) : List UInt8 :=
  written f place.length x ++ place.drop 4

/-! ## §3. Interleaved frames. -/

/-- The amplitudes of all whole frames, in order. -/
def decodeFrames? (f : Format) (data : List UInt8) : Option (List α) :=
  if f.align = 0 ∨ f.sampleSize = 0 then none
  else
    let whole := data.take (data.length / f.align * f.align)
    some ((wholePieces f.sampleSize whole).map (decode f))

/-- The bytes of amplitudes, in order. -/
def encodeFrames? (f : Format) (samples : List α) : Option (List UInt8) :=
  if f.sampleSize = 0 then none
  else some (samples.flatMap fun x => encode f x (List.replicate f.sampleSize 0))

end Sample

end PcmRender
