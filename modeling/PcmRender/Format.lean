/-
  PcmRender.Format — **the layout of raw audio, and what follows from it by arithmetic.**

  A format says how fast frames pass, how many channels one frame holds, how many bits a sample
  has, whether it is an integer or a float, in which order its bytes stand, and how many bytes one
  frame takes.  The last number is stored and not computed: a format can be written down whose
  frame size contradicts its samples, and `Format.isSupported` is the test that refuses it.

  Integer samples of eight bits are unsigned around 128; wider ones are in two's complement.

  Counts that leave this module are cut to the width of the fields they go into, 32 bits for a
  number of frames; a division by a zero frame size is `none`.
-/
import PcmRender.Duration

namespace PcmRender

/-! ## §1. The type. -/

/-- How a sample is written. -/
inductive SampleKind
  /-- Integer PCM: unsigned when it has one byte, in two's complement otherwise. -/
  | int
  /-- IEEE floating point PCM. -/
  | float
deriving DecidableEq, Inhabited, Repr

/-- The order of the bytes inside one sample. -/
inductive ByteOrder
  /-- The least significant byte comes first. -/
  | little
  /-- The most significant byte comes first. -/
  | big
deriving DecidableEq, Inhabited, Repr

/-- The layout of raw audio. -/
structure Format where
  /-- Frames per second. -/
  rate : Nat
  /-- Samples per frame. -/
  channels : Nat
  /-- Bits per sample. -/
  bits : Nat
  /-- Bytes per frame. -/
  align : Nat
  /-- How samples are written. -/
  kind : SampleKind
  /-- The order of the bytes of a sample. -/
  order : ByteOrder
deriving DecidableEq, Inhabited, Repr

namespace Format

/-! ## §2. Common layouts. -/

/-- The bytes that `bits` bits fill, the last one perhaps in part. -/
def bytesFor (bits : Nat) : Nat := (bits + 7) / 8

/-- Little-endian integer samples, packed without gaps. -/
def pcm (rate bits channels : Nat) : Format where
  rate := rate
  channels := channels
  bits := bits
  align := bytesFor bits * channels
  kind := .int
  order := .little

/-- Little-endian 32-bit float samples. -/
def float (rate channels : Nat) : Format :=
  { pcm rate 32 channels with kind := .float }

/-- The same layout with its bytes in another order. -/
def withOrder (f : Format) (order : ByteOrder) : Format := { f with order := order }

/-! ## §3. Sizes and playback time. -/

/-- Bytes per sample. -/
def sampleSize (f : Format) : Nat := bytesFor f.bits

/-- Bytes that pass in one second; `none` if they leave the 32 bits that they are counted in. -/
def bytesPerSecond? (f : Format) : Option Nat :=
  if f.rate * f.align < Nat.pow 2 32 then some (f.rate * f.align) else none

/-- A count as a field of 32 bits keeps it. -/
def word32 (n : Nat) : Nat := n % Nat.pow 2 32

/-- A count as a field of 64 bits keeps it. -/
def word64 (n : Nat) : Nat := n % Nat.pow 2 64

/-- The whole frames in `bytes` bytes, as a 32-bit count; `none` if a frame has no bytes. -/
def framesIn? (f : Format) (bytes : Nat) : Option Nat :=
  if f.align = 0 then none else some (word32 (bytes / f.align))

/-- The bytes of `frames` frames, the count read as 32 bits. -/
def bytesOf (f : Format) (frames : Nat) : Nat := word32 frames * f.align

/-- The playback time of `frames` frames, the started nanosecond dropped.  A rate of zero plays
for no time. -/
def framesDuration (f : Format) (frames : Nat) : Duration :=
  if f.rate = 0 then Duration.zero else ⟨frames * 1000000000 / f.rate⟩

/-- The playback time of any count of frames; `none` if its product with the nanoseconds of a second
leaves 64 bits. -/
def framesDuration? (f : Format) (frames : Nat) : Option Duration :=
  if f.rate = 0 ∨ frames * 1000000000 < Nat.pow 2 64 then some (f.framesDuration frames) else none

/-- The playback time of `bytes` bytes; `none` if a frame has no bytes. -/
def bytesDuration? (f : Format) (bytes : Nat) : Option Duration :=
  (f.framesIn? bytes).map f.framesDuration

/-! ## §4. What can be decoded. -/

/-- The sample widths that can be decoded and encoded. -/
def widthSupported : SampleKind → Nat → Bool
  | .int, bits => bits == 8 || bits == 16 || bits == 24 || bits == 32
  | .float, bits => bits == 32

/-- Whether this layout can be decoded and encoded: a known width, at least one channel, a rate,
and frames that are exactly their samples. -/
def isSupported (f : Format) : Bool :=
  widthSupported f.kind f.bits && decide (0 < f.channels) && decide (0 < f.rate)
    && f.align == f.sampleSize * f.channels

/-! ## §5. Text. -/

/-- The text of a format, such as `8000Hz 1ch 16bit BE` or `48000Hz 2ch 32bit float`. -/
def text (f : Format) : String :=
  s!"{f.rate}Hz {f.channels}ch {f.bits}{kindText f.kind}{orderText f.order}"
where
  kindText : SampleKind → String
    | .int => "bit"
    | .float => "bit float"
  orderText : ByteOrder → String
    | .little => ""
    | .big => " BE"

end Format

end PcmRender
