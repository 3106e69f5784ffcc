/-
  PcmRender.Stage.Linear — **conversion by straight lines between frames.**

  A linear resampler reads the stream at equal distances, `step` input frames apart, and answers at
  each of these positions the point on the straight line between the two frames around it.  It
  remembers where its next position lies relative to the chunk to come, and the last frame of the
  chunk before it, which is frame `-1` of the next one.  So chunks join without a gap.

  At equal rates there is nothing to interpolate: samples are decoded and encoded one by one, and
  neither the position nor the remembered frame changes.

  Main definitions:
    * `LinearResampler.create` — a resampler, or the reason why there is none,
    * `LinearResampler.glide` — the positions inside one chunk,
    * `LinearResampler.process?` — one chunk.
-/
import PcmRender.Number.ReadHead
import PcmRender.Sample
import PcmRender.Stage

namespace PcmRender

/-- A resampler with positions of type `τ` and amplitudes of type `α`. -/
structure LinearResampler (τ α : Type) where
  /-- The format that comes in. -/
  input : Format
  /-- The format that goes out. -/
  output : Format
  /-- Input frames from one output frame to the next. -/
  step : τ
  /-- Where the next output frame lies, counted from the first frame of the next chunk. -/
  position : τ
  /-- The last frame of the chunk before. -/
  history : Option (List α)

namespace LinearResampler

variable {τ α : Type} [Amplitude α] [ReadHead τ α]

/-! ## §1. Construction. -/

/-- A resampler between two formats with equally many channels. -/
def create (input output : Format) : Except RenderError (LinearResampler τ α) :=
  if !input.isSupported then
    .error (.resampler s!"unsupported input {input.text}")
  else if !output.isSupported then
    .error (.resampler s!"unsupported output {output.text}")
  else if input.channels ≠ output.channels then
    .error (.resampler s!"cannot convert {input.channels} channels into {output.channels}")
  else .ok
    { input
      output
      step := ReadHead.step input.rate output.rate
      position := ReadHead.origin
      history := none }

/-- The resampler before its first chunk. -/
def reset (r : LinearResampler τ α) : LinearResampler τ α :=
  { r with position := ReadHead.origin, history := none }

/-! ## §2. Frames by index. -/

/-- The samples of one frame of a chunk; frame `-1` is the remembered one, or else the first. -/
def frameAt? (channels : Nat) (history : Option (List α)) (chunk : Array α) (index : Int) :
    Option (List α) :=
  if index < 0 then
    match history with
    | some frame => some frame
    | none => slice? 0
  else slice? (index.toNat * channels)
where
  /-- The samples of a frame that begins at a sample of the chunk. -/
  slice? (start : Nat) : Option (List α) :=
    if start + channels ≤ chunk.size then some (chunk.extract start (start + channels)).toList
    else none

/-- The frame at a position of a chunk of `frames` frames. -/
def heardAt? (channels frames : Nat) (history : Option (List α)) (chunk : Array α) (t : τ) :
    Option (List α) := do
  let base := ReadHead.whole t
  let a ← frameAt? channels history chunk base
  let b ← frameAt? channels history chunk (min (base + 1) (frames - 1))
  some (List.zipWith (fun x y => Amplitude.blend x y (ReadHead.part t)) a b)

/-! ## §3. One chunk. -/

/-- The frames heard from position `t` on, as long as it is not behind the last frame of the
chunk, and the first position that is.  `made` holds the frames so far, the latest first. -/
def glide (channels frames : Nat) (history : Option (List α)) (chunk : Array α) (step : τ) :
    Nat → τ → List (List α) → Option (List (List α) × τ)
  | 0, t, made => some (made.reverse, t)
  | fuel + 1, t, made =>
    if ReadHead.within t (frames - 1) then do
      let frame ← heardAt? channels frames history chunk t
      glide channels frames history chunk step fuel (ReadHead.advance t step) (frame :: made)
    else some (made.reverse, t)

/-- More steps than there are positions in a chunk of `frames` frames. -/
def positionBound (r : LinearResampler τ α) (frames : Nat) : Nat :=
  (frames + 2) * r.output.rate / r.input.rate + 2

/-- The frames that a decoded chunk is converted to, and the resampler after it. -/
def convert? (r : LinearResampler τ α) (frames : Nat) (chunk : List α) :
    Option (List α × LinearResampler τ α) :=
  if r.input.rate = r.output.rate then some (chunk, r)
  else do
    let channels := r.input.channels
    let first := ReadHead.notBefore r.position (if r.history.isSome then -1 else 0)
    let (heard, t) ← glide channels frames r.history chunk.toArray r.step
      (r.positionBound frames) first []
    some (heard.flatten,
      { r with
        position := ReadHead.rewind t frames
        history := some ((chunk.drop ((frames - 1) * channels)).take channels) })

/-- Converts the whole frames of some bytes. -/
def process? (r : LinearResampler τ α) (data : List UInt8) :
    Option (Conversion (LinearResampler τ α)) :=
  if r.input.align = 0 then none
  else
    let frames := data.length / r.input.align
    if frames = 0 then some ⟨0, [], r⟩
    else do
      let chunk ← Sample.decodeFrames? r.input (data.take (frames * r.input.align))
      let (samples, next) ← r.convert? frames chunk
      let output ← Sample.encodeFrames? r.output samples
      some ⟨frames * r.input.align, output, next⟩

instance : Stage (LinearResampler τ α) where
  create := create
  process? := process?
  reset := reset

end LinearResampler

end PcmRender
