/-
  PcmRender.Number.ReadHead — **positions between frames.**

  A read head moves over the frames of a stream in equal steps that need not be whole.  The frame
  below it and the part of the way to the next one decide what is heard there.  `ReadHead` lists
  what a conversion stage asks of such a position.

  Main definitions:
    * `ReadHead` — the operations,
    * the instance on numbers of 64 bits.
-/
import PcmRender.Number.Double

namespace PcmRender

/-- Positions in a stream of frames, whose parts are amplitudes of type `α`. -/
class ReadHead (τ : Type) (α : outParam Type) where
  /-- The first frame. -/
  origin : τ
  /-- The distance `num / den`. -/
  step : Nat → Nat → τ
  /-- The position, but not before a frame. -/
  notBefore : τ → Int → τ
  /-- Whether the position is at a frame or before it. -/
  within : τ → Nat → Bool
  /-- The last frame that is not behind the position. -/
  whole : τ → Int
  /-- How far the position is from that frame to the next. -/
  part : τ → α
  /-- The position a distance further on. -/
  advance : τ → τ → τ
  /-- The position as seen from a later frame. -/
  rewind : τ → Nat → τ

instance : ReadHead Double Single where
  origin := Double.zero false
  step num den := (Double.ofInt num).div (Double.ofInt den)
  notBefore t n := t.max (Double.ofInt n)
  within t n := t.le (Double.ofInt n)
  whole := Double.whole
  part t := (t.sub t.floor).narrow
  advance := Double.add
  rewind t n := t.sub (Double.ofInt n)

end PcmRender
