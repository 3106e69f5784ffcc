/-
  PcmRender.Timing — **the pace of an opened endpoint.**

  From what a device reports, `Timing.derive` decides how often audio is moved to it.  A reported
  period above one millisecond is believed.  Otherwise the period is half the device buffer, unless
  that is a millisecond or less, or longer than the configured default: then it is the default.

  The period in frames counts whole milliseconds only.  They are multiplied with the rate in 64 bits,
  and the time after which a stream counts as stalled is doubled as a duration; a device that reports
  a period too long for one of the two has no pace.
-/
import PcmRender.Format

namespace PcmRender

/-- The pace of an opened endpoint. -/
structure Timing where
  /-- The time between two chances to move audio. -/
  period : Duration
  /-- The same in device frames. -/
  periodFrames : Nat
  /-- How many frames the device buffer holds. -/
  bufferFrames : Nat
  /-- How long the device buffer plays. -/
  bufferDuration : Duration
deriving DecidableEq, Inhabited, Repr

namespace Timing

/-! ## §1. Constants. -/

/-- The period of a device that reports nothing usable. -/
def defaultPeriod : Duration := Duration.ofMillis 10

/-- The device buffer that is asked for. -/
def defaultBuffer : Duration := Duration.ofMillis 20

/-- Periods up to this one are not believed. -/
def leastPeriod : Duration := Duration.ofMillis 1

/-! ## §2. Derivation. -/

/-- The period to use instead of a reported one. -/
def fallback (buffer usual : Duration) : Duration :=
  if usual < buffer.half ∨ buffer.half ≤ leastPeriod then usual else buffer.half

/-- The period for a device that reports one, or none. -/
def choosePeriod (reported : Option Duration) (buffer usual : Duration) : Duration :=
  match reported with
  | some period => if leastPeriod < period then period else fallback buffer usual
  | none => fallback buffer usual

/-- The pace of a device with this format, buffer and reported period, as far as it can be counted. -/
def derive (device : Format) (bufferFrames : Nat) (reported : Option Duration)
    (usual : Duration) : Timing :=
  let buffer := device.framesDuration bufferFrames
  let period := choosePeriod reported buffer usual
  { period
    periodFrames := Format.word32 (Format.word64 period.millis * device.rate / 1000)
    bufferFrames
    bufferDuration := buffer }

/-- The pace of a device; `none` if its period is too long for its frames to be counted. -/
def derive? (device : Format) (bufferFrames : Nat) (reported : Option Duration)
    (usual : Duration) : Option Timing :=
  let timing := derive device bufferFrames reported usual
  if Format.word64 timing.period.millis * device.rate < Nat.pow 2 64 then some timing else none

/-- How long feeds may fail to get through before the stream counts as stalled. -/
def watchdog (t : Timing) : Duration := (t.bufferDuration.longest t.period).twice

/-- The same, `none` if it is too long for a duration. -/
def watchdog? (t : Timing) : Option Duration :=
  if t.watchdog < Duration.limit then some t.watchdog else none

end Timing

end PcmRender
