/-
  PcmRender.Route — **where a session sends its audio.**

  A session is closed, or it is open on the null sink, which takes everything and drops it, or on a
  device.  A device route holds what one opened device needs: its endpoint, its pace, the ring in
  front of it, the conversion stage if the formats differ, and the watchdog.

  The watchdog is the time at which a feed found the ring full and since which nothing has moved;
  when this is longer ago than the pace allows, the route is stalled.

  Main definitions:
    * `Route`, `DeviceRoute`,
    * `DeviceRoute.build` — a route over an opened endpoint,
    * `DeviceRoute.stalledFor?` — how long a stalled route has stood still.
-/
import PcmRender.Host
import PcmRender.Ring
import PcmRender.Stage
import PcmRender.Timing

namespace PcmRender

/-- What an open device needs. -/
structure DeviceRoute (κ : Type) where
  /-- The device. -/
  device : String
  /-- Its opened stream. -/
  endpoint : Endpoint
  /-- The format of the bytes in the ring. -/
  source : Format
  /-- The pace of the endpoint. -/
  timing : Timing
  /-- The bytes on their way to the device. -/
  ring : Ring
  /-- The conversion to the format of the endpoint, if one is needed. -/
  stage : Option κ
  /-- When a feed found the ring full and nothing has moved since, in nanoseconds. -/
  onset : Option Nat

/-- Where a session sends its audio. -/
inductive Route (κ : Type)
  /-- Nowhere. -/
  | closed
  /-- To the null sink. -/
  | null
  /-- To a device. -/
  | device (route : DeviceRoute κ)

namespace DeviceRoute

variable {κ : Type}

/-- How many bytes the ring in front of an endpoint holds: a whole device buffer of source
frames. -/
def ringSize (source : Format) (timing : Timing) : Nat := timing.bufferFrames * source.align

/-- A route over an endpoint that was opened on a device, its ring full of silence so that the
first cycles have something to write. -/
def build [Stage κ] (device : String) (source : Format) (endpoint : Endpoint) (usual : Duration) :
    Except Fault (DeviceRoute κ) :=
  match Timing.derive? endpoint.format endpoint.bufferFrames endpoint.period usual with
  | none => .error .overflow
  | some timing =>
    match Stage.between κ source endpoint.format with
    | .error e => .error (.error (.initFailed device e.message))
    | .ok stage =>
      if ringSize source timing = 0 then
        .error (.error (.initFailed device "endpoint buffer is empty"))
      else if timing.watchdog?.isNone then .error .overflow
      else .ok
        { device
          endpoint
          source
          timing
          ring := Ring.silent (ringSize source timing)
          stage
          onset := none }

/-! ## The watchdog. -/

/-- The route with its watchdog marked, unless it is marked already. -/
def mark (r : DeviceRoute κ) (now : Nat) : DeviceRoute κ :=
  { r with onset := some (r.onset.getD now) }

/-- The route after something has moved. -/
def clear (r : DeviceRoute κ) : DeviceRoute κ := { r with onset := none }

/-- How long nothing has moved, once that is longer than the pace allows. -/
def stalledFor? (r : DeviceRoute κ) (now : Nat) : Option Duration :=
  match r.onset with
  | some since =>
    let time : Duration := ⟨now - since⟩
    if r.timing.watchdog < time then some time else none
  | none => none

end DeviceRoute

end PcmRender
