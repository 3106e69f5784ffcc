/-
  PcmRender.Route.Cycle — **one movement of audio from the ring to the device.**

  Once per period a route asks its endpoint how many frames are free, and writes that many, counted
  in frames of the source:

    * with at least a period queued it writes what is queued, without silence;
    * with less it fills up with silence, as far as the ring has room;
    * what it writes is scaled by the gain on a copy, so bytes that stay queued stay unscaled;
    * with a conversion stage the copy is converted on its way to the endpoint.

  The bytes that were taken leave the ring, and the watchdog is cleared.

  A cycle can be stopped by a division by zero, by a number of bytes that 64 bits do not hold, by a
  cut beyond the content of the ring, by the stage or by the endpoint.  `CycleFault` names these
  cases.

  Main definitions:
    * `DeviceRoute.requested?`, `DeviceRoute.countable`, `DeviceRoute.amount` — how much is written,
    * `DeviceRoute.cycle` — the movement.
-/
import PcmRender.Gain
import PcmRender.Route

namespace PcmRender

/-- What takes a cycle down. -/
inductive CycleFault
  /-- The device has no rate to scale by. -/
  | zeroRate
  /-- The source has frames without bytes, or samples without bytes. -/
  | emptyFrames
  /-- The bytes to write are more than 64 bits count. -/
  | overflow
  /-- The ring has less content than is written. -/
  | shortRing
  /-- The conversion stage looked for a sample where there is none. -/
  | stage
  /-- The endpoint took the task down. -/
  | endpoint
deriving DecidableEq, Inhabited, Repr

/-- What a cycle did. -/
structure Cycled (σ κ : Type) where
  /-- The host afterwards. -/
  host : σ
  /-- The route afterwards. -/
  route : DeviceRoute κ
  /-- The bytes handed to the endpoint, if any were. -/
  offered : Option (List UInt8) := none
  /-- The bytes that left the ring, as they stood in it. -/
  popped : List UInt8 := []
  /-- How many bytes left the ring. -/
  outcome : Except CycleFault Nat

namespace DeviceRoute

variable {σ κ : Type} [Host σ] [Stage κ]

/-! ## §1. How much is written. -/

/-- The free device frames in frames of the source; `none` if the device has no rate. -/
def requested? (r : DeviceRoute κ) (free : Nat) : Option Nat :=
  if r.stage.isSome && r.source.rate != r.endpoint.format.rate then
    if r.endpoint.format.rate = 0 then none
    else some (free * r.source.rate / r.endpoint.format.rate)
  else some free

/-- The whole frames that are queued. -/
def queued (r : DeviceRoute κ) : Nat := r.ring.len / r.source.align

/-- The frames to write for so many requested ones: no silence behind a queued period. -/
def frames (r : DeviceRoute κ) (requested : Nat) : Nat :=
  if r.queued < requested ∧ r.timing.periodFrames ≤ r.queued then r.queued else requested

/-- Whether the bytes of the frames to write are a count of 64 bits.  (That the free frames at the
rate of the source are one needs no test: both factors have 32 bits.) -/
def countable (r : DeviceRoute κ) (requested : Nat) : Bool :=
  decide (r.frames requested * r.source.align < Nat.pow 2 64)

/-- The bytes to write, no more than the ring has cells. -/
def amount (r : DeviceRoute κ) (requested : Nat) : Nat :=
  min (r.frames requested * r.source.align) r.ring.capacity

/-! ## §2. Delivery. -/

/-- The route after `removed` bytes have left its ring. -/
def advance (r : DeviceRoute κ) (removed : Nat) : DeviceRoute κ :=
  if 0 < removed then { r with ring := r.ring.popFront removed, onset := none } else r

/-- What a cycle did that ended with `removed` bytes leaving the ring. -/
def moved (host : σ) (r : DeviceRoute κ) (offered : List UInt8) (removed : Nat) : Cycled σ κ where
  host := host
  route := r.advance removed
  offered := some offered
  popped := r.ring.content.take removed
  outcome := .ok removed

/-- What a cycle did in which nothing left the ring. -/
def unmoved (host : σ) (r : DeviceRoute κ) (outcome : Except CycleFault Nat)
    (offered : Option (List UInt8) := none) : Cycled σ κ where
  host := host
  route := r
  offered := offered
  outcome := outcome

/-- Writes bytes in the source format to an endpoint of the same format. -/
def deliverPlain (host : σ) (r : DeviceRoute κ) (staged : List UInt8) : Cycled σ κ :=
  match Host.write host r.endpoint staged with
  | (.error .crashed, host) => unmoved host r (.error .endpoint) staged
  | (.error (.failed _), host) => unmoved host r (.ok 0) staged
  | (.ok taken, host) => moved host r staged (taken * r.source.align)

/-- Converts bytes in the source format and writes what comes of them.  They have left the ring
even if the write fails, because the stage has moved past them. -/
def deliverConverted (host : σ) (r : DeviceRoute κ) (stage : κ) (staged : List UInt8) :
    Cycled σ κ :=
  match Stage.process? stage staged with
  | none => unmoved host r (.error .stage)
  | some conversion =>
    let r := { r with stage := some conversion.next }
    if conversion.consumed = staged.length then
      match Host.write host r.endpoint conversion.output with
      | (.error .crashed, host) => unmoved host r (.error .endpoint) conversion.output
      | (_, host) => moved host r conversion.output staged.length
    else unmoved host r (.ok 0)

/-- Pads the ring to `amount` bytes and delivers them, scaled by the gain. -/
def deliver (host : σ) (r : DeviceRoute κ) (gain : Single) (amount : Nat) : Cycled σ κ :=
  -- The silence stays in the ring if the endpoint does not take it.
  let r := { r with ring := r.ring.padWithSilence amount }
  if r.ring.len < amount then unmoved host r (.error .shortRing)
  else match Gain.scaleBytes? r.source gain (r.ring.content.take amount) with
    | none => unmoved host r (.error .emptyFrames)
    | some staged =>
      match r.stage with
      | none => deliverPlain host r staged
      | some stage => deliverConverted host r stage staged

/-! ## §3. The cycle. -/

/-- Moves what the endpoint has room for. -/
def cycle (host : σ) (r : DeviceRoute κ) (gain : Single) : Cycled σ κ :=
  match Host.freeFrames host r.endpoint with
  | (.error .crashed, host) => unmoved host r (.error .endpoint)
  | (answer, host) =>
    match r.requested? (free answer) with
    | none => unmoved host r (.error .zeroRate)
    | some 0 => unmoved host r (.ok 0)
    | some requested =>
      if r.source.align = 0 then unmoved host r (.error .emptyFrames)
      -- The bytes are counted before they are bounded by the ring.
      else if r.countable requested then deliver host r gain (r.amount requested)
      else unmoved host r (.error .overflow)
where
  /-- A query that fails counts as no free frame. -/
  free : Except EndpointFault Nat → Nat
    | .ok n => n
    | .error _ => 0

end DeviceRoute

end PcmRender
