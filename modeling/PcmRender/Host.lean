/-
  PcmRender.Host — **what a session needs of the machine that it runs on.**

  A host opens endpoints on named devices, moves frames into them, and can give a session a thread.
  `Host` lists its calls over a state of its own, which every call that changes something hands
  back.  An endpoint is a value: it says which device it belongs to and what the device told about
  itself when it was activated, and all else is asked of the host.

  Main definitions:
    * `Endpoint` — an opened stream,
    * `Host` — the calls.
-/
import PcmRender.Error
import PcmRender.Format

namespace PcmRender

/-- An opened stream on a device. -/
structure Endpoint where
  /-- The device. -/
  device : String
  /-- The format that the endpoint says it takes. -/
  format : Format
  /-- The format that was asked for. -/
  activated : Format
  /-- How many frames its buffer holds. -/
  bufferFrames : Nat
  /-- The period that the device reports, if it reports one. -/
  period : Option Duration
deriving DecidableEq, Inhabited, Repr

/-- Why a call on an opened stream does not answer. -/
inductive EndpointFault
  /-- It failed, and says so. -/
  | failed (cause : RenderError)
  /-- It took the calling task down. -/
  | crashed
deriving DecidableEq, Inhabited, Repr

/-- Machines that render audio, by their state. -/
class Host (σ : Type) where
  /-- Opens a stream on a device in exactly this format, with a buffer of about this length. -/
  activate : σ → String → Format → Duration → Except RenderError Endpoint × σ
  /-- The formats that a device is known to take, the best first. -/
  supportedFormats : σ → String → Except RenderError (List Format)
  /-- The name of a device for its user. -/
  deviceName : σ → String → Option String
  /-- The device to render on if none is chosen. -/
  defaultDevice : σ → Option String
  /-- The frames that the buffer of a stream can take now. -/
  freeFrames : σ → Endpoint → Except EndpointFault Nat × σ
  /-- Writes bytes to a stream, and says how many frames it took. -/
  write : σ → Endpoint → List UInt8 → Except EndpointFault Nat × σ
  /-- Starts a stream. -/
  start : σ → Endpoint → Except RenderError Unit × σ
  /-- Stops a stream. -/
  stop : σ → Endpoint → Except RenderError Unit × σ
  /-- Gives a stream back. -/
  release : σ → Endpoint → σ
  /-- Returns from a wait for the next period of a stream, and says whether the device asked for
  audio. -/
  waitReady : σ → Endpoint → Except RenderError Bool × σ
  /-- Whether a thread can be had, and why not. -/
  spawn : σ → Except String Unit

end PcmRender
