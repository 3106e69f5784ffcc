/-
  PcmRender.Error — **why an operation fails.**

  `RenderError` lists the causes that a caller is told about, `RenderError.message` their wording,
  and `RenderError.isRecoverable` the ones after which the same call may be tried again.

  A `Fault` is what ends a call: one of these causes, or arithmetic that leaves the width of the
  field it is written to.  The second one is no answer to the caller; the program stops there.
-/
import PcmRender.Duration

namespace PcmRender

/-- A cause of failure that the caller is told about. -/
inductive RenderError
  /-- No device has this identifier. -/
  | deviceNotFound (id : String)
  /-- A device operation went wrong. -/
  | device (id message : String)
  /-- The endpoint refuses to run in a format, given as text. -/
  | formatRejected (format : String)
  /-- No device could ever render this format. -/
  | unsupportedFormat (format : String)
  /-- An endpoint could not be opened. -/
  | initFailed (id reason : String)
  /-- The conversion stage cannot be built. -/
  | resampler (reason : String)
  /-- Audio was fed to a session that is not started. -/
  | notStarted
  /-- The hardware stream was running already. -/
  | alreadyStarted
  /-- No feed got through for longer than the watchdog allows. -/
  | writeStalled (time : Duration)
  /-- The ready signal of an endpoint is unusable. -/
  | waitFailed (reason : String)
  /-- The state of the session does not allow the call. -/
  | invalidState (reason : String)
  /-- A configuration value is out of range. -/
  | invalidConfig (reason : String)
  /-- An input or output error with its own text. -/
  | io (text : String)
deriving DecidableEq, Inhabited, Repr

namespace RenderError

/-- The wording of an error. -/
def message : RenderError → String
  | deviceNotFound id => s!"Device not found: {id}"
  | device id message => "Device '" ++ id ++ "' error: " ++ message
  | formatRejected format => s!"Format rejected by device: {format}"
  | unsupportedFormat format => s!"Unsupported format: {format}"
  | initFailed id reason => "Failed to open render endpoint '" ++ id ++ "': " ++ reason
  | resampler reason => s!"Resampler error: {reason}"
  | notStarted => "Render session not started"
  | alreadyStarted => "Render stream already started"
  | writeStalled time => s!"Render write stalled for {time.text}"
  | waitFailed reason => s!"Wait on endpoint ready signal failed: {reason}"
  | invalidState reason => s!"Invalid session state: {reason}"
  | invalidConfig reason => s!"Invalid configuration: {reason}"
  | io text => s!"I/O error: {text}"

/-- Whether the failed call may be tried again as it stands. -/
def isRecoverable : RenderError → Bool
  | device _ _ | formatRejected _ | alreadyStarted => true
  | _ => false

end RenderError

/-- What ends a call early. -/
inductive Fault
  /-- The caller is told this cause. -/
  | error (cause : RenderError)
  /-- A number left the width of its field; the program stops. -/
  | overflow
deriving DecidableEq, Inhabited, Repr

end PcmRender
