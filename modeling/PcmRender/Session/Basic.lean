/-
  PcmRender.Session.Basic — **the state of a render session.**

  A session renders one stream of audio on one selected device, or on the null sink.  Its state is
  one value.  What happens to it happens in *gate sections*: total functions on this value, each of
  which runs as a whole.  Producers, the drain task and the lifecycle calls interleave section by
  section; a call that is not disturbed is the composition of its own.

  Three counters order the sections of different parties:

      generation   moves at every start and stop; a drain task serves the one it was started for
      progress     moves whenever a waiting producer may have something to do
      switching    is set while a lifecycle call replaces the route

  Main definitions:
    * `Session`, `SessionConfig`, `Phase`, `DrainTask`,
    * `Session.create` — a closed session,
    * `Session.setFormat`, `Session.setGain` and what can be asked of a session.
-/
import PcmRender.Gain
import PcmRender.Log
import PcmRender.Route
import PcmRender.Text.Quoted

namespace PcmRender

/-! ## §1. The state. -/

/-- How a session opens its device. -/
structure SessionConfig where
  /-- The device buffer that is asked for. -/
  buffer : Duration := Timing.defaultBuffer
  /-- The period of a device that reports none. -/
  period : Duration := Timing.defaultPeriod
deriving DecidableEq, Inhabited, Repr

/-- How far a session has come. -/
inductive Phase
  /-- It holds nothing. -/
  | closed
  /-- Its route is open and does not render. -/
  | opened
  /-- It renders. -/
  | started
deriving DecidableEq, Inhabited, Repr

/-- The name of a phase in the log. -/
def Phase.text : Phase → String
  | closed => "Closed"
  | opened => "Open"
  | started => "Started"

/-- The drain task that the lifecycle calls know of, running or not. -/
structure DrainTask where
  /-- The generation that it serves. -/
  generation : Nat
  /-- Whether it has yet to run its first cycle. -/
  fresh : Bool := true
  /-- Whether a cycle took it down. -/
  crashed : Bool := false
deriving DecidableEq, Inhabited, Repr

/-- A moment, on the clock that only moves forward and on the calendar. -/
structure Instant where
  /-- Nanoseconds on the clock that only moves forward. -/
  nanos : Nat
  /-- The calendar in milliseconds since 1970, the started one dropped; less than zero before. -/
  epochMillis : Int
deriving DecidableEq, Inhabited, Repr

/-- What observers can be told of a moment: its milliseconds since 1970 as a field of 64 bits keeps
them, where no time is earlier than one, and nothing at all if the calendar stands before 1970. -/
def Instant.published? (now : Instant) : Option Nat :=
  if 0 ≤ now.epochMillis then some (max (Format.word64 now.epochMillis.toNat) 1) else none

/-- A render session on a host `σ` with conversion stages `κ`. -/
structure Session (σ κ : Type) where
  /-- The machine. -/
  host : σ
  /-- How devices are opened. -/
  config : SessionConfig
  /-- The format that producers feed. -/
  source : Format
  /-- The selected device; without one the session renders into the null sink. -/
  selected : Option String
  /-- How far the session has come. -/
  phase : Phase := .closed
  /-- Where audio goes. -/
  route : Route κ := .closed
  /-- The number of starts and stops so far. -/
  generation : Nat := 0
  /-- Whether a lifecycle call is replacing the route. -/
  switching : Bool := false
  /-- The pace of the device that was opened last. -/
  period : Duration
  /-- How often waiting producers were given something to look at. -/
  progress : Nat := 0
  /-- The gain on the way to the device. -/
  gain : Single := Single.one
  /-- The calendar time of a stall for its observers, in milliseconds. -/
  published : Option Nat := none
  /-- The name of the open device; empty without one. -/
  deviceName : String := ""
  /-- The generation of the drain task that has not retired. -/
  draining : Option Nat := none
  /-- The drain task to be awaited at the next stop. -/
  task : Option DrainTask := none
  /-- What was reported, in order. -/
  log : List LogLine := []

namespace Session

variable {σ κ : Type}

/-! ## §2. Creation and settings. -/

/-- A closed session. -/
def create (host : σ) (source : Format) (selected : Option String) (config : SessionConfig) :
    Except RenderError (Session σ κ) :=
  if source.isSupported then .ok { host, config, source, selected, period := config.period.kept }
  else .error (.unsupportedFormat source.text)

/-- Changes the format that producers feed, while nothing is open. -/
def setFormat (s : Session σ κ) (format : Format) : Except RenderError Unit × Session σ κ :=
  if s.phase ≠ .closed then
    (.error (.invalidState "source format can only change while closed"), s)
  else if format.isSupported then (.ok (), { s with source := format })
  else (.error (.unsupportedFormat format.text), s)

/-- Changes the gain on the way to the device. -/
def setGain (s : Session σ κ) (gain : Single) : Session σ κ := { s with gain := Gain.limit gain }

/-! ## §3. What can be asked. -/

/-- The device route, if there is one. -/
def deviceRoute? (s : Session σ κ) : Option (DeviceRoute κ) :=
  match s.route with
  | .device r => some r
  | _ => none

/-- The format of the open device. -/
def deviceFormat? (s : Session σ κ) : Option Format := s.deviceRoute?.map (·.endpoint.format)

/-- The pace of the open device. -/
def timing? (s : Session σ κ) : Option Timing := s.deviceRoute?.map DeviceRoute.timing

/-- The bytes on their way to the device. -/
def buffered (s : Session σ κ) : Nat :=
  match s.route with
  | .device r => r.ring.len
  | _ => 0

/-- Whether observers see a stall. -/
def malfunctioning (s : Session σ κ) : Bool := s.published.isSome

/-- The text that shows a session without a stall to a developer. -/
def diagnosticsText (s : Session σ κ) : String :=
  "SessionDiagnostics \x7b device_name: " ++ quoted s.deviceName
    ++ ", malfunctioning_since: None \x7d"

/-! ## §4. Small changes. -/

/-- The session with one more line in its log. -/
def note (s : Session σ κ) (level : LogLevel) (message : String) : Session σ κ :=
  { s with log := s.log ++ [⟨level, .session, message⟩] }

/-- The session with its device route changed. -/
def withRoute (s : Session σ κ) (r : DeviceRoute κ) : Session σ κ := { s with route := .device r }

/-- The session after waiting producers were given something to look at. -/
def wake (s : Session σ κ) : Session σ κ := { s with progress := s.progress + 1 }

/-- The session after something has moved on its device route: a marked watchdog is cleared, and
observers see no stall any more. -/
def clearWatchdog (s : Session σ κ) (r : DeviceRoute κ) : Session σ κ :=
  { s with
    route := .device r.clear
    published := if r.onset.isSome then none else s.published }

end Session

end PcmRender
