/-
  PcmRender.Session.Lifecycle — **opening, starting, stopping, closing and switching.**

  The lifecycle calls of a session exclude each other.  Each is made of gate sections:

      open     openSection
      start    startSection, then a thread for the drain task: spawned, or spawnRefused and undoStart
      stop     stopSection, then the drain task retires: retireDrain
      close    stop, then closeSection
      switch   beginSwitch, close, open and start as far as it was before, endSwitch

  A call that finds nothing to do succeeds.  A switch that cannot open or start its target leaves
  the session closed, with the target selected.

  Main definitions:
    * the sections,
    * `Session.openRoute`, `Session.start`, `Session.stop`, `Session.close`,
    * `Session.select`, `Session.reopen`.
-/
import PcmRender.Negotiation
import PcmRender.Session.Basic

namespace PcmRender

namespace Session

variable {σ κ : Type} [Host σ] [Stage κ]

/-! ## §1. Open. -/

/-- Opens the null sink. -/
def openNull (s : Session σ κ) : Session σ κ :=
  { s with route := .null, deviceName := "", phase := .opened }.note .debug
    "No device selected, opening null sink"

/-- A device could not be opened. -/
def openFailed (s : Session σ κ) (device : String) (cause : RenderError) : Session σ κ :=
  s.note .error s!"Failed to open render session on {device}: {cause.message}"

/-- Takes a route as the one to render on. -/
def adopt (s : Session σ κ) (r : DeviceRoute κ) : Session σ κ :=
  { s with
    route := .device r
    phase := .opened
    period := r.timing.period.kept
    published := none
    deviceName := (Host.deviceName s.host r.device).getD r.device }.note .info
    s!"Render session open on {r.device}: source {r.source.text}, device {r.endpoint.format.text}, buffer {r.timing.bufferFrames} frames"

/-- Builds the route over an opened endpoint, and gives the endpoint back if that fails.  An overflow
is reported by nobody. -/
def openEndpoint (s : Session σ κ) (device : String) (endpoint : Endpoint) :
    Except Fault Unit × Session σ κ :=
  match DeviceRoute.build device s.source endpoint s.config.period with
  | .ok r => (.ok (), s.adopt r)
  | .error (.error e) =>
    (.error (.error e), { s with host := Host.release s.host endpoint }.openFailed device e)
  | .error .overflow => (.error .overflow, { s with host := Host.release s.host endpoint })

/-- Opens a device. -/
def openDevice (s : Session σ κ) (device : String) : Except Fault Unit × Session σ κ :=
  let asked := Negotiation.negotiate s.host device s.source s.config.buffer
  let s := { s with host := asked.host, log := s.log ++ asked.log }
  match asked.result with
  | .ok endpoint => s.openEndpoint device endpoint
  | .error (.error e) => (.error (.error e), s.openFailed device e)
  | .error .overflow => (.error .overflow, s)

/-- Opens the selected device or the null sink, if nothing is open. -/
def openSection (s : Session σ κ) : Except Fault Unit × Session σ κ :=
  match s.route, s.selected with
  | .closed, none => (.ok (), s.openNull)
  | .closed, some device => s.openDevice device
  | _, _ => (.ok (), s)

/-- Opens the session; nothing changes if it is open. -/
def openRoute (s : Session σ κ) : Except Fault Unit × Session σ κ := s.openSection

/-! ## §2. Start. -/

/-- The session rendering on a device, with the generation whose drain task is still to come. -/
def beginRendering (s : Session σ κ) : Session σ κ :=
  { s with
    phase := .started
    generation := s.generation + 1
    draining := some (s.generation + 1) }

/-- The route with a store of silence in front of what is queued, and nothing remembered. -/
def rewound (r : DeviceRoute κ) : DeviceRoute κ :=
  { r with ring := r.ring.shiftToTail, stage := r.stage.map Stage.reset }

/-- Starts a device route; a stream that runs already is as good as a started one. -/
def startDevice (s : Session σ κ) (r : DeviceRoute κ) :
    Except Fault (Option Nat) × Session σ κ :=
  -- The ring is made ready before the stream runs, and stays so if it does not run.
  let r := rewound r
  let s := s.withRoute r
  match Host.start s.host r.endpoint with
  | (.ok (), host) => begun { s with host }
  | (.error .alreadyStarted, host) =>
    begun ({ s with host }.note .debug s!"Render stream on {r.device} already running")
  | (.error e, host) =>
    (.error (.error e),
      { s with host }.note .error s!"Failed to start render stream on {r.device}: {e.message}")
where
  begun (s : Session σ κ) : Except Fault (Option Nat) × Session σ κ :=
    (.ok (some (s.generation + 1)), s.beginRendering)

/-- Starts the route.  On success with a generation, its drain task needs a thread now. -/
def startSection (s : Session σ κ) : Except Fault (Option Nat) × Session σ κ :=
  if s.phase = .started then (.ok none, s)
  else match s.route with
    | .closed => (.error (.error (.invalidState "start on a closed session")), s)
    | .null => (.ok none, { s with phase := .started }.note .debug "Null sink started")
    | .device r => s.startDevice r

/-- The name of the device route, for the log. -/
def routeName (s : Session σ κ) : String := (s.deviceRoute?.map DeviceRoute.device).getD ""

/-- The drain task of a generation has its thread. -/
def spawned (s : Session σ κ) (generation : Nat) : Session σ κ :=
  { s with task := some { generation } }.note .info s!"Render session started on {s.routeName}"

/-- The drain task of a generation is gone. -/
def drainExited (s : Session σ κ) (generation : Nat) : Session σ κ :=
  if s.draining = some generation then { s with draining := none } else s

/-- There is no thread for the drain task of a generation, and none will come. -/
def spawnRefused (s : Session σ κ) (generation : Nat) (reason : String) : Session σ κ :=
  (s.note .error s!"Failed to spawn drain task: {reason}").drainExited generation

/-- The stream of a route without a drain task is stopped again. -/
def undoStart (s : Session σ κ) : Session σ κ :=
  let host := match s.route with
    | .device r => (Host.stop s.host r.endpoint).2
    | _ => s.host
  { s with host, phase := .opened }

/-- A start that gets no thread for its drain task. -/
def spawnFailedSection (s : Session σ κ) (generation : Nat) (reason : String) : Session σ κ :=
  (s.spawnRefused generation reason).undoStart

/-- A drain task that is left over has been joined. -/
def forgetTask (s : Session σ κ) : Session σ κ := { s with task := none }

/-- Starts the session; nothing changes if it is started. -/
def start (s : Session σ κ) : Except Fault Unit × Session σ κ :=
  match s.startSection with
  | (.error e, s) => (.error e, s)
  | (.ok none, s) => (.ok (), s)
  | (.ok (some generation), s) =>
    let s := s.forgetTask
    match Host.spawn s.host with
    | .ok () => (.ok (), s.spawned generation)
    | .error reason => (.error (.error (.io reason)), s.spawnFailedSection generation reason)

/-! ## §3. Stop. -/

/-- Stops the stream of the route.  That it cannot be stopped is reported and changes nothing. -/
def stopStream (s : Session σ κ) : Session σ κ :=
  match s.route with
  | .device r =>
    match Host.stop s.host r.endpoint with
    | (.ok (), host) => { s with host }.clearWatchdog r
    | (.error e, host) =>
      ({ s with host }.note .error
        s!"Failed to stop render stream on {r.device}: {e.message}").clearWatchdog r
  | _ => s

/-- Ends the generation that renders. -/
def endRendering (s : Session σ κ) : Session σ κ :=
  { s with phase := .opened, generation := s.generation + 1 }

/-- Stops the route, and says whether it was started. -/
def stopSection (s : Session σ κ) : Bool × Session σ κ :=
  if s.phase = .started then (true, s.stopStream.endRendering) else (false, s)

/-- The drain task has been joined and is forgotten. -/
def joinDrain (s : Session σ κ) : Session σ κ :=
  let crashed := (s.task.map DrainTask.crashed).getD false
  let s := s.forgetTask
  (if crashed then s.note .error "Drain task panicked" else s).note .debug "Render session stopped"

/-- The drain task has retired, and has been joined. -/
def retireDrain (s : Session σ κ) : Session σ κ := { s with draining := none }.joinDrain

/-- Stops the session; nothing changes if it is not started. -/
def stop (s : Session σ κ) : Session σ κ :=
  match s.stopSection with
  | (true, s) => s.retireDrain
  | (false, s) => s

/-! ## §4. Close. -/

/-- The session without a route. -/
def withoutRoute (s : Session σ κ) : Session σ κ :=
  { s with route := .closed, phase := .closed, deviceName := "" }

/-- Gives the route back. -/
def closeSection (s : Session σ κ) : Session σ κ :=
  match s.route with
  | .closed => s
  | .null => s.withoutRoute
  | .device r =>
    { s with host := Host.release s.host r.endpoint, published := none }.withoutRoute.note .info
      s!"Render session closed on {r.device}"

/-- Closes the session; nothing changes if it is closed. -/
def close (s : Session σ κ) : Session σ κ := s.stop.closeSection

/-! ## §5. Switch. -/

/-- From here on producers wait for the new route. -/
def beginSwitch (s : Session σ κ) : Session σ κ := { s with switching := true }

/-- The new route is up, or there is none; waiting producers look again. -/
def endSwitch (s : Session σ κ) : Session σ κ := { s with switching := false }.wake

/-- Starts the new route, and closes it if that fails. -/
def restart (s : Session σ κ) : Except Fault Unit × Session σ κ :=
  match s.start with
  | (.ok (), s) => (.ok (), s)
  | (.error (.error e), s) =>
    (.error (.error e),
      (s.note .warn s!"Restart after device switch failed, closing: {e.message}").close)
  | (.error .overflow, s) => (.error .overflow, s)

/-- Brings a closed session to the phase that it had before. -/
def resume (s : Session σ κ) (before : Phase) : Except Fault Unit × Session σ κ :=
  match s.openRoute with
  | (.error e, s) => (.error e, s)
  | (.ok (), s) => if before = .started then s.restart else (.ok (), s)

/-- Replaces the route of a session that is open. -/
def replaceRoute (s : Session σ κ) (target : Option String) :
    Except Fault Unit × Session σ κ :=
  let before := s.phase
  let s := { s.beginSwitch.close with selected := target }
  let (answer, s) := s.resume before
  -- Producers are let in again whether or not the new route is up.
  (answer, s.endSwitch)

/-- Selects another device or the null sink, and brings the session there to the phase that it was
in.  What is still queued is lost. -/
def select (s : Session σ κ) (target : Option String) : Except Fault Unit × Session σ κ :=
  let s := s.note .info
    s!"Switching render device to {target.getD placeholder} (was {s.phase.text})"
  if s.phase = .closed then (.ok (), { s.close with selected := target })
  else s.replaceRoute target
where
  placeholder : String := "<none>"

/-- Opens the selected device once more. -/
def reopen (s : Session σ κ) : Except Fault Unit × Session σ κ := s.select s.selected

end Session

end PcmRender
