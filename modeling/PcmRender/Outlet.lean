/-
  PcmRender.Outlet — **where raw audio is pushed to.**

  Clips and streams push chunks of bytes into something that takes them piece by piece, can be told
  to open its device again, and can be cancelled from outside at any moment.  `Outlet` lists these
  calls, so that the loops over an input can be studied against any of them; a session whose drain
  task keeps pace with its producer is one.

  Main definitions:
    * `Outlet` — the calls,
    * `ReadEvent`, `fill` — an input as it arrives, and one buffer filled from it,
    * `SessionOutlet` — a session as an outlet,
    * `withSession` — a session of its own for one input.
-/
import PcmRender.Session.Stepped

namespace PcmRender

/-! ## §1. Outlets. -/

/-- Things that take audio. -/
class Outlet (ω : Type) where
  /-- Offers bytes. -/
  feed : ω → List UInt8 → Except Fault Feed × ω
  /-- Opens the device again after a stall. -/
  reopen : ω → Except Fault Unit × ω
  /-- Looks whether cancelling was asked for. -/
  checkCancel : ω → Bool × ω
  /-- Asks for cancelling. -/
  requestCancel : ω → ω
  /-- The time, in nanoseconds. -/
  clock : ω → Nat
  /-- Waits until a time or until cancelling is asked for, and says whether it was. -/
  playOut : ω → Nat → Bool × ω
  /-- More offers than can be fruitless one after the other. -/
  patience : ω → Nat

/-! ## §2. Inputs. -/

/-- What happens at a read. -/
inductive ReadEvent
  /-- Bytes are there, as many as are asked for or fewer; no bytes are the end of the input. -/
  | bytes (data : List UInt8)
  /-- The read was interrupted and has to be tried again. -/
  | interrupted
  /-- The read failed, with a text. -/
  | failed (text : String)
  /-- Cancelling is asked for during the read, which goes on. -/
  | cancelled
deriving DecidableEq, Inhabited, Repr

/-- What filling a buffer came to. -/
structure Filled (ω : Type) where
  /-- The bytes, or the text of the failure. -/
  result : Except String (List UInt8)
  /-- What is still to happen. -/
  rest : List ReadEvent
  /-- The outlet afterwards. -/
  outlet : ω

variable {ω : Type} [Outlet ω]

/-- Reads until `room` bytes are there or the input ends. -/
def fill (outlet : ω) (room : Nat) : List ReadEvent → Filled ω
  | [] => ⟨.ok [], [], outlet⟩
  | .bytes data :: rest =>
    if data.isEmpty then ⟨.ok [], rest, outlet⟩
    -- The buffer is full; what is left of these bytes waits for the next one.
    else if room < data.length then
      ⟨.ok (data.take room), .bytes (data.drop room) :: rest, outlet⟩
    else if room = data.length then ⟨.ok data, rest, outlet⟩
    else
      -- A read that brings less than was asked for is no end of the input.
      let more := fill outlet (room - data.length) rest
      { more with result := more.result.map (data ++ ·) }
  | .interrupted :: rest => fill outlet room rest
  | .failed text :: rest => ⟨.error text, rest, outlet⟩
  | .cancelled :: rest => fill (Outlet.requestCancel outlet) room rest

/-- One read of at most `room` bytes.  An interrupted read is a failure here. -/
def readOnce (outlet : ω) (room : Nat) : List ReadEvent → Filled ω
  | [] => ⟨.ok [], [], outlet⟩
  | .bytes data :: rest =>
    if room < data.length then
      ⟨.ok (data.take room), .bytes (data.drop room) :: rest, outlet⟩
    else ⟨.ok data, rest, outlet⟩
  | .interrupted :: rest => ⟨.error "Interrupted", rest, outlet⟩
  | .failed text :: rest => ⟨.error text, rest, outlet⟩
  | .cancelled :: rest => readOnce (Outlet.requestCancel outlet) room rest

/-! ## §3. Sessions as outlets. -/

/-- A session whose drain task keeps pace with its producer. -/
structure SessionOutlet (σ κ : Type) where
  /-- The session. -/
  session : SteppedSession σ κ
  /-- Whether cancelling was asked for. -/
  cancelled : Bool := false
  /-- When cancelling will be asked for, in nanoseconds of the clock. -/
  cancelAt : Option Nat := none

namespace SessionOutlet

variable {σ κ : Type} [Host σ] [Stage κ]

/-- The session after the device has taken what is still queued, or as much of it as it takes in
`turns` cycles. -/
def drainQueued : Nat → SteppedSession σ κ → SteppedSession σ κ
  | 0, s => s
  | turns + 1, s =>
    if s.session.buffered = 0 then s
    else
      let after := s.tick.2
      if after.session.progressedSince s.session.progress then drainQueued turns after else after

/-- Offers bytes while the drain task runs. -/
def feed (o : SessionOutlet σ κ) (data : List UInt8) : Except Fault Feed × SessionOutlet σ κ :=
  let (_, answer, session) := o.session.feedAround data SteppedSession.tick
  (answer.mapError Fault.error, { o with session })

/-- Opens the device again. -/
def reopen (o : SessionOutlet σ κ) : Except Fault Unit × SessionOutlet σ κ :=
  let (answer, session) := o.session.reopen
  (answer, { o with session })

/-- Waits until a time, or until cancelling is asked for, while the device plays. -/
def playOut (o : SessionOutlet σ κ) (deadline : Nat) : Bool × SessionOutlet σ κ :=
  let session := drainQueued (o.session.session.buffered + 1) o.session
  if deadline ≤ session.clock then (false, { o with session })
  else if o.cancelled then (true, { o with session })
  else match o.cancelAt with
    | some time =>
      if time < deadline then
        (true, { o with session := { session with clock := max session.clock time }, cancelled := true })
      else (false, { o with session := { session with clock := deadline } })
    | none => (false, { o with session := { session with clock := deadline } })

/-- How often a feed can come back without having moved anything, before the route counts as
stalled. -/
def patience (o : SessionOutlet σ κ) : Nat :=
  match o.session.session.timing? with
  | some timing => timing.watchdog.nanos / max timing.period.nanos 1 + 2
  | none => 1

instance : Outlet (SessionOutlet σ κ) where
  feed := feed
  reopen := reopen
  checkCancel o := (o.cancelled, o)
  requestCancel o := { o with cancelled := true }
  clock o := o.session.clock
  playOut := playOut
  patience := patience

end SessionOutlet

/-! ## §4. A session for one input. -/

/-- What becomes of one input. -/
structure Rendered (σ κ ρ : Type) where
  /-- The report, or why there is none.  It is missing if the patience of the outlet came to an end,
  which it does not before the watchdog speaks. -/
  result : Option (Except Fault ρ)
  /-- The session, closed, if the input came to have one. -/
  session : Option (SteppedSession σ κ) := none
  /-- How many of its lines were reported before the first byte was read. -/
  openingLines : Nat := 0
  /-- Whether cancelling was asked for after the session had started. -/
  interrupted : Bool := false

/-- An input together with what it meets. -/
structure Input where
  /-- The input as it arrives. -/
  events : List ReadEvent
  /-- Whether cancelling was asked for before it began. -/
  cancelled : Bool := false
  /-- When it will be asked for while the input sounds, in nanoseconds of the clock. -/
  cancelAt : Option Nat := none
deriving Inhabited, Repr

variable {σ κ ρ : Type} [Host σ] [Stage κ]

/-- The bytes that are still to be read. -/
def inputLength : List ReadEvent → Nat
  | [] => 0
  | .bytes data :: rest => data.length + inputLength rest
  | _ :: rest => inputLength rest

/-- The end of an input whose session could not be opened or started. -/
def notRendered (fault : Fault) (s : SteppedSession σ κ) : Rendered σ κ ρ :=
  let closed := s.close.2
  { result := some (.error fault), session := some closed, openingLines := closed.session.log.length }

/-- Opens and starts a session, and renders an input with it. -/
def withSession (host : σ) (format : Format) (device : Option String) (config : SessionConfig)
    (gain : Single) (body : SteppedSession σ κ → Rendered σ κ ρ) : Rendered σ κ ρ :=
  match Session.create host format device config with
  | .error e => { result := some (.error (.error e)) }
  | .ok session =>
    match (SteppedSession.mk (session.setGain gain) 0).openRoute with
    | (.error e, s) => notRendered e s
    | (.ok (), s) =>
      match s.start with
      | (.error e, s) => notRendered e s
      | (.ok (), s) => body s

end PcmRender
