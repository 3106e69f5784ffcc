/-
  PcmRender.Session.Stepped — **a session whose drain task moves only when it is told to.**

  A stepped session carries its own clock.  The drain task of a successful start runs one cycle and
  then waits for the device; it comes back from that wait at `tick` only.  Nothing else moves
  between two calls, so a producer that finds the ring full waits out its period on the clock.

  Main definitions:
    * `SteppedSession` and its lifecycle calls,
    * `SteppedSession.tick` — one period of the device,
    * `SteppedSession.feed`, and `parkedFeed` and `switchFeed`, where another call runs while a
      producer waits.
-/
import PcmRender.Session.Drain
import PcmRender.Session.Feed

namespace PcmRender

/-- A session with its own clock. -/
structure SteppedSession (σ κ : Type) where
  /-- The session. -/
  session : Session σ κ
  /-- Nanoseconds since the clock began. -/
  clock : Nat := 0

/-- What a tick meets. -/
inductive Tick
  /-- No drain task waits. -/
  | noDrain
  /-- It ran one cycle and waits again. -/
  | cycle
  /-- It is gone. -/
  | exit
deriving DecidableEq, Inhabited, Repr

namespace SteppedSession

variable {σ κ : Type} [Host σ] [Stage κ]

/-! ## §1. The clock. -/

/-- The calendar when the clock begins, in milliseconds. -/
def epoch : Nat := 1000000000000

/-- The moment that the clock shows. -/
def now (s : SteppedSession σ κ) : Instant := ⟨s.clock, Int.ofNat (epoch + s.clock / 1000000)⟩

/-- The calendar time that the clock shows, in nanoseconds. -/
def calendar (s : SteppedSession σ κ) : Nat := epoch * 1000000 + s.clock

/-- Time passes. -/
def sleep (s : SteppedSession σ κ) (time : Duration) : SteppedSession σ κ :=
  { s with clock := s.clock + time.nanos }

/-- The session changed in place. -/
def map (s : SteppedSession σ κ) (change : Session σ κ → Session σ κ) : SteppedSession σ κ :=
  { s with session := change s.session }

/-! ## §2. Lifecycle. -/

/-- Lets a drain task that has just got its thread run its first cycle. -/
def settle (s : SteppedSession σ κ) : SteppedSession σ κ :=
  match s.session.task with
  | some task =>
    if task.fresh then
      s.map fun session =>
        ({ session with task := some { task with fresh := false } }.drainSection task.generation).2
    else s
  | none => s

/-- A lifecycle call, and the first cycle of the drain task that it may have started. -/
def call {ρ : Type} (s : SteppedSession σ κ) (run : Session σ κ → ρ × Session σ κ) :
    ρ × SteppedSession σ κ :=
  let (answer, session) := run s.session
  (answer, { s with session }.settle)

/-- Opens the session. -/
def openRoute (s : SteppedSession σ κ) : Except Fault Unit × SteppedSession σ κ :=
  s.call Session.openRoute

/-- Starts the session. -/
def start (s : SteppedSession σ κ) : Except Fault Unit × SteppedSession σ κ := s.call Session.start

/-- Stops the session. -/
def stop (s : SteppedSession σ κ) : Except Fault Unit × SteppedSession σ κ :=
  s.call fun session => (.ok (), session.stop)

/-- Closes the session. -/
def close (s : SteppedSession σ κ) : Except Fault Unit × SteppedSession σ κ :=
  s.call fun session => (.ok (), session.close)

/-- Selects a device or the null sink. -/
def select (s : SteppedSession σ κ) (target : Option String) :
    Except Fault Unit × SteppedSession σ κ :=
  s.call (·.select target)

/-- Opens the selected device once more. -/
def reopen (s : SteppedSession σ κ) : Except Fault Unit × SteppedSession σ κ :=
  s.call Session.reopen

/-! ## §3. The drain task. -/

/-- The drain task comes back from its wait. -/
def tick (s : SteppedSession σ κ) : Tick × SteppedSession σ κ :=
  match s.session.draining with
  | none => (.noDrain, s)
  | some generation =>
    match s.session.drainWait generation with
    | (false, session) => (.exit, { s with session })
    | (true, session) =>
      match session.drainSection generation with
      | (.cycled, session) => (.cycle, { s with session })
      | (_, session) => (.exit, { s with session })

/-! ## §4. Producers. -/

/-- The second section of a feed that waits since `seen`: it comes at the next progress, or after
a period. -/
def feedAgain (s : SteppedSession σ κ) (seen : Nat) (period : Duration) :
    Except RenderError Feed × SteppedSession σ κ :=
  let s := if s.session.progressedSince seen then s else s.sleep period
  (s.session.feedAgain s.now, s)

/-- What a feed is after its first section, with another call in between if it waits for room. -/
def feedAround {ρ : Type} (s : SteppedSession σ κ) (chunk : List UInt8)
    (between : SteppedSession σ κ → ρ × SteppedSession σ κ) :
    ρ × Except RenderError Feed × SteppedSession σ κ :=
  match s.session.feedSection chunk s.now with
  | (.done answer, session) =>
    let (other, s) := between { s with session }
    (other, answer, s)
  | (.awaitSpace seen period, session) =>
    let (other, s) := between { s with session }
    (other, s.feedAgain seen period)
  | (.awaitSwitch _, session) =>
    let (other, s) := between { s with session }
    (other, .ok (.accepted 0), s)

/-- Offers a chunk. -/
def feed (s : SteppedSession σ κ) (chunk : List UInt8) :
    Except RenderError Feed × SteppedSession σ κ :=
  (s.feedAround chunk fun s => ((), s)).2

/-- Whether a switch has a stream to stop, so that a producer can arrive meanwhile. -/
def rendersOnDevice (s : SteppedSession σ κ) : Bool :=
  s.session.phase == .started && s.session.deviceRoute?.isSome

/-- Selects a device while a producer arrives, who has to wait for the new route.  There is no
producer if nothing renders on a device. -/
def switchFeed (s : SteppedSession σ κ) (target : Option String) (chunk : List UInt8) :
    Except Fault Unit × Option (Except RenderError Feed) × SteppedSession σ κ :=
  let arrives := s.rendersOnDevice
  let (selected, s) := s.select target
  if arrives then
    let (answer, s) := s.feed chunk
    (selected, some answer, s)
  else (selected, none, s)

end SteppedSession

end PcmRender
