/-
  PcmRender.Session.Watched — **a session under a watch, one thing after the other.**

  A watch has a thread of its own.  It takes an event, looks at what the session has selected, and
  decides; where it has to switch, it gives the machine some time to settle first.  All this while the
  session lives on: its owner calls it, producers feed it, drain tasks take their turns, and devices
  come and go.

      at rest     an event      at rest, or about to switch
      about to    the switch    at rest, or taken down by an overflow
      any         a step of the session's own life

  The watch takes no event before it has made the switch that the last one asked for, so that events
  wait.

  Main definitions:
    * `Happening`, `Watched`,
    * `Watched.step`, `Watched.run` — one thing that happens, and many.
-/
import PcmRender.DeviceWatch
import PcmRender.Session.Calls

namespace PcmRender

/-- What happens around a watched session on a host `σ`. -/
inductive Happening (σ : Type)
  /-- The watch takes the next event and decides. -/
  | event (event : DeviceEvent)
  /-- It makes the switch that it has decided on. -/
  | switch
  /-- The session lives on. -/
  | call (call : Session.Call σ)

/-- The event that is taken, if one is. -/
def Happening.event? {σ : Type} : Happening σ → Option DeviceEvent
  | .event taken => some taken
  | _ => none

/-- A session and the watch over it. -/
structure Watched (σ κ : Type) where
  /-- The session. -/
  session : Session σ κ
  /-- The target of the switch that the watch is about to make. -/
  due : Option (Option String) := none
  /-- Whether an overflow has taken the watch down. -/
  down : Bool := false

namespace Watched

variable {σ κ : Type} [Host σ] [Stage κ]

/-- The watch switches the session; a failure is reported, and no more than that. -/
def switch (w : Watched σ κ) (target : Option String) : Watched σ κ :=
  match w.session.select target with
  | (.error .overflow, session) => { w with session, due := none, down := true }
  | (_, session) => { w with session, due := none }

/-- What becomes of it all; `none` if this cannot happen now. -/
def step (policy : WatchPolicy) (w : Watched σ κ) : Happening σ → Option (Watched σ κ)
  | .event event =>
    if w.down || w.due.isSome then none
    else some { w with due := policy.target? w.session.selected event }
  | .switch => w.due.map w.switch
  | .call call => some { w with session := w.session.perform call }

/-- What becomes of it all after many things. -/
def run (policy : WatchPolicy) (w : Watched σ κ) : List (Happening σ) → Option (Watched σ κ)
  | [] => some w
  | happening :: rest => (w.step policy happening).bind fun next => next.run policy rest

end Watched

end PcmRender
