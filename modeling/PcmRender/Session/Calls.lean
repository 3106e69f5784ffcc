/-
  PcmRender.Session.Calls — **the life of a session, call after call.**

  A session whose owner makes one call at a time lives through a sequence of steps: his calls, each of
  which runs to its end, and between them the steps of drain tasks and whatever else happens on the
  machine.  Each step is one function on the session, and a life is a list of them.

  Main definitions:
    * `Session.Call` — a step,
    * `Session.perform` — what it does,
    * `Session.run` — many of them.
-/
import PcmRender.Session.Drain
import PcmRender.Session.Feed

namespace PcmRender.Session

/-- A step in the life of a session on a host `σ`. -/
inductive Call (σ : Type)
  /-- The session is opened. -/
  | openRoute
  /-- It is started. -/
  | start
  /-- It is stopped. -/
  | stop
  /-- It is closed. -/
  | close
  /-- Its selected device is opened once more. -/
  | reopen
  /-- It is switched to a device or to the null sink. -/
  | select (target : Option String)
  /-- The format that producers feed is changed. -/
  | setFormat (format : Format)
  /-- The gain is changed. -/
  | setGain (gain : Single)
  /-- A chunk is offered. -/
  | feed (chunk : List UInt8) (now : Instant)
  /-- The drain task of a generation takes a turn. -/
  | turn (generation : Nat)
  /-- The drain task of a generation waits for the device. -/
  | wait (generation : Nat)
  /-- Something happens on the machine outside of the session. -/
  | elsewhere (change : σ → σ)

variable {σ κ : Type} [Host σ] [Stage κ]

/-- The session after a step.  What the caller is told is not kept, and the second section of a feed
changes nothing. -/
def perform (s : Session σ κ) : Call σ → Session σ κ
  | .openRoute => s.openRoute.2
  | .start => s.start.2
  | .stop => s.stop
  | .close => s.close
  | .reopen => s.reopen.2
  | .select target => (s.select target).2
  | .setFormat format => (s.setFormat format).2
  | .setGain gain => s.setGain gain
  | .feed chunk now => (s.feedSection chunk now).2
  | .turn generation => (s.drainSection generation).2
  | .wait generation => (s.drainWait generation).2
  | .elsewhere change => { s with host := change s.host }

/-- The session after some steps. -/
def run (s : Session σ κ) : List (Call σ) → Session σ κ
  | [] => s
  | call :: rest => (s.perform call).run rest

end PcmRender.Session
