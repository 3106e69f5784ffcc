/-
  PcmRender.Session.Drain — **the drain task of a session.**

  A drain task is a loop of cycles, one per period of the device.  It serves the generation that it
  was started for: before a cycle it looks, with the gate in hand, whether this generation still
  renders, and retires if not.  A cycle that frees room wakes the producers.

  A task that leaves its loop takes its mark away last, after it has given the gate back; a cycle
  that takes it down gives the gate back too.

  Main definitions:
    * `Session.drainTurn` — what a turn of the loop does with the gate in hand,
    * `Session.pause` — the wait between two turns,
    * `Session.drainSection`, `Session.drainWait` — the same for a task that nothing disturbs on its
      way out.
-/
import PcmRender.Route.Cycle
import PcmRender.Session.Lifecycle

namespace PcmRender

/-- How a turn of a drain task ends. -/
inductive DrainTurn
  /-- A cycle has run. -/
  | cycled
  /-- The generation does not render any more, and the task retires. -/
  | retired
  /-- The cycle took the task down. -/
  | crashed
deriving DecidableEq, Inhabited, Repr

namespace Session

variable {σ κ : Type} [Host σ] [Stage κ]

/-! ## §1. With the gate in hand. -/

/-- Whether the task of a generation has work. -/
def isCurrent (s : Session σ κ) (generation : Nat) : Bool :=
  s.generation == generation && decide (s.phase = .started)

/-- The cycle that a turn of the drain task of a generation runs, if it runs one, and the route
before it. -/
def cycle? (s : Session σ κ) (generation : Nat) : Option (DeviceRoute κ × Cycled σ κ) :=
  if s.isCurrent generation then s.deviceRoute?.map fun r => (r, r.cycle s.host s.gain) else none

/-- The session after `removed` bytes have left the ring of its device route. -/
def drained (s : Session σ κ) (before after : DeviceRoute κ) (removed : Nat) : Session σ κ :=
  if 0 < removed then
    { s.withRoute after with
      published := if before.onset.isSome then none else s.published }.wake
  else s.withRoute after

/-- The session after a cycle took its drain task down. -/
def drainCrashed (s : Session σ κ) : Session σ κ :=
  { s with task := s.task.map fun t => { t with crashed := true } }

/-- One turn of the drain task of a generation, as long as it holds the gate. -/
def drainTurn (s : Session σ κ) (generation : Nat) : DrainTurn × Session σ κ :=
  match s.cycle? generation with
  | some (r, done) =>
    let s := { s with host := done.host }
    match done.outcome with
    | .ok removed => (.cycled, s.drained r done.route removed)
    | .error _ => (.crashed, (s.withRoute done.route).drainCrashed)
  | none => (.retired, s)

/-! ## §2. Between two turns. -/

/-- The wait for the device; false if it cannot be waited for. -/
def pause (s : Session σ κ) : Bool × Session σ κ :=
  match s.route with
  | .device r =>
    match Host.waitReady s.host r.endpoint with
    | (.ok _, host) => (true, { s with host })
    | (.error _, host) => (false, { s with host })
  | _ => (true, s)

/-! ## §3. Without disturbance. -/

/-- One turn of the drain task of a generation, and its way out if that was the last one. -/
def drainSection (s : Session σ κ) (generation : Nat) : DrainTurn × Session σ κ :=
  match s.drainTurn generation with
  | (.cycled, s) => (.cycled, s)
  | (turn, s) => (turn, s.drainExited generation)

/-- The wait of the drain task for the next period; false if the task has retired because the
device cannot be waited for. -/
def drainWait (s : Session σ κ) (generation : Nat) : Bool × Session σ κ :=
  match s.pause with
  | (true, s) => (true, s)
  | (false, s) => (false, s.drainExited generation)

end Session

end PcmRender
