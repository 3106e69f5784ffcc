/-
  PcmRender.Session.Flow — **what passes through an open route.**

  While a session stays on one route, gate sections of producers, of drain tasks, of stops and of
  starts follow each other in many orders.  `Session.Passing` lists them, and `Session.flow` runs a
  list of them while it keeps the books:

      accepted    the bytes that producers were told are taken, in the order of their sections
      movements   for each cycle its gain and the bytes that it took out of the ring

  The books say nothing that the parties do not see: what a producer offered and was answered, and
  what a cycle removed.

  Main definitions:
    * `Session.Passing`, `Session.passing` — one section, and what it does,
    * `Ledger`, `Session.entry`, `Session.flow` — the books,
    * `Ledger.scaled?` — what should arrive according to them.
-/
import PcmRender.Session.Calls

namespace PcmRender

/-! ## §1. The books. -/

/-- What a cycle took out of the ring. -/
structure Movement where
  /-- The gain of the cycle. -/
  gain : Single
  /-- The bytes, as they stood in the ring. -/
  popped : List UInt8
deriving DecidableEq, Repr

/-- These bytes, scaled by the gain of the cycle. -/
def Movement.scaled? (source : Format) (m : Movement) : Option (List UInt8) :=
  Gain.scaleBytes? source m.gain m.popped

/-- The books of a route. -/
structure Ledger where
  /-- The bytes that producers were told are taken. -/
  accepted : List UInt8 := []
  /-- What every cycle took out. -/
  movements : List Movement := []
deriving DecidableEq, Repr

namespace Ledger

/-- Two books, one after the other. -/
def append (a b : Ledger) : Ledger where
  accepted := a.accepted ++ b.accepted
  movements := a.movements ++ b.movements

/-- All bytes that cycles took out. -/
def popped (l : Ledger) : List UInt8 := l.movements.flatMap Movement.popped

/-- The same bytes as they should arrive: each movement scaled by its own gain. -/
def scaled? (source : Format) (l : Ledger) : Option (List UInt8) :=
  (l.movements.mapM (Movement.scaled? source)).map List.flatten

end Ledger

/-- The bytes of a chunk that its producer was told are taken. -/
def FeedStep.taken (chunk : List UInt8) : FeedStep → List UInt8
  | .done (.ok .consumed) => chunk
  | .done (.ok (.accepted bytes)) => chunk.take bytes
  | _ => []

/-! ## §2. Sections. -/

namespace Session

/-- A gate section, or a small step outside of the gate, that leaves a session on its route. -/
inductive Passing (σ : Type)
  /-- A producer offers a chunk. -/
  | feed (chunk : List UInt8) (now : Instant)
  /-- The drain task of a generation takes a turn. -/
  | turn (generation : Nat)
  /-- A drain task waits for the device. -/
  | pause
  /-- The drain task of a generation leaves. -/
  | leave (generation : Nat)
  /-- A stop ends the generation that renders. -/
  | stop
  /-- It has joined its drain task. -/
  | join
  /-- A start runs the stream, and the generation after the last begins. -/
  | start
  /-- It has joined a drain task that was left over. -/
  | forget
  /-- The drain task of a generation has its thread. -/
  | spawned (generation : Nat)
  /-- The drain task of a generation gets none. -/
  | refused (generation : Nat) (reason : String)
  /-- The start is undone for that. -/
  | undo
  /-- A switch begins, which will replace the route in the end. -/
  | switching
  /-- A switch ends, which has put this route in place. -/
  | switched
  /-- The gain is changed. -/
  | gain (gain : Single)
  /-- Something happens on the machine outside of the session. -/
  | elsewhere (change : σ → σ)

variable {σ κ : Type} [Host σ] [Stage κ]

/-- The session after a section. -/
def passing (s : Session σ κ) : Passing σ → Session σ κ
  | .feed chunk now => (s.feedSection chunk now).2
  | .turn generation => (s.drainTurn generation).2
  | .pause => s.pause.2
  | .leave generation => s.drainExited generation
  | .stop => s.stopSection.2
  | .join => s.joinDrain
  | .start => s.startSection.2
  | .forget => s.forgetTask
  | .spawned generation => s.spawned generation
  | .refused generation reason => s.spawnRefused generation reason
  | .undo => s.undoStart
  | .switching => s.beginSwitch
  | .switched => s.endSwitch
  | .gain gain => s.setGain gain
  | .elsewhere change => { s with host := change s.host }

/-- What a section adds to the books. -/
def entry (s : Session σ κ) : Passing σ → Ledger
  | .feed chunk now => { accepted := (s.feedSection chunk now).1.taken chunk }
  | .turn generation =>
    match s.cycle? generation with
    | some (_, done) => { movements := [{ gain := s.gain, popped := done.popped }] }
    | none => {}
  | _ => {}

/-- The session after some sections, and the books of them. -/
def flow (s : Session σ κ) : List (Passing σ) → Ledger × Session σ κ
  | [] => ({}, s)
  | passing :: rest =>
    let (later, t) := (s.passing passing).flow rest
    ((s.entry passing).append later, t)

end Session

end PcmRender
