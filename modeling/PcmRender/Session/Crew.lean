/-
  PcmRender.Session.Crew — **everyone who works on a session at the same time.**

  Three kinds of parties share a session.  One lifecycle call at a time runs through its errand;
  every drain task that ever got a thread runs its loop until it is over; and any number of producers
  offer chunks.  Each of them is at some point of its way, and a move takes one of them to its next
  point: through one gate section, one change of a mark, or one reading of it.  Which one moves next
  is open, so a list of moves is an interleaving.

      errand    idle → halting → awaiting → joining → closing → opening → starting → tidying
                → spawning → retracting → undoing → ending, as far as the call has to go
      drain     looking → checking → entering → resting → looking … → leaving → finishing → gone
      producer  resting → offering → held or blocked → resting

  A wait with a time limit may end at any moment, so it holds nobody back.  A wait for a drain task
  has no limit: a stop goes on only when the mark of the task is gone, and joining it only when its
  thread is over.

  Main definitions:
    * `Errand`, `DrainThread`, `Producer`, `Crew` — the parties and where they are,
    * `Move`, `Event` — who moves, and what can be seen of it,
    * `Crew.step`, `Crew.run` — one move, and many.
-/
import PcmRender.Session.Calls

namespace PcmRender

/-! ## §1. Where everyone is. -/

/-- What a lifecycle call is asked to do. -/
inductive Request
  | openRoute
  | start
  | stop
  | close
  | reopen
  | select (target : Option String)
  | setFormat (format : Format)
deriving DecidableEq, Repr

/-- What a stop inside of another call leads to: the route is closed, and then? -/
inductive Purpose
  /-- Nothing more. -/
  | forGood
  /-- Another device is selected; nothing was open. -/
  | select (target : Option String)
  /-- Another device is selected, opened and, if the old one rendered, started. -/
  | replace (target : Option String) (restart : Bool)
  /-- The switch has failed. -/
  | giveUp (fault : Fault)
deriving DecidableEq, Repr

/-- Where the lifecycle call is.  The drain task of a generation that comes with a start is not
there yet until it is spawned. -/
inductive Errand
  /-- There is no call. -/
  | idle
  /-- It is about to mark a switch. -/
  | marking (target : Option String) (restart : Bool)
  /-- It is about to end the generation that renders. -/
  | halting (next : Option Purpose)
  /-- It waits for the mark of the drain task to go away. -/
  | awaiting (next : Option Purpose)
  /-- It waits for the thread of the drain task to end. -/
  | joining (next : Option Purpose)
  /-- It is about to give the route back. -/
  | closing (purpose : Purpose)
  /-- It is about to open the selected device, within a switch that has to start it or not, or on
  its own. -/
  | opening (restart : Option Bool)
  /-- It is about to start the route, within a switch or on its own. -/
  | starting (switching : Bool)
  /-- It waits for the thread of a drain task that is left over. -/
  | tidying (switching : Bool) (generation : Nat)
  /-- It is about to ask for a thread. -/
  | spawning (switching : Bool) (generation : Nat)
  /-- There is no thread: it is about to take the mark of the drain task away, -/
  | retracting (switching : Bool) (generation : Nat) (reason : String)
  /-- and then to stop the stream again. -/
  | undoing (switching : Bool) (reason : String)
  /-- It is about to end the switch, and to answer. -/
  | ending (answer : Except Fault Unit)

/-- Where a drain task is. -/
inductive DrainPoint
  /-- Before a turn it looks at the generation, -/
  | looking
  /-- and at the phase. -/
  | checking
  /-- It is about to take the gate, or waits for it. -/
  | entering
  /-- It waits for the device. -/
  | resting
  /-- It has left its loop, and is about to take its mark away. -/
  | leaving
  /-- Its mark is gone, its thread is not. -/
  | finishing
  /-- Its thread has ended. -/
  | gone
deriving DecidableEq, Repr

/-- A drain task that got a thread. -/
structure DrainThread where
  /-- The generation that it was started for. -/
  generation : Nat
  /-- Where it is. -/
  point : DrainPoint := .looking
deriving DecidableEq, Repr

/-- Where a producer is. -/
inductive Producer
  /-- It offers nothing. -/
  | resting
  /-- It has a chunk, and is about to take its first gate section. -/
  | offering (chunk : List UInt8)
  /-- It met a switch, and is about to try its first section again. -/
  | held (chunk : List UInt8) (seen : Nat)
  /-- It found the ring full, and is about to take its second section. -/
  | blocked (seen : Nat) (period : Duration)
deriving DecidableEq, Repr

/-- The chunk whose first gate section is to come, perhaps once more. -/
def Producer.offered? : Producer → Option (List UInt8)
  | .offering chunk => some chunk
  | .held chunk _ => some chunk
  | .resting => none
  | .blocked _ _ => none

/-- A session and everyone who works on it. -/
structure Crew (σ κ : Type) where
  /-- The session. -/
  session : Session σ κ
  /-- The lifecycle call. -/
  errand : Errand := .idle
  /-- Every drain task that ever got a thread, the oldest first. -/
  threads : List DrainThread := []
  /-- The producers, by number. -/
  producers : Nat → Producer := fun _ => .resting

/-- Who moves. -/
inductive Move (σ : Type)
  /-- A lifecycle call begins. -/
  | call (request : Request)
  /-- It goes on. -/
  | advance
  /-- A drain task goes on. -/
  | drain (index : Nat)
  /-- A producer comes with a chunk. -/
  | offer (producer : Nat) (chunk : List UInt8)
  /-- It goes on. -/
  | produce (producer : Nat) (now : Instant)
  /-- The gain is changed. -/
  | gain (gain : Single)
  /-- Something happens on the machine. -/
  | elsewhere (change : σ → σ)

/-- What can be seen of a move. -/
inductive Event
  /-- The gate section of a stop has ended what rendered. -/
  | stopped
  /-- The gate section of a start has begun a generation on a device. -/
  | begun (generation : Nat)
  /-- The drain task of a generation has its thread. -/
  | spawned (generation : Nat)
  /-- The drain task of a generation has run a cycle, perhaps not to its end. -/
  | cycled (generation : Nat)
  /-- The thread of the drain task of a generation has ended. -/
  | left (generation : Nat)
  /-- A stop has joined its drain task. -/
  | halted
  /-- A lifecycle call has returned. -/
  | returned (answer : Except Fault Unit)
  /-- A feed has returned. -/
  | answered (producer : Nat) (answer : Except RenderError Feed)

variable {σ κ : Type} [Host σ] [Stage κ]

/-! ## §2. The lifecycle call. -/

/-- How far a lifecycle call has come with one move. -/
structure Advance (σ κ : Type) where
  /-- The session. -/
  session : Session σ κ
  /-- Where the call is now. -/
  errand : Errand
  /-- What can be seen. -/
  events : List Event := []
  /-- The generation whose drain task got a thread. -/
  spawned : Option Nat := none

namespace Errand

/-- The call returns. -/
def reply (s : Session σ κ) (answer : Except Fault Unit) : Advance σ κ :=
  { session := s, errand := idle, events := [.returned answer] }

/-- Nothing renders any more. -/
def proceed (s : Session σ κ) : Option Purpose → Advance σ κ
  | none => reply s (.ok ())
  | some purpose => { session := s, errand := closing purpose }

/-- The route is gone. -/
def released (s : Session σ κ) : Purpose → Advance σ κ
  | .forGood => reply s (.ok ())
  | .select target => reply { s with selected := target } (.ok ())
  | .replace target restart =>
    { session := { s with selected := target }, errand := opening (some restart) }
  | .giveUp fault => { session := s, errand := ending (.error fault) }

/-- The route is open, or could not be opened. -/
def opened (s : Session σ κ) (answer : Except Fault Unit) : Option Bool → Advance σ κ
  | none => reply s answer
  | some restart =>
    match answer with
    | .error fault => { session := s, errand := ending (.error fault) }
    | .ok () => { session := s, errand := if restart then starting true else ending (.ok ()) }

/-- The route renders. -/
def succeeded (s : Session σ κ) : Bool → Advance σ κ
  | false => reply s (.ok ())
  | true => { session := s, errand := ending (.ok ()) }

/-- The route could not be started; a switch gives up then. -/
def failed (s : Session σ κ) (fault : Fault) : Bool → Advance σ κ
  | false => reply s (.error fault)
  | true =>
    match fault with
    | .error e =>
      { session := s.note .warn s!"Restart after device switch failed, closing: {e.message}"
        errand := halting (some (.giveUp fault)) }
    | .overflow => { session := s, errand := ending (.error fault) }

/-- The next move of a call, if it does not have to wait.  `joined` says whether the thread that the
session knows of has ended. -/
def advance? (s : Session σ κ) (joined : Bool) : Errand → Option (Advance σ κ)
  | idle => none
  | marking target restart =>
    some { session := s.beginSwitch, errand := halting (some (.replace target restart)) }
  | halting next =>
    match s.stopSection with
    | (true, s) => some { session := s, errand := awaiting next, events := [.stopped] }
    | (false, s) => some (proceed s next)
  | awaiting next =>
    if s.draining.isNone then some { session := s, errand := joining next } else none
  | joining next =>
    if joined then
      let done := proceed s.joinDrain next
      some { done with events := .halted :: done.events }
    else none
  | closing purpose => some (released s.closeSection purpose)
  | opening restart =>
    let (answer, s) := s.openSection
    some (opened s answer restart)
  | starting switching =>
    match s.startSection with
    | (.error fault, s) => some (failed s fault switching)
    | (.ok none, s) => some (succeeded s switching)
    | (.ok (some generation), s) =>
      some { session := s, errand := tidying switching generation, events := [.begun generation] }
  | tidying switching generation =>
    if joined then some { session := s.forgetTask, errand := spawning switching generation }
    else none
  | spawning switching generation =>
    match Host.spawn s.host with
    | .ok () =>
      let done := succeeded (s.spawned generation) switching
      some { done with
        events := .spawned generation :: done.events
        spawned := some generation }
    | .error reason => some { session := s, errand := retracting switching generation reason }
  | retracting switching generation reason =>
    some { session := s.spawnRefused generation reason, errand := undoing switching reason }
  | undoing switching reason => some (failed s.undoStart (.error (.io reason)) switching)
  | ending answer => some (reply s.endSwitch answer)

end Errand

namespace Crew

/-- Whether the thread that the session knows of has ended. -/
def joined (c : Crew σ κ) : Bool :=
  c.threads.all fun t =>
    t.point == .gone || c.session.task.map DrainTask.generation != some t.generation

/-- The lifecycle call goes on. -/
def advance (c : Crew σ κ) : Option (Crew σ κ × List Event) :=
  (c.errand.advance? c.session c.joined).map fun done =>
    ({ c with
        session := done.session
        errand := done.errand
        threads := c.threads ++ (done.spawned.map fun generation => { generation }).toList },
      done.events)

/-- A switch begins; in a closed session it has nothing to hide from producers. -/
def beginSelect (c : Crew σ κ) (target : Option String) : Crew σ κ :=
  let s := c.session
  { c with
    session := s.note .info
      s!"Switching render device to {target.getD Session.select.placeholder} (was {s.phase.text})"
    errand :=
      if s.phase = .closed then .halting (some (.select target))
      else .marking target (decide (s.phase = .started)) }

/-- A lifecycle call begins. -/
def begin (c : Crew σ κ) : Request → Crew σ κ × List Event
  | .openRoute => ({ c with errand := .opening none }, [])
  | .start => ({ c with errand := .starting false }, [])
  | .stop => ({ c with errand := .halting none }, [])
  | .close => ({ c with errand := .halting (some .forGood) }, [])
  | .reopen => (c.beginSelect c.session.selected, [])
  | .select target => (c.beginSelect target, [])
  | .setFormat format =>
    let (answer, session) := c.session.setFormat format
    ({ c with session }, [.returned (answer.mapError Fault.error)])

/-! ## §3. Drain tasks and producers. -/

/-- A drain task at its next point, and the session after it went there. -/
def reach (c : Crew σ κ) (index : Nat) (t : DrainThread) (session : Session σ κ)
    (point : DrainPoint) : Crew σ κ :=
  { c with session, threads := c.threads.set index { t with point } }

/-- A drain task goes on, if it is not over. -/
def drain (c : Crew σ κ) (index : Nat) (t : DrainThread) : Option (Crew σ κ × List Event) :=
  let s := c.session
  match t.point with
  | .looking =>
    some (c.reach index t s (if s.generation = t.generation then .checking else .leaving), [])
  | .checking =>
    some (c.reach index t s (if s.phase = .started then .entering else .leaving), [])
  | .entering =>
    match s.drainTurn t.generation with
    | (.cycled, s) => some (c.reach index t s .resting, [.cycled t.generation])
    | (.crashed, s) => some (c.reach index t s .leaving, [.cycled t.generation])
    | (.retired, s) => some (c.reach index t s .leaving, [])
  | .resting =>
    match s.pause with
    | (true, s) => some (c.reach index t s .looking, [])
    | (false, s) => some (c.reach index t s .leaving, [])
  | .leaving => some (c.reach index t (s.drainExited t.generation) .finishing, [])
  | .finishing => some (c.reach index t s .gone, [.left t.generation])
  | .gone => none

/-- A producer at its next point, and the session after it went there. -/
def place (c : Crew σ κ) (producer : Nat) (session : Session σ κ) (point : Producer) : Crew σ κ :=
  { c with
    session
    producers := fun other => if other = producer then point else c.producers other }

/-- A producer takes its first section, once more if it was held. -/
def feed (c : Crew σ κ) (producer : Nat) (chunk : List UInt8) (now : Instant) :
    Crew σ κ × List Event :=
  match c.session.feedSection chunk now with
  | (.done answer, s) => (c.place producer s .resting, [.answered producer answer])
  | (.awaitSwitch seen, s) => (c.place producer s (.held chunk seen), [])
  | (.awaitSpace seen period, s) => (c.place producer s (.blocked seen period), [])

/-- A producer goes on, if it has a chunk. -/
def produce (c : Crew σ κ) (producer : Nat) (now : Instant) :
    Option (Crew σ κ × List Event) :=
  match c.producers producer with
  | .resting => none
  | .offering chunk => some (c.feed producer chunk now)
  | .held chunk _ => some (c.feed producer chunk now)
  | .blocked _ _ =>
    some (c.place producer c.session .resting,
      [.answered producer (c.session.feedAgain now)])

/-! ## §4. Moves. -/

/-- One move, and what can be seen of it; `none` if this party cannot move. -/
def step (c : Crew σ κ) : Move σ → Option (Crew σ κ × List Event)
  | .call request =>
    match c.errand with
    | .idle => some (c.begin request)
    | _ => none
  | .advance => c.advance
  | .drain index =>
    match c.threads[index]? with
    | some t => c.drain index t
    | none => none
  | .offer producer chunk =>
    match c.producers producer with
    | .resting => some (c.place producer c.session (.offering chunk), [])
    | _ => none
  | .produce producer now => c.produce producer now
  | .gain gain => some ({ c with session := c.session.setGain gain }, [])
  | .elsewhere change =>
    some ({ c with session := { c.session with host := change c.session.host } }, [])

/-- Many moves, and all that can be seen of them. -/
def run (c : Crew σ κ) : List (Move σ) → Option (Crew σ κ × List Event)
  | [] => some (c, [])
  | move :: rest => do
    let (next, events) ← c.step move
    let (last, more) ← next.run rest
    some (last, events ++ more)

end Crew

end PcmRender
