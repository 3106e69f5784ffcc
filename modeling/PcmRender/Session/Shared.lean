/-
  PcmRender.Session.Shared — **a session on which others work while something is pushed into it.**

  Between two gate sections of a producer anything can happen: drain tasks take turns, devices make
  room or stop working.  A shared outlet is a session with a schedule of such interludes.  Before each
  of its own sections, and while it waits, the producer meets the next interlude of the schedule; when
  the schedule is at its end nothing happens any more.

  Books are kept of everything that passes, of the sections of the producer and of all others.

  Main definitions:
    * `Interlude`, `SharedOutlet` — the schedule, and the session that follows it,
    * `SharedOutlet.meet`, `SharedOutlet.pass` — what others do, and what the producer does.
-/
import PcmRender.Outlet
import PcmRender.Session.Flow

namespace PcmRender

/-- What happens between two gate sections of a producer. -/
structure Interlude (σ : Type) where
  /-- The sections of others, in their order. -/
  others : List (Session.Passing σ)
  /-- The time after them. -/
  now : Instant

/-- A session on which others work, as its producer meets it. -/
structure SharedOutlet (σ κ : Type) where
  session : Session σ κ
  books : Ledger := {}
  /-- What is still to happen. -/
  schedule : List (Interlude σ)
  now : Instant
  cancelled : Bool := false
  /-- More offers than can be fruitless one after the other. -/
  patience : Nat

namespace SharedOutlet

variable {σ κ : Type} [Host σ] [Stage κ]

/-- The next interlude passes. -/
def meet (o : SharedOutlet σ κ) : SharedOutlet σ κ :=
  match o.schedule with
  | [] => o
  | next :: rest =>
    let (books, session) := o.session.flow next.others
    { o with session, books := o.books.append books, schedule := rest, now := next.now }

/-- A section of the producer passes. -/
def pass (o : SharedOutlet σ κ) (passing : Session.Passing σ) : SharedOutlet σ κ :=
  { o with
    session := o.session.passing passing
    books := o.books.append (o.session.entry passing) }

/-- Offers bytes.  The two sections of a feed that finds the ring full are apart by an interlude, and
a feed that meets a switch has to be tried again. -/
def feed (o : SharedOutlet σ κ) (chunk : List UInt8) : Except Fault Feed × SharedOutlet σ κ :=
  let o := o.meet
  let fed := o.pass (.feed chunk o.now)
  match (o.session.feedSection chunk o.now).1 with
  | .done answer => (answer.mapError Fault.error, fed)
  | .awaitSpace _ _ => ((fed.meet.session.feedAgain fed.meet.now).mapError Fault.error, fed.meet)
  | .awaitSwitch _ => (.ok (.accepted 0), fed)

/-- Opens the device again; the new route has books of its own. -/
def reopen (o : SharedOutlet σ κ) : Except Fault Unit × SharedOutlet σ κ :=
  let (answer, session) := o.session.reopen
  (answer, { o with session, books := {} })

instance : Outlet (SharedOutlet σ κ) where
  feed := feed
  reopen := reopen
  checkCancel o := (o.cancelled, o)
  requestCancel o := { o with cancelled := true }
  clock o := o.now.nanos
  playOut o _ := (o.cancelled, o.meet)
  patience := patience

end SharedOutlet

end PcmRender
