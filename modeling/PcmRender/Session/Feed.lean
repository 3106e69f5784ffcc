/-
  PcmRender.Session.Feed — **producers.**

  A producer offers a chunk of bytes and is told how many were taken.  A call has up to two gate
  sections.  In the first it appends what fits.  If nothing fits it marks the watchdog and waits for
  progress, for one period at most; in the second it looks whether the route has stalled.  While a
  switch replaces the route, the first section touches nothing and is tried again later.

  Main definitions:
    * `Session.feedSection` — the first section,
    * `Session.feedAgain` — the second,
    * `Session.progressedSince` — whether a waiting producer has something to look at.
-/
import PcmRender.Session.Basic

namespace PcmRender

/-- How much of a chunk was taken. -/
inductive Feed
  /-- All of it. -/
  | consumed
  /-- The first bytes, perhaps none; the rest has to be offered again. -/
  | accepted (bytes : Nat)
deriving DecidableEq, Inhabited, Repr

/-- How the first section of a feed ends. -/
inductive FeedStep
  /-- With an answer. -/
  | done (answer : Except RenderError Feed)
  /-- The route is being replaced: wait for progress since `seen`, then try again. -/
  | awaitSwitch (seen : Nat)
  /-- The ring is full: wait for progress since `seen`, for one period at most, then look. -/
  | awaitSpace (seen : Nat) (period : Duration)
deriving Inhabited

namespace Session

variable {σ κ : Type}

/-- Appends to a started device route. -/
def feedRoute (s : Session σ κ) (r : DeviceRoute κ) (chunk : List UInt8) (now : Instant) :
    FeedStep × Session σ κ :=
  let (copied, ring) := r.ring.append chunk
  if 0 < copied then
    (.done (.ok (if copied = chunk.length then .consumed else .accepted copied)),
      s.clearWatchdog { r with ring })
  else
    -- Only the first fruitless feed begins a stall.
    (.awaitSpace s.progress r.timing.period,
      { s.withRoute (r.mark now.nanos) with
        published := if r.onset.isSome then s.published else now.published? })

/-- The first section of a feed. -/
def feedSection (s : Session σ κ) (chunk : List UInt8) (now : Instant) :
    FeedStep × Session σ κ :=
  if chunk.isEmpty then (.done (.ok .consumed), s)
  else if s.switching then (.awaitSwitch s.progress, s)
  else match s.route with
    | .null => (.done (.ok .consumed), s)
    | .device r =>
      if s.phase = .started then s.feedRoute r chunk now else (.done (.error .notStarted), s)
    | .closed => (.done (.error .notStarted), s)

/-- The second section of a feed that found the ring full. -/
def feedAgain (s : Session σ κ) (now : Instant) : Except RenderError Feed :=
  match s.route with
  | .device r =>
    match r.stalledFor? now.nanos with
    | some time => .error (.writeStalled time)
    | none => .ok (.accepted 0)
  | _ => .ok (.accepted 0)

/-- Whether a producer that waits since `seen` has something to look at. -/
def progressedSince (s : Session σ κ) (seen : Nat) : Bool := s.progress != seen

end Session

end PcmRender
