/-
  PcmRender.Clip — **playing one clip.**

  A clip is read in chunks of whole frames, and each chunk is offered until all of it is taken.  A
  frame cut off at the end of the input is not rendered.  Between two offers the player looks
  whether it is cancelled; a chunk that is cut short this way is not counted.  After the last chunk
  the player waits until the clip has had time to sound.

  A clip has a session of its own, which is stopped and closed whatever happens.

  Main definitions:
    * `Clip.pushChunk`, `Clip.stream` — the loop over the input,
    * `ClipPlayer.play`, `ClipPlayer.check` — a clip on a device, and on the null sink.
-/
import PcmRender.Outlet

namespace PcmRender

/-- What a finished clip did. -/
structure ClipReport where
  /-- The bytes of the chunks that were taken as a whole. -/
  bytes : Nat
  /-- How long these bytes play. -/
  duration : Duration
  /-- Whether the clip was cut short. -/
  cancelled : Bool
deriving DecidableEq, Inhabited, Repr

/-- A report as a line of the log. -/
def ClipReport.text (r : ClipReport) : String :=
  s!"Clip finished: {r.bytes} bytes, {r.duration.text}" ++ (if r.cancelled then " (cancelled)" else "")

namespace Clip

/-! ## §1. Constants. -/

/-- The highest rate of a clip. -/
def maxRate : Nat := 48000

/-- The bytes read at once, if nothing else is asked for. -/
def defaultChunk : Nat := 8 * 1024

/-- The time after a clip in which its device plays out. -/
def defaultTail : Duration := Duration.ofMillis 200

/-- The bytes read at once: whole frames, at least one. -/
def chunkSize (asked frame : Nat) : Nat := max (asked / frame) 1 * frame

/-! ## §2. The loop. -/

variable {ω : Type} [Outlet ω]

/-- How offering a chunk ended. -/
inductive Push
  /-- All of it was taken. -/
  | taken
  /-- The clip was cancelled. -/
  | cancelled
  /-- The outlet failed. -/
  | failed (fault : Fault)
  /-- The outlet took nothing for longer than its patience. -/
  | exhausted
deriving DecidableEq, Inhabited, Repr

/-- Offers a chunk until it is taken, `offers` times at most. -/
def pushChunk : Nat → ω → List UInt8 → Push × ω
  | _, outlet, [] => (.taken, outlet)
  | 0, outlet, _ => (.exhausted, outlet)
  | offers + 1, outlet, chunk =>
    match Outlet.checkCancel outlet with
    | (true, outlet) => (.cancelled, outlet)
    | (false, outlet) =>
      match Outlet.feed outlet chunk with
      | (.error e, outlet) => (.failed e, outlet)
      | (.ok .consumed, outlet) => (.taken, outlet)
      | (.ok (.accepted n), outlet) => pushChunk offers outlet (chunk.drop n)

/-- What the loop has come to. -/
structure Progress where
  /-- The bytes of the chunks so far. -/
  bytes : Nat := 0
  /-- When the first chunk was offered. -/
  firstFeed : Option Nat := none
  /-- Whether the clip was cancelled. -/
  cancelled : Bool := false
deriving DecidableEq, Inhabited, Repr

/-- Reads and offers chunks of `size` bytes until the input ends, `reads` of them at most.  `none`
in front means that the patience of the outlet came to an end. -/
def pushAll (frame size : Nat) : Nat → ω → List ReadEvent → Progress →
    Option (Except Fault Progress) × ω
  | 0, outlet, _, progress => (some (.ok progress), outlet)
  | reads + 1, outlet, input, progress =>
    let filled := fill outlet size input
    match filled.result with
    | .error text => (some (.error (.error (.io text))), filled.outlet)
    | .ok data =>
      let chunk := data.take (data.length / frame * frame)
      if chunk.isEmpty then (some (.ok progress), filled.outlet)
      else
        let first := some (progress.firstFeed.getD (Outlet.clock filled.outlet))
        let offers := (chunk.length + 1) * (Outlet.patience filled.outlet + 1)
        match pushChunk offers filled.outlet chunk with
        | (.exhausted, outlet) => (none, outlet)
        | (.failed e, outlet) => (some (.error e), outlet)
        | (.cancelled, outlet) =>
          (some (.ok { progress with firstFeed := first, cancelled := true }), outlet)
        | (.taken, outlet) =>
          let progress := { progress with bytes := progress.bytes + chunk.length, firstFeed := first }
          -- A buffer that could not be filled was the last one.
          if data.length < size then (some (.ok progress), outlet)
          else pushAll frame size reads outlet filled.rest progress

/-- Waits until a clip has had time to sound, and says whether it was cancelled meanwhile.  A clip
of which nothing was offered needs no time. -/
def awaitPlayout (outlet : ω) (progress : Progress) (time : Duration) : Bool × ω :=
  match progress.cancelled, progress.firstFeed with
  | false, some start => Outlet.playOut outlet (start + time.nanos)
  | _, _ => (progress.cancelled, outlet)

/-- Plays a whole input in a format.  `tail` is the time to wait beyond the length of the clip, if
it is to sound at all. -/
def stream (format : Format) (chunk : Nat) (tail : Option Duration) (outlet : ω)
    (input : List ReadEvent) : Option (Except Fault ClipReport) × ω :=
  let size := chunkSize chunk format.align
  if Ring.maxCapacity < size then (some (.error .overflow), outlet)
  else match pushAll format.align size (inputLength input + 1) outlet input {} with
  | (none, outlet) => (none, outlet)
  | (some (.error e), outlet) => (some (.error e), outlet)
  | (some (.ok progress), outlet) =>
    match format.bytesDuration? progress.bytes with
    | none => (some (.error .overflow), outlet)
    | some duration =>
      let (cancelled, outlet) := match tail with
        | some tail => awaitPlayout outlet progress (duration.plus tail)
        | none => (progress.cancelled, outlet)
      (some (.ok { bytes := progress.bytes, duration, cancelled }), outlet)

end Clip

/-! ## §3. Players. -/

/-- What a player plays on, and how. -/
structure ClipPlayer where
  /-- The device; without one, the null sink. -/
  device : Option String
  /-- How the device is opened. -/
  config : SessionConfig := {}
  /-- The bytes to read at once. -/
  chunk : Nat := Clip.defaultChunk
  /-- The time to wait beyond the length of the clip. -/
  tail : Duration := Clip.defaultTail
  /-- The gain. -/
  gain : Single := Single.one
deriving Inhabited, Repr

namespace ClipPlayer

variable {σ κ : Type} [Host σ] [Stage κ]

/-- The last line that a clip reports. -/
def closingLine : Except Fault ClipReport → List LogLine
  | .ok report => [⟨.info, .clip, report.text⟩]
  | .error (.error e) => [⟨.error, .clip, s!"Clip playback failed: {e.message}"⟩]
  | .error .overflow => []

/-- Streams a clip into a started session, and closes the session.  The input is asked for only now,
with the lines that the session has reported: a file that takes them may be the input. -/
def renderOn (p : ClipPlayer) (format : Format) (tail : Option Duration)
    (inputAfter : List LogLine → Input) (s : SteppedSession σ κ) : Rendered σ κ ClipReport :=
  let input := inputAfter s.session.log
  let outlet : SessionOutlet σ κ :=
    { session := s, cancelled := input.cancelled, cancelAt := input.cancelAt }
  let (result, outlet) := Clip.stream format p.chunk tail outlet input.events
  let closed := outlet.session.stop.2.close.2
  let lines := (result.map closingLine).getD []
  { result
    session := some (closed.map fun s => { s with log := s.log ++ lines })
    openingLines := s.session.log.length
    interrupted := outlet.cancelled && !input.cancelled }

/-- Renders a clip on a device, or on the null sink. -/
def render (p : ClipPlayer) (host : σ) (device : Option String) (tail : Option Duration)
    (format : Format) (inputAfter : List LogLine → Input) : Rendered σ κ ClipReport :=
  if Clip.maxRate < format.rate then
    { result := some (.error (.error (.unsupportedFormat
        s!"clip rate {format.rate}Hz exceeds {Clip.maxRate}Hz"))) }
  else withSession host format device p.config p.gain (p.renderOn format tail inputAfter)

/-- Plays a clip that depends on what is reported before it is read, and waits until it has
sounded. -/
def playAfter (p : ClipPlayer) (host : σ) (format : Format) (inputAfter : List LogLine → Input) :
    Rendered σ κ ClipReport :=
  p.render host p.device (some p.tail) format inputAfter

/-- Plays a clip and waits until it has sounded. -/
def play (p : ClipPlayer) (host : σ) (format : Format) (input : Input) :
    Rendered σ κ ClipReport :=
  p.playAfter host format fun _ => input

/-- Pushes a clip through the null sink, without waiting, to see whether it can be rendered.  It
cannot be cancelled. -/
def check (p : ClipPlayer) (host : σ) (format : Format) (events : List ReadEvent) :
    Rendered σ κ ClipReport :=
  p.render host none none format fun _ => { events := events.filter (· != .cancelled) }

end ClipPlayer

end PcmRender
