/-
  PcmRender.Stream — **rendering an input without end.**

  A stream is read as it comes, and what makes whole frames is offered at once; a frame cut in two
  by a read is kept for the next one.  When the device stalls it is opened again and the same bytes
  are offered once more.  Between two offers, and between two reads, the stream looks whether it is
  cancelled.

  Main definitions:
    * `Stream.push` — what one read brought,
    * `Stream.pump` — the loop over the input,
    * `StreamPlayer.play` — a stream with a session of its own.
-/
import PcmRender.Clip
import PcmRender.DeviceWatch

namespace PcmRender

namespace Stream

variable {ω : Type} [Outlet ω]

/-! ## §1. The loop. -/

/-- Offers whole frames until they are taken or the stream is cancelled, `offers` times at most, and
says how many bytes were taken.  `none` in front means that the patience of the outlet came to an
end. -/
def push : Nat → ω → List UInt8 → Nat → Option (Except Fault Nat) × ω
  | _, outlet, [], taken => (some (.ok taken), outlet)
  | 0, outlet, _, _ => (none, outlet)
  | offers + 1, outlet, chunk, taken =>
    match Outlet.checkCancel outlet with
    | (true, outlet) => (some (.ok taken), outlet)
    | (false, outlet) =>
      match Outlet.feed outlet chunk with
      | (.ok .consumed, outlet) => (some (.ok (taken + chunk.length)), outlet)
      | (.ok (.accepted n), outlet) => push offers outlet (chunk.drop n) (taken + n)
      | (.error (.error (.writeStalled _)), outlet) =>
        match Outlet.reopen outlet with
        -- Nothing of the chunk was taken, so all of it is offered to the new route.
        | (.ok (), outlet) => push offers outlet chunk taken
        | (.error e, outlet) => (some (.error e), outlet)
      | (.error e, outlet) => (some (.error e), outlet)

/-- Reads and offers until the input ends or the stream is cancelled, `reads` times at most.
`kept` is the part of a frame that the reads before have left, `total` the bytes taken so far. -/
def pump (frame size : Nat) : Nat → ω → List ReadEvent → List UInt8 → Nat →
    Option (Except Fault Nat) × ω
  | 0, outlet, _, _, total => (some (.ok total), outlet)
  | reads + 1, outlet, input, kept, total =>
    match Outlet.checkCancel outlet with
    | (true, outlet) => (some (.ok total), outlet)
    | (false, outlet) =>
      let read := readOnce outlet (size - kept.length) input
      match read.result with
      | .error text => (some (.error (.error (.io text))), read.outlet)
      | .ok data =>
        if data.isEmpty then (some (.ok total), read.outlet)
        else
          let pending := kept ++ data
          let whole := pending.length / frame * frame
          let offers := (whole + 1) * (Outlet.patience read.outlet + 1)
          match push offers read.outlet (pending.take whole) 0 with
          | (some (.ok taken), outlet) =>
            pump frame size reads outlet read.rest (pending.drop whole) (total + taken)
          | (other, outlet) => (other, outlet)

/-- Renders a whole input in frames of `frame` bytes, `chunk` bytes at a time, and says how many
bytes were taken. -/
def run (frame chunk : Nat) (outlet : ω) (input : List ReadEvent) :
    Option (Except Fault Nat) × ω :=
  let size := Clip.chunkSize chunk frame
  if Ring.maxCapacity < size then (some (.error .overflow), outlet)
  else pump frame size (inputLength input + 1) outlet input [] 0

end Stream

/-! ## §2. Players. -/

/-- What a stream plays on, and how. -/
structure StreamPlayer where
  /-- The device; without one, the null sink. -/
  device : Option String
  /-- How the device is opened. -/
  config : SessionConfig := {}
  /-- The bytes to read at once. -/
  chunk : Nat := Clip.defaultChunk
  /-- The gain. -/
  gain : Single := Single.one
  /-- Which device it moves to when devices come and go. -/
  policy : WatchPolicy := .followDefault
deriving Inhabited, Repr

namespace StreamPlayer

variable {σ κ : Type} [Host σ] [Stage κ]

/-- The lines that the tasks beside a stream report when they begin: the monitor of its health, and
the watch over devices, which ends at once where no devices come and go. -/
def tasksBegin (p : StreamPlayer) : List LogLine :=
  [⟨.debug, .health, "Health monitor watching stream"⟩,
    ⟨.info, .health, "Health monitor thread started"⟩,
    ⟨.info, .deviceWatch, s!"Device watch thread started ({p.policy.text})"⟩,
    ⟨.info, .deviceWatch, "Device watch thread stopped"⟩]

/-- The lines that they report when they end. -/
def tasksEnd : List LogLine := [⟨.info, .health, "Health monitor thread stopped"⟩]

/-- The line that a stream reports at its end. -/
def closingLine : Except Fault Nat → List LogLine
  | .ok total => [⟨.info, .program, s!"Input finished after {total} bytes"⟩]
  | .error _ => []

/-- Streams an input into a started session, and closes the session.  The input is asked for only
now, with the lines reported so far. -/
def renderOn (p : StreamPlayer) (format : Format) (inputAfter : List LogLine → Input)
    (s : SteppedSession σ κ) : Rendered σ κ Nat :=
  let s := s.map fun s => { s with log := s.log ++ p.tasksBegin }
  let input := inputAfter s.session.log
  let outlet : SessionOutlet σ κ :=
    { session := s, cancelled := input.cancelled, cancelAt := input.cancelAt }
  let (result, outlet) := Stream.run format.align p.chunk outlet input.events
  let lines := (result.map closingLine).getD [] ++ tasksEnd
  let ended := outlet.session.map fun s => { s with log := s.log ++ lines }
  { result
    session := some ended.close.2
    openingLines := s.session.log.length
    interrupted := outlet.cancelled && !input.cancelled }

/-- Plays a stream that depends on what is reported before it is read. -/
def playAfter (p : StreamPlayer) (host : σ) (format : Format) (inputAfter : List LogLine → Input) :
    Rendered σ κ Nat :=
  withSession host format p.device p.config p.gain (p.renderOn format inputAfter)

/-- Plays a stream. -/
def play (p : StreamPlayer) (host : σ) (format : Format) (input : Input) : Rendered σ κ Nat :=
  p.playAfter host format fun _ => input

end StreamPlayer

end PcmRender
