/-
  PcmRender.Negotiation — **choosing the format that a device renders in.**

  The candidates for a source are ranked by how much of it they keep:

      1. the source itself, and the source with little-endian samples,
      2. the common layouts at the source rate,
      3. for each other common rate the source layout and the common layouts,
      4. whatever the device says it supports.

  Only formats that can be encoded, with the channels of the source, are proposed, each of them
  once.  A device is then asked for one after the other until it takes one.

  The common layouts of many channels have frames too long for a 16-bit field.  There is no ranking
  then, and the call ends in an overflow.

  Main definitions:
    * `candidates?` — the ranking,
    * `negotiate` — an endpoint in the first candidate that is taken.
-/
import PcmRender.Host
import PcmRender.Log

namespace PcmRender

namespace Negotiation

/-! ## §1. Ranking. -/

/-- The rates to fall back to, the best first. -/
def commonRates : List Nat := [48000, 44100, 96000, 32000, 16000, 8000]

/-- The common layouts at one rate, the best first. -/
def layouts (rate channels : Nat) : List Format :=
  [Format.pcm rate 16 channels, Format.pcm rate 24 channels, Format.pcm rate 32 channels,
    Format.float rate channels]

/-- Everything that could be proposed, with repetitions. -/
def ranking (source : Format) (supported : List Format) : List Format :=
  let little := source.withOrder .little
  [source, little] ++ layouts source.rate source.channels
    ++ (commonRates.filter (· != source.rate)).flatMap (fun rate =>
      { little with rate := rate } :: layouts rate source.channels)
    ++ supported

/-- Whether a format can be proposed for sources of this many channels. -/
def proposable (channels : Nat) (f : Format) : Bool := f.channels == channels && f.isSupported

/-- The formats of a list, each where it stands first. -/
def firstOnly (formats : List Format) : List Format :=
  go [] formats
where
  go (seen : List Format) : List Format → List Format
    | [] => seen.reverse
    | f :: rest => if f ∈ seen then go seen rest else go (f :: seen) rest

/-- Whether the frames of every common layout fit a 16-bit field. -/
def layoutsFit (channels : Nat) : Bool := decide (4 * channels < Nat.pow 2 16)

/-- The formats to propose for a source, the best first. -/
def candidates? (source : Format) (supported : List Format) : Option (List Format) :=
  if layoutsFit source.channels then
    some (firstOnly ((ranking source supported).filter (proposable source.channels)))
  else none

end Negotiation

/-! ## §2. Asking a device. -/

/-- What came of asking a device. -/
structure Negotiated (σ : Type) where
  /-- The endpoint, or why there is none. -/
  result : Except Fault Endpoint
  /-- The formats that were asked for, in order. -/
  tried : List Format
  /-- The host afterwards. -/
  host : σ
  /-- What was reported. -/
  log : List LogLine

namespace Negotiation

variable {σ : Type} [Host σ]

/-- The failure to open a device for a stated reason. -/
def refusal (device reason : String) : Except Fault Endpoint :=
  .error (.error (.initFailed device reason))

/-- Takes an opened endpoint, unless it renders another number of channels. -/
def accept (host : σ) (device : String) (source tried : Format) (endpoint : Endpoint) :
    Negotiated σ :=
  if endpoint.format.channels = source.channels then
    { result := .ok endpoint
      tried := [tried]
      host
      log := [⟨.info, .negotiation, s!"Negotiated device format {endpoint.format.text} for source {source.text}"⟩] }
  else
    { result := refusal device
        s!"device renders {endpoint.format.channels} channels, source has {source.channels}"
      tried := [tried]
      host := Host.release host endpoint
      log := [] }

/-- Asks for one candidate after the other, as long as they are rejected as formats. -/
def ask (device : String) (source : Format) (buffer : Duration)
    (exhausted : Except Fault Endpoint) (host : σ) : List Format → Negotiated σ
  | [] => { result := exhausted, tried := [], host, log := [] }
  | f :: rest =>
    match Host.activate host device f buffer with
    | (.ok endpoint, host) => accept host device source f endpoint
    | (.error (.formatRejected _), host) =>
      let later := ask device source buffer exhausted host rest
      { later with tried := f :: later.tried }
    | (.error e, host) => { result := refusal device e.message, tried := [f], host, log := [] }

/-- The formats that a device says it supports, none of them if it does not answer, and what is
reported then. -/
def knownFormats (host : σ) (device : String) : List Format × List LogLine :=
  match Host.supportedFormats host device with
  | .ok formats => (formats, [])
  | .error e =>
    ([], [⟨.warn, .negotiation, s!"Failed to query formats of {device}: {e.message}"⟩])

/-- Opens an endpoint in the best candidate that a device takes. -/
def negotiate (host : σ) (device : String) (source : Format) (buffer : Duration) :
    Negotiated σ :=
  if source.isSupported then
    let (supported, queryLog) := knownFormats host device
    match candidates? source supported with
    | none => { result := .error .overflow, tried := [], host, log := queryLog }
    | some candidates =>
      let exhausted := refusal device
        s!"none of {candidates.length} candidate formats for {source.text} accepted"
      let asked := ask device source buffer exhausted host candidates
      { asked with log := queryLog ++ asked.log }
  else
    { result := .error (.error (.unsupportedFormat source.text)), tried := [], host, log := [] }

end Negotiation

end PcmRender
