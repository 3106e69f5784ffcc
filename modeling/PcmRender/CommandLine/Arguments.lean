/-
  PcmRender.CommandLine.Arguments — **the command line of the renderer.**

      list     which devices there are
      play     a file, or standard input, as a clip or as a stream
      config   a configuration with every setting at its default

  The options for the configuration file, the log and how much it says may stand in front of the
  command and behind it; behind it they count.

  Main definitions:
    * `Arguments`, `Command`, `PlayArguments`,
    * `Arguments.parse` — the arguments in the words of a command line.
-/
import PcmRender.CommandLine.Grammar
import PcmRender.Decimal.Literal
import PcmRender.Format
import PcmRender.Log

namespace PcmRender

/-! ## §1. Arguments. -/

/-- How the samples of an input are written. -/
inductive Encoding
  /-- Unsigned bytes. -/
  | u8
  /-- Signed 16-bit integers. -/
  | s16
  /-- Signed 24-bit integers, packed. -/
  | s24
  /-- Signed 32-bit integers. -/
  | s32
  /-- 32-bit floats. -/
  | f32
deriving DecidableEq, Inhabited, Repr

namespace Encoding

/-- The encodings by name. -/
def named : List (String × Encoding) :=
  [("u8", u8), ("s16", s16), ("s24", s24), ("s32", s32), ("f32", f32)]

/-- The encoding of a name. -/
def ofName? (name : String) : Option Encoding := (named.find? (·.1 == name)).map Prod.snd

/-- The name of an encoding. -/
def name (e : Encoding) : String := ((named.find? (·.2 == e)).map Prod.fst).getD ""

/-- The bits of a sample. -/
def bits : Encoding → Nat
  | u8 => 8
  | s16 => 16
  | s24 => 24
  | s32 => 32
  | f32 => 32

end Encoding

/-- What to play, and how. -/
structure PlayArguments where
  /-- The input; a dash is standard input. -/
  input : String
  /-- Frames per second. -/
  rate : Nat := 48000
  /-- Samples per frame. -/
  channels : Nat := 2
  /-- How samples are written. -/
  encoding : Encoding := .s16
  /-- Whether the most significant byte comes first. -/
  bigEndian : Bool := false
  /-- The device, if it is given. -/
  device : Option String := none
  /-- The gain, if it is given. -/
  gain : Option Single := none
  /-- Whether to stream. -/
  stream : Bool := false
deriving DecidableEq, Inhabited, Repr

namespace PlayArguments

/-- The bound of the bytes of a frame, which fit 16 bits. -/
def frameBound : Nat := Nat.pow 2 16

/-- The format of the input. -/
def format (p : PlayArguments) : Format :=
  let f := match p.encoding with
    | .f32 => Format.float p.rate p.channels
    | e => Format.pcm p.rate e.bits p.channels
  if p.bigEndian then f.withOrder .big else f

/-- The format of the input, unless its frames have too many bytes. -/
def format? (p : PlayArguments) : Option Format :=
  if p.format.align < frameBound then some p.format else none

end PlayArguments

/-- What to do. -/
inductive Command
  /-- List the devices, with their identifiers if asked for. -/
  | list (showIds : Bool)
  /-- Play an input. -/
  | play (arguments : PlayArguments)
  /-- Print a configuration, or write it to a file. -/
  | config (write : Option String)
deriving DecidableEq, Inhabited, Repr

/-- A whole command line. -/
structure Arguments where
  /-- What to do. -/
  command : Command
  /-- The configuration file, if it is given. -/
  config : Option String := none
  /-- How much more the log is to say. -/
  verbose : Nat := 0
  /-- Whether the log is to name errors only. -/
  quiet : Bool := false
  /-- The file for the log, if it is given. -/
  log : Option String := none
deriving DecidableEq, Inhabited, Repr

/-- How much the log says by these arguments alone. -/
def Arguments.logLevel (a : Arguments) : LogLevel :=
  if a.quiet then .error
  else match a.verbose with
    | 0 => .info
    | 1 => .debug
    | _ => .trace

namespace CommandLine

/-! ## §2. Values. -/

/-- Any text. -/
def anyText (_ : String) : Option Refusal := none

/-- A path is not empty. -/
def path (text : String) : Option Refusal := if text.isEmpty then some .invalidValue else none

/-- The integer that a text writes, with or without a sign. -/
def integer? (text : String) : Option Int :=
  let (negative, digits) := splitSign text.toList
  if digits ≠ [] ∧ digits.all Char.isDigit then
    some (if negative then -(digitsValue digits : Int) else digitsValue digits)
  else none

/-- The number below a bound that a text writes. -/
def below? (bound : Nat) (text : String) : Option Nat :=
  match integer? text with
  | some n => if 0 ≤ n ∧ n.toNat < bound then some n.toNat else none
  | none => none

/-- A number below a bound. -/
def number (bound : Nat) (text : String) : Option Refusal :=
  if (below? bound text).isSome then none else some .valueValidation

/-- The name of an encoding. -/
def encodingName (text : String) : Option Refusal :=
  if (Encoding.ofName? text).isSome then none else some .invalidValue

/-- A 32-bit floating point number. -/
def realNumber (text : String) : Option Refusal :=
  if (Single.ofText? text.toList).isSome then none else some .valueValidation

/-! ## §3. Grammars. -/

/-- The options that may stand on either level. -/
def common : List OptionRule :=
  [{ name := "config", letter := some 'c', kind := .value path },
    { name := "verbose", letter := some 'v', kind := .count },
    { name := "quiet", letter := some 'q', kind := .flag },
    { name := "log", kind := .value anyText },
    { name := "help", letter := some 'h', kind := .help }]

/-- The level in front of the command. -/
def top : Grammar where
  options := { name := "version", letter := some 'V', kind := .version } :: common
  commands := ["list", "play", "config"]

/-- The bound of the numbers that fit 32 bits. -/
def rateBound : Nat := Nat.pow 2 32

/-- The bound of the numbers that fit 16 bits. -/
def channelBound : Nat := Nat.pow 2 16

/-- The level behind a command. -/
def level (command : String) : Grammar :=
  if command = "list" then { options := { name := "show-ids", kind := .flag } :: common }
  else if command = "play" then
    { options :=
        [{ name := "rate", letter := some 'r', kind := .value (number rateBound) },
          { name := "channels", kind := .value (number channelBound) },
          { name := "encoding", letter := some 'e', kind := .value encodingName },
          { name := "big-endian", kind := .flag },
          { name := "device", letter := some 'd', kind := .value anyText },
          { name := "gain", letter := some 'g', kind := .value realNumber },
          { name := "stream", kind := .flag }] ++ common
      positionals := 1 }
  else { options := { name := "write", kind := .value path } :: common }

/-! ## §4. Arguments from words. -/

/-- What to play, by the words behind the command. -/
def playArguments (w : Words) : PlayArguments :=
  let usual : PlayArguments := { input := "" }
  { input := w.positionals.headD ""
    rate := ((w.value? "rate").bind (below? rateBound)).getD usual.rate
    channels := ((w.value? "channels").bind (below? channelBound)).getD usual.channels
    encoding := ((w.value? "encoding").bind Encoding.ofName?).getD usual.encoding
    bigEndian := w.has "big-endian"
    device := w.value? "device"
    gain := (w.value? "gain").bind fun text => Single.ofText? text.toList
    stream := w.has "stream" }

/-- What to do, by the command and the words behind it. -/
def command (name : String) (w : Words) : Command :=
  if name = "list" then .list (w.has "show-ids")
  else if name = "play" then .play (playArguments w)
  else .config (w.value? "write")

/-- The value of an option that may stand on either level. -/
def eitherValue (outer inner : Words) (name : String) : Option String :=
  (inner.value? name).or (outer.value? name)

/-- The arguments of the words on both levels. -/
def arguments (outer : Words) (name : String) (inner : Words) : Arguments where
  command := command name inner
  config := eitherValue outer inner "config"
  verbose := if inner.has "verbose" then inner.times "verbose" else outer.times "verbose"
  quiet := inner.has "quiet" || outer.has "quiet"
  log := eitherValue outer inner "log"

end CommandLine

/-- The arguments in the words of a command line. -/
def Arguments.parse (words : List String) : Except Refusal Arguments :=
  match CommandLine.readCommand CommandLine.top CommandLine.level words with
  | .error e => .error e
  | .ok (outer, name, inner) => .ok (CommandLine.arguments outer name inner)

end PcmRender
