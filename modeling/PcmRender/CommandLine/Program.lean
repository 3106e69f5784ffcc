/-
  PcmRender.CommandLine.Program — **the renderer as a program.**

  What the program does is a function of what it finds: its words, the files, the text on standard
  input, a log filter in its environment, and an interrupt by its user.  It answers an exit code,
  what stands on the console and among the errors, and the files as they are afterwards.

      0    it did what it was told
      1    it failed, for a reason that is named
      2    the command line was refused
      101  a number left the width of its field, or a log filter was torn inside a character

  There is no sound hardware here: an input plays into the null sink, unless a device is named, which
  then is not found.

  Main definitions:
    * `Surroundings`, `Outcome` — what the program finds and leaves,
    * `Failure` — a reason with what it comes from,
    * `Program.play` — one input,
    * `Program.run` — the whole program.
-/
import PcmRender.CommandLine.Arguments
import PcmRender.Config
import PcmRender.DeviceBank
import PcmRender.Logging
import PcmRender.Stage.Linear
import PcmRender.Stream

namespace PcmRender

/-! ## §1. What the program finds and leaves. -/

/-- When the user interrupts the program. -/
inductive Interrupt
  /-- While it waits for its input, before any of it has come. -/
  | beforeInput
  /-- Some time after all of its input has come. -/
  | afterInput (wait : Duration)
deriving DecidableEq, Inhabited, Repr

/-- What the program finds. -/
structure Surroundings where
  /-- The files. -/
  files : FileTree := {}
  /-- The bytes on standard input. -/
  input : List UInt8 := []
  /-- Where a configuration is looked for, if none is named. -/
  configs : List String := []
  /-- The log filter in the environment. -/
  filter : Option String := none
  /-- What begins every line of the log. -/
  stamp : String := ""
  /-- When the user interrupts it. -/
  interrupt : Option Interrupt := none
deriving Inhabited, Repr

/-- What the program leaves. -/
structure Outcome where
  /-- The exit code. -/
  code : Nat
  /-- What stands on the console. -/
  output : String := ""
  /-- What stands among the errors. -/
  errors : String := ""
  /-- The files. -/
  files : FileTree
deriving Inhabited, Repr

/-! ## §2. Failures. -/

/-- Why the program fails, and what that comes from. -/
structure Failure where
  /-- What failed. -/
  message : String
  /-- What it comes from. -/
  cause : Option String := none
deriving DecidableEq, Inhabited, Repr

namespace Failure

/-- A file that could not be used for something. -/
def ofFile (purpose : String) (failure : FileFailure) : Failure := ⟨purpose, some failure.text⟩

/-- A configuration that could not be loaded. -/
def ofConfig (e : ConfigError) : Failure := ⟨e.message, e.cause?⟩

/-- An input that could not be rendered. -/
def ofRender : RenderError → Failure
  | .io text => ⟨(RenderError.io text).message, some text⟩
  | e => ⟨e.message, none⟩

/-- The text of a failure among the errors. -/
def text (f : Failure) : String :=
  "Error: " ++ f.message ++ "\n" ++ match f.cause with
    | some cause => "\nCaused by:\n    " ++ cause ++ "\n"
    | none => ""

end Failure

/-- What ends a command early. -/
inductive Stop
  /-- A reason that is named. -/
  | failed (failure : Failure)
  /-- A number that left the width of its field. -/
  | crashed
deriving DecidableEq, Inhabited, Repr

/-- What a fault is to the program. -/
def Stop.ofFault : Fault → Stop
  | .error e => .failed (.ofRender e)
  | .overflow => .crashed

/-- A command, done. -/
structure Performance where
  /-- What it emitted. -/
  emitted : List Emission := []
  /-- How it ended. -/
  result : Except Stop Unit := .ok ()
  /-- The files afterwards. -/
  files : FileTree
deriving Inhabited, Repr

namespace Program

/-! ## §3. Texts. -/

/-- The version of the program. -/
def version : String := "0.1.0"

/-- The name of the program. -/
def name : String := "wrender"

/-- What stands on the console when the user interrupts. -/
def interruptText : String := "\nReceived Ctrl+C, stopping...\n"

/-- How the program is called. -/
def usage : String := String.join
  [ "Usage: ", name, " [OPTIONS] <COMMAND>\n\n",
    "Commands:\n",
    "  list [--show-ids]\n",
    "  play [-r RATE] [--channels N] [-e ENCODING] [--big-endian] [-d DEVICE] [-g GAIN] [--stream] INPUT\n",
    "  config [--write PATH]\n\n",
    "Options:\n",
    "  -c, --config PATH\n  -v, --verbose\n  -q, --quiet\n  --log PATH\n  -h, --help\n  -V, --version\n" ]

/-- Why a command line is refused, in words. -/
def refusalText : Refusal → String
  | .unknownArgument => "unexpected argument"
  | .invalidValue => "invalid value"
  | .valueValidation => "a value cannot be read"
  | .missingRequired => "a required argument is missing"
  | .invalidSubcommand => "unrecognized command"
  | .argumentConflict => "an argument cannot be used twice"
  | .tooManyValues => "an argument takes no value"
  | .missingSubcommand => "a command is required"
  | .displayHelp | .displayVersion | .displayHelpOnMissing => "help"

/-- What is said of a part of a log filter that is no directive. -/
def ignoredText (part : String × DirectiveFault) : String :=
  "ignoring \x60" ++ part.1 ++ "\x60: " ++ part.2.text ++ "\n"

/-! ## §4. Playing. -/

/-- The converter between rates and layouts: its position is read in 64 bits and its samples in 32. -/
abbrev Converter := LinearResampler Double Single

/-- Whether a path names standard input. -/
def isStandardInput (path : String) : Bool := path == "-" || path == "/dev/stdin"

/-- Whether a path names the console. -/
def isConsole (path : String) : Bool := path == "/dev/stdout"

/-- What reading an input meets.  A directory can be opened and not be read. -/
def openInput (s : Surroundings) (files : FileTree) (path : String) :
    Except FileFailure (List ReadEvent) :=
  if isStandardInput path then .ok [.bytes s.input]
  else match files.lookup path with
    | .ok (.file content) => .ok [.bytes content]
    | .ok .directory => .ok [.failed FileFailure.isDirectory.text]
    | .error failure => .error failure

/-- An input together with the interrupt it meets.  A file is there at once, so an interrupt never
comes before it. -/
def withInterrupt (interrupt : Option Interrupt) (path : String) (events : List ReadEvent) : Input :=
  match interrupt with
  | none => { events }
  | some .beforeInput =>
    if isStandardInput path then { events := .cancelled :: events }
    else { events, cancelAt := some 0 }
  | some (.afterInput wait) => { events, cancelAt := some wait.nanos }

/-- What an input emits: the lines before its first byte, the text for an interrupt, and the other
lines. -/
def renderedEmissions {ρ : Type} (r : Rendered DeviceBank Converter ρ) : List Emission :=
  let lines := ((r.session.map (·.session.log)).getD []).map Emission.reported
  lines.take r.openingLines ++ (if r.interrupted then [.printed interruptText] else [])
    ++ lines.drop r.openingLines

/-- What an input comes to, given the text of its report and the meaning of its faults. -/
def conclude {ρ : Type} (files : FileTree) (opening : List Emission)
    (r : Rendered DeviceBank Converter ρ) (report : ρ → String) (stop : Fault → Stop) : Performance :=
  let emitted := opening ++ renderedEmissions r
  match r.result with
  | some (.ok done) => { emitted := emitted ++ [.printed (report done)], files }
  | some (.error fault) => { emitted, result := .error (stop fault), files }
  | none => { emitted, result := .error .crashed, files }

/-- What a fault of a stream is to the program: a read that failed is named by itself. -/
def streamStop : Fault → Stop
  | .error (.io text) => .failed ⟨text, none⟩
  | fault => .ofFault fault

/-- The line about the missing hardware. -/
def noBackend : Emission :=
  .reported ⟨.warn, .program, "No audio backend on this platform, rendering into the null sink"⟩

/-- The text that tells what is played. -/
def playingText (path : String) (format : Format) (device : Option String) : String :=
  "Playing " ++ path ++ " as " ++ format.text ++ " on " ++ device.getD "<null sink>" ++ "\n"

/-- The files with the lines of the log at the end of the log file. -/
def keepLog (files : FileTree) (logging : Logging) (emitted : List Emission) : FileTree :=
  match logging.file with
  | none => files
  | some path => ((files.append path (logging.kept emitted).toUTF8.toList).toOption).getD files

/-- The input as it is once some pieces were emitted.  The log file can be the input, which then is
what the log has come to. -/
def inputAfter (s : Surroundings) (files : FileTree) (logging : Logging) (path : String)
    (emitted : List Emission) : Input :=
  let events := (openInput s (keepLog files logging emitted) path).toOption.getD []
  withInterrupt s.interrupt path events

/-- Plays an input in its format. -/
def playAs (s : Surroundings) (files : FileTree) (logging : Logging) (config : Config)
    (p : PlayArguments) (format : Format) : Performance :=
  let named := p.device <|> config.device?
  let host : DeviceBank := { devices := [] }
  let device := named <|> Host.defaultDevice host
  let gain := p.gain.getD config.gain
  match openInput s files p.input with
  | .error failure =>
    { emitted := [noBackend], files,
      result := .error (.failed (.ofFile s!"Failed to open {p.input}" failure)) }
  | .ok _ =>
    let opening := [noBackend, .printed (playingText p.input format device)]
    let input := fun lines =>
      inputAfter s files logging p.input (opening ++ lines.map Emission.reported)
    if p.stream then
      let policy := match device with
        | some id => if named.isNone && config.followDefault then .followDefault else .fixed id
        | none => WatchPolicy.followDefault
      let player : StreamPlayer :=
        { device, config := config.session, chunk := config.chunkBytes, gain, policy }
      conclude files opening (player.playAfter host format input)
        (fun bytes => s!"Streamed {bytes} bytes.\n") streamStop
    else
      let player : ClipPlayer :=
        { device, config := config.session, chunk := config.chunkBytes, tail := config.tail, gain }
      conclude files opening (player.playAfter host format input)
        (fun report => s!"Played {report.bytes} bytes ({report.duration.text}).\n") .ofFault

/-- Plays an input. -/
def play (s : Surroundings) (files : FileTree) (logging : Logging) (config : Config)
    (p : PlayArguments) : Performance :=
  match p.format? with
  | some format => playAs s files logging config p format
  | none => { result := .error .crashed, files }

/-! ## §5. Commands. -/

/-- Prints a configuration with every setting at its default, or writes it to a file. -/
def writeSample (files : FileTree) : Option String → Performance
  | none => { emitted := [.printed Config.sample], files }
  | some path =>
    let done := Emission.printed s!"Sample configuration written to {path}\n"
    if isConsole path then { emitted := [.printed Config.sample, done], files }
    else match files.write path Config.sample.toUTF8.toList with
    | .ok files => { emitted := [done], files }
    | .error failure =>
      { result := .error (.failed (.ofFile s!"Failed to write {path}" failure)), files }

/-- Does what a command says. -/
def perform (s : Surroundings) (files : FileTree) (logging : Logging) (config : Config) :
    Command → Performance
  | .list _ => { emitted := [.printed "Device listing is only available on Windows.\n"], files }
  | .play p => play s files logging config p
  | .config path => writeSample files path

/-! ## §6. The whole program. -/

/-- How much the log says: by the command line if it has an option for that, else as configured. -/
def levelText (a : Arguments) (config : Config) : String :=
  if a.quiet || decide (0 < a.verbose) then a.logLevel.text else config.logLevel

/-- The log filter, and what of it is ignored; `none` if it has a torn directive.  The one in the
environment counts if all of it is directives. -/
def chooseFilter? (s : Surroundings) (a : Arguments) (config : Config) :
    Option (LogFilter × List (String × DirectiveFault)) :=
  match s.filter.map LogFilter.strict with
  | some (.ok filter) => some (filter, [])
  | some (.error .torn) => none
  | _ =>
    let text := levelText a config
    let ignored := LogFilter.ignored text
    if ignored.any (·.2 == .torn) then none else some (LogFilter.lenient text, ignored)

/-- The log file: the one of the command line, else the configured one, unless that is the
console. -/
def logFile (a : Arguments) (config : Config) : Option String :=
  (a.log <|> (if config.logFile.isEmpty then none else some config.logFile)).filter (!isConsole ·)

/-- The files with an empty log file. -/
def createLog (files : FileTree) : Option String → Except Failure FileTree
  | none => .ok files
  | some path =>
    match files.write path [] with
    | .ok files => .ok files
    | .error failure => .error (.ofFile s!"Failed to create log file {path}" failure)

/-- The outcome of a failure before any command. -/
def fail (files : FileTree) (errors : String) (failure : Failure) : Outcome :=
  { code := 1, errors := errors ++ failure.text, files }

/-- The outcome of a command. -/
def finish (logging : Logging) (errors : String) (p : Performance) : Outcome :=
  let output := logging.console p.emitted
  let files := keepLog p.files logging p.emitted
  match p.result with
  | .ok () => { code := 0, output, errors, files }
  | .error (.failed failure) => { code := 1, output, errors := errors ++ failure.text, files }
  | .error .crashed => { code := 101, output, errors, files }

/-- The configuration: the one that is named, else the first one found. -/
def configuration (s : Surroundings) (a : Arguments) : Except ConfigError Config :=
  match a.config with
  | some path => Config.load s.files path
  | none => Config.loadFirst s.files s.configs

/-- The outcome of a command line that could be read. -/
def obey (s : Surroundings) (a : Arguments) : Outcome :=
  match configuration s a with
  | .error e => fail s.files "" (.ofConfig e)
  | .ok config =>
    match chooseFilter? s a config with
    | none => { code := 101, files := s.files }
    | some (filter, ignored) =>
      let errors := String.join (ignored.map ignoredText)
      let file := logFile a config
      let logging : Logging := { filter, file, stamp := s.stamp }
      match createLog s.files file with
      | .error failure => fail s.files errors failure
      | .ok files => finish logging errors (perform s files logging config a.command)

/-- The outcome of a command line that is refused, or asks for help or for the version. -/
def refuse (files : FileTree) : Refusal → Outcome
  | .displayHelp => { code := 0, output := usage, files }
  | .displayVersion => { code := 0, output := name ++ " " ++ version ++ "\n", files }
  | .displayHelpOnMissing => { code := 2, errors := usage, files }
  | refusal => { code := 2, errors := "error: " ++ refusalText refusal ++ "\n\n" ++ usage, files }

/-- The file that a command reads or writes, apart from standard input. -/
def commandFile : Command → Option String
  | .list _ => none
  | .play p => some p.input |>.filter (!isStandardInput ·)
  | .config path => path.filter (!isConsole ·)

/-- Whether a command reads standard input. -/
def readsInput : Command → Bool
  | .play p => isStandardInput p.input
  | _ => false

/-- What the program makes of its words and of what it finds. -/
def run (s : Surroundings) (words : List String) : Outcome :=
  match Arguments.parse words with
  | .error refusal => refuse s.files refusal
  | .ok a => obey s a

end Program

end PcmRender
