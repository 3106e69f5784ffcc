/-
  PcmRender.Config — **the configuration of the renderer.**

  A configuration is a TOML document whose root table names some of the settings; those that it
  does not name keep their defaults, and names that mean nothing here are ignored.  A setting has to
  have its own type.  A gain may be written as an integer or as a float.

  Main definitions:
    * `Config` and its defaults,
    * `Config.validate` — the values the renderer cannot work with,
    * `Config.load`, `Config.loadFirst` — a configuration from a file,
    * `Config.document`, `Config.save` — a configuration as a document, and in a file.
-/
import PcmRender.FileTree
import PcmRender.Session.Basic
import PcmRender.Toml.Document
import PcmRender.Toml.Writer

namespace PcmRender

/-! ## §1. The settings. -/

/-- The settings of the renderer. -/
structure Config where
  /-- The device; empty for the default one. -/
  deviceId : String := ""
  /-- Whether to move along when the default device changes. -/
  followDefault : Bool := true
  /-- The device buffer to ask for, in milliseconds. -/
  bufferMillis : Nat := 20
  /-- The period of a device that reports none, in milliseconds. -/
  periodMillis : Nat := 10
  /-- The gain. -/
  gain : Single := Single.one
  /-- The time to wait after a clip, in milliseconds. -/
  tailMillis : Nat := 200
  /-- The bytes of a clip to read at once. -/
  chunkBytes : Nat := 8192
  /-- What the log lets through. -/
  logLevel : String := "info"
  /-- The file for the log; empty for none. -/
  logFile : String := ""
deriving DecidableEq, Inhabited, Repr

/-- Why a configuration cannot be loaded or saved. -/
inductive ConfigError
  /-- Its file cannot be read or written. -/
  | access (path : String) (failure : FileFailure)
  /-- Its text is no document, or a setting has the wrong type. -/
  | parse (path : String)
  /-- It has a value that no document can hold. -/
  | serialize
  /-- A setting is out of range. -/
  | invalid (reason : String)
deriving DecidableEq, Inhabited, Repr

namespace ConfigError

/-- What is wrong with a text that is no document. -/
def noDocument : String := "TOML parse error"

/-- What is wrong with a value that no document can hold. -/
def noInteger : String := "out-of-range value for u64 type"

/-- The wording of an error. -/
def message : ConfigError → String
  | access path failure => "Failed to access config file '" ++ path ++ "': " ++ failure.text
  | parse path => "Failed to parse config file '" ++ path ++ "': " ++ noDocument
  | serialize => s!"Failed to serialize config: {noInteger}"
  | invalid reason => s!"Invalid configuration: {reason}"

/-- What an error comes from. -/
def cause? : ConfigError → Option String
  | access _ failure => some failure.text
  | parse _ => some noDocument
  | serialize => some noInteger
  | invalid _ => none

end ConfigError

namespace Config

/-! ## §2. From a document. -/

/-- The text of a setting. -/
def textOf : TomlValue → Option String
  | .string s => some s
  | _ => none

/-- The truth value of a setting. -/
def flagOf : TomlValue → Option Bool
  | .boolean b => some b
  | _ => none

/-- The number of a setting, below a bound. -/
def countOf (bound : Nat) : TomlValue → Option Nat
  | .integer n => if 0 ≤ n ∧ n.toNat < bound then some n.toNat else none
  | _ => none

/-- The 32-bit number of a setting, rounded from what is written. -/
def gainOf : TomlValue → Option Single
  | .integer n => some (Single.ratio n 0)
  | .float word =>
    let wide := BinaryFormat.double
    some (Single.ofMagnitude (decide (wide.signWeight ≤ word))
      (wide.convert Single.layout (word % wide.signWeight)))
  | _ => none

/-- The value of a setting, or its default if the document does not name it; `none` if it has
another type. -/
def setting {α : Type} (t : TomlTable) (key : String) (usual : α) (read : TomlValue → Option α) :
    Option α :=
  match TomlTable.get? t key with
  | none => some usual
  | some v => read v

/-- The settings of a document. -/
def ofTable? (t : TomlTable) : Option Config := do
  let usual : Config := {}
  let deviceId ← setting t "device_id" usual.deviceId textOf
  let followDefault ← setting t "follow_default" usual.followDefault flagOf
  let bufferMillis ← setting t "buffer_ms" usual.bufferMillis (countOf (Nat.pow 2 32))
  let periodMillis ← setting t "default_period_ms" usual.periodMillis (countOf (Nat.pow 2 32))
  let gain ← setting t "gain" usual.gain gainOf
  let tailMillis ← setting t "clip_tail_ms" usual.tailMillis (countOf (Nat.pow 2 32))
  let chunkBytes ← setting t "clip_chunk_bytes" usual.chunkBytes (countOf (Nat.pow 2 64))
  let logLevel ← setting t "log_level" usual.logLevel textOf
  let logFile ← setting t "log_file" usual.logFile textOf
  some { deviceId, followDefault, bufferMillis, periodMillis, gain, tailMillis, chunkBytes,
         logLevel, logFile }

/-! ## §3. Validation. -/

/-- Whether a number is a gain, from zero to one. -/
def gainInRange (g : Single) : Bool := !g.isNaN && !g.lt (Single.zero false) && !Single.one.lt g

/-- Refuses values that the renderer cannot work with; the first one found is named. -/
def validate (c : Config) : Except ConfigError Unit :=
  if c.bufferMillis = 0 then .error (.invalid "buffer_ms must be positive")
  else if c.periodMillis = 0 then .error (.invalid "default_period_ms must be positive")
  else if !gainInRange c.gain then .error (.invalid s!"gain {c.gain.text} outside 0.0 - 1.0")
  else if c.chunkBytes = 0 then .error (.invalid "clip_chunk_bytes must be positive")
  else .ok ()

/-- The configuration that a document at a path writes. -/
def ofDocument (path document : String) : Except ConfigError Config :=
  match (Toml.parse? document).bind ofTable? with
  | none => .error (.parse path)
  | some c =>
    match c.validate with
    | .ok () => .ok c
    | .error e => .error e

/-- The configuration in a file. -/
def load (files : FileTree) (path : String) : Except ConfigError Config :=
  match files.readText path with
  | .error failure => .error (.access path failure)
  | .ok document => ofDocument path document

/-- The configuration in the first of some files that is there, and the defaults if none is. -/
def loadFirst (files : FileTree) (paths : List String) : Except ConfigError Config :=
  match paths.find? files.has with
  | some path => load files path
  | none => .ok {}

/-! ## §4. What it says. -/

/-- The configured device, if there is one. -/
def device? (c : Config) : Option String := if c.deviceId.isEmpty then none else some c.deviceId

/-- The time to wait after a clip. -/
def tail (c : Config) : Duration := Duration.ofMillis c.tailMillis

/-- How sessions open their devices. -/
def session (c : Config) : SessionConfig where
  buffer := Duration.ofMillis c.bufferMillis
  period := Duration.ofMillis c.periodMillis

/-! ## §5. To a document. -/

/-- The largest integer of a document. -/
def maxInteger : Nat := Nat.pow 2 63 - 1

/-- The gain in a document: its 64-bit word, written out. -/
def gainText (g : Single) : String :=
  let wide := BinaryFormat.double
  TomlWriter.float wide
    ((if g.negative then wide.signWeight else 0) + Single.layout.convert wide g.magnitude)

/-- A configuration as a document that names every setting. -/
def document (c : Config) : Except ConfigError String :=
  if maxInteger < c.chunkBytes then .error .serialize
  else .ok <| String.join
    [ line "device_id" (TomlWriter.text c.deviceId),
      line "follow_default" (TomlWriter.boolean c.followDefault),
      line "buffer_ms" (toString c.bufferMillis),
      line "default_period_ms" (toString c.periodMillis),
      line "gain" (gainText c.gain),
      line "clip_tail_ms" (toString c.tailMillis),
      line "clip_chunk_bytes" (toString c.chunkBytes),
      line "log_level" (TomlWriter.text c.logLevel),
      line "log_file" (TomlWriter.text c.logFile) ]
where
  line (key value : String) : String := key ++ " = " ++ value ++ "\n"

/-- The files with a configuration in one of them.  Missing directories are made. -/
def save (c : Config) (files : FileTree) (path : String) : Except ConfigError FileTree :=
  match c.document with
  | .error e => .error e
  | .ok document =>
    match (files.makeDirectories path).bind (·.write path document.toUTF8.toList) with
    | .error failure => .error (.access path failure)
    | .ok files => .ok files

/-- A document with every setting at its default, and what each of them means. -/
def sample : String := String.join
  [ "# wrender configuration\n",
    "\n",
    "# Render device ID (empty = system default device)\n",
    "# Run \x60wrender list --show-ids\x60 to see the IDs\n",
    "device_id = \"\"\n",
    "\n",
    "# Follow the system default device when it changes (default: true)\n",
    "follow_default = true\n",
    "\n",
    "# Endpoint buffer duration in milliseconds (default: 20)\n",
    "buffer_ms = 20\n",
    "\n",
    "# Device period used when the device reports none (default: 10)\n",
    "default_period_ms = 10\n",
    "\n",
    "# Output gain from 0.0 to 1.0 (default: 1.0)\n",
    "gain = 1.0\n",
    "\n",
    "# Extra playout time after a clip in milliseconds (default: 200)\n",
    "clip_tail_ms = 200\n",
    "\n",
    "# Bytes read from a clip per feed (default: 8192)\n",
    "clip_chunk_bytes = 8192\n",
    "\n",
    "# Log level: trace, debug, info, warn, error (default: info)\n",
    "log_level = \"info\"\n",
    "\n",
    "# Log file path (empty = no file logging)\n",
    "log_file = \"\"\n" ]

end Config

end PcmRender
