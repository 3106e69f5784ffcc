/-
  PcmRender.Main — **the program on a real system.**

  What `Program.run` is a function of is collected here, and what it answers is carried out: the
  files that its words and its configuration name are read first, and those it has changed are
  written afterwards.  Nothing is decided here.
-/
import Std.Time.DateTime
import PcmRender.CommandLine.Program
import PcmRender.CommandLine.Stamp

namespace PcmRender

/-! ## §1. Finding. -/

/-- What is at a path of the system, as far as it can be read. -/
def systemEntry (path : String) : IO (Option FileEntry) := do
  try
    return some (.file (← IO.FS.readBinFile path).toList)
  catch
    | .inappropriateType _ 21 _ => return some .directory
    | _ => return none

/-- The paths of the places on the way to a place, the nearest first. -/
def placesOnWay (p : FilePath) : List Place :=
  ((inits p.steps).drop 1).map fun steps => steps.foldl FileTree.next p.start
where
  /-- The beginnings of a list, the shortest first. -/
  inits : List String → List (List String)
    | [] => [[]]
    | x :: rest => [] :: (inits rest).map (x :: ·)

/-- A tree together with what is on the way to a path. -/
def findPath (t : FileTree) (path : String) : IO FileTree := do
  match FilePath.ofText path with
  | .error _ => return t
  | .ok p =>
    (placesOnWay p).foldlM findPlace t
where
  /-- A tree together with what is at a place. -/
  findPlace (t : FileTree) (place : Place) : IO FileTree := do
    if (t.entry? place).isSome then return t
    match ← systemEntry ("/".intercalate place) with
    | some (.file content) => return t.put place content
    | some .directory => return { t with directories := place :: t.directories }
    | none => return t

/-- All bytes of a stream. -/
partial def readAll (stream : IO.FS.Stream) (before : ByteArray) : IO ByteArray := do
  let more ← stream.read 65536
  if more.isEmpty then return before
  readAll stream (before ++ more)

/-- Where a configuration is looked for: beside the program, and where the user keeps them. -/
def configPlaces : IO (List String) := do
  let beside := (toString (← IO.appDir)) ++ "/wrender.toml"
  let home := (← IO.getEnv "HOME").map (· ++ "/.config")
  let user := ((← IO.getEnv "XDG_CONFIG_HOME") <|> home).map (· ++ "/wrender/config.toml")
  return beside :: user.toList

/-- What the program finds for its words. -/
def findSurroundings (words : List String) : IO Surroundings := do
  match Arguments.parse words with
  | .error _ => return {}
  | .ok a =>
    let configs ← configPlaces
    let files ← (configs ++ a.config.toList ++ (Program.commandFile a.command).toList).foldlM findPath {}
    let filter ← IO.getEnv "RUST_LOG"
    let stamp := Stamp.text (← Std.Time.Timestamp.now).toNanosecondsSinceUnixEpoch.val.toNat
    let input ← if Program.readsInput a.command then readAll (← IO.getStdin) .empty else pure .empty
    let s : Surroundings := { files, configs, filter, stamp, input := input.toList }
    let log := match Program.configuration s a with
      | .ok config => (Program.logFile a config).toList
      | .error _ => []
    return { s with files := ← log.foldlM findPath s.files }

/-! ## §2. Leaving. -/

/-- Writes the files that are not as they were. -/
def leaveFiles (before after : FileTree) : IO Unit := do
  for (place, content) in after.files do
    if before.content? place != some content then
      IO.FS.writeBinFile ("/".intercalate place) ⟨content.toArray⟩

/-- Carries out an outcome. -/
def leave (before : FileTree) (o : Outcome) : IO UInt32 := do
  leaveFiles before o.files
  IO.print o.output
  IO.eprint o.errors
  return UInt32.ofNat o.code

end PcmRender

/-- The renderer as a program. -/
def main (words : List String) : IO UInt32 := do
  let s ← PcmRender.findSurroundings words
  PcmRender.leave s.files (PcmRender.Program.run s words)
