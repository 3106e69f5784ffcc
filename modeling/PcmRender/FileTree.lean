/-
  PcmRender.FileTree — **the files that a program sees.**

  A tree holds the contents of files and the directories around them.  A path is a list of steps; it
  is walked from the working directory, or from the root of the system if it begins with a slash.

      .      stays where it is
      ..     goes to the directory above; above the root is the root
      name   goes down

  Every step but the last has to end in a directory, and so has the last one if a slash follows it.

  Main definitions:
    * `FileTree.lookup` — what is at a path,
    * `FileTree.read`, `FileTree.write` — the content of a file,
    * `FileTree.makeDirectories` — the directories on the way to a file.
-/

namespace PcmRender

/-! ## §1. Failures. -/

/-- Why a path cannot be used. -/
inductive FileFailure
  /-- Nothing is there. -/
  | notFound
  /-- A file is where a directory has to be. -/
  | notDirectory
  /-- A directory is where a file has to be. -/
  | isDirectory
  /-- A name, or the whole path, is too long. -/
  | nameTooLong
  /-- The path has a character that no name can have. -/
  | nulCharacter
  /-- The content is no text. -/
  | notText
deriving DecidableEq, Inhabited, Repr

namespace FileFailure

/-- The wording of a failure. -/
def text : FileFailure → String
  | notFound => "No such file or directory (os error 2)"
  | notDirectory => "Not a directory (os error 20)"
  | isDirectory => "Is a directory (os error 21)"
  | nameTooLong => "File name too long (os error 36)"
  | nulCharacter => "file name contained an unexpected NUL byte"
  | notText => "stream did not contain valid UTF-8"

end FileFailure

/-! ## §2. Paths. -/

/-- Where something is: the names on the way from the working directory.  The root of the system is
the place `/`, and what is above the working directory begins with `..`. -/
abbrev Place := List String

/-- The working directory. -/
def Place.working : Place := []

/-- The root of the system. -/
def Place.root : Place := ["/"]

/-- The file that keeps nothing of what is written to it. -/
def Place.nowhere : Place := ["/", "dev", "null"]

/-- A path, read. -/
structure FilePath where
  /-- Where it begins. -/
  start : Place
  /-- The steps to take. -/
  steps : List String
  /-- Whether a slash follows the last step. -/
  slashed : Bool
deriving DecidableEq, Inhabited, Repr

namespace FilePath

/-- The longest name, in bytes. -/
def maxName : Nat := 255

/-- The longest path, in bytes. -/
def maxPath : Nat := 4095

/-- The texts between the slashes. -/
def between : List Char → List (List Char)
  | [] => [[]]
  | '/' :: rest => [] :: between rest
  | c :: rest =>
    match between rest with
    | first :: others => (c :: first) :: others
    | [] => [[c]]

/-- The path that a text writes. -/
def ofText (text : String) : Except FileFailure FilePath :=
  if text.toList.contains '\x00' then .error .nulCharacter
  else if text.isEmpty then .error .notFound
  else if maxPath < text.utf8ByteSize then .error .nameTooLong
  else .ok
    { start := if text.toList.head? = some '/' then .root else .working
      steps := ((between text.toList).filter (· != [])).map String.ofList
      slashed := text.toList.getLast? == some '/' }

end FilePath

/-! ## §3. Trees. -/

/-- What is at a place. -/
inductive FileEntry
  /-- A file, with its content. -/
  | file (content : List UInt8)
  /-- A directory. -/
  | directory
deriving DecidableEq, Inhabited, Repr

/-- Files and directories.  The working directory, what is above it and the root are always there,
and so is every directory with something in it. -/
structure FileTree where
  /-- The files, with their contents. -/
  files : List (Place × List UInt8) := []
  /-- Directories, for those that are empty. -/
  directories : List Place := []
deriving DecidableEq, Inhabited, Repr

namespace FileTree

/-- Whether a directory is at a place. -/
def isDirectory (t : FileTree) (place : Place) : Bool :=
  place.all (· == "..") || place == Place.root
    || t.directories.any (place.isPrefixOf ·)
    || t.files.any fun f => place.isPrefixOf f.1 && place != f.1

/-- The content of the file at a place. -/
def content? (t : FileTree) (place : Place) : Option (List UInt8) :=
  (t.files.find? (·.1 == place)).map Prod.snd

/-- What is at a place. -/
def entry? (t : FileTree) (place : Place) : Option FileEntry :=
  match t.content? place with
  | some content => some (.file content)
  | none => if t.isDirectory place then some .directory else none

/-- The place above a place. -/
def above (place : Place) : Place :=
  if place == Place.root then place
  else if place.all (· == "..") then ".." :: place
  else place.dropLast

/-- The place one step on. -/
def next (place : Place) (step : String) : Place :=
  if step = "." then place else if step = ".." then above place else place ++ [step]

/-- The place at the end of some steps. -/
def walk (t : FileTree) (place : Place) : List String → Except FileFailure Place
  | [] => .ok place
  | step :: rest =>
    match t.entry? place with
    | none => .error .notFound
    | some (.file _) => .error .notDirectory
    | some .directory =>
      if FilePath.maxName < step.utf8ByteSize then .error .nameTooLong
      else walk t (next place step) rest

/-- What is at the end of a path. -/
def lookup (t : FileTree) (path : String) : Except FileFailure FileEntry := do
  let p ← FilePath.ofText path
  match t.entry? (← t.walk p.start p.steps) with
  | none => .error .notFound
  | some (.file content) => if p.slashed then .error .notDirectory else .ok (.file content)
  | some .directory => .ok .directory

/-- Whether a path leads to something. -/
def has (t : FileTree) (path : String) : Bool := (t.lookup path).isOk

/-- The content of the file at the end of a path. -/
def read (t : FileTree) (path : String) : Except FileFailure (List UInt8) := do
  match ← t.lookup path with
  | .file content => .ok content
  | .directory => .error .isDirectory

/-- The text in the file at the end of a path. -/
def readText (t : FileTree) (path : String) : Except FileFailure String := do
  match String.fromUTF8? ⟨(← t.read path).toArray⟩ with
  | some text => .ok text
  | none => .error .notText

/-- The tree with a content at a place. -/
def put (t : FileTree) (place : Place) (content : List UInt8) : FileTree :=
  let kept := if place == Place.nowhere then [] else content
  { t with files := (place, kept) :: t.files.filter (·.1 != place) }

/-- The tree with a file at the end of a path.  The directory around it has to be there. -/
def write (t : FileTree) (path : String) (content : List UInt8) : Except FileFailure FileTree := do
  let p ← FilePath.ofText path
  if p.slashed then
    -- A slash at the end asks for a directory, so the last name is not looked at.
    let _ ← t.walk p.start (p.steps.dropLast ++ ["."])
    .error .isDirectory
  else
    let place ← t.walk p.start p.steps
    if t.entry? place = some .directory then .error .isDirectory else .ok (t.put place content)

/-- The tree with what a path leads to at the end of more content. -/
def append (t : FileTree) (path : String) (content : List UInt8) : Except FileFailure FileTree := do
  let before ← t.read path
  t.write path (before ++ content)

/-! ## §4. Directories. -/

/-- The tree with every directory on the way along some steps. -/
def makeWay (t : FileTree) (place : Place) : List String → Except FileFailure FileTree
  | [] => .ok t
  | step :: rest =>
    if FilePath.maxName < step.utf8ByteSize then .error .nameTooLong
    else
      let place := next place step
      match t.entry? place with
      | some (.file _) => .error .notDirectory
      | some .directory => makeWay t place rest
      | none => makeWay { t with directories := place :: t.directories } place rest

/-- The tree with the directories around the file at the end of a path. -/
def makeDirectories (t : FileTree) (path : String) : Except FileFailure FileTree := do
  let p ← FilePath.ofText path
  t.makeWay p.start p.steps.dropLast

/-- The tree of some files, with the directories around them.  A file whose path cannot be used is
left out. -/
def ofFiles (files : List (String × List UInt8)) : FileTree :=
  files.foldl put? {}
where
  put? (t : FileTree) (f : String × List UInt8) : FileTree :=
    match (t.makeDirectories f.1).bind (·.write f.1 f.2) with
    | .ok t => t
    | .error _ => t

end FileTree

end PcmRender
