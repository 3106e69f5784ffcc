/-
  PcmRender.Toml.Document — **reading a TOML document.**

  A document is a sequence of lines: blank lines, comments, headers `[a.b]` and `[[a.b]]`, and
  entries `a.b = value`.  Entries go into the table of the last header.  A value may span lines
  inside an array and inside a string in three quotes, and nowhere else.  Values are nested less
  than eighty deep.

  The table of the last header is kept aside until the next one, and put into the document then.

  Main definitions:
    * `Toml.value` — one value,
    * `Toml.DocumentState` — the document so far, and the table of the last header,
    * `Toml.parse?` — a document; `none` for a text that is none.
-/
import PcmRender.Toml.Scalar

namespace PcmRender

namespace Toml

/-! ## §1. Values. -/

/-- The last key and those before it. -/
def splitKey (keys : List String) : Option (List String × String) :=
  keys.getLast?.map fun last => (keys.dropLast, last)

/-- The values of an array behind its bracket. -/
def arrayItems (item : Reader TomlValue) : Nat → List TomlValue → Reader TomlValue
  | 0, _, _ => none
  | fuel + 1, seen, input =>
    match gap input with
    | ']' :: rest => some (.array seen.reverse, rest)
    | input =>
      match item input with
      | none => none
      | some (v, rest) =>
        match gap rest with
        | ',' :: rest => arrayItems item fuel (v :: seen) rest
        | ']' :: rest => some (.array (v :: seen).reverse, rest)
        | _ => none

/-- One entry: its key, its value, and the text behind. -/
def entry (item : Reader TomlValue) : Reader (List String × String × TomlValue) := fun input =>
  match dottedKey input with
  | some (keys, '=' :: rest) =>
    match splitKey keys, item (skipBlanks rest) with
    | some (path, key), some (v, rest) => some ((path, key, v), rest)
    | _, _ => none
  | _ => none

/-- The entries of an inline table, the first one required. -/
def inlineEntries (item : Reader TomlValue) : Nat → TomlTable → Reader TomlValue
  | 0, _, _ => none
  | fuel + 1, t, input =>
    match entry item input with
    | none => none
    | some ((path, key, v), rest) =>
      match TomlTable.insertDotted? t path key v with
      | none => none
      | some t =>
        match skipBlanks rest with
        | ',' :: rest => inlineEntries item fuel t rest
        | '\x7d' :: rest => some (.inline t, rest)
        | _ => none

/-- An inline table behind its brace. -/
def inlineTable (item : Reader TomlValue) : Reader TomlValue := fun input =>
  match skipBlanks input with
  | '\x7d' :: rest => some (.inline [], rest)
  | input => inlineEntries item (input.length + 1) [] input

/-- A value that is nested less deep than its first argument. -/
def value : Nat → Reader TomlValue
  | 0, _ => none
  | depth + 1, input =>
    match input with
    | '[' :: rest => if depth = 0 then none else arrayItems (value depth) (rest.length + 1) [] rest
    | '\x7b' :: rest => if depth = 0 then none else inlineTable (value depth) rest
    | '"' :: _ => stringValue input
    | '\'' :: _ => stringValue input
    | 't' :: _ => (word ['t', 'r', 'u', 'e'] input).map fun (_, rest) => (.boolean true, rest)
    | 'f' :: _ => (word ['f', 'a', 'l', 's', 'e'] input).map fun (_, rest) => (.boolean false, rest)
    | _ => number input
where
  stringValue : Reader TomlValue := fun input =>
    (text input).map fun (s, rest) => (.string s, rest)

/-! ## §2. Tables of the document. -/

/-- The document so far. -/
structure DocumentState where
  /-- Everything but the table of the last header. -/
  root : TomlTable := []
  /-- The path of the last header; empty before the first one. -/
  path : List String := []
  /-- Whether that header was in two brackets. -/
  isArray : Bool := false
  /-- The table of the last header. -/
  current : TomlTable := []
deriving Inhabited

namespace DocumentState

/-- Puts the table of the last header into the document. -/
def finish? (s : DocumentState) : Option TomlTable :=
  match splitKey s.path with
  | none => some s.current
  | some (parents, key) =>
    TomlTable.within .implicit (fun _ t =>
      if s.isArray then
        match TomlTable.get? t key with
        | none => some (TomlTable.put t key (.tables [s.current]))
        | some (.tables elements) => some (TomlTable.put t key (.tables (elements ++ [s.current])))
        | some _ => none
      else some (TomlTable.put t key (.table .explicit s.current))) parents .explicit s.root

/-- The document behind a header in single brackets.  A table that headers have only passed through
is opened with what it holds. -/
def openTable? (s : DocumentState) (keys : List String) : Option DocumentState := do
  let root ← s.finish?
  let (parents, key) ← splitKey keys
  -- The table leaves the document, and comes back with its entries at the next header.
  let held ← lookUp root parents key
  let root ← TomlTable.within .implicit (fun _ t => some (TomlTable.erase t key)) parents .explicit root
  some { root, path := keys, isArray := false, current := held }
where
  /-- What the table to be opened holds already; `none` if it may not be opened. -/
  lookUp (t : TomlTable) : List String → String → Option TomlTable
    | [], key =>
      match TomlTable.get? t key with
      | none => some []
      | some (.table .implicit held) => some held
      | some _ => none
    | parent :: parents, key =>
      match TomlTable.get? t parent with
      | none => some []
      | some (.table _ child) => lookUp child parents key
      | some (.tables elements) =>
        match elements.getLast? with
        | some child => lookUp child parents key
        | none => none
      | some _ => none

/-- The document behind a header in double brackets. -/
def openArray? (s : DocumentState) (keys : List String) : Option DocumentState := do
  let root ← s.finish?
  let (parents, key) ← splitKey keys
  let root ← TomlTable.within .implicit (fun _ t =>
    match TomlTable.get? t key with
    | none => some t
    | some (.tables _) => some t
    | some _ => none) parents .explicit root
  some { root, path := keys, isArray := true, current := [] }

/-- The document with one more entry. -/
def addEntry? (s : DocumentState) (path : List String) (key : String) (v : TomlValue) :
    Option DocumentState :=
  (TomlTable.insertDotted? s.current path key v).map fun t => { s with current := t }

end DocumentState

/-! ## §3. Lines. -/

/-- The keys of a header and the closing bracket, which is given. -/
def headerKeys (closing : List Char) : Reader (List String) := fun input => do
  let (keys, rest) ← dottedKey input
  let (_, rest) ← word closing rest
  let (_, rest) ← lineEnd rest
  some (keys, rest)

/-- One line. -/
def line (s : DocumentState) : Reader DocumentState := fun input =>
  match input with
  | '#' :: _ => (newlineOrEnd (skipComment input)).map fun (_, rest) => (s, rest)
  | '\n' :: rest => some (s, rest)
  | '\r' :: _ => (newline input).map fun (_, rest) => (s, rest)
  | '[' :: '[' :: rest => do
    let (keys, rest) ← headerKeys [']', ']'] rest
    let s ← s.openArray? keys
    some (s, rest)
  | '[' :: rest => do
    let (keys, rest) ← headerKeys [']'] rest
    let s ← s.openTable? keys
    some (s, rest)
  | _ => do
    let ((path, key, v), rest) ← entry (value depthLimit) input
    let (_, rest) ← lineEnd rest
    let s ← s.addEntry? path key v
    some (s, rest)

/-- All lines. -/
def lines : Nat → DocumentState → List Char → Option DocumentState
  | 0, _, _ => none
  | fuel + 1, s, input =>
    match skipBlanks input with
    | [] => some s
    | input =>
      match line s input with
      | some (s, rest) => lines fuel s rest
      | none => none

/-- The text behind a byte order mark, if there is one. -/
def skipMark : List Char → List Char
  | '\ufeff' :: rest => rest
  | input => input

/-- The root table of a document. -/
def parse? (document : String) : Option TomlTable :=
  let input := skipMark document.toList
  match lines (input.length + 1) {} input with
  | some s => s.finish?
  | none => none

end Toml

end PcmRender
