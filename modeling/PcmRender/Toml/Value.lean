/-
  PcmRender.Toml.Value — **the tables of a TOML document.**

  A document is a table of named values.  A table can come about in four ways, and these decide
  whether it may be extended later:

      written out by a header        may not be opened again, by header or by dotted key
      passed through by a header     may still be opened by a header, once
      passed through by dotted keys  may be extended by dotted keys of the same table
      inline                         may not be extended

  Main definitions:
    * `TomlValue`, `TomlTable`,
    * `TomlTable.within` — a change inside the table at the end of a path,
    * `TomlTable.insertDotted?` — one key and its value.
-/

namespace PcmRender

/-- How a table came about. -/
inductive TableKind
  /-- A header names it. -/
  | explicit
  /-- A header passes through it. -/
  | implicit
  /-- Dotted keys pass through it. -/
  | dotted
deriving DecidableEq, Inhabited, Repr

/-- A value of a document. -/
inductive TomlValue
  /-- Text. -/
  | string (text : String)
  /-- An integer. -/
  | integer (n : Int)
  /-- A 64-bit floating point word. -/
  | float (word : Nat)
  /-- A truth value. -/
  | boolean (b : Bool)
  /-- A date, a time, or both; what it says is of no use here. -/
  | datetime
  /-- An array. -/
  | array (items : List TomlValue)
  /-- A table in braces. -/
  | inline (entries : List (String × TomlValue))
  /-- A table of the document. -/
  | table (kind : TableKind) (entries : List (String × TomlValue))
  /-- An array of tables of the document. -/
  | tables (elements : List (List (String × TomlValue)))
deriving Inhabited, Repr

/-- The entries of a table, in the order in which they were written. -/
abbrev TomlTable := List (String × TomlValue)

namespace TomlTable

/-- The value of a key. -/
def get? (t : TomlTable) (key : String) : Option TomlValue := (t.find? (·.1 == key)).map Prod.snd

/-- The table with the value of a key set, in its place or at the end. -/
def put (t : TomlTable) (key : String) (value : TomlValue) : TomlTable :=
  if t.any (·.1 == key) then t.map fun entry => if entry.1 == key then (key, value) else entry
  else t ++ [(key, value)]

/-- The table without a key. -/
def erase (t : TomlTable) (key : String) : TomlTable := t.filter (·.1 != key)

/-- Changes the table at the end of a path, and makes the tables on the way that are missing; they
are `dotted` or `implicit`.  `none` if there is something else on the way, if a dotted path meets a
table with a header, or if the change fails. -/
def within (onTheWay : TableKind) (change : TableKind → TomlTable → Option TomlTable) :
    List String → TableKind → TomlTable → Option TomlTable
  | [], kind, t => change kind t
  | key :: path, _, t =>
    match get? t key with
    | none => (within onTheWay change path onTheWay []).map fun made =>
        put t key (.table onTheWay made)
    | some (.table kind child) =>
      if onTheWay = .dotted ∧ kind = .explicit then none
      else (within onTheWay change path kind child).map fun made => put t key (.table kind made)
    | some (.tables elements) =>
      match elements.getLast? with
      | none => none
      | some last => (within onTheWay change path .explicit last).map fun made =>
          put t key (.tables (elements.dropLast ++ [made]))
    | some _ => none

/-- Sets a key that is not there yet. -/
def insertNew? (t : TomlTable) (key : String) (value : TomlValue) : Option TomlTable :=
  match get? t key with
  | none => some (put t key value)
  | some _ => none

/-- Sets the key at the end of a dotted path.  The table that holds it has to be one that dotted
keys made, exactly if the path has more than this key. -/
def insertDotted? (t : TomlTable) (path : List String) (key : String) (value : TomlValue) :
    Option TomlTable :=
  within .dotted (fun kind inner =>
    if decide (kind = .dotted) == path.isEmpty then none else insertNew? inner key value)
    path .explicit t

end TomlTable

end PcmRender
