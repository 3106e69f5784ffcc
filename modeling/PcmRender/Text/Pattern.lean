/-
  PcmRender.Text.Pattern — **which texts are regular expressions.**

  Nothing is matched here; a text is a pattern or it is none.

      x                   a character that stands for itself
      .  ^  $             any character, the two ends of a line
      \x                  a sign that stands for itself, a control, a number, a class, a boundary
      [..]                one character of a class
      (..)  (?P<name>..)  a group; names are not used twice
      (?f)  (?f:..)       flags, up to the end of the group around them or in a group of their own
      *  +  ?             repetitions of what stands before, with a `?` for as few as possible
      ..|..               alternatives

  A pattern stands between braces, so no closing brace is part of it, and a repetition cannot be
  counted.  Nor can a pattern look around.

  A pattern is about characters, or about bytes once the flag `u` is taken away.  No tables of cases,
  properties or words are kept, so about characters neither case can be ignored nor a word or digit
  be spoken of.  About bytes all of that is possible, but nothing that could match half a character:
  no other bytes than those of ASCII, no complements, and not any byte at all.

  Main definitions:
    * `PatternMode` — what the flags say,
    * `Pattern.isValid` — whether a text is a pattern.
-/
import PcmRender.Text.Blank
import PcmRender.Text.Numeric

namespace PcmRender

/-! ## §1. Flags. -/

/-- What the flags at some place say, as far as it matters for being a pattern. -/
structure PatternMode where
  /-- Whether case is ignored. -/
  ignoresCase : Bool := false
  /-- Whether the pattern is about characters and not about bytes. -/
  unicode : Bool := true
  /-- Whether white space and comments may stand between the parts. -/
  spaced : Bool := false
deriving DecidableEq, Inhabited, Repr

namespace PatternMode

/-- The mode after some flags; those behind a minus sign are taken away. -/
def change (m : PatternMode) (flags : List Char) : PatternMode :=
  let given := flags.takeWhile (· != '-')
  let taken := flags.dropWhile (· != '-')
  let now (flag : Char) (before : Bool) : Bool :=
    (before || given.contains flag) && !taken.contains flag
  { ignoresCase := now 'i' m.ignoresCase
    unicode := now 'u' m.unicode
    spaced := now 'x' m.spaced }

/-- Whether every character would have to be compared with its other cases. -/
def needsCases (m : PatternMode) : Bool := m.ignoresCase && m.unicode

end PatternMode

namespace Pattern

/-- The flags. -/
def flagLetters : List Char := ['i', 'm', 's', 'U', 'u', 'R', 'x']

/-- Flags up to the sign that ends them, that sign, and what follows.  No flag stands twice, and a
minus sign has a flag behind it. -/
def flags? (seen : List Char) : List Char → Option (List Char × Char × List Char)
  | [] => none
  | c :: rest =>
    if c == ':' || c == ')' then
      if seen.head? == some '-' then none else some (seen.reverse, c, rest)
    else if seen.contains c || !(c == '-' || flagLetters.contains c) then none
    else flags? (c :: seen) rest

/-! ## §2. White space and names. -/

/-- A text without what is passed over in front of it: white space and comments where they may
stand, and minus signs if they are passed over too. -/
def passOver (m : PatternMode) (minus inComment : Bool) : List Char → List Char
  | [] => []
  | c :: rest =>
    if inComment then passOver m minus (c != '\n') rest
    else if m.spaced && c == '#' then passOver m minus true rest
    else if (m.spaced && isBlank c) || (minus && c == '-') then passOver m minus false rest
    else c :: rest

/-- The next part of a pattern. -/
def following (m : PatternMode) (text : List Char) : List Char := passOver m false false text

/-- The character behind a minus sign in a class; a comment is passed over only up to its first
word. -/
def behindMinus (m : PatternMode) (text : List Char) : Option Char :=
  if m.spaced then
    match trimFront text with
    | '#' :: rest => (trimFront rest).head?
    | rest => rest.head?
  else text.head?

/-- Whether a text can name a group. -/
def isName : List Char → Bool
  | [] => false
  | c :: rest => (c == '_' || isAlphabetic c) && rest.all fun c =>
      ['_', '.', '[', ']'].contains c || isAlphanumeric c

/-! ## §3. Single characters. -/

/-- What stands for one place of a text. -/
inductive Atom
  /-- A character; `byte` if it is written as the number of a byte. -/
  | literal (c : Char) (byte : Bool)
  /-- A class of bytes. -/
  | byteClass
  /-- A place between two characters. -/
  | place
deriving DecidableEq, Inhabited, Repr

/-- A hexadecimal digit. -/
def isHexDigit (c : Char) : Bool :=
  c.isDigit || ('a' ≤ c && c ≤ 'f') || ('A' ≤ c && c ≤ 'F')

/-- The value of a hexadecimal digit. -/
def hexValue (c : Char) : Nat :=
  if c.isDigit then c.toNat - '0'.toNat else c.toLower.toNat - 'a'.toNat + 10

/-- The number that some hexadecimal digits write behind `before`, and what follows. -/
def hexNumber? (m : PatternMode) : Nat → Nat → List Char → Option (Nat × List Char)
  | 0, before, text => some (before, text)
  | digits + 1, before, text =>
    match following m text with
    | c :: rest => if isHexDigit c then hexNumber? m digits (16 * before + hexValue c) rest else none
    | [] => none

/-- The character whose number is written with some digits. -/
def numbered? (m : PatternMode) (digits : Nat) (text : List Char) : Option (Atom × List Char) :=
  match hexNumber? m digits 0 text with
  | some (n, rest) =>
    if n.isValidChar then some (.literal (Char.ofNat n) (digits == 2), rest) else none
  | none => none

/-- What a backslash and the text behind it stand for, and what follows. -/
def escape? (m : PatternMode) : List Char → Option (Atom × List Char)
  | [] => none
  | c :: rest =>
    if c == 'x' then numbered? m 2 rest
    else if c == 'u' then numbered? m 4 rest
    else if c == 'U' then numbered? m 8 rest
    else if ['d', 's', 'w'].contains c then if m.unicode then none else some (.byteClass, rest)
    else if ['b', 'B', '<', '>'].contains c then if m.unicode then none else some (.place, rest)
    else if c == 'A' || c == 'z' then some (.place, rest)
    else match control? c with
      | some control => some (.literal control false, rest)
      | none => if c.isAlphanum || 127 < c.toNat then none else some (.literal c false, rest)
where
  /-- The control that a letter stands for. -/
  control? : Char → Option Char
    | 'a' => some '\x07'
    | 'f' => some '\x0c'
    | 't' => some '\t'
    | 'n' => some '\n'
    | 'r' => some '\r'
    | 'v' => some '\x0b'
    | _ => none

/-- Whether an atom can stand outside a class. -/
def standsAlone (m : PatternMode) : Atom → Bool
  | .literal c byte => !m.needsCases && (m.unicode || !byte || c.toNat < 128)
  | _ => true

/-! ## §4. Classes. -/

/-- The names of classes in brackets and colons. -/
def classNames : List String :=
  ["alnum", "alpha", "ascii", "blank", "cntrl", "digit", "graph", "lower", "print", "punct",
    "space", "upper", "word", "xdigit"]

/-- A class by its name, from behind the opening bracket on: whether it is a complement, and what
follows. -/
def namedClass? : List Char → Option (Bool × List Char)
  | ':' :: rest =>
    let (complement, rest) := match rest with
      | '^' :: rest => (true, rest)
      | rest => (false, rest)
    match rest.dropWhile (· != ':') with
    | ':' :: ']' :: behind =>
      if classNames.contains (String.ofList (rest.takeWhile (· != ':'))) then
        some (complement, behind)
      else none
    | _ => none
  | _ => none

/-- What follows the beginning of a class: its bracket, a sign for the complement, and minus signs
or a closing bracket that stand for themselves. -/
def openClass? (m : PatternMode) (text : List Char) : Option (List Char) :=
  match following m text with
  | '^' :: rest => if m.unicode then some (ownSigns (following m rest)) else none
  | rest => some (ownSigns rest)
where
  /-- A text without the signs in front that stand for themselves. -/
  ownSigns : List Char → List Char
    | '-' :: rest => passOver m true false rest
    | ']' :: rest => rest
    | rest => rest

/-- One member of a class, and what follows. -/
def member? (m : PatternMode) : List Char → Option (Atom × List Char)
  | [] => none
  | '\\' :: rest => escape? m rest
  | c :: rest => some (.literal c false, rest)

/-- Whether an atom can stand in a class. -/
def standsInClass (m : PatternMode) : Atom → Bool
  | .literal c _ => m.unicode || c.toNat < 128
  | .byteClass => true
  | .place => false

/-- What follows a member of a class or a range of members. -/
def range? (m : PatternMode) (text : List Char) : Option (List Char) := do
  let (first, rest) ← member? m text
  match following m rest with
  | '-' :: behind =>
    if (behindMinus m behind).all fun c => c == ']' || c == '-' then
      if standsInClass m first then some rest else none
    else
      let (last, rest) ← member? m (following m behind)
      match first, last with
      | .literal a _, .literal b _ =>
        if a ≤ b && standsInClass m first && standsInClass m last then some rest else none
      | _, _ => none
  | _ => if standsInClass m first then some rest else none

/-- What follows a class of which `depth` brackets are open; `fuel` bounds its members. -/
def closeClass? (m : PatternMode) : Nat → Nat → List Char → Option (List Char)
  | 0, _, _ => none
  | fuel + 1, depth, text =>
    match following m text with
    | [] => none
    | ']' :: rest => if depth ≤ 1 then some rest else closeClass? m fuel (depth - 1) rest
    | '[' :: rest =>
      match namedClass? rest with
      | some (complement, behind) =>
        if complement && !m.unicode then none else closeClass? m fuel depth behind
      | none => (openClass? m rest).bind (closeClass? m fuel (depth + 1))
    | '&' :: '&' :: rest | '-' :: '-' :: rest | '~' :: '~' :: rest => closeClass? m fuel depth rest
    | text => (range? m text).bind (closeClass? m fuel depth)

/-- What follows a class, from behind its opening bracket on. -/
def bracketed? (m : PatternMode) (text : List Char) : Option (List Char) :=
  if m.needsCases then none
  else (openClass? m text).bind (closeClass? m (text.length + 1) 1)

/-! ## §5. Patterns. -/

/-- What is known of a pattern at some place of it. -/
structure Progress where
  /-- What the flags say here. -/
  mode : PatternMode := {}
  /-- What they say behind each open group, the innermost first. -/
  outer : List PatternMode := []
  /-- The names of groups so far. -/
  names : List (List Char) := []
  /-- Whether something stands before that can be repeated. -/
  operand : Bool := false
deriving Inhabited, Repr

/-- What follows the beginning of a group, or a list of flags, from behind the bracket on. -/
def openGroup? (p : Progress) (text : List Char) : Option (Progress × List Char) :=
  match following p.mode text with
  | '?' :: '!' :: _ | '?' :: '<' :: '!' :: _ => none
  | '?' :: 'P' :: '<' :: rest | '?' :: '<' :: rest =>
    let name := rest.takeWhile (· != '>')
    match rest.dropWhile (· != '>') with
    | _ :: behind =>
      if isName name && !p.names.contains name then
        let p := { p with names := name :: p.names }
        some ({ p with outer := p.mode :: p.outer, operand := false }, behind)
      else none
    | [] => none
  | '?' :: rest => do
    let (flags, sign, behind) ← flags? [] rest
    let mode := p.mode.change flags
    if sign == ':' then some ({ p with mode, outer := p.mode :: p.outer, operand := false }, behind)
    else if flags.isEmpty then none
    else some ({ p with mode, operand := false }, behind)
  | rest => some ({ p with outer := p.mode :: p.outer, operand := false }, rest)

/-- The next part of a pattern, taken in; `none` if the text is no pattern. -/
def step? (p : Progress) : List Char → Option (Progress × List Char)
  | [] => none
  | '(' :: rest => openGroup? p rest
  | ')' :: rest =>
    match p.outer with
    | mode :: outer => some ({ p with mode, outer, operand := true }, rest)
    | [] => none
  | '|' :: rest => some ({ p with operand := false }, rest)
  | '[' :: rest => (bracketed? p.mode rest).map fun rest => ({ p with operand := true }, rest)
  | '\x7b' :: _ => none
  | '.' :: rest => if p.mode.unicode then some ({ p with operand := true }, rest) else none
  | '^' :: rest | '$' :: rest => some ({ p with operand := true }, rest)
  | '\\' :: rest => do
    let (atom, rest) ← escape? p.mode rest
    if standsAlone p.mode atom then some ({ p with operand := true }, rest) else none
  | c :: rest =>
    if c == '*' || c == '+' || c == '?' then
      if p.operand then some (p, if rest.head? == some '?' then rest.tail else rest) else none
    else if standsAlone p.mode (.literal c false) then some ({ p with operand := true }, rest)
    else none

/-- Whether a text is the rest of a pattern; `fuel` bounds its parts. -/
def isRest : Nat → Progress → List Char → Bool
  | 0, _, _ => false
  | fuel + 1, p, text =>
    match following p.mode text with
    | [] => p.outer.isEmpty
    | text =>
      match step? p text with
      | some (p, rest) => isRest fuel p rest
      | none => false

/-- Whether a text is a pattern. -/
def isValid (text : List Char) : Bool := isRest (text.length + 1) {} text

end Pattern

end PcmRender
