/-
  PcmRender.LogFilter.Directive — **one directive of a log filter.**

  A directive says which lines it speaks of and down to which level it shows them:

      level               every line
      target              lines whose origin begins with the target, of every level
      target=level        both
      target=             as without a level
      [span]              lines inside a span; no line of this program is
      [{field}]           lines with a field of that name; all have the field `message`
      [{field=value}]     lines inside a span with a field of that value
      [span{field}]       lines inside a span with a field of that name

  A target can stand before the bracket and a level behind a sign of equality.  A value is a number
  or a regular expression.

  The parts of a directive are found in its text without white space around it, and are then cut out
  of its text as it is written, at the positions in bytes where they were found.  So white space
  behind a directive belongs to its last part, and white space before it moves every part; a position
  that comes to be inside a character ends the program.

  Main definitions:
    * `LogDirective`, `DirectiveFault`,
    * `LogDirective.parse` — the directive that a text is,
    * `LogDirective.fits`, `LogDirective.precision` — which directive speaks of a line.
-/
import PcmRender.Decimal.Literal
import PcmRender.Log
import PcmRender.Text.ByteCut
import PcmRender.Text.Pattern

namespace PcmRender

/-! ## §1. Directives. -/

/-- What a directive asks of lines apart from their origin. -/
inductive LogScope
  /-- Nothing. -/
  | everywhere
  /-- A field of some name. -/
  | field (name : String)
  /-- A span around them. -/
  | spans
deriving DecidableEq, Inhabited, Repr

/-- One directive. -/
structure LogDirective where
  /-- The beginning of the origins it speaks of; all of them without one. -/
  target : Option String := none
  /-- The least important level it shows; none for nothing at all. -/
  level : Option LogLevel := some .trace
  /-- What else it asks of a line. -/
  scope : LogScope := .everywhere
deriving DecidableEq, Inhabited, Repr

/-- Why a text is no directive. -/
inductive DirectiveFault
  /-- It does not have the form of one. -/
  | malformed
  /-- Its level does not exist. -/
  | level
  /-- The value of its field is neither a number nor a regular expression. -/
  | pattern
  /-- One of its parts would begin or end inside a character. -/
  | torn
deriving DecidableEq, Inhabited, Repr

/-- The wording of a fault. -/
def DirectiveFault.text : DirectiveFault → String
  | malformed => "invalid filter directive"
  | level => "error parsing level filter: expected one of \"off\", \"error\", \"warn\", "
      ++ "\"info\", \"debug\", \"trace\", or a number 0-5"
  | pattern => "invalid field filter: error building NFA"
  | torn => "a part begins or ends inside a character"

namespace LogDirective

/-! ## §2. Parts. -/

/-- The levels by name and by number. -/
def levels : List (String × String × Option LogLevel) :=
  [("off", "0", none), ("error", "1", some .error), ("warn", "2", some .warn),
    ("info", "3", some .info), ("debug", "4", some .debug), ("trace", "5", some .trace)]

/-- The number that a text writes, without a plus sign and zeros in front. -/
def plainNumber (text : String) : String :=
  let digits := match text.toList with
    | '+' :: digits => digits
    | digits => digits
  if digits ≠ [] ∧ digits.all Char.isDigit then
    match digits.dropWhile (· == '0') with
    | [] => "0"
    | digits => String.ofList digits
  else text

/-- The level that a text names, in letters of either case or by number. -/
def level? (text : String) : Option (Option LogLevel) :=
  let name := String.ofList (text.toList.map Char.toLower)
  (levels.find? fun (word, digit, _) => word == name || digit == plainNumber text).map (·.2.2)

/-- The part of a text between two positions. -/
def part (text : List Char) (first last : Nat) : Except DirectiveFault (List Char) :=
  match bytesBetween? text first last with
  | some part => .ok part
  | none => .error .torn

/-- The level from a position on; no text there is every level. -/
def levelFrom (text : List Char) (first : Nat) : Except DirectiveFault (Option LogLevel) := do
  let level ← part text first (byteLength text)
  if level.isEmpty then .ok (some .trace)
  else match level? (String.ofList level) with
    | some level => .ok level
    | none => .error .level

/-- What a field asks of a line, in the span of some name.  What stands behind a second sign of
equality is not looked at. -/
def fieldScope (span field : List Char) : Except DirectiveFault LogScope :=
  let name := field.takeWhile (· != '=')
  match field.dropWhile (· != '=') with
  | _ :: rest =>
    let value := rest.takeWhile (· != '=')
    if (FloatLiteral.parse? value).isSome || Pattern.isValid value then .ok .spans
    else .error .pattern
  | [] => .ok (if span.isEmpty then .field (String.ofList name) else .spans)

/-! ## §3. Reading.

`text` is the text as it is written, `first` a position in bytes, and the last argument what is still
to be read. -/

/-- A character that a directive may begin with. -/
def mayBegin (c : Char) : Bool := isAlphanumeric c || ['-', ':', '_'].contains c

/-- A directive from behind its bracket on: it ends, or has a level. -/
def behindBracket (text : List Char) (d : LogDirective) (first : Nat) :
    List Char → Except DirectiveFault LogDirective
  | [] => .ok d
  | '=' :: _ => (levelFrom text (first + 1)).map fun level => { d with level }
  | _ => .error .malformed

/-- A directive from the field on that follows the name of a span. -/
def behindBrace (text : List Char) (d : LogDirective) (span : List Char) (first : Nat)
    (rest : List Char) : Except DirectiveFault LogDirective :=
  let last := first + byteLength (rest.takeWhile (· != '\x7d'))
  match rest.dropWhile (· != '\x7d') with
  | [] => .error .malformed
  | _ :: rest => do
    let field ← part text first last
    if field.isEmpty then .error .malformed
    else
      let scope ← fieldScope span field
      match rest with
      | ']' :: rest => behindBracket text { d with scope } (last + 2) rest
      | _ => .error .malformed

/-- A directive from the name of a span on. -/
def span (text : List Char) (d : LogDirective) (first : Nat) (rest : List Char) :
    Except DirectiveFault LogDirective :=
  let atName (c : Char) : Bool := c != ']' && c != '\x7b'
  let last := first + byteLength (rest.takeWhile atName)
  match rest.dropWhile atName with
  | [] => .error .malformed
  | c :: rest => do
    let name ← part text first last
    if c == ']' then behindBracket text { d with scope := .spans } (last + 1) rest
    else behindBrace text d name (last + 1) rest

/-- The directive that a text is. -/
def parse (text : List Char) : Except DirectiveFault LogDirective :=
  let inner := trimBack (trimFront text)
  let inHead (c : Char) : Bool := c != '=' && c != '['
  let last := byteLength (inner.takeWhile inHead)
  match inner.head? with
  | none => .error .malformed
  | some '[' => span text {} 1 inner.tail
  | some c =>
    if !mayBegin c then .error .malformed
    else match inner.dropWhile inHead with
      | [] =>
        match level? (String.ofList text) with
        | some level => .ok { level }
        | none => .ok { target := some (String.ofList text) }
      | c :: rest => do
        let target ← part text 0 last
        let d : LogDirective := { target := some (String.ofList target) }
        if c == '=' then (levelFrom text (last + 1)).map fun level => { d with level }
        else span text d (last + 1) rest

/-! ## §4. Lines. -/

/-- Whether a directive speaks of a line. -/
def fits (d : LogDirective) (line : LogLine) : Bool :=
  (match d.target with
    | none => true
    | some target => target.toList.isPrefixOf line.origin.path.toList)
  && match d.scope with
    | .everywhere => true
    | .field name => name == "message"
    | .spans => false

/-- How closely a directive says which lines it speaks of: by the length of its target, then by a
field. -/
def precision (d : LogDirective) : Nat :=
  let origin := match d.target with
    | none => 0
    | some target => target.utf8ByteSize + 1
  let field := match d.scope with
    | .field _ => 1
    | _ => 0
  2 * origin + field

end LogDirective

end PcmRender
