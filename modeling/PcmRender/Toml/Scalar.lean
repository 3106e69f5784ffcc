/-
  PcmRender.Toml.Scalar — **strings, numbers, dates and keys of a TOML document.**

  A reader takes the characters in front of it and answers what it read and the rest, or nothing.
  Where two readings are possible the longer kind of value is tried first: a date before a float, a
  float before an integer, three quotes before one.

  Main definitions:
    * `Toml.Reader` — readers,
    * `Toml.text`, `Toml.number`, `Toml.dottedKey`,
    * `Toml.gap`, `Toml.lineEnd` — what stands between values.
-/
import PcmRender.Decimal.Literal
import PcmRender.Toml.Value

namespace PcmRender

namespace Toml

/-! ## §1. Readers. -/

/-- Reads something from the front of a text. -/
abbrev Reader (α : Type) := List Char → Option (α × List Char)

/-- Reads a fixed text. -/
def word (expected : List Char) : Reader Unit := fun input =>
  if expected.isPrefixOf input then some ((), input.drop expected.length) else none

/-- Reads as many characters of a class as there are. -/
def span (p : Char → Bool) (input : List Char) : List Char × List Char :=
  (input.takeWhile p, input.dropWhile p)

/-- Reads exactly `count` decimal digits as a number. -/
def digits (count : Nat) : Reader Nat := fun input =>
  let front := input.take count
  if front.length = count ∧ front.all Char.isDigit then
    some (digitsValue front, input.drop count)
  else none

/-! ## §2. Between values. -/

/-- Blanks inside a line. -/
def isBlank (c : Char) : Bool := c == ' ' || c == '\t'

/-- The text behind the blanks. -/
def skipBlanks (input : List Char) : List Char := input.dropWhile isBlank

/-- A character that may stand in a line as it is: no control character but the tabulator. -/
def isPlain (c : Char) : Bool := c == '\t' || (decide (' ' ≤ c) && c != '\x7f')

/-- The end of a line. -/
def newline : Reader Unit
  | '\n' :: rest => some ((), rest)
  | '\r' :: '\n' :: rest => some ((), rest)
  | _ => none

/-- The text behind a comment, if there is one; a comment ends before the end of its line. -/
def skipComment : List Char → List Char
  | '#' :: rest => rest.dropWhile isPlain
  | input => input

/-- The end of a line or of the document. -/
def newlineOrEnd : Reader Unit
  | [] => some ((), [])
  | input => newline input

/-- What may follow on a line: blanks, a comment, and the end. -/
def lineEnd : Reader Unit := fun input => newlineOrEnd (skipComment (skipBlanks input))

/-- The text behind blanks, comments and line ends. -/
def gap (input : List Char) : List Char := go (input.length + 1) input
where
  go : Nat → List Char → List Char
    | 0, input => input
    | fuel + 1, input =>
      match skipBlanks input with
      | '#' :: rest => go fuel (rest.dropWhile isPlain)
      | '\n' :: rest => go fuel rest
      | '\r' :: '\n' :: rest => go fuel rest
      | input => input

/-! ## §3. Strings. -/

/-- The value of hexadecimal digits. -/
def hexValue? (cs : List Char) : Option Nat :=
  cs.foldlM (fun n c => (hexDigit? c).map (16 * n + ·)) 0
where
  hexDigit? (c : Char) : Option Nat :=
    if c.isDigit then some (c.toNat - '0'.toNat)
    else if 'a' ≤ c ∧ c ≤ 'f' then some (c.toNat - 'a'.toNat + 10)
    else if 'A' ≤ c ∧ c ≤ 'F' then some (c.toNat - 'A'.toNat + 10)
    else none

/-- The character with a number that is written in `count` hexadecimal digits. -/
def unicode (count : Nat) : Reader Char := fun input =>
  let front := input.take count
  if front.length = count then
    match hexValue? front with
    | some n => if n.isValidChar then some (Char.ofNat n, input.drop count) else none
    | none => none
  else none

/-- What follows a backslash. -/
def escaped : Reader Char
  | 'b' :: rest => some ('\x08', rest)
  | 't' :: rest => some ('\t', rest)
  | 'n' :: rest => some ('\n', rest)
  | 'f' :: rest => some ('\x0c', rest)
  | 'r' :: rest => some ('\r', rest)
  | '"' :: rest => some ('"', rest)
  | '\\' :: rest => some ('\\', rest)
  | 'u' :: rest => unicode 4 rest
  | 'U' :: rest => unicode 8 rest
  | _ => none

/-- The inside of a string in double quotes. -/
def basicBody : Nat → List Char → Reader (List Char)
  | 0, _, _ => none
  | fuel + 1, seen, input =>
    match input with
    | '"' :: rest => some (seen.reverse, rest)
    | '\\' :: rest =>
      match escaped rest with
      | some (c, rest) => basicBody fuel (c :: seen) rest
      | none => none
    | c :: rest => if isPlain c then basicBody fuel (c :: seen) rest else none
    | [] => none

/-- The inside of a string in single quotes. -/
def literalBody : Reader (List Char) := fun input =>
  let (body, rest) := span (fun c => isPlain c && c != '\'') input
  match rest with
  | '\'' :: rest => some (body, rest)
  | _ => none

/-- The text behind a backslash at the end of a line: the line end and all blank space after it is
left out. -/
def skipLineJoin (input : List Char) : Option (List Char) :=
  match newline (skipBlanks input) with
  | some (_, rest) => some (go (rest.length + 1) rest)
  | none => none
where
  go : Nat → List Char → List Char
    | 0, input => input
    | fuel + 1, input =>
      match skipBlanks input with
      | '\n' :: rest => go fuel rest
      | '\r' :: '\n' :: rest => go fuel rest
      | input => input

/-- The inside of a string in three quotes of one kind.  One or two quotes in a row belong to the
text, three to five end it, those before the last three being text. -/
def multiBody (quote : Char) (escapes : Bool) : Nat → List Char → Reader (List Char)
  | 0, _, _ => none
  | fuel + 1, seen, input =>
    match input with
    | [] => none
    | '\n' :: rest => multiBody quote escapes fuel ('\n' :: seen) rest
    | '\r' :: '\n' :: rest => multiBody quote escapes fuel ('\n' :: seen) rest
    | c :: rest =>
      if c = quote then
        let run := (input.takeWhile (· == quote)).length
        let after := input.drop run
        if run < 3 then multiBody quote escapes fuel (List.replicate run quote ++ seen) after
        else if run ≤ 5 then some ((List.replicate (run - 3) quote ++ seen).reverse, after)
        else none
      else if c = '\\' ∧ escapes then
        match skipLineJoin rest, escaped rest with
        | some rest, _ => multiBody quote escapes fuel seen rest
        | none, some (c, rest) => multiBody quote escapes fuel (c :: seen) rest
        | none, none => none
      else if isPlain c then multiBody quote escapes fuel (c :: seen) rest
      else none

/-- The text behind a line end that follows three opening quotes. -/
def skipFirstNewline (input : List Char) : List Char :=
  match newline input with
  | some (_, rest) => rest
  | none => input

/-- A string on one line. -/
def lineText : Reader String
  | '"' :: rest => (basicBody (rest.length + 1) [] rest).map fun (s, rest) => (String.ofList s, rest)
  | '\'' :: rest => (literalBody rest).map fun (s, rest) => (String.ofList s, rest)
  | _ => none

/-- A string of any kind. -/
def text : Reader String
  | '"' :: '"' :: '"' :: rest => multi '"' true (skipFirstNewline rest)
  | '\'' :: '\'' :: '\'' :: rest => multi '\'' false (skipFirstNewline rest)
  | input => lineText input
where
  multi (quote : Char) (escapes : Bool) : Reader String := fun input =>
    (multiBody quote escapes (input.length + 1) [] input).map fun (s, rest) =>
      (String.ofList s, rest)

/-! ## §4. Numbers. -/

/-- Digits of a class, single underscores between them; the underscores are left out. -/
def grouped (p : Char → Bool) : Reader (List Char)
  | [] => none
  | c :: rest => if p c then some (go (rest.length + 1) [c] rest) else none
where
  go : Nat → List Char → List Char → List Char × List Char
    | 0, seen, input => (seen.reverse, input)
    | fuel + 1, seen, input =>
      match input with
      | '_' :: c :: rest => if p c then go fuel (c :: seen) rest else (seen.reverse, input)
      | c :: rest => if p c then go fuel (c :: seen) rest else (seen.reverse, input)
      | [] => (seen.reverse, [])

/-- A sign, as the characters of it. -/
def sign : List Char → List Char × List Char
  | '+' :: rest => (['+'], rest)
  | '-' :: rest => (['-'], rest)
  | input => ([], input)

/-- Decimal digits without a zero in front of others. -/
def wholePart : Reader (List Char)
  | '0' :: rest => some (['0'], rest)
  | input => grouped Char.isDigit input

/-- A point and digits. -/
def fractionPart : Reader (List Char)
  | '.' :: rest => (grouped Char.isDigit rest).map fun (ds, rest) => ('.' :: ds, rest)
  | _ => none

/-- The letter of an exponent, and the exponent. -/
def exponentPart : Reader (List Char)
  | c :: rest =>
    if c = 'e' ∨ c = 'E' then
      let (s, rest) := sign rest
      (grouped Char.isDigit rest).map fun (ds, rest) => ('e' :: s ++ ds, rest)
    else none
  | [] => none

/-- A part that may be missing. -/
def optional (r : Reader (List Char)) (input : List Char) : List Char × List Char :=
  (r input).getD ([], input)

/-- The 64-bit word of a literal that is written correctly; the positive ones may not be too large
for the format. -/
def floatWord? (literal : List Char) : Option TomlValue :=
  match FloatLiteral.parse? literal with
  | some l =>
    let word := l.word BinaryFormat.double
    if word = BinaryFormat.double.infinity then none else some (.float word)
  | none => none

/-- The words for infinity and for no number. -/
def specialFloat : Reader TomlValue := fun input =>
  let (s, rest) := sign input
  let negative := s == ['-']
  match word ['i', 'n', 'f'] rest, word ['n', 'a', 'n'] rest with
  | some (_, rest), _ => some (.float ((⟨negative, .infinity⟩ : FloatLiteral).word .double), rest)
  | none, some (_, rest) => some (.float ((⟨negative, .notNumber⟩ : FloatLiteral).word .double), rest)
  | none, none => none

/-- A decimal with a fraction, an exponent, or both. -/
def decimalFloat : Reader TomlValue := fun input =>
  let (s, rest) := sign input
  match wholePart rest with
  | none => none
  | some (whole, rest) =>
    let (part, rest) := optional fractionPart rest
    let (power, rest) := optional exponentPart rest
    if part = [] ∧ power = [] then none
    else (floatWord? (s ++ whole ++ part ++ power)).map (·, rest)

/-- An integer that fits 64 bits with a sign. -/
def integer64? (n : Int) : Option TomlValue :=
  if -9223372036854775808 ≤ n ∧ n < 9223372036854775808 then some (.integer n) else none

/-- The value of digits in a base. -/
def inBase (base : Nat) (ds : List Char) : Nat :=
  ds.foldl (fun n c => base * n + ((hexValue? [c]).getD 0)) 0

/-- An integer in a base with its own mark. -/
def basedInteger (base : Nat) (p : Char → Bool) : Reader TomlValue := fun input =>
  match grouped p input with
  | some (ds, rest) => (integer64? (inBase base ds)).map (·, rest)
  | none => none

/-- An integer. -/
def integer : Reader TomlValue
  | '0' :: 'x' :: rest => basedInteger 16 (fun c => (hexValue? [c]).isSome) rest
  | '0' :: 'o' :: rest => basedInteger 8 (fun c => decide ('0' ≤ c) && decide (c ≤ '7')) rest
  | '0' :: 'b' :: rest => basedInteger 2 (fun c => c == '0' || c == '1') rest
  | input =>
    let (s, rest) := sign input
    match wholePart rest with
    | some (ds, rest) =>
      let n : Int := digitsValue ds
      (integer64? (if s = ['-'] then -n else n)).map (·, rest)
    | none => none

/-! ## §5. Dates and times. -/

/-- The days of a month. -/
def daysIn (year month : Nat) : Nat :=
  if month = 2 then
    if year % 4 = 0 ∧ (year % 100 ≠ 0 ∨ year % 400 = 0) then 29 else 28
  else if month = 4 ∨ month = 6 ∨ month = 9 ∨ month = 11 then 30
  else 31

/-- A date that exists. -/
def date : Reader Unit := fun input => do
  let (year, rest) ← digits 4 input
  let (_, rest) ← word ['-'] rest
  let (month, rest) ← digits 2 rest
  let (_, rest) ← word ['-'] rest
  let (day, rest) ← digits 2 rest
  if 1 ≤ month ∧ month ≤ 12 ∧ 1 ≤ day ∧ day ≤ daysIn year month then some ((), rest) else none

/-- A time of day; a minute may have a leap second. -/
def time : Reader Unit := fun input => do
  let (hour, rest) ← digits 2 input
  let (_, rest) ← word [':'] rest
  let (minute, rest) ← digits 2 rest
  let (_, rest) ← word [':'] rest
  let (second, rest) ← digits 2 rest
  if hour ≤ 23 ∧ minute ≤ 59 ∧ second ≤ 60 then
    match rest with
    | '.' :: part =>
      let (ds, rest) := span Char.isDigit part
      if ds = [] then none else some ((), rest)
    | rest => some ((), rest)
  else none

/-- A distance from universal time. -/
def offset : Reader Unit
  | [] => none
  | c :: rest =>
    if c = 'Z' ∨ c = 'z' then some ((), rest)
    else if c = '+' ∨ c = '-' then do
      let (hour, rest) ← digits 2 rest
      let (_, rest) ← word [':'] rest
      let (minute, rest) ← digits 2 rest
      if hour ≤ 23 ∧ minute ≤ 59 then some ((), rest) else none
    else none

/-- The text behind the time that may follow a date. -/
def skipTimeOfDate (input : List Char) : List Char :=
  match input with
  | c :: rest =>
    if c = 'T' ∨ c = 't' ∨ c = ' ' then
      match time rest with
      | some (_, rest) =>
        match offset rest with
        | some (_, rest) => rest
        | none => rest
      | none => input
    else input
  | [] => []

/-- A date, a time, or a date with a time. -/
def datetime : Reader TomlValue := fun input =>
  match date input with
  | some (_, rest) => some (.datetime, skipTimeOfDate rest)
  | none => (time input).map fun (_, rest) => (.datetime, rest)

/-- Whatever begins with a digit or a sign. -/
def number : Reader TomlValue := fun input =>
  match datetime input, decimalFloat input, specialFloat input with
  | some r, _, _ => some r
  | none, some r, _ => some r
  | none, none, some r => some r
  | none, none, none => integer input

/-! ## §6. Keys. -/

/-- The characters of a key without quotes. -/
def isBare (c : Char) : Bool := c.isAlphanum || c == '-' || c == '_'

/-- One part of a key. -/
def simpleKey : Reader String := fun input =>
  match lineText input with
  | some r => some r
  | none =>
    let (name, rest) := span isBare input
    if name = [] then none else some (String.ofList name, rest)

/-- A key has fewer parts than this, and values are nested less deep. -/
def depthLimit : Nat := 80

/-- The parts of a key, with points between them. -/
def dottedKey : Reader (List String) := go (depthLimit - 1)
where
  go : Nat → Reader (List String)
    | 0, _ => none
    | fuel + 1, input =>
      match simpleKey (skipBlanks input) with
      | none => none
      | some (part, rest) =>
        match skipBlanks rest with
        | '.' :: rest => (go fuel rest).map fun (parts, rest) => (part :: parts, rest)
        | rest => some ([part], rest)

end Toml

end PcmRender
