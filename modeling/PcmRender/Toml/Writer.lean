/-
  PcmRender.Toml.Writer — **writing TOML values.**

  A string is written in the plainest form that needs no escapes:

      "…"      neither a quote, nor a backslash, nor a line end in it
      '…'      no single quote, no line end and no control character in it
      '''…'''  or """…""" where one of the two before would need an escape but three quotes do not
      """…"""  or "…" with escapes otherwise, the first for text with line ends

  Text with line ends begins on a line of its own, and its line ends stay as they are.

  Main definitions:
    * `TomlWriter.text`,
    * `TomlWriter.float` — the shortest decimal, with a fraction.
-/
import PcmRender.Decimal.Shortest

namespace PcmRender

namespace TomlWriter

/-! ## §1. What a text needs. -/

/-- The most characters of a kind in a row. -/
def longestRun (c : Char) (text : List Char) : Nat := (go text).2
where
  go : List Char → Nat × Nat
    | [] => (0, 0)
    | d :: rest =>
      let (here, most) := go rest
      if d = c then (here + 1, max (here + 1) most) else (0, most)

/-- A character that only an escape can write. -/
def isControl (c : Char) : Bool := (decide (c < ' ') && c != '\t' && c != '\n') || c == '\x7f'

/-- The forms of a string. -/
inductive Form
  /-- Double quotes. -/
  | basic
  /-- Single quotes. -/
  | literal
  /-- Three double quotes. -/
  | multiBasic
  /-- Three single quotes. -/
  | multiLiteral
deriving DecidableEq, Inhabited, Repr

/-- The form of a text. -/
def formOf (text : List Char) : Form :=
  let control := text.any isControl
  let lines := text.contains '\n'
  if !control && !text.contains '"' && !text.contains '\\' && !lines then .basic
  else if !control && !text.contains '\'' && !lines then .literal
  else if !control && !text.contains '\\' && longestRun '"' text ≤ 2 then .multiBasic
  else if !control && longestRun '\'' text ≤ 2 then .multiLiteral
  else if lines then .multiBasic
  else .basic

/-! ## §2. Escapes. -/

/-- The digit of a value below sixteen. -/
def hexDigit (n : Nat) : Char := (Nat.toDigits 16 n).headD '0' |>.toUpper

/-- A control character by its number. -/
def byNumber (c : Char) : List Char :=
  ['\\', 'u', '0', '0', hexDigit (c.toNat / 16), hexDigit (c.toNat % 16)]

/-- A character inside double quotes. -/
def escape (c : Char) : List Char :=
  match c with
  | '\x08' => ['\\', 'b']
  | '\t' => ['\\', 't']
  | '\n' => ['\\', 'n']
  | '\x0c' => ['\\', 'f']
  | '\r' => ['\\', 'r']
  | '"' => ['\\', '"']
  | '\\' => ['\\', '\\']
  | c => if isControl c then byNumber c else [c]

/-- Text inside three double quotes: line ends stay, and of quotes in a row every third is
escaped. -/
def escapeMulti (quotes : Nat) : List Char → List Char
  | [] => []
  | '\n' :: rest => '\n' :: escapeMulti 0 rest
  | '"' :: rest =>
    if quotes = 2 then '\\' :: '"' :: escapeMulti 0 rest else '"' :: escapeMulti (quotes + 1) rest
  | c :: rest => escape c ++ escapeMulti 0 rest

/-! ## §3. Values. -/

/-- A text. -/
def text (s : String) : String :=
  let cs := s.toList
  let lead := if cs.contains '\n' then ['\n'] else []
  String.ofList <| match formOf cs with
    | .basic => '"' :: cs.flatMap escape ++ ['"']
    | .literal => '\'' :: cs ++ ['\'']
    | .multiBasic => ['"', '"', '"'] ++ lead ++ escapeMulti 0 cs ++ ['"', '"', '"']
    | .multiLiteral => ['\'', '\'', '\''] ++ lead ++ cs ++ ['\'', '\'', '\'']

/-- A truth value. -/
def boolean (b : Bool) : String := if b then "true" else "false"

/-- A floating point word of a format: the shortest decimal, with a fraction in any case. -/
def float (b : BinaryFormat) (word : Nat) : String :=
  let magnitude := word % b.signWeight
  let mark := if b.signWeight ≤ word then "-" else ""
  if b.infinity < magnitude then mark ++ "nan"
  else if magnitude = b.infinity then mark ++ "inf"
  else
    let digits := (b.shortest magnitude).text
    mark ++ digits ++ (if digits.contains '.' then "" else ".0")

end TomlWriter

end PcmRender
