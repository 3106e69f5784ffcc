/-
  PcmRender.Log — **what the library reports about its work.**

  A line has a level, an origin (the part of the program that reports) and a text.  A logger takes
  or drops a line by its level and by the path of its origin; which lines exist does not depend on
  that, so operations answer all their lines and the outer layer filters them.

  Names in a line come from outside.  Characters that steer a terminal are therefore shown by their
  code points; a name with line breaks still takes several lines.
-/
import PcmRender.Text.CodePoint

namespace PcmRender

/-- How important a line is. -/
inductive LogLevel
  /-- Something failed. -/
  | error
  /-- Something is not as it should be. -/
  | warn
  /-- A change of state. -/
  | info
  /-- A detail for developers. -/
  | debug
  /-- Everything. -/
  | trace
deriving DecidableEq, Inhabited, Repr

namespace LogLevel

/-- The name of a level in the log. -/
def text : LogLevel → String
  | error => "ERROR"
  | warn => "WARN"
  | info => "INFO"
  | debug => "DEBUG"
  | trace => "TRACE"

/-- How much a level lets through: every level lets through itself and those before it. -/
def rank : LogLevel → Nat
  | error => 1
  | warn => 2
  | info => 3
  | debug => 4
  | trace => 5

end LogLevel

/-- The part of the program that reports. -/
inductive LogOrigin
  /-- The command line program. -/
  | program
  /-- Choosing a format. -/
  | negotiation
  /-- A render session. -/
  | session
  /-- A clip. -/
  | clip
  /-- The watch over devices. -/
  | deviceWatch
  /-- The health monitor. -/
  | health
deriving DecidableEq, Inhabited, Repr

/-- The path by which a filter names an origin. -/
def LogOrigin.path : LogOrigin → String
  | program => "wrender"
  | negotiation => "wrender::audio::negotiate"
  | session => "wrender::audio::session"
  | clip => "wrender::audio::clip"
  | deviceWatch => "wrender::device::watch"
  | health => "wrender::health"

/-- One line of the log. -/
structure LogLine where
  /-- How important it is. -/
  level : LogLevel
  /-- Who reports it. -/
  origin : LogOrigin
  /-- What it says. -/
  message : String
deriving DecidableEq, Inhabited, Repr

namespace LogLine

/-- A character as it stands in the log. -/
def shownChar : Char → String
  | '\x07' => "\\x07"
  | '\x08' => "\\x08"
  | '\x0c' => "\\x0c"
  | '\x1b' => "\\x1b"
  | '\x7f' => "\\x7f"
  | c => if 0x80 ≤ c.toNat ∧ c.toNat ≤ 0x9f then codePointText c else c.toString

/-- A line as it reads without its time. -/
def text (l : LogLine) : String :=
  l.level.text ++ " " ++ String.join (l.message.toList.map shownChar)

end LogLine

end PcmRender
