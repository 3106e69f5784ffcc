/-
  PcmRender.Logging — **where lines of the log go.**

  While a program runs it prints texts and reports lines, in one order.  What it prints stands on the
  console.  The lines that the filter shows stand between the texts on the console or, if there is a
  log file, in that file and nowhere else.

  Main definitions:
    * `Emission` — a text or a line,
    * `Logging` — a filter and a file,
    * `Logging.console`, `Logging.kept` — what stands where.
-/
import PcmRender.LogFilter

namespace PcmRender

/-! ## §1. What a program emits. -/

/-- One piece of what a program emits. -/
inductive Emission
  /-- A printed text. -/
  | printed (text : String)
  /-- A reported line. -/
  | reported (line : LogLine)
deriving DecidableEq, Inhabited, Repr

/-- Where the lines of a log go. -/
structure Logging where
  /-- Which lines are shown. -/
  filter : LogFilter
  /-- The file for them; without one they are shown on the console. -/
  file : Option String := none
  /-- What begins every line: the time. -/
  stamp : String := ""
deriving Inhabited, Repr

namespace Logging

/-! ## §2. What stands where. -/

/-- The text of a line if it is shown. -/
def lineText (l : Logging) (line : LogLine) : String :=
  if l.filter.shows line then l.stamp ++ line.shown else ""

/-- What stands on the console of one piece. -/
def onConsole (l : Logging) : Emission → String
  | .printed text => text
  | .reported line => if l.file.isSome then "" else l.lineText line

/-- What stands in the log file of one piece. -/
def inFile (l : Logging) : Emission → String
  | .printed _ => ""
  | .reported line => l.lineText line

/-- What stands on the console. -/
def console (l : Logging) (emitted : List Emission) : String := String.join (emitted.map l.onConsole)

/-- What stands in the log file. -/
def kept (l : Logging) (emitted : List Emission) : String := String.join (emitted.map l.inFile)

end Logging

end PcmRender
