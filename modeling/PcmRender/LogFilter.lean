/-
  PcmRender.LogFilter — **which lines of the log are shown.**

  A filter is a list of directives, with commas between them.  Of those that speak of a line the one
  that says so most closely decides, and of two that are equally close the later one.  A filter
  without a directive shows errors.  A filter with directives of which none speaks of a line does not
  show it.

  Main definitions:
    * `LogFilter.strict`, `LogFilter.lenient` — a filter, refusing or leaving out what is no
      directive,
    * `LogFilter.shows` — whether a line is shown.
-/
import PcmRender.LogFilter.Directive

namespace PcmRender

/-- Directives, in the order in which they were written. -/
abbrev LogFilter := List LogDirective

namespace LogFilter

/-! ## §1. Filters in writing. -/

/-- The texts between the commas. -/
def texts (filter : String) : List (List Char) :=
  (go filter.toList).filter (· != [])
where
  go : List Char → List (List Char)
    | [] => [[]]
    | ',' :: rest => [] :: go rest
    | c :: rest =>
      match go rest with
      | first :: others => (c :: first) :: others
      | [] => [[c]]

/-- The filter that a text is, if all of its parts are directives; else the first fault. -/
def strict (filter : String) : Except DirectiveFault LogFilter :=
  (texts filter).mapM LogDirective.parse

/-- The filter of those parts of a text that are directives. -/
def lenient (filter : String) : LogFilter :=
  (texts filter).filterMap fun text => (LogDirective.parse text).toOption

/-- The parts of a text that are no directives, each with its fault. -/
def ignored (filter : String) : List (String × DirectiveFault) :=
  (texts filter).filterMap fun text =>
    match LogDirective.parse text with
    | .ok _ => none
    | .error fault => some (String.ofList text, fault)

/-! ## §2. Filters at work. -/

/-- The directive that decides over a line. -/
def deciding? (filter : LogFilter) (line : LogLine) : Option LogDirective :=
  (filter.filter (·.fits line)).foldl closer none
where
  closer (best : Option LogDirective) (d : LogDirective) : Option LogDirective :=
    match best with
    | some b => if d.precision < b.precision then some b else some d
    | none => some d

/-- The filter in force: without a directive, errors. -/
def orErrors (filter : LogFilter) : LogFilter :=
  if filter.isEmpty then [{ level := some .error }] else filter

/-- Whether a line is shown. -/
def shows (filter : LogFilter) (line : LogLine) : Bool :=
  match (orErrors filter).deciding? line with
  | some { level := some level, .. } => decide (line.level.rank ≤ level.rank)
  | _ => false

end LogFilter

/-- A line as it is shown, behind its time: the level right-aligned to five columns. -/
def LogLine.shown (l : LogLine) : String :=
  " " ++ String.ofList (List.replicate (5 - l.level.text.length) ' ') ++ l.text ++ "\n"

end PcmRender
