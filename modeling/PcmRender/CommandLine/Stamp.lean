/-
  PcmRender.CommandLine.Stamp — **the time in front of a line.**

  A moment is counted in nanoseconds from the beginning of 1970, and written as a date and a time of
  day in the Gregorian calendar, to the microsecond:

      2001-09-09T01:46:40.000000Z

  Years are taken to begin in March, so that the day that only some years have is their last one.
  Such years repeat after 400 of them, which are 146097 days.
-/

namespace PcmRender

namespace Stamp

/-- A day of the calendar. -/
structure Date where
  /-- The year. -/
  year : Nat
  /-- The month, from 1. -/
  month : Nat
  /-- The day of the month, from 1. -/
  day : Nat
deriving DecidableEq, Inhabited, Repr

/-- The days from March of the year 0 to the beginning of 1970. -/
def daysBefore1970 : Nat := 719468

/-- The day that is some days after the beginning of 1970. -/
def dateOf (days : Nat) : Date :=
  let days := days + daysBefore1970
  let era := days / 146097
  let inEra := days % 146097
  let year := (inEra - inEra / 1460 + inEra / 36524 - inEra / 146096) / 365
  let inYear := inEra - (365 * year + year / 4 - year / 100)
  let fromMarch := (5 * inYear + 2) / 153
  let month := if fromMarch < 10 then fromMarch + 3 else fromMarch - 9
  { year := 400 * era + year + (if month ≤ 2 then 1 else 0)
    month
    day := inYear - (153 * fromMarch + 2) / 5 + 1 }

/-- A number with zeros in front, up to a number of digits. -/
def padded (width n : Nat) : String :=
  let digits := toString n
  String.ofList (List.replicate (width - digits.length) '0') ++ digits

/-- The text of a moment, given in nanoseconds. -/
def text (nanos : Nat) : String :=
  let micros := nanos / 1000
  let seconds := micros / 1000000
  let date := dateOf (seconds / 86400)
  let inDay := seconds % 86400
  padded 4 date.year ++ "-" ++ padded 2 date.month ++ "-" ++ padded 2 date.day ++ "T"
    ++ padded 2 (inDay / 3600) ++ ":" ++ padded 2 (inDay / 60 % 60) ++ ":" ++ padded 2 (inDay % 60)
    ++ "." ++ padded 6 (micros % 1000000) ++ "Z"

end Stamp

end PcmRender
