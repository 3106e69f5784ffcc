/-
  PcmRender.Text.CodePoint — **characters by their code points.**

  Properties of characters are tables.  A table lists closed ranges of code points, ascending and
  apart, so that every code point lies in one of them at most.  The tables of this library are those
  of Unicode 17.

  Main definitions:
    * `CodeRanges` — a table,
    * `CodeRanges.has` — whether a character is in it,
    * `codePointText` — a character written by its code point.
-/

namespace PcmRender

/-- Closed ranges of code points, by the first and the last of each. -/
abbrev CodeRanges := List (Nat × Nat)

/-- Whether a character lies in one of the ranges. -/
def CodeRanges.has (ranges : CodeRanges) (c : Char) : Bool :=
  ranges.any fun (first, last) => first ≤ c.toNat && c.toNat ≤ last

/-- A character by its code point, in braces. -/
def codePointText (c : Char) : String :=
  "\\u\x7b" ++ String.ofList (Nat.toDigits 16 c.toNat) ++ "\x7d"

end PcmRender
