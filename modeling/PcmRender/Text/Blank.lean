/-
  PcmRender.Text.Blank — **white space.**

  These are the characters that stand for room between words and lines, 25 in all.
-/
import PcmRender.Text.CodePoint

namespace PcmRender

/-- The code points of white space. -/
def blankRanges : CodeRanges :=
  [(0x9, 0xd), (0x20, 0x20), (0x85, 0x85), (0xa0, 0xa0), (0x1680, 0x1680), (0x2000, 0x200a),
   (0x2028, 0x2029), (0x202f, 0x202f), (0x205f, 0x205f), (0x3000, 0x3000)]

/-- Whether a character is white space. -/
def isBlank (c : Char) : Bool := blankRanges.has c

/-- A text without white space in front. -/
def trimFront (text : List Char) : List Char := text.dropWhile isBlank

/-- A text without white space at its end. -/
def trimBack (text : List Char) : List Char := (text.reverse.dropWhile isBlank).reverse

end PcmRender
