/-
  PcmRender.Text.ByteCut — **texts measured and cut in bytes.**

  A character takes one to four bytes.  A position in bytes is between two characters or inside one,
  and a text can be cut only between characters.

  Main definitions:
    * `byteLength` — the bytes of a text,
    * `splitAtByte?` — a text in two,
    * `bytesBetween?` — a part of a text.
-/

namespace PcmRender

/-- The bytes that a text takes. -/
def byteLength : List Char → Nat
  | [] => 0
  | c :: rest => c.utf8Size + byteLength rest

/-- A text in front of a position and behind it; `none` if the position is inside a character or
behind the end. -/
def splitAtByte? : Nat → List Char → Option (List Char × List Char)
  | 0, text => some ([], text)
  | _, [] => none
  | position, c :: rest =>
    if c.utf8Size ≤ position then
      (splitAtByte? (position - c.utf8Size) rest).map fun (front, back) => (c :: front, back)
    else none

/-- The part of a text from one position to a later one. -/
def bytesBetween? (text : List Char) (first last : Nat) : Option (List Char) := do
  let (_, back) ← splitAtByte? first text
  let (part, _) ← splitAtByte? (last - first) back
  some part

end PcmRender
