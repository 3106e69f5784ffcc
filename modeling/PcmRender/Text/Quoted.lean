/-
  PcmRender.Text.Quoted — **texts between quotes.**

  A text is shown to a developer between quotes, so that it can be told where it ends and what is in
  it:

      \"  \\            a quote and a backslash
      \0  \t  \r  \n   the controls that have a letter
      \u{ad}            every other character that does not show by itself
      anything else     itself
-/
import PcmRender.Text.Extender
import PcmRender.Text.Printable

namespace PcmRender

/-- A character as it stands between quotes. -/
def quotedChar : Char → String
  | '"' => "\\\""
  | '\\' => "\\\\"
  | '\x00' => "\\0"
  | '\t' => "\\t"
  | '\r' => "\\r"
  | '\n' => "\\n"
  | c => if isExtender c || !isPrintable c then codePointText c else c.toString

/-- A text with its quotes. -/
def quoted (text : String) : String := "\"" ++ String.join (text.toList.map quotedChar) ++ "\""

end PcmRender
