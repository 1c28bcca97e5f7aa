/-
# Control sequences

A control sequence tells a terminal to change colours, to move or to clear: an
escape character and an opening bracket, then digits, semicolons and question
marks, then a letter.  What does not go to a terminal is written without them.
-/

import DocExamples.Text.Segments

namespace DocExamples
namespace Text

/-- The escape character. -/
def escapeChar : Char := '\x1b'

/-- Whether a character may stand between the bracket and the letter. -/
def isControlPart (c : Char) : Bool := c.isDigit || c == ';' || c == '?'

/-- The control sequence at the start of a text. -/
def readControl? (s : Text) : Option (Reading Unit) := do
  let s ← after? [escapeChar, '['] s
  match s.dropWhile isControlPart with
  | c :: rest => if c.isAlpha then some ⟨(), rest⟩ else none
  | [] => none

/-- A text without its control sequences. -/
def withoutControls (s : Text) : Text := (segments (fun _ => readControl?) s).replaced fun _ => []

example : withoutControls "\x1b[31mred\x1b[0m, \x1b[1;".toList = "red, \x1b[1;".toList := by
  decide +kernel

end Text
end DocExamples
