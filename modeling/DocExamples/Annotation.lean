/-
# Output annotations

An example states what it prints in a line comment whose first word is `=>`,
`->` or `output:`.  The first annotation with a visible value counts.
-/

import DocExamples.Text.Blank

namespace DocExamples
namespace Annotation

/-- The words that introduce an expected output. -/
def arrows : List Text := ["=>".toList, "->".toList, "output:".toList]

/-- What follows the line comment and the arrow at the start of a text, if
anything does. -/
def read? (s : Text) : Option Text := do
  let s ← Text.after? "//".toList s
  let value ← arrows.findSome? (Text.after? · (Text.stripLeft s))
  if value.isEmpty then none else some (Text.strip value)

/-- The value of the leftmost annotation of a line. -/
def inLine? : (line : Text) → Option Text
  | [] => none
  | c :: s => read? (c :: s) <|> inLine? s

/-- The first visible value that a line of the code is annotated with. -/
def find? (code : Text) : Option Text :=
  (Text.lines code).findSome? fun l => (inLine? l).filter (!·.isEmpty)

end Annotation
end DocExamples
