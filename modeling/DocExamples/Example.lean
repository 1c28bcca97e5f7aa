/-
# Documented examples

An example is runnable code that a documentation comment of some file shows.  It
is named for the declaration that the comment documents, and numbered where the
comment shows several.
-/

import DocExamples.Comment
import DocExamples.Snippet

namespace DocExamples

/-- Code that a documentation comment shows. -/
structure Example where
  /-- The path of the documented file, as it was given. -/
  origin : Text
  /-- The line of the comment. -/
  line : Int
  /-- The name of the example. -/
  name : Text
  /-- The code. -/
  code : Text
  /-- The output that the code is annotated with. -/
  expected : Option Text
deriving DecidableEq, Repr

namespace Example

/-- Where an example stands: file and line. -/
def location (e : Example) : Text := e.origin ++ ':' :: Text.integer e.line

/-- The name of the example with number `i` (from 1) of several. -/
def numbered (owner : Text) (i : Nat) : Text := owner ++ "_example".toList ++ Text.decimal i

/-- The examples of one comment: a single one has the owner's name, several are
numbered. -/
def ofComment (origin : Text) (c : Comment) : List Example :=
  match Snippet.all c.body with
  | [s] => [⟨origin, c.line, c.owner, s.code, s.expected⟩]
  | ss => ss.mapIdx fun i s => ⟨origin, c.line, numbered c.owner (i + 1), s.code, s.expected⟩

/-- Every example of a source, from top to bottom. -/
def ofSource (origin source : Text) : List Example :=
  (Comment.all source).flatMap (ofComment origin)

end Example
end DocExamples
