/-
# Documentation comments

A documentation comment begins with a slash and two stars and ends at the first
star and slash behind them.  It belongs to the declaration that follows it
directly; a comment before anything else is named for its line.
-/

import DocExamples.Declaration
import DocExamples.Text.Numeral
import DocExamples.Text.Segments

namespace DocExamples

/-- A documentation comment. -/
structure Comment where
  /-- The text between the opening and the closing mark. -/
  body : Text
  /-- The line of the opening mark; the first line has number 1. -/
  line : Nat
  /-- The name of the declaration behind it, or one made of its line. -/
  owner : Text
deriving DecidableEq, Repr

namespace Comment

/-- The mark that opens a documentation comment. -/
def opening : Text := "/**".toList

/-- The mark that closes a comment. -/
def closing : Text := "*/".toList

/-- The comment at the start of a text, cut at its closing mark. -/
def read? (s : Text) : Option (Text.Reading Text.Cut) := do
  let s ← Text.after? opening s
  let k ← Text.cut? closing s
  return ⟨k, k.after⟩

/-- The comments of a text, each with the source behind it. -/
def segments (source : Text) : Text.Segmentation Text.Cut :=
  Text.segments (fun _ => read?) source

/-- The name of a comment that documents no declaration. -/
def anonymous (line : Nat) : Text := "anonymous_".toList ++ Text.decimal line

/-- The comments of segments, the first of which begins on line `line`. -/
def ofSegments (line : Nat) : List (Text.Segment Text.Cut) → List Comment
  | [] => []
  | p :: ps =>
    let opened := line + p.skipped.count '\n'
    ⟨p.value.before, opened, (Declaration.declared? p.value.after).getD (anonymous opened)⟩ ::
      ofSegments (opened + p.taken.count '\n') ps

/-- Every documentation comment of a source, from top to bottom. -/
def all (source : Text) : List Comment := ofSegments 1 (segments source).segments

/-- The line of the character at an offset, where a negative offset counts from
the end. -/
def lineAt (source : Text) (offset : Int) : Nat :=
  let stop := if offset < 0 then offset + source.length else offset
  (source.take stop.toNat).count '\n' + 1

/-- The name declared directly behind position `stop`. -/
def ownerAt? (source : Text) (stop : Int) : Option Text :=
  Declaration.declared? (source.drop stop.toNat)

end Comment
end DocExamples
