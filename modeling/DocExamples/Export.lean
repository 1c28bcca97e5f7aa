/-
# Exported names

A module exports a name where it declares it behind the word `export`, or where
it lists it in braces behind that word.  The result holds each name once, in the
order of first mention.
-/

import DocExamples.Declaration
import DocExamples.Text.Segments

namespace DocExamples
namespace Export

/-- What follows a word and blanks, or the text itself if it does not start so. -/
def optional (word s : Text) : Text := (Text.spaced? word s).getD s

/-- The name declared by the export at the start of a text. -/
def readDeclared? (before : Option Char) (s : Text) : Option (Text.Reading Text) :=
  if Text.atWordStart before then do
    let s ← Text.spaced? "export".toList s
    let s := optional "async".toList (optional "abstract".toList (optional "declare".toList s))
    Declaration.named? Text.identifier? s
  else none

/-- The inside of the braces of the export list at the start of a text. -/
def readList? (before : Option Char) (s : Text) : Option (Text.Reading Text) :=
  if Text.atWordStart before then do
    let s ← Text.after? "export".toList s
    let s ← Text.after? ['\x7b'] (Text.stripLeft s)
    let k ← Text.cut? ['\x7d'] s
    return ⟨k.before, k.after⟩
  else none

/-- The word `as` between blanks, at the start of a text. -/
def readAlias? (s : Text) : Option (Text.Reading Unit) :=
  match s with
  | c :: _ => if Text.isBlank c then (Text.spaced? "as".toList (Text.stripLeft s)).map (⟨(), ·⟩)
    else none
  | [] => none

/-- An entry cut at its aliases. -/
def aliases (entry : Text) : Text.Segmentation Unit := Text.segments (fun _ => readAlias?) entry

/-- What stands before the first alias of an entry. -/
def beforeAlias (entry : Text) : Text :=
  match (aliases entry).segments with
  | [] => (aliases entry).tail
  | p :: _ => p.skipped

/-- Names that a binding cannot have. -/
def reserved : List Text := ["default".toList]

/-- The name that one entry of an export list makes available: type-only entries,
names that are no identifiers and reserved names make none. -/
def entryName? (entry : Text) : Option Text :=
  let entry := Text.strip entry
  let name := Text.strip (beforeAlias entry)
  if entry.isEmpty || Text.startsWith "type ".toList entry then none
  else if Text.isIdentifier name && !reserved.contains name then some name
  else none

/-- The names in the braces of an export list. -/
def listedNames (body : Text) : List Text := (Text.pieces ',' body).filterMap entryName?

/-- A name and the offset of the export that mentions it. -/
structure Mention where
  /-- The offset of the word `export`. -/
  offset : Nat
  /-- The exported name. -/
  name : Text
deriving DecidableEq, Repr

/-- The mentions in segments, the first of which is searched from `offset`. -/
def mentions {α : Type} (names : α → List Text) (offset : Nat) :
    List (Text.Segment α) → List Mention
  | [] => []
  | p :: ps =>
    let start := offset + p.skipped.length
    (names p.value).map (⟨start, ·⟩) ++ mentions names (start + p.taken.length) ps

/-- All mentions of a source, by offset. -/
def allMentions (source : Text) : List Mention :=
  (mentions ([·]) 0 (Text.segments readDeclared? source).segments).merge
    (mentions listedNames 0 (Text.segments readList? source).segments)
    fun a b => a.offset ≤ b.offset

/-- The names that a source exports, each once, in the order of first mention. -/
def names (source : Text) : List Text := ((allMentions source).map (·.name)).eraseDups

end Export
end DocExamples
