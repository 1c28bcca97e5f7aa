/-
# Code in comments

A comment shows code after the tag `@example`, in one of two forms:

    @example                        @example
    ```ts                            *   add(1, 2);
    add(1, 2);                       *   // => 3
    ```

In the fenced form the code stands between two lines of three backticks.  The
indented form is read only where the comment has no fenced example; its lines
begin with a star and at least two spaces or tabs.  In both, each line may have a
star in front, which is no part of the code.
-/

import DocExamples.Annotation
import DocExamples.Text.Segments

namespace DocExamples

/-- Code of one example, and the output that it is annotated with. -/
structure Snippet where
  /-- The code, without the stars of the comment. -/
  code : Text
  /-- The first visible output annotation. -/
  expected : Option Text
deriving DecidableEq, Repr

namespace Snippet

/-- The tag that announces an example. -/
def tag : Text := "@example".toList

/-- The mark around fenced code. -/
def fence : Text := "```".toList

/-- Code together with its annotation; the code itself stays as it is. -/
def ofCode (code : Text) : Snippet := ⟨code, Annotation.find? code⟩

/-- A line without the star in front of it and one space behind the star. -/
def withoutStar (line : Text) : Text :=
  match Text.stripLeft line with
  | '*' :: ' ' :: rest => rest
  | '*' :: rest => rest
  | _ => line

/-- Lines without the blank ones at both ends. -/
def withoutBlankEnds (ls : List Text) : List Text :=
  ((ls.dropWhile Text.isBlankLine).reverse.dropWhile Text.isBlankLine).reverse

/-- The lines of code in raw lines of a comment. -/
def cleanLines (ls : List Text) : List Text := withoutBlankEnds (ls.map withoutStar)

/-- The code in a raw piece of a comment. -/
def clean (raw : Text) : Text := Text.unlines (cleanLines (Text.lines raw))

/-- The raw text of the fenced example at the start of a text. -/
def readFenced? (s : Text) : Option (Text.Reading Text) := do
  let s ← Text.after? tag s
  let s ← Text.after? fence (s.dropWhile fun c => Text.isBlank c || c == '*')
  let s ← Text.after? ['\n'] (s.dropWhile fun c => c != '\n' && c != '\x60')
  let k ← Text.cut? fence s
  return ⟨k.before, k.after⟩

/-- Whether a line belongs to an indented example: a star, two spaces or tabs, and
something more. -/
def isIndented (line : Text) : Bool :=
  match line.dropWhile Text.isGap with
  | '*' :: a :: b :: _ :: _ => Text.isGap a && Text.isGap b
  | _ => false

/-- The raw lines of the indented example at the start of a text. -/
def readIndented? (s : Text) : Option (Text.Reading (List Text)) := do
  let s ← Text.after? tag s
  let s ← Text.after? ['\n'] (s.dropWhile Text.isGap)
  let ls := (Text.lines s).takeWhile isIndented
  if ls.isEmpty then none
  else some ⟨ls, Text.unlines ((Text.lines s).dropWhile isIndented)⟩

/-- The longest text that two texts both start with. -/
def commonStart : (s t : Text) → Text
  | a :: s, b :: t => if a = b then a :: commonStart s t else []
  | _, _ => []

/-- The indentation that all lines with anything but spaces and tabs share. -/
def margin (ls : List Text) : Text :=
  match (ls.filter (!·.all Text.isGap)).map (·.takeWhile Text.isGap) with
  | [] => []
  | first :: others => others.foldl commonStart first

/-- Lines without their shared indentation; lines of spaces and tabs are emptied. -/
def dedent (ls : List Text) : List Text :=
  ls.map fun l => if l.all Text.isGap then [] else (Text.after? (margin ls) l).getD l

/-- The examples of the fenced form. -/
def fenced (comment : Text) : List Snippet :=
  (Text.segments (fun _ => readFenced?) comment).values.map fun raw => ofCode (clean raw)

/-- The examples of the indented form, other than blank ones. -/
def indented (comment : Text) : List Snippet :=
  ((Text.segments (fun _ => readIndented?) comment).values.map fun ls =>
    Text.unlines (dedent (cleanLines ls))).filter (!Text.isBlankLine ·) |>.map ofCode

/-- Every example of a comment, in order: the fenced ones, or else the indented
ones. -/
def all (comment : Text) : List Snippet :=
  if (fenced comment).isEmpty then indented comment else fenced comment

end Snippet
end DocExamples
