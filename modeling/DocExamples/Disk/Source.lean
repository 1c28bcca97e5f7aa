/-
# Source files

A source file is read as UTF-8, and each of its line ends, whether a carriage
return, a line feed or both, becomes one line feed.  A byte order mark is kept.
-/

import DocExamples.Disk.Resolve
import DocExamples.Text.Utf8

namespace DocExamples

/-- Why the text of a file cannot be read. -/
inductive Unreadable where
  /-- The disk refuses the path. -/
  | disk (fault : Fault) (path : Text)
  /-- The content is not UTF-8. -/
  | encoding (fault : Utf8.Fault)
deriving DecidableEq, Repr

/-- The wording of the reason. -/
def Unreadable.message : Unreadable → Text
  | .disk f p => (Failure.disk f p).message
  | .encoding f => f.message

namespace Text

/-- A text with one line feed for every line end. -/
def withLineFeeds : Text → Text
  | '\r' :: '\n' :: s => '\n' :: withLineFeeds s
  | '\r' :: s => '\n' :: withLineFeeds s
  | c :: s => c :: withLineFeeds s
  | [] => []

end Text

namespace Disk

/-- The content of the file that a path text leads to, if it may be read. -/
def content (d : Disk) (s : Text) : Except Fault Octets := do
  let spot ← d.locate true s
  match spot.entry with
  | none => throw .notFound
  | some e =>
    if !d.rights.read spot.location then throw .denied
    match e with
    | .file content _ => return content
    | .folder => throw .isFolder
    | _ => return []

/-- The text of the file at a path; a path with the character NUL is a failure. -/
def sourceText (d : Disk) (p : Path) : Except Failure (Except Unreadable Text) :=
  if p.text.contains '\x00' then .error .nulInPath
  else
    match d.content p.text with
    | .error f => .ok (.error (.disk f p.text))
    | .ok content =>
      match Utf8.decode content with
      | .error f => .ok (.error (.encoding f))
      | .ok s => .ok (.ok (Text.withLineFeeds s))

end Disk
end DocExamples
