/-
# Real paths

The real path of a path names the same entry without any link on the way.  A link
is followed by reading its target as a path of its own; each link is followed
once and its result remembered.  A link that is met while it is being followed
belongs to a loop: the path then keeps the names that are left as they are.
Names that denote nothing are kept too.
-/

import DocExamples.Disk.Resolve
import DocExamples.Path.Lexical

namespace DocExamples
namespace Disk

/-- What is known of a link: the path that it leads to, or that it is still being
followed. -/
abbrev Known := List (Text × Option Text)

/-- A path without links as far as it goes, and the links met so far. -/
structure Unlinked where
  /-- The path text. -/
  path : Text
  /-- The links met so far. -/
  known : Known
  /-- Whether no loop was met. -/
  complete : Bool

/-- A path text without its last name, for a double dot. -/
def above (path : Text) : Text :=
  if path.isEmpty then Path.dotDot
  else
    let last := (path.reverse.takeWhile (· != '/')).reverse
    let head := Lexical.folder path
    if last = Path.dotDot then Lexical.join (Lexical.join head Path.dotDot) Path.dotDot else head

/-- Adds names to a path without links; `follow` reads the target of a link as a path
that starts where the link stands. -/
def unlinkNames (d : Disk) (follow : Text → Known → Text → Except Failure Unlinked) :
    Text → Known → List Text → Except Failure Unlinked
  | path, known, [] => .ok ⟨path, known, true⟩
  | path, known, name :: rest =>
    if name.isEmpty || name = Path.dot then unlinkNames d follow path known rest
    else if name = Path.dotDot then unlinkNames d follow (above path) known rest
    else
      let there := Lexical.join path name
      if there.contains '\x00' then .error .nulInPath
      else
        match d.lstat there with
        | .ok (.link target) =>
          match known.find? fun k => k.1 == there with
          | some (_, some found) => unlinkNames d follow found known rest
          | some (_, none) => .ok ⟨Lexical.join there (Text.joined ['/'] rest), known, false⟩
          | none =>
            match follow path ((there, none) :: known) target with
            | .error f => .error f
            | .ok u =>
              if u.complete then
                unlinkNames d follow u.path ((there, some u.path) :: u.known) rest
              else .ok ⟨Lexical.join u.path (Text.joined ['/'] rest), u.known, false⟩
        | _ => unlinkNames d follow there known rest

/-- Reads a path text from a path without links, following links within links so many
times at most. -/
def unlink (d : Disk) : (depth : Nat) → Text → Known → Text → Except Failure Unlinked
  | 0, path, known, s => .ok ⟨Lexical.join path s, known, false⟩
  | depth + 1, path, known, s =>
    let absolute := Text.startsWith ['/'] s
    unlinkNames d (unlink d depth) (if absolute then ['/'] else path) known
      (Text.pieces '/' (if absolute then s.drop 1 else s))

/-- How deep links can be within links: each is met once for every way to write its
folder relative to the working folder. -/
def linkDepth (d : Disk) : Nat := (d.entries.countP fun e => e.2.isLink) * (d.cwd.length + 2) + 1

/-- The working folder as a path text. -/
def cwdText (d : Disk) : Text := '/' :: Text.joined ['/'] d.cwd

/-- Where the working folder is, as a path text; a folder that is gone is nowhere. -/
def whereabouts (d : Disk) : Except Failure Text :=
  if d.at? d.cwd = some .folder then .ok d.cwdText else .error (.disk .notFound none)

/-- A path text as an absolute path; only a relative one needs the working folder. -/
def absoluteText (d : Disk) (s : Text) : Except Failure Text :=
  if Text.startsWith ['/'] s then .ok (Lexical.absolute d.cwdText s)
  else d.whereabouts.map fun cwd => Lexical.absolute cwd s

/-- The absolute path of a path without any link, which loops may cut short. -/
def realText (d : Disk) (p : Path) : Except Failure Text := do
  let u ← unlink d d.linkDepth [] [] p.text
  d.absoluteText u.path

/-- The real path of a path; a path that runs into a loop has none. -/
def realPath (d : Disk) (p : Path) : Except Failure Path := do
  let real := Path.ofText (← d.realText p)
  if real.text.contains '\x00' then throw .nulInPath
  match d.stat real.text with
  | .error .tooManyLinks => throw (.linkLoop real.text)
  | _ => return real

end Disk
end DocExamples
