/-
# Path texts

Operations on path texts that look at no disk.  Double dots take back the name
before them, which is right only where that name is no link.
-/

import DocExamples.Path.Basic

namespace DocExamples
namespace Lexical

/-- The names so far (reversed) and one more: a double dot takes back a name, and
stays only at the start of a path without a root. -/
def push (rooted : Bool) (done : List Text) (name : Text) : List Text :=
  if name.isEmpty || name == Path.dot then done
  else if name != Path.dotDot then name :: done
  else
    match done with
    | [] => if rooted then [] else [Path.dotDot]
    | d :: ds => if d == Path.dotDot then name :: d :: ds else ds

/-- A path text without empty names, single dots and names taken back. -/
def normal (s : Text) : Text :=
  let root := Path.rootOf s
  let names := ((Text.pieces '/' s).foldl (push !root.isEmpty) []).reverse
  let t := root ++ Text.joined ['/'] names
  if t.isEmpty then Path.dot else t

/-- One path text below another; an absolute one stands for itself. -/
def join (folder s : Text) : Text :=
  if Text.startsWith ['/'] s then s
  else if folder.isEmpty || folder.getLast? = some '/' then folder ++ s
  else folder ++ '/' :: s

/-- What stands before the last name of a path text. -/
def folder (s : Text) : Text :=
  let head := (s.reverse.dropWhile (· != '/')).reverse
  if head.all (· == '/') then head else Text.withoutFinal '/' head

/-- The absolute form of a path text, for a working folder. -/
def absolute (cwd s : Text) : Text := normal (if Text.startsWith ['/'] s then s else join cwd s)

/-- The names of a path text. -/
def names (s : Text) : List Text := (Text.pieces '/' s).filter (!·.isEmpty)

/-- How many names two lists have in common at their start. -/
def sharedNames : (xs ys : List Text) → Nat
  | x :: xs, y :: ys => if x = y then sharedNames xs ys + 1 else 0
  | _, _ => 0

/-- The way from a folder to a path; an empty path has none and stays empty. -/
def relative (cwd start s : Text) : Text :=
  if s.isEmpty then []
  else
    let here := names (absolute cwd start)
    let there := names (absolute cwd s)
    let shared := sharedNames here there
    let way := List.replicate (here.length - shared) Path.dotDot ++ there.drop shared
    if way.isEmpty then Path.dot else Text.joined ['/'] way

/-- A path text with slashes for backslashes. -/
def slashed (s : Text) : Text := s.map fun c => if c = '\\' then '/' else c

example : normal "a//b/./../c/".toList = "a/c".toList := by decide

example : normal "/../x".toList = "/x".toList ∧
    normal "../../x".toList = "../../x".toList := by decide

end Lexical
end DocExamples
