/-
# Paths

A path is a root and the names below it.  Reading a path drops empty names and
single dots, and keeps double dots, which only a disk can resolve:

| text | root | names |
| --- | --- | --- |
| `a//b/./c` | none | `a`, `b`, `c` |
| `/a/../b` | `/` | `a`, `..`, `b` |
| `//a` | `//` | `a` |
| `///a` | `/` | `a` |
| the empty text, `.` | none | none |
-/

import DocExamples.Text.Basic

namespace DocExamples

/-- A path without redundant parts. -/
structure Path where
  /-- The slashes that an absolute path begins with: one, or exactly two. -/
  root : Text
  /-- The names below the root. -/
  names : List Text
deriving DecidableEq, Repr

namespace Path

/-- The name of the folder itself. -/
def dot : Text := ['.']

/-- The name of the folder above. -/
def dotDot : Text := ['.', '.']

/-- The root that a path text begins with: of more than two slashes only one counts. -/
def rootOf : Text → Text
  | '/' :: '/' :: '/' :: _ => ['/']
  | '/' :: '/' :: _ => ['/', '/']
  | '/' :: _ => ['/']
  | _ => []

/-- The names in a path text, empty ones and single dots dropped. -/
def namesOf (s : Text) : List Text := (Text.pieces '/' s).filter fun n => !n.isEmpty && n != dot

/-- The path that a text stands for. -/
def ofText (s : Text) : Path := ⟨rootOf s, namesOf s⟩

/-- The text of a path; a single dot if it has no part. -/
def text (p : Path) : Text :=
  if p.root.isEmpty && p.names.isEmpty then dot else p.root ++ Text.joined ['/'] p.names

/-- The last name of a path. -/
def name (p : Path) : Text := p.names.getLast?.getD []

/-- The path without its last name. -/
def parent (p : Path) : Path := { p with names := p.names.dropLast }

/-- A path text read from a path; an absolute one stands for itself. -/
def join (p : Path) (s : Text) : Path :=
  if (rootOf s).isEmpty then { p with names := p.names ++ namesOf s } else ofText s

/-- The last dot of a name and what follows it; nothing where the dot is the first
or the last character. -/
def suffixOf (name : Text) : Text :=
  let rest := name.reverse.dropWhile (· != '.')
  let ending := name.drop (rest.length - 1)
  if rest.length ≤ 1 || ending.length ≤ 1 then [] else ending

/-- The suffix of the last name. -/
def suffix (p : Path) : Text := suffixOf p.name

example : suffixOf "a.test.ts".toList = ".ts".toList := by decide

example : suffixOf ".ts".toList = [] ∧ suffixOf "a.".toList = [] ∧
    suffixOf "..ts".toList = ".ts".toList := by
  decide

end Path
end DocExamples
