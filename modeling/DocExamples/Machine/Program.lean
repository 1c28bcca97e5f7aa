/-
# Programs on a disk

A file is a program if it is marked as one and either belongs to the computer or
begins with a line that names its interpreter.  A name without a slash is looked
for in the folders of a search path, a name with one stands for itself.
-/

import DocExamples.Disk.Resolve
import DocExamples.Machine.Octet

namespace DocExamples

/-- What a program is. -/
inductive Loaded where
  /-- A program of the computer. -/
  | utility (name : Text)
  /-- A text for an interpreter, which may take an argument of its own. -/
  | script (interpreter : Text) (argument : Option Text)
  /-- A file that is marked as a program but names no interpreter. -/
  | commands
deriving DecidableEq, Repr

namespace Loaded

/-- How many interpreters may be programs with interpreters themselves. -/
def interpreterDepth : Nat := 4

/-- A line without blanks at its ends. -/
def trimmed (s : Text) : Text :=
  let isBlank (c : Char) : Bool := c == ' ' || c == '\t'
  ((s.dropWhile isBlank).reverse.dropWhile isBlank).reverse

/-- The interpreter that a file names in its first line. -/
def interpreterLine? (content : Text) : Option (Text × Option Text) :=
  match content with
  | '#' :: '!' :: rest =>
    let line := trimmed (rest.takeWhile (· != '\n'))
    let isBlank (c : Char) : Bool := c == ' ' || c == '\t'
    let program := line.takeWhile fun c => !isBlank c
    let argument := trimmed (line.drop program.length)
    if program.isEmpty then none
    else some (program, if argument.isEmpty then none else some argument)
  | _ => none

/-- The program at a path, given as an octet text. -/
def atPath (d : Disk) : (depth : Nat) → Text → Except Fault Loaded
  | 0, _ => .error .tooManyLinks
  | depth + 1, path => do
    match ← d.stat (Octet.toText path) with
    | .utility name => return .utility name
    | .file content mode =>
      if !Entry.mayRun mode then throw .denied
      else
        match interpreterLine? (Octet.ofOctets (content.take 256)) with
        | some (program, argument) => do
          match ← atPath d depth program with
          | .commands => throw .notProgram
          | _ => return .script program argument
        | none => return .commands
    | _ => throw .denied

/-- A program and the path that it was found at. -/
structure Found where
  /-- The path. -/
  path : Text
  /-- The program. -/
  program : Loaded

/-- The folders of a search path. -/
def folders (searchPath : Text) : List Text := Text.pieces ':' searchPath

/-- The first program of some paths; if there is none, the first fault that says more than
that nothing was found, or else the last fault. -/
def first (d : Disk) (paths : List Text) : Except Fault Found :=
  let tried := paths.map fun p => (p, atPath d interpreterDepth p)
  match tried.findSome? fun t => match t.2 with
    | .ok l => some (Found.mk t.1 l)
    | .error _ => none with
  | some f => .ok f
  | none =>
    let faults := tried.filterMap fun t => match t.2 with
      | .ok _ => none
      | .error f => some f
    let isAbsence (f : Fault) : Bool := f = .notFound ∨ f = .notFolder
    .error <| (faults.find? fun f => !isAbsence f).getD (faults.getLast?.getD .notFound)

/-- The program that a name stands for. -/
def find (d : Disk) (searchPath name : Text) : Except Fault Found :=
  if name.contains '/' then first d [name]
  else first d ((folders searchPath).map fun f =>
    (if f.isEmpty then Path.dot else f) ++ '/' :: name)

/-- Whether a name leads to a file, be it a program or not. -/
def leadsToFile (d : Disk) (searchPath name : Text) : Bool :=
  name.contains '/' || (folders searchPath).any fun f =>
    match d.stat (Octet.toText (f ++ '/' :: name)) with
    | .ok e => e.isFile
    | .error _ => false

/-- The exit code of a shell for a program that it cannot start. -/
def shellCode (d : Disk) (searchPath name : Text) (f : Fault) : Nat :=
  if f.isAbsence || f == .tooLong || !leadsToFile d searchPath name then 127 else 126

/-- What a shell says about a program that it cannot start. -/
def shellWording (f : Fault) : Text :=
  if f = .notFound ∨ f = .notFolder then "not found".toList else f.wording

/-- The exit code of a program for another one that it cannot start. -/
def programCode (f : Fault) : Nat := if f = .notFound then 127 else 126

end Loaded
end DocExamples
