/-
# Finding source files

Paths are expanded into the source files to read.  A file is taken as it is.  A
folder is searched at every depth, its entries in the order of their names, with
hidden and ignored folders left out and only files with a source suffix taken.
Folders are entered as deep as the stack has room for.
-/

import DocExamples.Disk.Resolve
import DocExamples.Settings.Stack

namespace DocExamples

/-- What a search through folders takes and leaves out. -/
structure Finder where
  /-- The suffixes of source files. -/
  suffixes : List Text
  /-- The names of folders that are not entered. -/
  ignored : List Text

/-- What paths were expanded into. -/
structure Found where
  /-- The source files, in the order of discovery. -/
  files : List Path
  /-- A diagnostic for each path that denotes nothing. -/
  errors : List Text
  /-- How many paths denote a file or a folder. -/
  resolved : Nat
deriving DecidableEq, Repr

namespace Finder

/-- The search for sources in JavaScript and TypeScript. -/
def default : Finder where
  suffixes := [".ts".toList, ".tsx".toList, ".js".toList, ".jsx".toList, ".mts".toList,
    ".mjs".toList]
  ignored := ["node_modules".toList]

/-- Whether a path has the suffix of a source file. -/
def isSource (f : Finder) (p : Path) : Bool := f.suffixes.contains p.suffix

/-- Whether a folder of this name is entered. -/
def enters (f : Finder) (name : Text) : Bool :=
  !Text.startsWith ['.'] name && !f.ignored.contains name

/-- Texts in the order of their code points. -/
def sorted (names : List Text) : List Text := names.mergeSort fun a b => !decide (b < a)

/-- The names in the folder at a path, in order. -/
def listing (d : Disk) (p : Path) : Except Failure (List Text) :=
  match d.locate true p.text with
  | .error f => .error (.disk f p.text)
  | .ok spot =>
    if d.rights.read spot.location then .ok (sorted (d.namesIn spot.location))
    else .error (.disk .denied p.text)

/-- The source files below the folder at a path, with room for so many folders within
folders.  Only a folder that holds something needs room. -/
def walk (f : Finder) (d : Disk) : (room : Nat) → Path → Except Failure (List Path)
  | 0, folder => do
    if (← listing d folder).isEmpty then return []
    else throw (.tooDeep "calling a Python object".toList)
  | room + 1, folder => do
    let found ← (← listing d folder).mapM fun name => do
      let p : Path := { folder with names := folder.names ++ [name] }
      if ← d.leadsTo Entry.isFolder p.text then
        if f.enters name then walk f d room p else return []
      else if ← d.leadsTo Entry.isFile p.text then
        return if f.isSource p then [p] else []
      else return []
    return found.flatten

variable [Stack]

/-- The source files below the folder at a path. -/
def below (f : Finder) (d : Disk) (folder : Path) : Except Failure (List Path) :=
  walk f d Stack.folders folder

/-- Nothing was expanded yet. -/
def nothing : Found := ⟨[], [], 0⟩

/-- What one path is expanded into. -/
def expand (f : Finder) (d : Disk) (s : Text) : Except Failure Found := do
  let p := Path.ofText s
  if ← d.leadsTo Entry.isFolder p.text then
    return ⟨← f.below d p, [], 1⟩
  else if ← d.leadsTo Entry.isFile p.text then
    return ⟨[p], [], 1⟩
  else
    return ⟨[], ["Failed to parse ".toList ++ p.text ++ ": path does not exist".toList], 0⟩

/-- What paths are expanded into, in the order of the paths. -/
def find (f : Finder) (d : Disk) : List Text → Except Failure Found
  | [] => .ok nothing
  | s :: ss => do
    let a ← f.expand d s
    let b ← f.find d ss
    return ⟨a.files ++ b.files, a.errors ++ b.errors, a.resolved + b.resolved⟩

end Finder
end DocExamples
