/-
# The command

The layer around `CommandLine.run` that meets the world: it copies the folders
that the command may look into to a disk, carries out the command there, and
writes what was printed.  Programs run on a computer of their own, so that nothing
but the copy can be changed.

| on the real disk | on the copy |
| --- | --- |
| a folder | a folder, with what it holds |
| a link | a link to where it leads in the end |
| a file that begins with `#!` | a file that is marked as a program |
| any other file that can be read | a file |
-/

import DocExamples.CommandLine
import DocExamples.Machine.Computer
import DocExamples.Run.Workspace

namespace DocExamples
namespace Command

/-- A text as the text of a path of the real disk. -/
def pathText (l : Location) : String := String.ofList ('/' :: Text.joined ['/'] l)

/-- How many folders deep the copy goes. -/
def depthLimit : Nat := 128

/-- Whether a folder of this name is copied. -/
def isCopied (name : Text) : Bool := !Finder.default.ignored.contains name && name != ".git".toList

/-- A file with a content, which is a program if it begins with the mark of a script. -/
def fileEntry (content : Octets) : Entry :=
  .file content (if content.take 2 == [35, 33] then Entry.programMode else 0o644)

/-- The entry that leads to a place, and the location of the place. -/
def entryAt (l : Location) : IO (Option Entry) := do
  try
    let place : IO.FS.DirEntry := ⟨pathText l, ""⟩
    match (← place.root.symlinkMetadata).type with
    | .dir => return some .folder
    | .symlink => return some (.link (← IO.FS.realPath place.root).toString.toList)
    | .file => return some (fileEntry (← IO.FS.readBinFile place.root).toList)
    | .other => return none
  catch _ => return none

/-- The names in a real folder. -/
def namesIn (l : Location) : IO (List Text) := do
  try
    let place : IO.FS.DirEntry := ⟨pathText l, ""⟩
    return (← place.root.readDir).toList.map (·.fileName.toList)
  catch _ => return []

/-- Copies what stands at a location and below it, so many folders deep at most. -/
def copyTree : (depth : Nat) → Location → Disk → IO Disk
  | 0, _, d => return d
  | depth + 1, l, d => do
    match ← entryAt l with
    | none => return d
    | some e =>
      let d := d.put l e
      if e.isFolder then
        ((← namesIn l).filter isCopied).foldlM (fun d name => copyTree depth (l ++ [name]) d) d
      else return d

/-- Copies the entries that lead to a location. -/
def copyWay (l : Location) (d : Disk) : IO Disk :=
  (List.range l.length).foldlM (fun d n => copyTree 1 (l.take (n + 1)) d) d

/-- Copies what stands at a path, the entries that lead there, and what it leads to. -/
def copyPath (p : Path) (d : Disk) : IO Disk := do
  let d ← copyWay p.names d
  try
    let real := Path.namesOf (← IO.FS.realPath (pathText p.names)).toString.toList
    copyTree depthLimit real (← copyWay real d)
  catch _ => return d

/-- A disk with the working folder and the places that the arguments name. -/
def diskFor (arguments : List Text) : IO Disk := do
  let cwd := Path.ofText (← IO.currentDir).toString.toList
  let d ← copyPath cwd { entries := [], cwd := cwd.names }
  let d ← arguments.foldlM (fun d a => copyPath (cwd.join a) d) d
  return Computer.install d

/-- The value of a variable of the process. -/
def variableNamed (name : String) : IO (Option Text) := do
  return (← IO.getEnv name).map String.toList

/-- The settings that the process was started with. -/
def settings : IO Environment := do
  return ⟨← variableNamed Environment.interpreterName, ← variableNamed Environment.suffixName,
    ← variableNamed Environment.timeoutName⟩

/-- The settings as variables of the programs that are run. -/
def bindings (e : Environment) : List (Text × Text) :=
  [(Environment.interpreterName, e.interpreter), (Environment.suffixName, e.suffix),
    (Environment.timeoutName, e.timeout)].filterMap fun v => v.2.map (v.1.toList, ·)

/-- What is written when the arguments cannot be understood. -/
def usage : String :=
  "Usage: testdoc [OPTIONS] [PATHS]...\nTry 'testdoc --help' for help.\n"

/-- Writes what the command came to, and returns the exit code. -/
def report : CommandLine.Answer → IO UInt32
  | .usage => do
    IO.eprint usage
    return 2
  | .printed p => do
    IO.print (String.ofList p.stdout)
    IO.eprint (String.ofList p.stderr)
    return p.exitCode.toUInt32

/-- Carries out the command on a copy of the folders that it names. -/
def run (arguments : List Text) : IO UInt32 := do
  let env ← settings
  let disk ← diskFor arguments
  let executor := env.interpreterOf.map (Workspace.executor (Computer.host (bindings env)))
  let done := CommandLine.run env executor disk arguments ⟨disk, 0⟩
  report done.1

end Command
end DocExamples

/-- The command. -/
def main (arguments : List String) : IO UInt32 :=
  DocExamples.Command.run (arguments.map String.toList)
