/-
# Opening files

What a stream leads to when a file is opened for it, and the wording when that fails.
-/

import DocExamples.Machine.Shell.State

namespace DocExamples
namespace Shell
namespace State

/-- Opens a file for writing; `fresh` says that its content is dropped. -/
def openOutput (s : State) (path : Text) (fresh : Bool) (guarded : Bool) :
    Except Fault (State × Channel) :=
  let d := s.machine.disk
  match d.locate true (Octet.toText path) with
  | .error f => .error f
  | .ok spot =>
    match spot.entry with
    | some (.device name) =>
      if name = "stdout".toList then .ok (s, (s.channel? 1).getD .nowhere)
      else if name = "stderr".toList then .ok (s, (s.channel? 2).getD .nowhere)
      else .ok (s, .nowhere)
    | some .folder => .error .isFolder
    | some (.utility _) => .error .denied
    | entry =>
      if entry.isSome && guarded then .error .alreadyThere
      else if entry.isSome && !fresh then .ok (s, .file spot.location)
      else
        match d.write path [] with
        | .ok disk => .ok ({ s with machine := { s.machine with disk } }, .file spot.location)
        | .error f => .error f

/-- Opens a file for reading. -/
def openInput (s : State) (path : Text) : Except Fault (State × Channel) :=
  match s.machine.disk.stat (Octet.toText path) with
  | .error f => .error f
  | .ok (.device name) =>
    if name = "stdin".toList then .ok (s, (s.channel? 0).getD .nowhere)
    else if name = "zero".toList then
      let (n, machine) := s.machine.newBuffer (Disk.deviceContent name Disk.readLimit)
      .ok ({ s with machine }, .buffer n)
    else .ok (s, .nowhere)
  | .ok .folder => .ok (s, .folder)
  | .ok _ =>
    match s.machine.disk.read path with
    | .ok text =>
      let (n, machine) := s.machine.newBuffer text
      .ok ({ s with machine }, .opened n)
    | .error f => .error f

/-- The wording when a file cannot be opened. -/
def openFault (path : Text) (f : Fault) : Text :=
  "cannot open ".toList ++ path ++ ": ".toList ++
    if f = .notFound ∨ f = .notFolder then "No such file".toList else f.wording

/-- The wording when a file cannot be made. -/
def createFault (path : Text) (f : Fault) : Text :=
  "cannot create ".toList ++ path ++ ": ".toList ++
    if f = .notFound ∨ f = .notFolder then "Directory nonexistent".toList else f.wording

end State
end Shell
end DocExamples
