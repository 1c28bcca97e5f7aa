/-
# A computer to run programs on

A host that needs no other computer: a disk with some utilities and the usual devices,
and processes that are carried out step by step on a clock that only waiting
moves.  Output is collected until the time limit, and for a short time after the
end of a process from those that it left behind.

This host is for running the command.  What is known of runs holds for every host:
`Host` is a parameter of all that is stated about them, and nothing below `Machine` is part
of what is proved.  So it goes only as far as runs need it: a shell, and the utilities by
which examples are shown, searched, copied and removed.
-/

import DocExamples.Machine.Shell.Run
import DocExamples.Run.Host

namespace DocExamples
namespace Computer

open Shell

/-- The folder of the utilities. -/
def utilityFolder : Location := ["usr".toList, "bin".toList]

/-- The names of the utilities. -/
def utilityNames : List Text :=
  (Utility.filters ++ Utility.makers).map (·.1.toList) ++ ["sh", "env"].map String.toList

/-- The devices. -/
def deviceNames : List Text :=
  ["null", "zero", "stdin", "stdout", "stderr", "tty"].map String.toList

/-- What the disk of a computer holds from the start. -/
def entries : List (Location × Entry) :=
  [(["bin".toList], .link "usr/bin".toList), (["usr".toList], .folder), (utilityFolder, .folder),
    (["usr".toList, "local".toList], .folder),
    (["usr".toList, "local".toList, "bin".toList], .folder), (["dev".toList], .folder),
    (["tmp".toList], .folder), (["root".toList], .folder)] ++
  utilityNames.map (fun n => (utilityFolder ++ [n], Entry.utility n)) ++
  [(utilityFolder ++ ["dash".toList], Entry.utility "sh".toList)] ++
  deviceNames.map fun n => (["dev".toList, n], Entry.device n)

/-- A disk with what a computer has from the start, where nothing else stands. -/
def install (d : Disk) : Disk :=
  { d with entries := d.entries ++ entries.filter fun e => (d.at? e.1).isNone }

/-- The search path for programs. -/
def searchPath : Text := "/usr/local/bin:/usr/bin:/bin".toList

/-- The home folder. -/
def home : Text := "/root".toList

/-- How deep a run may go. -/
def depthLimit : Nat := 300000

/-- The number of the first process. -/
def firstProcess : Nat := 4000

/-- A process that is about to run a program, with variables. -/
def begin (bindings : List (Text × Text)) (limit : Nat) (d : Disk) : State :=
  let bindings := (("PATH".toList, searchPath) :: ("HOME".toList, home) :: bindings).map fun v =>
    Variable.mk (Octet.ofText v.1) (some (Octet.ofText v.2)) true false
  { machine := ⟨d, 0, limit, [], [], firstProcess + 1⟩
    process := firstProcess, main := firstProcess, name := [], arguments := [], bindings
    functions := []
    aliases := []
    streams := [(0, .nowhere), (1, .output 1), (2, .output 2)]
    status := 0, substituted := 0, lastJob := none, jobs := []
    switches := ⟨[]⟩
    traps := [], depth := 0, loops := 0, shadowed := [], keptSwitches := none, line := 0
    context := []
    pending := [], found := [], optionPlace := none, flow := .next }

/-- How a process has ended. -/
def endingOf (s : State) : Ending :=
  match s.flow with
  | .stuck => .running
  | .killed _ signal => .killed signal
  | _ => .exited s.status

/-- The last moment whose output is read. -/
def lastMoment (limit : Nat) (s : State) : Nat :=
  match s.flow with
  | .stuck => limit
  | _ => s.machine.now + State.drainTime

/-- What was written to an output until some moment, in the order of time. -/
def written (stream last : Nat) (s : State) : Octets :=
  let chunks := s.machine.chunks.reverse.filter fun c => c.stream == stream && c.time ≤ last
  Octet.toOctets ((chunks.mergeSort fun a b => a.time ≤ b.time).flatMap (·.text))

/-- What a run has come to. -/
def outcome (limit : Nat) (s : State) (cwd : Location) : ProcessRun where
  ending := endingOf s
  stdout := written 1 (lastMoment limit s) s
  stderr := written 2 (lastMoment limit s) s
  disk := { s.machine.disk with cwd }

/-- Starts a process with variables. -/
def spawn (bindings : List (Text × Text)) (l : Launch) (d : Disk) : Except Fault ProcessRun := do
  let folder ← d.locate true l.folder.text
  let inside := { d with cwd := folder.location }
  let words := l.arguments.map Octet.ofText
  let found ← Loaded.find inside searchPath (words.headD [])
  match found.program with
  | .commands => throw .notProgram
  | _ =>
    -- Within no time at all, a process does nothing.
    if l.limit = 0 then return ⟨.running, [], [], d, none⟩
    let start := begin bindings l.limit inside
    return outcome l.limit (Shell.load depthLimit start.process found words start) d.cwd

/-- The computer as a host whose processes see these variables. -/
def host (bindings : List (Text × Text)) : Host where
  spawn := spawn bindings

end Computer
end DocExamples
