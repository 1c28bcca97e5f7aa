/-
# Running programs in a private folder

A program is written to a file in a folder of its own, below the folder
`.testdoc` of the working folder, and the interpreter is started on that file.
The private folder is removed whatever happens, and `.testdoc` with it unless it
holds something else.

| the process | exit code | standard error |
| --- | --- | --- |
| cannot be started | 1 | a sentence that says why |
| exits with code `n` | `n` | as written |
| is killed by a signal | 1 | as written |
| is still running at the limit | not 0 | a line about the limit, then as written |

A limit that is over at once finds the process running.  Where the end of a limit
cannot be computed, the process has been started and is left to itself.

That the private folder cannot be removed goes unnoticed, unless folders are nested in it
too deep for the stack: then there is no outcome, whatever the process came to.
-/

import DocExamples.Disk.Edit
import DocExamples.Disk.RealPath
import DocExamples.Run.Executor
import DocExamples.Run.Host
import DocExamples.Settings.Environment
import DocExamples.Settings.Stack

namespace DocExamples

/-- A disk that programs are run on, and the moment. -/
structure Site where
  /-- The disk. -/
  disk : Disk
  /-- The number of the moment. -/
  serial : Nat

namespace Workspace

/-- The folder that holds private folders. -/
def shelfName : Text := ".testdoc".toList

/-- The name of a program's file, without its suffix. -/
def fileStem : Text := "test".toList

/-- The name of the private folder of a program. -/
def folderName (stamp : Stamp) : Text :=
  "test-".toList ++ Text.decimal stamp.time.toNat ++ '-' :: Text.hexadecimal 8 stamp.mark.toNat

/-- The paths that running one program needs. -/
structure Layout where
  /-- The working folder. -/
  working : Path
  /-- The folder that holds private folders. -/
  shelf : Path
  /-- The private folder. -/
  folder : Path
  /-- The file of the program. -/
  file : Path

/-- The paths for a program in a working folder. -/
def layout (working : Path) (stamp : Stamp) (suffix : Text) : Layout where
  working := working
  shelf := working.join shelfName
  folder := (working.join shelfName).join (folderName stamp)
  file := ((working.join shelfName).join (folderName stamp)).join (fileStem ++ suffix)

variable [Stack]

/-- Whether the stack has no room for the removal of the private folder. -/
def clogged (host : Host) (l : Layout) (d : Disk) : Bool :=
  match d.locate false l.folder.text with
  | .ok ⟨place, some .folder⟩ => d.nestsBeyond Stack.removals place && host.full place d
  | _ => false

/-- A disk without the private folder, and without the folder above it if that is empty.  Where
the stack has no room for the one, the other is not tried. -/
def cleared (host : Host) (l : Layout) (d : Disk) : Disk :=
  let left := d.removeTree Stack.removals host.halt l.folder.text
  if clogged host l d then left else left.removeEmptyFolder l.shelf.text

/-- The outcome when the interpreter cannot be started. -/
def notStarted (program : Text) (f : Fault) : Outcome where
  exitCode := 1
  stdout := []
  stderr := "Failed to start interpreter ".toList ++ Text.quoted program ++ ": ".toList ++
    (Failure.disk f program).message
  timedOut := false

/-- The line about the time limit. -/
def timeoutLine (timeout : Json) : Text :=
  "Timed out after ".toList ++ timeout.shown ++ "ms\n".toList

/-- The outcome of a process that was started. -/
def outcomeOf (timeout : Json) (p : ProcessRun) : Outcome :=
  let stdout := Utf8.decodeLenient p.stdout
  let stderr := Utf8.decodeLenient p.stderr
  match p.ending with
  | .exited code => ⟨code, stdout, stderr, false⟩
  | .killed _ => ⟨1, stdout, stderr, false⟩
  | .running => ⟨if p.late.getD 0 = 0 then 1 else p.late.getD 0, stdout,
      timeoutLine timeout ++ stderr, true⟩

/-- The least number of milliseconds for which no deadline can be computed: a
thousand times the first number that is no finite binary64 number. -/
def limitBound : Int := (1000 * (Nat.pow 2 1024 - Nat.pow 2 970) : Nat)

/-- The milliseconds until a time limit, at least one; none if it is over at once, as it is
where a thousandth of it is too small for a binary64 number.  Truth values count as one and
zero. -/
def millisecondsOf : Json → Except Failure (Option Nat)
  | .bool b => .ok (if b then some 1 else none)
  | .int n =>
    if limitBound ≤ n.natAbs then .error .limitTooLarge
    else .ok (if n ≤ 0 then none else some n.toNat)
  | .decimal d =>
    if d.negative then .ok none
    else
      match Binary64.ofDecimal d with
      | .infinite => .ok (some limitBound.toNat)
      | .finite m e =>
        if m * Nat.pow 2 (e + 1075).toNat ≤ 1000 then .ok none
        else
          .ok (some (max 1 (if e < 0 then m / Nat.pow 2 (-e).toNat else m * Nat.pow 2 e.toNat)))
  | limit => .error (.limitNotNumber limit.kind)

/-- What running a program came to, and the disk afterwards. -/
structure Ran where
  /-- The outcome, or why there is none. -/
  outcome : Except Failure Outcome
  /-- The disk. -/
  disk : Disk

/-- A process whose limit was over before it was looked at: if it has ended by itself, it did so
too late. -/
def overdue (p : ProcessRun) : ProcessRun :=
  { p with
    ending := .running
    late :=
      match p.ending with
      | .exited code => some code
      | .killed _ => none
      | .running => p.late }

/-- A process as it is found at its limit. -/
def atLimit (limit : Option Nat) (p : ProcessRun) : ProcessRun :=
  match limit with
  | some _ => p
  | none => overdue p

/-- Starts the interpreter on the program's file and waits for it. -/
def launch (host : Host) (i : Interpreter) (l : Layout) (timeout : Json) (d : Disk) : Ran :=
  let arguments := i.arguments l.file.text
  let limit := millisecondsOf timeout
  if arguments.any (·.contains '\x00') then ⟨.error .nulInPath, d⟩
  else
    match host.spawn ⟨arguments, l.working, (limit.toOption.join).getD 0⟩ d with
    | .error f => ⟨.ok (notStarted (arguments.headD []) f), d⟩
    | .ok p =>
      match limit with
      | .error f => ⟨.error f, p.disk⟩
      | .ok limit => ⟨.ok (outcomeOf timeout (atLimit limit p)), p.disk⟩

/-- Writes a program to its file and runs it; the private folder is there. -/
def runInside (host : Host) (i : Interpreter) (l : Layout) (job : Job) (d : Disk) : Ran :=
  match Disk.ask l.file.text (d.writeFile l.file.text (Utf8.encode job.program)) with
  | .error f => ⟨.error f, d⟩
  | .ok d => launch host i l job.timeout d

/-- Runs a program in a private folder. -/
def run (host : Host) (i : Interpreter) (stamp : Stamp) (job : Job) (d : Disk) : Ran :=
  match d.realPath job.workingFolder with
  | .error f => ⟨.error f, d⟩
  | .ok working =>
    let l := layout working stamp i.suffix
    let made := d.makeFolders l.folder
    match made.failure with
    | some f => ⟨.error f, made.disk⟩
    | none =>
      let ran := runInside host i l job made.disk
      ⟨if clogged host l ran.disk then .error .stackFull else ran.outcome,
        cleared host l ran.disk⟩

/-- The executor that runs programs in private folders. -/
def executor (host : Host) (i : Interpreter) : Executor Site where
  disk := Site.disk
  execute job := fun s =>
    let ran := run host i (host.stamp s.serial) job s.disk
    (ran.outcome, ⟨ran.disk, s.serial + 1⟩)
  clock := fun s => (host.time s.serial, ⟨s.disk, s.serial + 1⟩)

end Workspace
end DocExamples
