/-
# State of a shell

All processes of a run share one machine: a disk, a clock, the output so far and
the buffers behind pipes and opened files.  A shell has variables, functions and
streams of its own; a subshell starts with a copy of them, and only the machine
goes back to its parent.
-/

import DocExamples.Machine.Shell.Grammar
import DocExamples.Machine.Utility.Call

namespace DocExamples
namespace Shell

/-- A piece of output, and when and by which process it was written. -/
structure Chunk where
  /-- The time in milliseconds. -/
  time : Nat
  /-- The number of the process. -/
  process : Nat
  /-- 1 for standard output, 2 for standard error. -/
  stream : Nat
  /-- The octets. -/
  text : Text

/-- Where a stream of a process leads. -/
inductive Channel where
  /-- One of the outputs of the whole run. -/
  | output (stream : Nat)
  /-- A buffer. -/
  | buffer (n : Nat)
  /-- A buffer with what a file holds. -/
  | opened (n : Nat)
  /-- A folder, which cannot be read. -/
  | folder
  /-- The end of a file. -/
  | file (l : Location)
  /-- Nothing to read, and nothing kept of what is written. -/
  | nowhere
deriving DecidableEq, Repr

/-- What all processes of a run share. -/
structure Machine where
  /-- The disk, with the working folder of the process that runs. -/
  disk : Disk
  /-- How many milliseconds have passed. -/
  now : Nat
  /-- When the run is ended from outside. -/
  deadline : Nat
  /-- The output so far, the last piece first. -/
  chunks : List Chunk
  /-- What each buffer holds, the last piece first. -/
  buffers : List (Nat × List Text)
  /-- The number of the next process or buffer. -/
  next : Nat

/-- How a shell goes on after a command. -/
inductive Flow where
  /-- With the next command. -/
  | next
  /-- Behind so many loops. -/
  | leaves (loops : Nat)
  /-- With the next round of the last of so many loops. -/
  | repeats (loops : Nat)
  /-- Behind the function or script being run. -/
  | returns
  /-- Not at all. -/
  | exits
  /-- Not at all, since a process was killed by a signal. -/
  | killed (process signal : Nat)
  /-- Not before the run is ended. -/
  | stuck
deriving DecidableEq, Repr

/-- A variable. -/
structure Variable where
  /-- Its name. -/
  name : Text
  /-- Its value, if it has one. -/
  value : Option Text
  /-- Whether programs see it. -/
  exported : Bool
  /-- Whether it keeps its value. -/
  fixed : Bool
deriving DecidableEq, Repr

/-- A process that was not waited for. -/
structure Job where
  /-- The number that it is listed with. -/
  number : Nat
  /-- The number of the process. -/
  process : Nat
  /-- How many commands it joins. -/
  commands : Nat
  /-- When it ends, if it does. -/
  finish : Option Nat
  /-- Its exit code. -/
  status : Nat
  /-- Whether a signal kills it. -/
  killed : Bool
  /-- Whether the shell has waited for it. -/
  waited : Bool

/-- Settings of a shell: the names of those that are on. -/
structure Switches where
  /-- The names. -/
  on : List String
deriving DecidableEq, Repr

namespace Switches

/-- All settings in the order in which they are listed, with their letters. -/
def all : List (String × Option Char) := [
  ("errexit", some 'e'), ("noglob", some 'f'), ("ignoreeof", some 'I'), ("interactive", some 'i'),
  ("monitor", some 'm'), ("noexec", some 'n'), ("stdin", some 's'), ("xtrace", some 'x'),
  ("verbose", some 'v'), ("vi", some 'V'), ("emacs", some 'E'), ("noclobber", some 'C'),
  ("allexport", some 'a'), ("notify", some 'b'), ("nounset", some 'u'), ("privileged", some 'p'),
  ("nolog", none), ("debug", none)]

/-- Whether a setting is on. -/
def has (w : Switches) (name : String) : Bool := w.on.contains name

/-- The settings with one of them on or off; of the two editors only one is on. -/
def put (w : Switches) (name : String) (value : Bool) : Switches :=
  let others := w.on.filter fun n =>
    n != name && !(value && name == "vi" && n == "emacs") &&
      !(value && name == "emacs" && n == "vi")
  ⟨if value then name :: others else others⟩

/-- The settings with one of them on or off, by its letter. -/
def putLetter? (w : Switches) (letter : Char) (value : Bool) : Option Switches :=
  (all.find? (·.2 == some letter)).map fun e => w.put e.1 value

/-- The settings with one of them on or off, by its name. -/
def putNamed? (w : Switches) (name : Text) (value : Bool) : Option Switches :=
  (all.find? (·.1.toList == name)).map fun e => w.put e.1 value

/-- The letters of the settings that are on. -/
def letters (w : Switches) : Text :=
  (all.reverse.filter fun e => w.has e.1).filterMap (·.2)

/-- The settings as a table. -/
def table (w : Switches) : Text :=
  "Current option settings\n".toList ++ all.flatMap fun e =>
    e.1.toList ++ List.replicate (16 - e.1.length) ' ' ++
      (if w.has e.1 then "on\n" else "off\n").toList

/-- The commands that make the settings what they are. -/
def commands (w : Switches) : Text :=
  all.flatMap fun e =>
    (if w.has e.1 then "set -o " else "set +o ").toList ++ e.1.toList ++ ['\n']

/-- Whether the shell exits when a command fails. -/
def strict (w : Switches) : Bool := w.has "errexit"

/-- Whether the shell shows commands before it runs them. -/
def tracing (w : Switches) : Bool := w.has "xtrace"

/-- Whether variables have to be set. -/
def careful (w : Switches) : Bool := w.has "nounset"

/-- Whether patterns stand for themselves, not for files. -/
def literal (w : Switches) : Bool := w.has "noglob"

/-- Whether commands are only read. -/
def idle (w : Switches) : Bool := w.has "noexec"

/-- Whether source is shown as it is read. -/
def verbose (w : Switches) : Bool := w.has "verbose"

/-- Whether a file that is there is not overwritten. -/
def guarded (w : Switches) : Bool := w.has "noclobber"

/-- Whether programs see all variables that are assigned to. -/
def exporting (w : Switches) : Bool := w.has "allexport"

end Switches

/-- A shell. -/
structure State where
  /-- What it shares with other processes. -/
  machine : Machine
  /-- The number of its process. -/
  process : Nat
  /-- The number of the process that `$$` stands for. -/
  main : Nat
  /-- Its name. -/
  name : Text
  /-- Its arguments. -/
  arguments : List Text
  /-- Its variables. -/
  bindings : List Variable
  /-- Its functions. -/
  functions : List (Text × Command)
  /-- Its aliases. -/
  aliases : List Alias
  /-- Its streams. -/
  streams : List (Nat × Channel)
  /-- The exit code of the last command. -/
  status : Nat
  /-- The exit code of the last commands in the words of the command being run. -/
  substituted : Nat
  /-- The number of the last process that was not waited for. -/
  lastJob : Option Nat
  /-- The processes that were not waited for. -/
  jobs : List Job
  /-- Its settings. -/
  switches : Switches
  /-- What it does on signals; signal 0 is its end. -/
  traps : List (Nat × Text)
  /-- How many functions it is in. -/
  depth : Nat
  /-- How many loops it is in. -/
  loops : Nat
  /-- What variables were before the function being run took their names. -/
  shadowed : List Variable
  /-- The settings before that function changed them for itself. -/
  keptSwitches : Option Switches
  /-- The number of the line being run. -/
  line : Nat
  /-- What stands before a complaint about a command within another. -/
  context : Text
  /-- The signals whose traps are still to be run. -/
  pending : List Nat
  /-- The programs that it has found by their names, with their paths. -/
  found : List (Text × Text)
  /-- The argument behind the one that options are being read from, and the place in that. -/
  optionPlace : Option (Nat × Nat)
  /-- How it goes on. -/
  flow : Flow

namespace Machine

/-- What a buffer holds. -/
def bufferText (m : Machine) (n : Nat) : Text :=
  ((m.buffers.find? (·.1 == n)).map fun b => b.2.reverse.flatten).getD []

/-- The machine with other text in a buffer. -/
def setBuffer (m : Machine) (n : Nat) (s : Text) : Machine :=
  { m with buffers := (n, [s]) :: m.buffers.filter (·.1 != n) }

/-- The machine with more text in a buffer. -/
def addToBuffer (m : Machine) (n : Nat) (s : Text) : Machine :=
  { m with buffers := m.buffers.map fun b => if b.1 = n then (n, s :: b.2) else b }

/-- The machine with a new buffer, and its number. -/
def newBuffer (m : Machine) (s : Text) : Nat × Machine :=
  (m.next, { m.setBuffer m.next s with next := m.next + 1 })

/-- The machine without a buffer. -/
def dropBuffer (m : Machine) (n : Nat) : Machine :=
  { m with buffers := m.buffers.filter (·.1 != n) }

end Machine

namespace State

/-! ## Variables -/

/-- A variable by its name. -/
def named? (s : State) (name : Text) : Option Variable := s.bindings.find? (·.name == name)

/-- The value of a variable. -/
def value? (s : State) (name : Text) : Option Text := (s.named? name).bind (·.value)

/-- The state with a variable in place of any other of its name. -/
def putVariable (s : State) (v : Variable) : State :=
  { s with bindings := v :: s.bindings.filter (·.name != v.name) }

/-- The state with a value assigned to a variable. -/
def assign (s : State) (name value : Text) : State :=
  let old := s.named? name
  let exported := old.any (·.exported) || s.switches.exporting
  s.putVariable ⟨name, some value, exported, old.any (·.fixed)⟩

/-- The state without a variable. -/
def unset (s : State) (name : Text) : State :=
  { s with bindings := s.bindings.filter (·.name != name) }

/-- The variables that programs see. -/
def exports (s : State) : List Variable := s.bindings.filter fun v => v.exported && v.value.isSome

/-! ## Streams -/

/-- Where a stream leads. -/
def channel? (s : State) (stream : Nat) : Option Channel :=
  (s.streams.find? (·.1 == stream)).map (·.2)

/-- The state with a stream that leads elsewhere. -/
def redirect (s : State) (stream : Nat) (c : Channel) : State :=
  { s with streams := (stream, c) :: s.streams.filter (·.1 != stream) }

/-- The state without a stream. -/
def close (s : State) (stream : Nat) : State :=
  { s with streams := s.streams.filter (·.1 != stream) }

/-- The state after a write to a channel. -/
def writeTo (s : State) (c : Channel) (text : Text) : State :=
  let m := s.machine
  if text.isEmpty then s
  else
    match c with
    | .output n =>
    { s with machine := { m with chunks := ⟨m.now, s.process, n, text⟩ :: m.chunks } }
    | .buffer n => { s with machine := m.addToBuffer n text }
    | .opened _ => s
    | .folder => s
    | .file l =>
      match m.disk.at? l with
      | some (.file content x) =>
        { s with machine := { m with
            disk := m.disk.put l (.file (content ++ Octet.toOctets text) x) } }
      | _ => s
    | .nowhere => s

/-- The state after a write to a stream. -/
def write (s : State) (stream : Nat) (text : Text) : State :=
  match s.channel? stream with
  | some c => s.writeTo c text
  | none => s

/-- All that can be read from standard input. -/
def input (s : State) : Text :=
  match s.channel? 0 with
  | some (.buffer n) => s.machine.bufferText n
  | some (.opened n) => s.machine.bufferText n
  | _ => []

/-- Where standard input comes from. -/
def inputKind (s : State) : InputKind :=
  match s.channel? 0 with
  | some (.opened _) => .file
  | some .folder => .folder
  | _ => .stream

/-- The state with so much left to be read from standard input. -/
def withInput (s : State) (text : Text) : State :=
  match s.channel? 0 with
  | some (.buffer n) => { s with machine := s.machine.setBuffer n text }
  | some (.opened n) => { s with machine := s.machine.setBuffer n text }
  | _ => s

/-! ## Complaints -/

/-- A line of complaint at the line being run. -/
def complaint (s : State) (message : Text) : Text :=
  s.name ++ ": ".toList ++ Text.decimal s.line ++ ": ".toList ++ s.context ++ message ++ ['\n']

/-- The state after a complaint. -/
def complain (s : State) (message : Text) : State := s.write 2 (s.complaint message)

/-- The state after a complaint, with an exit code. -/
def refuse (s : State) (status : Nat) (message : Text) : State :=
  { s.complain message with status }

/-- The state after a complaint that ends the shell. -/
def giveUp (s : State) (message : Text) : State :=
  { s.complain message with status := 2, flow := .exits }

/-- Whether the shell goes on with the next command. -/
def goesOn (s : State) : Bool := s.flow == .next

/-- The state after so many milliseconds; a shell that waits beyond the deadline waits
for good. -/
def pause (s : State) (time : Nat) : State :=
  if time = 0 then s
  else
    let now := s.machine.now + time
    let s := { s with machine := { s.machine with now } }
    if s.machine.deadline ≤ now then { s with flow := .stuck } else s

end State
end Shell
end DocExamples
