/-
# Hosts

A host starts processes.  A process works on the disk, writes to its two outputs,
and within its time limit ends by itself, is killed by a signal, or is still
running when the limit is reached.  The host also has a clock, draws names for
private folders, and has its own way to give up on removing a folder.
-/

import DocExamples.Disk.Resolve
import DocExamples.Text.Utf8

namespace DocExamples

/-- A process to start. -/
structure Launch where
  /-- The program and its arguments. -/
  arguments : List Text
  /-- The folder that the process works in. -/
  folder : Path
  /-- How many milliseconds the process may take. -/
  limit : Nat
deriving DecidableEq, Repr

/-- What a process has come to when its time limit is reached. -/
inductive Ending where
  /-- It has ended with an exit code. -/
  | exited (code : Nat)
  /-- It was killed by a signal. -/
  | killed (signal : Nat)
  /-- It has not ended. -/
  | running
deriving DecidableEq, Repr

/-- A process that was started. -/
structure ProcessRun where
  /-- What it has come to at its limit. -/
  ending : Ending
  /-- What it wrote to standard output. -/
  stdout : Octets
  /-- What it wrote to standard error. -/
  stderr : Octets
  /-- The disk as it leaves it. -/
  disk : Disk
  /-- The exit code, if it was still running at its limit and yet ended by itself before it
  could be killed. -/
  late : Option Nat := none

/-- What the name of a private folder is made of. -/
structure Stamp where
  /-- The time, in milliseconds. -/
  time : UInt64
  /-- A random number. -/
  mark : UInt32
deriving DecidableEq, Repr

/-- Something that starts processes.  Moments are counted: each start of a program and each
look at the clock is one. -/
structure Host where
  /-- Starts a process, or says why it cannot be started. -/
  spawn : Launch → Disk → Except Fault ProcessRun
  /-- What the private folder is named after that is made at a moment. -/
  stamp : Nat → Stamp := fun n => ⟨UInt64.ofNat (1700000000000 + n), UInt32.ofNat n⟩
  /-- What the clock shows at a moment, in nanoseconds. -/
  time : Nat → Int := fun _ => 0
  /-- The disk when the removal of the folder at a location had to be given up. -/
  halt : Location → Disk → Disk := fun _ d => d
  /-- Whether that was for want of room on the stack, where folders are nested too deep for it. -/
  full : Location → Disk → Bool := fun _ _ => true

end DocExamples
