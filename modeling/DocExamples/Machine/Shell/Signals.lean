/-
# Signals

Signals by number and name, what they do to a process that has not asked for
anything else, and how a shell says that a process was killed by one.
-/

import DocExamples.Machine.Octet

namespace DocExamples
namespace Shell

/-- The signals with a name, and what is said of a process that one killed. -/
def signals : List (Nat × String × String) := [
  (1, "HUP", "Hangup"), (2, "INT", ""), (3, "QUIT", "Quit"), (4, "ILL", "Illegal instruction"),
  (5, "TRAP", "Trace/breakpoint trap"), (6, "ABRT", "Aborted"), (7, "BUS", "Bus error"),
  (8, "FPE", "Floating point exception"), (9, "KILL", "Killed"),
  (10, "USR1", "User defined signal 1"), (11, "SEGV", "Segmentation fault"),
  (12, "USR2", "User defined signal 2"), (13, "PIPE", ""), (14, "ALRM", "Alarm clock"),
  (15, "TERM", "Terminated"), (16, "STKFLT", "Stack fault"), (17, "CHLD", ""), (18, "CONT", ""),
  (19, "STOP", ""), (20, "TSTP", ""), (21, "TTIN", ""), (22, "TTOU", ""), (23, "URG", ""),
  (24, "XCPU", "CPU time limit exceeded"), (25, "XFSZ", "File size limit exceeded"),
  (26, "VTALRM", "Virtual timer expired"), (27, "PROF", "Profiling timer expired"),
  (28, "WINCH", ""), (29, "IO", "I/O possible"), (30, "PWR", "Power failure"),
  (31, "SYS", "Bad system call")]

/-- The greatest number of a signal. -/
def lastSignal : Nat := 64

/-- The number of the signal that a text names; the end of a shell counts as signal 0. -/
def signal? (s : Text) : Option Nat :=
  match Octet.number? s with
  | some n => if n ≤ lastSignal then some n else none
  | none =>
    let name := s.map Char.toUpper
    if name = "EXIT".toList then some 0
    else (signals.find? fun e => e.2.1.toList == name).map (·.1)

/-- The name of a signal. -/
def signalName (n : Nat) : Text :=
  match signals.find? fun e => e.1 == n with
  | some e => e.2.1.toList
  | none => if n = 0 then "EXIT".toList else Text.decimal n

/-- What a signal does to a process that has not asked for anything else. -/
inductive SignalEffect where
  /-- It kills the process. -/
  | kills
  /-- It stops the process. -/
  | stops
  /-- Nothing. -/
  | ignored
deriving DecidableEq, Repr

/-- The effect of a signal. -/
def signalEffect (n : Nat) : SignalEffect :=
  if n = 0 ∨ n = 17 ∨ n = 18 ∨ n = 23 ∨ n = 28 then .ignored
  else if n = 19 ∨ n = 20 ∨ n = 21 ∨ n = 22 then .stops
  else .kills

/-- What is said of a process that a signal killed. -/
def deathNotice (n : Nat) : Text :=
  match signals.find? fun e => e.1 == n with
  | some e => if e.2.2.isEmpty then [] else e.2.2.toList ++ ['\n']
  | none => "Signal ".toList ++ Text.decimal n ++ ['\n']

/-- The exit code of a process that a signal killed. -/
def deathStatus (n : Nat) : Nat := 128 + n

end Shell
end DocExamples
