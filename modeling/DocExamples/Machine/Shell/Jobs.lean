/-
# Jobs

Processes that a shell does not wait for are its jobs.  A job has a number, the
least that is free when it is started; one that was waited for keeps its number
until another takes it.  Jobs are listed from the last one started to the first.
-/

import DocExamples.Machine.Shell.Answer
import DocExamples.Machine.Shell.Signals

namespace DocExamples
namespace Shell

namespace Job

/-- Whether a job has ended. -/
def isDone (j : Job) (now : Nat) : Bool := j.finish.any (· ≤ now)

/-- What a list says of a job. -/
def state (j : Job) (now : Nat) : Text :=
  if !j.isDone now then "Running".toList
  else if 128 < j.status ∧ j.killed then
    (deathNotice (j.status - 128)).filter (· != '\n')
  else if j.status = 0 then "Done".toList
  else "Done(".toList ++ Text.decimal j.status ++ [')']

/-- A job in a list, with a mark for the last one and the one before. -/
def line (j : Job) (now : Nat) (mark : Char) (shows : Bool) : Text :=
  let head := '[' :: Text.decimal j.number ++ [']', ' ', mark, ' '] ++
    (if shows then Text.decimal j.process ++ [' '] else []) ++ j.state now
  head ++ List.replicate (max 1 (33 - head.length)) ' ' ++
    (List.replicate (j.commands - 1) " | ".toList).flatten ++ ['\n']

end Job

namespace State

/-- The mark of a job in a list. -/
def jobMark (s : State) (j : Job) : Char :=
  if (s.jobs.head?).any (·.number == j.number) then '+'
  else if (s.jobs[1]?).any (·.number == j.number) then '-'
  else ' '

/-- The least number that is free for a new job. -/
def freeJobNumber (s : State) : Nat :=
  let taken (n : Nat) : Bool :=
    s.jobs.any fun j => j.number == n && !(j.waited && j.isDone s.machine.now)
  ((List.range (s.jobs.length + 1)).map (· + 1)).find? (!taken ·) |>.getD 1

/-- The state with a new job. -/
def addJob (s : State) (j : Job) : State :=
  { s with jobs := j :: s.jobs.filter (·.number != j.number) }

/-- The job that an argument asks for, or what is said if there is none. -/
def job? (s : State) (a : Text) : Except Text Job :=
  let missing : Except Text Job := .error ("No such job: ".toList ++ a)
  match a with
  | '%' :: spec =>
    if spec.isEmpty || spec = ['%'] || spec = ['+'] then
      (s.jobs.head?).elim (.error "No current job".toList) .ok
    else if spec = ['-'] then (s.jobs[1]?).elim (.error "No previous job".toList) .ok
    else
      match Octet.number? spec with
      | some n => (s.jobs.find? (·.number == n)).elim missing .ok
      | none => missing
  | _ => missing

/-- The job that a process is. -/
def jobOf? (s : State) (process : Nat) : Option Job := s.jobs.find? (·.process == process)

/-- Kills a job, which writes nothing from now on. -/
def killJob (s : State) (process signal : Nat) : State :=
  let now := s.machine.now
  let jobs := s.jobs.map fun j =>
    if j.process = process && j.finish.all (now < ·) then
      { j with finish := some now, status := deathStatus signal, killed := true }
    else j
  let chunks := s.machine.chunks.filter fun c => !(c.process == process && now < c.time)
  { s with jobs, machine := { s.machine with chunks } }

/-- Sends a signal to a process. -/
def send (s : State) (signal : Nat) (target : Int) : State :=
  let number := target.natAbs
  if target = 0 ∨ number = s.main ∨ number = s.process then
    match s.traps.find? (·.1 == signal) with
    | some (_, action) =>
      if signal = 9 then { s with flow := .killed s.process 9 }
      else if action.isEmpty then s
      else { s with pending := s.pending ++ [signal] }
    | none =>
      match signalEffect signal with
      | .ignored => s
      | .stops => { s with flow := .stuck }
      | .kills => { s with flow := .killed (if target = 0 then s.main else number) signal }
  else if (s.jobOf? number).isSome then
    match signalEffect signal with
    | .kills => s.killJob number signal
    | _ => s
  else if number = 1 ∧ signal = 0 then s
  else (s.refuse 1 "kill: No such process\n".toList)

/-- Sends a signal to processes. -/
def kill (s : State) (args : List Text) : State :=
  let sendAll (signal : Nat) (targets : List Text) : State :=
    s.forEach (targets.filter (· != ['-', '-'])) fun s a =>
      match Octet.integer? a with
      | some p => s.send signal p
      | none =>
        if !Text.startsWith ['%'] a then s.refuse 2 ("kill: Illegal number: ".toList ++ a)
        else
          match s.job? a with
          | .ok _ => s.refuse 1 "kill: No such process\n".toList
          | .error m => s.refuse 2 ("kill: ".toList ++ m)
  match args with
  | [] =>
    s.refuse 2 ("kill: Usage: kill [-s sigspec | -signum | -sigspec] [pid | job]... or\n" ++
      "kill -l [exitstatus]").toList
  | ['-', 'l'] :: a :: _ =>
    match Octet.number? a with
    | some n =>
      let number := if n < 128 then n else n - 128
      if number = 0 ∨ lastSignal < number then
        s.refuse 2 ("kill: invalid signal number or exit status: ".toList ++ a)
      else (s.write 1 (signalName number ++ ['\n'])).withStatus 0
    | none => s.refuse 2 ("kill: Illegal number: ".toList ++ a)
  | ['-', 'l'] :: _ => (s.write 1 (signals.flatMap fun e => e.2.1.toList ++ ['\n'])).withStatus 0
  | ['-', 's'] :: name :: targets =>
    match signal? name with
    | some n => sendAll n targets
    | none => s.refuse 2 ("kill: invalid signal number or name: ".toList ++ name)
  | ('-' :: c :: name) :: targets =>
    if (c :: name) = ['-'] then sendAll 15 targets
    else
      match signal? (c :: name) with
      | some n => sendAll n targets
      | none => s.refuse 2 ("kill: Illegal option -".toList ++ [c])
  | targets => sendAll 15 targets

/-- The state when a job has ended; one that never ends is waited for until the run is ended. -/
def untilDone (s : State) (j : Job) : State :=
  if !s.goesOn then s
  else
    match j.finish with
    | some t => if s.machine.now < t then s.pause (t - s.machine.now) else s
    | none => { s with flow := .stuck }

/-- Waits for processes. -/
def wait (s : State) (args : List Text) : State :=
  let waited (s : State) (chosen : Job → Bool) : State :=
    { s with jobs := s.jobs.map fun j => if chosen j then { j with waited := true } else j }
  let waitFor (s : State) (j : Job) : State :=
    let s := waited (s.untilDone j) (·.number == j.number)
    let notice := if j.killed then deathNotice (j.status - 128) else []
    (s.write 2 notice).withStatus j.status
  s.withOptions "wait".toList "" args fun _ names =>
    if names.isEmpty then (waited (s.jobs.foldl untilDone s) fun _ => true).withStatus 0
    else
      s.forEach names fun s a =>
        if Text.startsWith ['%'] a then
          match s.job? a with
          | .ok j => waitFor s j
          | .error m => s.refuseIn "wait".toList 2 m
        else
          match Octet.number? a with
          | none => s.refuseIn "wait".toList 2 ("Illegal number: ".toList ++ a)
          | some n =>
            match s.jobOf? n with
            | some j => waitFor s j
            | none => s.withStatus 127

/-- Shows jobs; one that has ended is shown once. -/
def showJobs (s : State) (args : List Text) : State :=
  s.withOptions "jobs".toList "lp" args fun letters names =>
    let now := s.machine.now
    let shown (s : State) (j : Job) : State :=
      let said :=
        if letters.contains 'p' then Text.decimal j.process ++ ['\n']
        else j.line now (s.jobMark j) (letters.contains 'l')
      let s := (s.write 1 said)
      if j.isDone now && !letters.contains 'p' then
        { s with jobs := s.jobs.filter (·.number != j.number) }
      else s
    if names.isEmpty then s.jobs.foldl shown (s.withStatus 0)
    else
      s.forEach names fun s a =>
        if s.status != 0 then s
        else
          match s.job? a with
          | .ok j => shown s j
          | .error m => s.refuseIn "jobs".toList 2 m

/-- Takes a job to the front, which no job can be taken to. -/
def takeUp (s : State) (name : Text) (args : List Text) : State :=
  let a := args.headD ['%']
  match s.job? a with
  | .ok _ =>
    s.refuseIn name 2
      ("job ".toList ++ args.headD "(null)".toList ++ " not created under job control".toList)
  | .error m => s.refuseIn name 2 m

end State
end Shell
end DocExamples
