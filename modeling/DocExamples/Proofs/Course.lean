/-
# The course of one program

To run a program, its private folder is made, its file is written, the interpreter is
started on the file, and the process is watched until its time limit.  Every step can fail,
and then the later ones are not taken; the private folder is cleared whichever step was the
last.

| the last step | outcome | disk before it is cleared |
| --- | --- | --- |
| no private folder | a failure | not cleared at all |
| no file | a failure | with the private folder |
| no process | a failure or a sentence about it | with the file too |
| a process, but no limit | a failure | as the process left it |
| a process and a limit | how it ended | as the process left it |

Where the stack has no room for clearing the private folder, there is only that to report.
-/

import DocExamples.Run.Workspace

namespace DocExamples
namespace Workspace

/-- The paths of a job and the disk with its private folder, unless that cannot be made. -/
def housed? [Stack] (i : Interpreter) (stamp : Stamp) (job : Job) (d : Disk) : Option (Layout × Disk) :=
  match d.realPath job.workingFolder with
  | .error _ => none
  | .ok working =>
    let l := layout working stamp i.suffix
    let made := d.makeFolders l.folder
    if made.failure.isSome then none else some (l, made.disk)

/-- A disk with the file of a job, unless that cannot be written. -/
def written? (l : Layout) (job : Job) (d : Disk) : Option Disk :=
  (Disk.ask l.file.text (d.writeFile l.file.text (Utf8.encode job.program))).toOption

/-- What the host is asked to start. -/
def launchOf (i : Interpreter) (l : Layout) (timeout : Json) : Launch :=
  ⟨i.arguments l.file.text, l.working, ((millisecondsOf timeout).toOption.join).getD 0⟩

/-- The process that the interpreter is started in, as the host runs it. -/
def started? (host : Host) (i : Interpreter) (l : Layout) (timeout : Json) (d : Disk) :
    Option ProcessRun :=
  let asked := launchOf i l timeout
  if asked.arguments.any (·.contains '\x00') then none else (host.spawn asked d).toOption

/-- A process as it is found when its time limit is reached.  A limit that cannot be computed is
never reached. -/
def reached? (timeout : Json) (p : ProcessRun) : Option ProcessRun :=
  (millisecondsOf timeout).toOption.map fun limit => atLimit limit p

/-- The process that is started for a program, whatever the limit; none, if it does not come to
that. -/
def spawned? [Stack] (host : Host) (i : Interpreter) (stamp : Stamp) (job : Job) (d : Disk) :
    Option ProcessRun :=
  (housed? i stamp job d).bind fun h =>
    (written? h.1 job h.2).bind (started? host i h.1 job.timeout)

/-- The process that a program is run in, as it is found at its time limit. -/
def process? [Stack] (host : Host) (i : Interpreter) (stamp : Stamp) (job : Job) (d : Disk) :
    Option ProcessRun :=
  (spawned? host i stamp job d).bind (reached? job.timeout)

/-- Whether the stack has no room for clearing the private folder of a program, as it is left. -/
def clogs [Stack] (host : Host) (i : Interpreter) (stamp : Stamp) (job : Job) (d : Disk) : Bool :=
  (housed? i stamp job d).any fun h => clogged host h.1 (runInside host i h.1 job h.2).disk

/-- What there is to report where no process is watched: a failure, or a sentence about why
the interpreter cannot be started. -/
inductive Unwatched : Except Failure Outcome → Prop
  | failure (f : Failure) : Unwatched (.error f)
  | refused (program : Text) (f : Fault) : Unwatched (.ok (notStarted program f))

/-! ### Step by step -/

/-- A process is started and leaves the disk as it likes, or else nothing happens to the disk. -/
theorem disk_launch (host : Host) (i : Interpreter) (l : Layout) (timeout : Json) (d : Disk) :
    (launch host i l timeout d).disk = ((started? host i l timeout d).map (·.disk)).getD d := by
  simp only [started?, launch, launchOf]
  by_cases hnul : ((i.arguments l.file.text).any (·.contains '\x00')) = true
  · simp only [hnul, if_true]
    rfl
  · simp only [hnul, Bool.false_eq_true, if_false]
    cases host.spawn ⟨i.arguments l.file.text, l.working,
        ((millisecondsOf timeout).toOption.join).getD 0⟩ d with
    | error f => rfl
    | ok p => cases millisecondsOf timeout <;> rfl

/-- A process is watched to its limit, or else the outcome says why there is none. -/
theorem outcome_launch (host : Host) (i : Interpreter) (l : Layout) (timeout : Json) (d : Disk) :
    (∃ p, (started? host i l timeout d).bind (reached? timeout) = some p ∧
        (launch host i l timeout d).outcome = .ok (outcomeOf timeout p)) ∨
      (started? host i l timeout d).bind (reached? timeout) = none ∧
        Unwatched (launch host i l timeout d).outcome := by
  simp only [started?, launch, launchOf]
  by_cases hnul : ((i.arguments l.file.text).any (·.contains '\x00')) = true
  · simp only [hnul, if_true]
    exact .inr ⟨rfl, .failure _⟩
  · simp only [hnul, Bool.false_eq_true, if_false]
    cases host.spawn ⟨i.arguments l.file.text, l.working,
        ((millisecondsOf timeout).toOption.join).getD 0⟩ d with
    | error f => exact .inr ⟨rfl, .refused _ f⟩
    | ok p =>
      simp only [Except.toOption, Option.bind_some, reached?]
      cases millisecondsOf timeout with
      | error f => exact .inr ⟨rfl, .failure f⟩
      | ok limit => exact .inl ⟨_, rfl, rfl⟩

/-- The file is written and the interpreter started, or else nothing happens to the disk. -/
theorem runInside_cases (host : Host) (i : Interpreter) (l : Layout) (job : Job) (d : Disk) :
    (∃ written, written? l job d = some written ∧
        runInside host i l job d = launch host i l job.timeout written) ∨
      written? l job d = none ∧ Unwatched (runInside host i l job d).outcome ∧
        (runInside host i l job d).disk = d := by
  simp only [written?, runInside]
  cases Disk.ask l.file.text (d.writeFile l.file.text (Utf8.encode job.program)) with
  | error f => exact .inr ⟨rfl, .failure f, rfl⟩
  | ok written => exact .inl ⟨written, rfl, rfl⟩

section

variable [Stack]

/-- The private folder is made, used and cleared, or else there is a failure. -/
theorem run_cases (host : Host) (i : Interpreter) (stamp : Stamp) (job : Job) (d : Disk) :
    (∃ l made, housed? i stamp job d = some (l, made) ∧ run host i stamp job d =
        ⟨if clogged host l (runInside host i l job made).disk then .error .stackFull
          else (runInside host i l job made).outcome,
        cleared host l (runInside host i l job made).disk⟩) ∨
      housed? i stamp job d = none ∧ Unwatched (run host i stamp job d).outcome := by
  simp only [housed?, run]
  cases d.realPath job.workingFolder with
  | error f => exact .inr ⟨rfl, .failure f⟩
  | ok working =>
    simp only
    cases (d.makeFolders (layout working stamp i.suffix).folder).failure with
    | some f => exact .inr ⟨rfl, .failure f⟩
    | none => exact .inl ⟨_, _, rfl, rfl⟩

theorem clogs_of_housed? (host : Host) {i : Interpreter} {stamp : Stamp} {job : Job} {d made : Disk}
    {l : Layout} (h : housed? i stamp job d = some (l, made)) :
    clogs host i stamp job d = clogged host l (runInside host i l job made).disk := by
  rw [clogs, h]
  rfl

/-! ### The whole course -/

/-- Where the stack has no room for clearing, there is nothing else to report. -/
theorem outcome_run_of_clogs {host : Host} {i : Interpreter} {stamp : Stamp} {job : Job} {d : Disk}
    (h : clogs host i stamp job d = true) :
    (run host i stamp job d).outcome = .error .stackFull := by
  rcases run_cases host i stamp job d with ⟨l, made, hhoused, hrun⟩ | ⟨hnone, -⟩
  · rw [clogs_of_housed? host hhoused] at h
    rw [hrun]
    exact if_pos h
  · rw [clogs, hnone] at h
    exact absurd h Bool.false_ne_true

/-- Otherwise clearing leaves the outcome as it is. -/
theorem outcome_run_of_housed? {host : Host} {i : Interpreter} {stamp : Stamp} {job : Job}
    {d made : Disk} {l : Layout} (h : housed? i stamp job d = some (l, made))
    (hclear : clogs host i stamp job d = false) :
    (run host i stamp job d).outcome = (runInside host i l job made).outcome := by
  rcases run_cases host i stamp job d with ⟨l', made', hsome, hrun⟩ | ⟨hnone, -⟩
  · obtain ⟨rfl, rfl⟩ := Prod.mk.inj (Option.some.inj (h.symm.trans hsome))
    rw [clogs_of_housed? host h] at hclear
    rw [hrun]
    exact if_neg (Bool.eq_false_iff.1 hclear)
  · cases hnone.symm.trans h

/-- **The outcome is that of the process, or says why there is none**, unless the stack has no
room for clearing. -/
theorem outcome_run (host : Host) (i : Interpreter) (stamp : Stamp) (job : Job) (d : Disk)
    (hclear : clogs host i stamp job d = false) :
    (∃ p, process? host i stamp job d = some p ∧
        (run host i stamp job d).outcome = .ok (outcomeOf job.timeout p)) ∨
      process? host i stamp job d = none ∧ Unwatched (run host i stamp job d).outcome := by
  rcases run_cases host i stamp job d with ⟨l, made, hhoused, -⟩ | ⟨hhoused, hrun⟩
  · rw [outcome_run_of_housed? hhoused hclear]
    rcases runInside_cases host i l job made with
      ⟨written, hwritten, hinside⟩ | ⟨hwritten, hinside, -⟩
    · have hprocess : process? host i stamp job d =
          (started? host i l job.timeout written).bind (reached? job.timeout) := by
        simp only [process?, spawned?, hhoused, hwritten, Option.bind_some]
      rw [hinside, hprocess]
      exact outcome_launch host i l job.timeout written
    · exact .inr ⟨by simp [process?, spawned?, hhoused, hwritten], hinside⟩
  · exact .inr ⟨by simp [process?, spawned?, hhoused], hrun⟩

variable (host : Host) {i : Interpreter} {stamp : Stamp} {job : Job} {d made : Disk} {l : Layout}

/-- What is left in the private folder and elsewhere is cleared. -/
theorem disk_run (h : housed? i stamp job d = some (l, made)) :
    (run host i stamp job d).disk = cleared host l (runInside host i l job made).disk := by
  rcases run_cases host i stamp job d with ⟨l', made', hsome, hrun⟩ | ⟨hnone, -⟩
  · rw [h] at hsome
    obtain ⟨rfl, rfl⟩ := Prod.mk.inj (Option.some.inj hsome)
    rw [hrun]
  · rw [h] at hnone
    exact nomatch hnone

/-- What is left is what the process left, or the private folder and perhaps the file. -/
theorem disk_runInside (h : housed? i stamp job d = some (l, made)) :
    (∃ p, spawned? host i stamp job d = some p ∧ (runInside host i l job made).disk = p.disk) ∨
      spawned? host i stamp job d = none ∧ ((runInside host i l job made).disk = made ∨
        ∃ written, written? l job made = some written ∧
          (runInside host i l job made).disk = written) := by
  rcases runInside_cases host i l job made with ⟨written, hwritten, hinside⟩ | ⟨hwritten, -, hdisk⟩
  · have hspawned : spawned? host i stamp job d = started? host i l job.timeout written := by
      simp only [spawned?, h, hwritten, Option.bind_some]
    have hdisk := disk_launch host i l job.timeout written
    rw [hinside, hspawned]
    cases hstarted : started? host i l job.timeout written with
    | some p => exact .inl ⟨p, rfl, by rw [hdisk, hstarted]; rfl⟩
    | none => exact .inr ⟨rfl, .inr ⟨written, hwritten, by rw [hdisk, hstarted]; rfl⟩⟩
  · exact .inr ⟨by simp [spawned?, h, hwritten], .inl hdisk⟩

end

/-- A process is watched only if its limit can be computed. -/
theorem exists_millisecondsOf [Stack] {host : Host} {i : Interpreter} {stamp : Stamp} {job : Job} {d : Disk}
    {p : ProcessRun} (h : process? host i stamp job d = some p) :
    ∃ limit, millisecondsOf job.timeout = .ok limit := by
  obtain ⟨q, -, h⟩ := Option.bind_eq_some_iff.1 h
  obtain ⟨limit, hlimit, -⟩ := Option.map_eq_some_iff.1 h
  cases hmilliseconds : millisecondsOf job.timeout with
  | error f =>
    rw [hmilliseconds] at hlimit
    exact nomatch hlimit
  | ok limit => exact ⟨limit, rfl⟩

end Workspace
end DocExamples
