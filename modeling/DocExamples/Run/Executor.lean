/-
# Executors

An executor runs one program after another in some state of the world, of which
it shows the disk and a clock.  The scripted executor runs nothing: it gives prepared
answers in order, then success, and keeps the jobs that it was given; its clock
stands still.
-/

import DocExamples.Disk.Basic
import DocExamples.Path.Basic
import DocExamples.Run.Outcome

namespace DocExamples

/-- A program to run. -/
structure Job where
  /-- The text of the program. -/
  program : Text
  /-- The folder to run it in. -/
  workingFolder : Path
  /-- How many milliseconds it may take, as it was asked for. -/
  timeout : Json
deriving Repr

/-- Something that runs programs, with states in `σ`. -/
structure Executor (σ : Type) where
  /-- The disk in a state. -/
  disk : σ → Disk
  /-- Runs a program. -/
  execute : Job → StateM σ (Except Failure Outcome)
  /-- Reads the clock, in nanoseconds since some moment. -/
  clock : StateM σ Int := pure 0

/-- The disk in a state, if there is an executor to show it. -/
def Executor.diskOr {σ : Type} (executor : Except Failure (Executor σ)) (d : Disk) (s : σ) : Disk :=
  match executor with
  | .ok x => x.disk s
  | .error _ => d

/-- Prepared answers, and the jobs they were given to. -/
structure Script where
  /-- The disk, which never changes. -/
  disk : Disk
  /-- The answers that are left. -/
  answers : List (Except Failure Outcome)
  /-- The jobs so far, the last one first. -/
  jobs : List Job

namespace Script

/-- The answer when no prepared one is left. -/
def success : Outcome := ⟨0, [], [], false⟩

/-- The executor that gives the prepared answers. -/
def executor : Executor Script where
  disk := disk
  execute job := fun s =>
    match s.answers with
    | [] => (.ok success, { s with jobs := job :: s.jobs })
    | a :: as => (a, { s with answers := as, jobs := job :: s.jobs })

end Script
end DocExamples
