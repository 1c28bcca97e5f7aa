/-
# Running examples

Examples are run strictly one after another.  A failure of one, be it in making
its program or in running it, becomes its result and stops none of the others.  The clock is read before and
after each.
-/

import DocExamples.Run.Executor
import DocExamples.Synthesis

namespace DocExamples

/-- Where and how long the programs of a run may run. -/
structure Runner where
  /-- The folder that programs run in. -/
  workingFolder : Path
  /-- How many milliseconds each may take, as it was asked for. -/
  timeout : Json
deriving Repr

namespace Runner

variable {σ : Type}

/-- The folder that programs run in: the one asked for, or else the working folder. -/
def folderOr (cwd : Text) (asked : Option Text) : Path :=
  match asked with
  | some (c :: s) => Path.ofText (c :: s)
  | _ => Path.ofText cwd

/-- The folder that programs run in.  The working folder has to be there only if it is
used. -/
def folder? (d : Disk) (asked : Option Text) : Except Failure Path :=
  match asked with
  | some (_ :: _) => .ok (folderOr d.cwdText asked)
  | _ => d.whereabouts.map fun cwd => folderOr cwd asked

/-- The whole milliseconds between two readings of the clock. -/
def elapsed (start stop : Int) : Int := (stop - start).tdiv 1000000

/-- Makes the program of an example and runs it. -/
def carryOut (r : Runner) (x : Executor σ) (e : Example) : StateM σ (Except Failure Outcome) :=
  fun s =>
    match Synthesis.program (x.disk s) e with
    | .error f => (.error f, s)
    | .ok program => x.execute ⟨program, r.workingFolder, r.timeout⟩ s

/-- Runs one example. -/
def runOne (r : Runner) (x : Executor σ) (e : Example) : StateM σ Result := do
  let start ← x.clock
  let outcome ← r.carryOut x e
  let stop ← x.clock
  return .of e (elapsed start stop) outcome

/-- Runs examples in order. -/
def run (r : Runner) (x : Executor σ) : List Example → StateM σ (List Result)
  | [] => pure []
  | e :: es => do
    let result ← r.runOne x e
    let results ← r.run x es
    return result :: results

theorem run_cons (r : Runner) (x : Executor σ) (e : Example) (es : List Example) (s : σ) :
    r.run x (e :: es) s =
      let one := r.runOne x e s
      let more := r.run x es one.2
      (one.1 :: more.1, more.2) := rfl

end Runner
end DocExamples
