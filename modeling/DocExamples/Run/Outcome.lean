/-
# Outcomes and results

An outcome is what running one program came to.  A result ties it to the example,
and a summary counts the results of a run.
-/

import DocExamples.Harvest

namespace DocExamples

/-- What running one program came to. -/
structure Outcome where
  /-- The exit code. -/
  exitCode : Int
  /-- What was written to standard output. -/
  stdout : Text
  /-- What was written to standard error. -/
  stderr : Text
  /-- Whether the time limit was hit. -/
  timedOut : Bool
deriving DecidableEq, Repr

namespace Outcome

/-- Whether the program ended by itself with code 0. -/
def succeeded (o : Outcome) : Bool := o.exitCode == 0 && !o.timedOut

/-- What a failed outcome is reported as: the first text that is not empty of standard
error, standard output and a sentence about the exit code. -/
def complaint (o : Outcome) : Text :=
  if !o.stderr.isEmpty then o.stderr
  else if !o.stdout.isEmpty then o.stdout
  else "Process exited with code ".toList ++ Text.integer o.exitCode

theorem complaint_ne_nil (o : Outcome) : o.complaint ≠ [] := by
  unfold complaint
  split
  · next h => simpa using h
  · split
    · next h => simpa using h
    · simp

end Outcome

/-- The result of running one example. -/
structure Result where
  /-- The example. -/
  source : Example
  /-- Whether it passed. -/
  passed : Bool
  /-- How many milliseconds it took. -/
  duration : Int
  /-- Why it failed. -/
  error : Option Text
  /-- What it wrote to standard output. -/
  output : Text
  /-- Whether the time limit was hit. -/
  timedOut : Bool
deriving DecidableEq, Repr

namespace Result

/-- The result of an example whose program was run. -/
def ofOutcome (e : Example) (duration : Int) (o : Outcome) : Result where
  source := e
  passed := o.succeeded
  duration := duration
  error := if o.succeeded then none else some o.complaint
  output := o.stdout
  timedOut := o.timedOut

/-- The result of an example that could not be run. -/
def ofFailure (e : Example) (duration : Int) (f : Failure) : Result where
  source := e
  passed := false
  duration := duration
  error := some ("Runner error: ".toList ++ f.message)
  output := []
  timedOut := false

/-- The result of an example that took so long. -/
def of (e : Example) (duration : Int) : Except Failure Outcome → Result
  | .ok o => ofOutcome e duration o
  | .error f => ofFailure e duration f

/-- The JSON of a result. -/
def json (r : Result) : Json :=
  .record [("name", .string r.source.name), ("location", .string r.source.location),
    ("passed", .bool r.passed), ("duration_ms", .int r.duration), ("timed_out", .bool r.timedOut),
    ("error", .ofOption r.error), ("output", .string r.output)]

end Result

/-- The results of a run, and the diagnostics of the discovery before it. -/
structure Summary where
  /-- The results, in the order of the examples. -/
  results : List Result
  /-- The diagnostics. -/
  errors : List Text
deriving DecidableEq, Repr

namespace Summary

/-- How many examples passed. -/
def passed (s : Summary) : Nat := s.results.countP (·.passed)

/-- How many examples failed. -/
def failed (s : Summary) : Nat := s.results.countP (!·.passed)

/-- How many examples were run. -/
def total (s : Summary) : Nat := s.results.length

/-- Whether no example failed. -/
def success (s : Summary) : Bool := s.failed == 0

/-- The exit code of the run. -/
def exitCode (s : Summary) : Nat := if s.success then 0 else 1

/-- **Every example passes or fails.** -/
theorem passed_add_failed (s : Summary) : s.passed + s.failed = s.total := by
  obtain ⟨rs, _⟩ := s
  simp only [passed, failed, total]
  induction rs with
  | nil => rfl
  | cons r rs ih =>
    simp only [List.countP_cons, List.length_cons]
    cases r.passed <;> simp <;> omega

/-- The JSON of a summary. -/
def json (s : Summary) : Json :=
  .record [("summary", .record [("total", .int s.total), ("passed", .int s.passed),
      ("failed", .int s.failed)]),
    ("results", .array (s.results.map (·.json))), ("errors", .array (s.errors.map .string))]

end Summary
end DocExamples
