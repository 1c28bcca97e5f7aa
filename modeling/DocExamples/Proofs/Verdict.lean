/-
# Verdicts on processes

An example passes for one reason only: a process was started for it, and ended by itself,
within its time limit and with code 0.  Whatever else happens leaves the example failed,
with an error that says something.  A process that is still running at its limit is named
as such in the first line of the error, however the process itself wrote; this needs the
time limit to be shown on one line, as every limit is that can be computed.  All that the
process wrote to standard output is the output, with U+FFFD where it stands for nothing.

There is one thing besides that a process can do to fail its example: to nest folders in its
private folder so deep that the stack has no room for removing them.  What the process came
to is then lost.
-/

import DocExamples.Proofs.Batch
import DocExamples.Proofs.Course
import DocExamples.Proofs.Numerals
import DocExamples.Proofs.Replacement
import DocExamples.Proofs.Searching

namespace DocExamples

/-! ### Limits are shown on one line -/

namespace Workspace

/-- A limit that can be computed is shown on one line. -/
theorem lineFeed_notMem_shown {timeout : Json} {limit : Option Nat}
    (h : millisecondsOf timeout = .ok limit) : '\n' ∉ timeout.shown := by
  cases timeout with
  | bool b => cases b <;> simp [Json.shown]
  | int n =>
    rw [Json.shown]
    exact Text.notMem_integer (by decide) (by decide) n
  | decimal d =>
    rw [Json.shown]
    exact d.lineFeed_notMem_shown
  | _ => simp [millisecondsOf] at h

/-- The first line about a limit, without its line feed. -/
def lateLine (timeout : Json) : Text :=
  "Timed out after ".toList ++ timeout.shown ++ "ms".toList

/-- A message about a limit begins with the line about it. -/
theorem timeoutLine_append (timeout : Json) (s : Text) :
    timeoutLine timeout ++ s = lateLine timeout ++ '\n' :: s := by
  have hend : "ms\n".toList = "ms".toList ++ ['\n'] := by decide
  have hline : timeoutLine timeout = lateLine timeout ++ ['\n'] :=
    (congrArg (("Timed out after ".toList ++ timeout.shown) ++ ·) hend).trans
      (List.append_assoc ..).symm
  exact (congrArg (· ++ s) hline).trans (List.append_assoc ..)

theorem head?_lines_timeoutLine {timeout : Json} (h : '\n' ∉ timeout.shown) (s : Text) :
    (Text.lines (timeoutLine timeout ++ s)).head? = some (lateLine timeout) := by
  have hline : '\n' ∉ lateLine timeout := by
    intro hc
    rcases List.mem_append.1 hc with hc | hc
    · exact (List.mem_append.1 hc).elim (fun hc => absurd hc (by decide)) h
    · exact absurd hc (by decide)
  exact (congrArg (fun t => (Text.lines t).head?) (timeoutLine_append timeout s)).trans
    (congrArg List.head? (Text.pieces_append_cons hline s))

end Workspace

/-! ### One example -/

namespace Runner

/-- The process that an example is run in from some state, as it is found at its time limit;
none, if it does not come to that. -/
def process? [Stack] (r : Runner) (host : Host) (i : Interpreter) (e : Example) (s : Site) :
    Option ProcessRun :=
  (r.job? s.disk e).bind fun job => Workspace.process? host i (host.stamp s.serial) job s.disk

/-- What the executor reports about an example; nothing, if its program cannot be made. -/
def reported? {σ : Type} (r : Runner) (x : Executor σ) (e : Example) (s : σ) :
    Option (Except Failure Outcome) :=
  (r.job? (x.disk s) e).map fun job => (x.execute job s).1

/-- Whether the stack has no room for removing what an example leaves in its private folder. -/
def clogs [Stack] (r : Runner) (host : Host) (i : Interpreter) (e : Example) (s : Site) : Bool :=
  (r.job? s.disk e).any fun job => Workspace.clogs host i (host.stamp s.serial) job s.disk

/-- A result is a fair verdict on the process of its example, if there was one, and on what
the executor reported. -/
structure Verdict (timeout : Json) (process : Option ProcessRun)
    (reported : Option (Except Failure Outcome)) (result : Result) : Prop where
  /-- The example passed exactly if a process ended by itself with code 0. -/
  passed : result.passed = true ↔ ∃ p, process = some p ∧ p.ending = .exited 0
  /-- If it did not pass, there is an error, and it is not empty. -/
  error : result.passed = false → ∃ m, result.error = some m ∧ m ≠ []
  /-- The time limit was hit exactly if a process was still running then. -/
  timedOut : result.timedOut = true ↔ ∃ p, process = some p ∧ p.ending = .running
  /-- If it was hit, the exit code is not zero and the error begins with a line about it. -/
  late : result.timedOut = true → ∃ o m, reported = some (.ok o) ∧ o.exitCode ≠ 0 ∧
    result.error = some m ∧ (Text.lines m).head? = some (Workspace.lateLine timeout)
  /-- The output is all that the process wrote to standard output, with what stands for nothing
  replaced. -/
  output : ∀ p, process = some p → Utf8.Replaced p.stdout result.output
  /-- Without a process there is no output. -/
  output_none : process = none → result.output = []

/-- A result says no more than that the stack had no room left, whatever there was a process. -/
structure Lost (result : Result) : Prop where
  /-- The example has not passed. -/
  passed : result.passed = false
  /-- The error says why. -/
  error : result.error = some "Runner error: maximum recursion depth exceeded".toList
  /-- The time limit does not count. -/
  timedOut : result.timedOut = false
  /-- Nor does the output. -/
  output : result.output = []

variable {timeout : Json} {reported : Option (Except Failure Outcome)}

theorem verdict_ofFailure (e : Example) (duration : Int) (f : Failure) :
    Verdict timeout none reported (.ofFailure e duration f) where
  passed := by simp [Result.ofFailure]
  error _ := ⟨_, rfl, by simp⟩
  timedOut := by simp [Result.ofFailure]
  late := nofun
  output := nofun
  output_none _ := rfl

theorem verdict_refused (e : Example) (duration : Int) (program : Text) (f : Fault) :
    Verdict timeout none reported (.ofOutcome e duration (Workspace.notStarted program f)) where
  passed := ⟨nofun, nofun⟩
  error _ := ⟨_, rfl, Outcome.complaint_ne_nil _⟩
  timedOut := ⟨nofun, nofun⟩
  late := nofun
  output := nofun
  output_none _ := rfl

/-- Where nothing is watched, the example has failed. -/
theorem verdict_of_unwatched {a : Except Failure Outcome} (h : Workspace.Unwatched a) (e : Example)
    (duration : Int) : Verdict timeout none reported (.of e duration a) := by
  cases h with
  | failure f => exact verdict_ofFailure e duration f
  | refused program f => exact verdict_refused e duration program f

/-- The output of a process is replaced, however the process ended. -/
theorem replaced_stdout (timeout : Json) (p : ProcessRun) :
    Utf8.Replaced p.stdout (Workspace.outcomeOf timeout p).stdout := by
  have hstdout : (Workspace.outcomeOf timeout p).stdout = Utf8.decodeLenient p.stdout := by
    unfold Workspace.outcomeOf
    cases p.ending <;> rfl
  rw [hstdout]
  exact Utf8.replaced_decodeLenient p.stdout

/-- The result of a process is fair, in each of the three ways in which it can have ended. -/
theorem verdict_ofOutcome (e : Example) (duration : Int) (p : ProcessRun)
    (h : '\n' ∉ timeout.shown) :
    Verdict timeout (some p) (some (.ok (Workspace.outcomeOf timeout p)))
      (.ofOutcome e duration (Workspace.outcomeOf timeout p)) := by
  have hprocess : some p ≠ none := Option.some_ne_none p
  have houtput : ∀ q, some p = some q →
      Utf8.Replaced q.stdout (Workspace.outcomeOf timeout p).stdout := by
    rintro _ ⟨⟩
    exact replaced_stdout timeout p
  obtain ⟨ending, stdout, stderr, disk, late⟩ := p
  cases ending with
  | exited code =>
    refine ⟨?_, fun hfailed => ?_, ?_, fun hlate => absurd hlate Bool.false_ne_true, houtput,
      fun hnone => absurd hnone hprocess⟩
    · simp [Result.ofOutcome, Workspace.outcomeOf, Outcome.succeeded]
    · have hsucceeded :
          (Workspace.outcomeOf timeout ⟨.exited code, stdout, stderr, disk, late⟩).succeeded
            = false := hfailed
      exact ⟨_, by rw [Result.ofOutcome, hsucceeded]; rfl, Outcome.complaint_ne_nil _⟩
    · simp [Result.ofOutcome, Workspace.outcomeOf]
  | killed signal =>
    refine ⟨?_, fun _ => ⟨_, rfl, Outcome.complaint_ne_nil _⟩, ?_,
      fun hlate => absurd hlate Bool.false_ne_true, houtput, fun hnone => absurd hnone hprocess⟩
    · simp [Result.ofOutcome, Workspace.outcomeOf, Outcome.succeeded]
    · simp [Result.ofOutcome, Workspace.outcomeOf]
  | running =>
    have hfailed :
        (Workspace.outcomeOf timeout ⟨.running, stdout, stderr, disk, late⟩).succeeded = false := by
      simp [Workspace.outcomeOf, Outcome.succeeded]
    have herror :
        (Result.ofOutcome e duration
          (Workspace.outcomeOf timeout ⟨.running, stdout, stderr, disk, late⟩)).error =
        some (Workspace.outcomeOf timeout ⟨.running, stdout, stderr, disk, late⟩).complaint := by
      rw [Result.ofOutcome, hfailed]
      rfl
    refine ⟨?_, fun _ => ⟨_, herror, Outcome.complaint_ne_nil _⟩, ?_, fun _ => ?_, houtput,
      fun hnone => absurd hnone hprocess⟩
    · simp [Result.ofOutcome, hfailed]
    · simp [Result.ofOutcome, Workspace.outcomeOf]
    · -- The line about the limit makes standard error visible, so it is the error.
      refine ⟨_, _, rfl, ?_, herror, Workspace.head?_lines_timeoutLine h _⟩
      simp only [Workspace.outcomeOf]
      split <;> simp_all

/-- An example has no job, or the executor does its job. -/
theorem carryOut_cases {σ : Type} (r : Runner) (x : Executor σ) (e : Example) (s : σ) :
    (∃ f, r.job? (x.disk s) e = none ∧ r.carryOut x e s = (.error f, s)) ∨
      ∃ job, r.job? (x.disk s) e = some job ∧ job.timeout = r.timeout ∧
        r.carryOut x e s = x.execute job s := by
  simp only [job?, carryOut]
  cases Synthesis.program (x.disk s) e with
  | error f => exact .inl ⟨f, rfl, rfl⟩
  | ok program => exact .inr ⟨_, rfl, rfl, rfl⟩

section

variable [Stack] (host : Host) (i : Interpreter) {r : Runner} {e : Example} {s : Site} {job : Job}

theorem carryOut_of_job? (h : r.job? s.disk e = some job) :
    (r.carryOut (Workspace.executor host i) e s).1 =
      (Workspace.run host i (host.stamp s.serial) job s.disk).outcome := by
  rcases r.carryOut_cases (Workspace.executor host i) e s with
    ⟨f, hnone, -⟩ | ⟨job', hsome, -, hcarried⟩
  · cases hnone.symm.trans h
  · obtain rfl := Option.some.inj (hsome.symm.trans h)
    rw [hcarried]
    rfl

theorem clogs_of_job? (h : r.job? s.disk e = some job) :
    r.clogs host i e s = Workspace.clogs host i (host.stamp s.serial) job s.disk := by
  rw [clogs, h, Option.any_some]

end

variable [Stack]

/-- Carrying out one example gives a fair verdict, however long it takes, if what it leaves can
be removed. -/
theorem verdict_carryOut (r : Runner) (host : Host) (i : Interpreter) (e : Example) (s : Site)
    (duration : Int) (hclear : r.clogs host i e s = false) :
    Verdict r.timeout (r.process? host i e s) (r.reported? (Workspace.executor host i) e s)
      (.of e duration (r.carryOut (Workspace.executor host i) e s).1) := by
  have hdisk : (Workspace.executor host i).disk s = s.disk := rfl
  rcases r.carryOut_cases (Workspace.executor host i) e s with
    ⟨f, hjob, hcarried⟩ | ⟨job, hjob, htimeout, -⟩
  · rw [hdisk] at hjob
    rw [hcarried, process?, hjob]
    exact verdict_ofFailure e duration f
  · rw [hdisk] at hjob
    rw [clogs_of_job? host i hjob] at hclear
    have hreported : r.reported? (Workspace.executor host i) e s =
        some (Workspace.run host i (host.stamp s.serial) job s.disk).outcome := by
      rw [reported?, hdisk, hjob]
      rfl
    rw [carryOut_of_job? host i hjob, hreported, process?, hjob, Option.bind_some, ← htimeout]
    rcases Workspace.outcome_run host i (host.stamp s.serial) job s.disk hclear with
      ⟨p, hprocess, houtcome⟩ | ⟨hprocess, hunwatched⟩
    · obtain ⟨limit, hlimit⟩ := Workspace.exists_millisecondsOf hprocess
      rw [hprocess, houtcome]
      exact verdict_ofOutcome e duration p (Workspace.lineFeed_notMem_shown hlimit)
    · rw [hprocess]
      exact verdict_of_unwatched hunwatched e duration

/-- If the stack has no room for that, nothing else is reported. -/
theorem lost_carryOut (r : Runner) (host : Host) (i : Interpreter) (e : Example) (s : Site)
    (duration : Int) (hclogs : r.clogs host i e s = true) :
    Lost (.of e duration (r.carryOut (Workspace.executor host i) e s).1) := by
  obtain ⟨job, hjob, hclogs⟩ := (Option.any_eq_true _ _).1 hclogs
  rw [carryOut_of_job? host i hjob, Workspace.outcome_run_of_clogs hclogs]
  exact ⟨rfl, rfl, rfl, rfl⟩

/-! ### All examples -/

omit [Stack] in
/-- The result at a position is that of the example there, run in the state that is left
behind the examples before it. -/
theorem getElem?_run {σ : Type} (r : Runner) (x : Executor σ) (es : List Example) (s : σ) (n : Nat) :
    (r.run x es s).1[n]? = es[n]?.map fun e => (r.runOne x e (r.run x (es.take n) s).2).1 := by
  induction es generalizing s n with
  | nil => rfl
  | cons e es ih =>
    cases n with
    | zero => rfl
    | succ n =>
      rw [run_cons, List.take_succ_cons, run_cons]
      exact ih (r.runOne x e s).2 n

/-- Processes that leave a folder within a folder in their private folder, and end with
code 0. -/
def nesting : Host where
  spawn launch d :=
    let outer := (Path.ofText (launch.arguments.getLastD [])).parent.names ++ ["a".toList]
    .ok { ending := .exited 0, stdout := [], stderr := [],
          disk := (d.put outer .folder).put (outer ++ ["b".toList]) .folder }

/-- Whether an example passes with such a process, where folders can be removed so many deep. -/
def passesNested (removals : Nat) : List Bool :=
  letI : Stack := ⟨0, 0, removals, 1⟩
  let s : Site := ⟨{ entries := [(["w".toList], .folder)], cwd := ["w".toList] }, 0⟩
  let e : Example := ⟨"m.ts".toList, 1, "f".toList, [], none⟩
  let r : Runner := ⟨Path.ofText Path.dot, .int 5000⟩
  (r.run (Workspace.executor nesting ⟨["sh".toList], ".sh".toList⟩) [e] s).1.map (·.passed)

example : passesNested 1 = [false] ∧ passesNested 2 = [true] := by decide +kernel

end Runner
end DocExamples
