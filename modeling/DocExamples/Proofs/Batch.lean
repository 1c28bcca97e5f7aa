/-
# Runs with prepared answers

A run takes the examples one after another.  An example whose program can be made
becomes a job and uses up the next answer; one whose program cannot be made uses up
none, so that answers and jobs stay in step whatever fails in between.  A result says
what came of its own example and of nothing else.
-/

import DocExamples.Run.Runner

namespace DocExamples
namespace Runner

/-! ### Jobs and attempts -/

/-- The job of an example, unless its program cannot be made. -/
def job? (r : Runner) (d : Disk) (e : Example) : Option Job :=
  match Synthesis.program d e with
  | .ok program => some ⟨program, r.workingFolder, r.timeout⟩
  | .error _ => none

/-- The jobs of examples, in order. -/
def jobs (r : Runner) (d : Disk) (es : List Example) : List Job := es.filterMap (r.job? d)

/-- What comes of an example for which some answers are left: its program cannot be
made, or else the next answer. -/
def attempt (d : Disk) (answers : List (Except Failure Outcome)) (e : Example) :
    Except Failure Outcome :=
  match Synthesis.program d e with
  | .error f => .error f
  | .ok _ => answers.headD (.ok Script.success)

/-- The state behind a run: its jobs are done and their answers used up. -/
def behind (r : Runner) (s : Script) (es : List Example) : Script :=
  { s with
    answers := s.answers.drop (r.jobs s.disk es).length
    jobs := (r.jobs s.disk es).reverse ++ s.jobs }

/-- A result says what came of an example. -/
structure Reports (e : Example) (a : Except Failure Outcome) (result : Result) : Prop where
  /-- It is the result of the example. -/
  source : result.source = e
  /-- The example passed exactly if it ended with code 0 within its time. -/
  passed : result.passed = true ↔ ∃ o, a = .ok o ∧ o.exitCode = 0 ∧ o.timedOut = false
  /-- There is an error exactly if it did not pass. -/
  error_none : result.error = none ↔ result.passed = true
  /-- The error is not empty. -/
  error_visible : result.error ≠ some []
  /-- A failure to run is the error. -/
  error_failure : ∀ f, a = .error f → result.error = some ("Runner error: ".toList ++ f.message)
  /-- Otherwise the error is the first that is not empty of standard error, standard
  output and a sentence about the exit code. -/
  error_outcome : ∀ o, a = .ok o → result.passed = false →
    (o.stderr ≠ [] → result.error = some o.stderr) ∧
    (o.stderr = [] → o.stdout ≠ [] → result.error = some o.stdout) ∧
    (o.stderr = [] → o.stdout = [] →
      result.error = some ("Process exited with code ".toList ++ Text.integer o.exitCode))
  /-- The output is all of standard output. -/
  output : ∀ o, a = .ok o → result.output = o.stdout
  /-- There is no output where nothing ran. -/
  output_failure : ∀ f, a = .error f → result.output = []
  /-- The time limit was hit exactly if the outcome says so. -/
  timedOut : result.timedOut = true ↔ ∃ o, a = .ok o ∧ o.timedOut = true

theorem reports_ofFailure (e : Example) (duration : Int) (f : Failure) :
    Reports e (.error f) (.ofFailure e duration f) where
  source := rfl
  passed := by simp [Result.ofFailure]
  error_none := by simp [Result.ofFailure]
  error_visible := by simp [Result.ofFailure]
  error_failure := by
    rintro _ ⟨⟩
    rfl
  error_outcome := by
    rintro _ ⟨⟩
  output := by
    rintro _ ⟨⟩
  output_failure := fun _ _ => rfl
  timedOut := by simp [Result.ofFailure]

theorem reports_ofOutcome (e : Example) (duration : Int) (o : Outcome) :
    Reports e (.ok o) (.ofOutcome e duration o) where
  source := rfl
  passed := by simp [Result.ofOutcome, Outcome.succeeded]
  error_none := by
    cases h : o.succeeded <;> simp [Result.ofOutcome, h]
  error_visible := by
    have hvisible := o.complaint_ne_nil
    cases h : o.succeeded <;> simp [Result.ofOutcome, h, hvisible]
  error_failure := by
    rintro _ ⟨⟩
  error_outcome := by
    rintro _ ⟨⟩ hfailed
    have hsucceeded : o.succeeded = false := hfailed
    have herror : (Result.ofOutcome e duration o).error = some o.complaint := by
      simp [Result.ofOutcome, hsucceeded]
    rw [herror]
    refine ⟨fun h => ?_, fun h h' => ?_, fun h h' => ?_⟩ <;> simp [Outcome.complaint, *]
  output := by
    rintro _ ⟨⟩
    rfl
  output_failure := by
    rintro _ ⟨⟩
  timedOut := by simp [Result.ofOutcome]

/-- However long it took, a result says what came of its example. -/
theorem reports_of (e : Example) (duration : Int) (a : Except Failure Outcome) :
    Reports e a (.of e duration a) := by
  cases a with
  | ok o => exact reports_ofOutcome e duration o
  | error f => exact reports_ofFailure e duration f

/-! ### One example -/

/-- The result of one example is made of what came of it, and of two looks at the clock. -/
theorem runOne_eq {σ : Type} (r : Runner) (x : Executor σ) (e : Example) (s : σ) :
    r.runOne x e s =
      let start := x.clock s
      let done := r.carryOut x e start.2
      let stop := x.clock done.2
      (.of e (elapsed start.1 stop.1) done.1, stop.2) := rfl

theorem jobs_cons (r : Runner) (d : Disk) (e : Example) (es : List Example) :
    r.jobs d (e :: es) = r.jobs d [e] ++ r.jobs d es := by
  rw [jobs, ← List.singleton_append, List.filterMap_append]
  rfl

/-- Running one example reports on it and does its job. -/
theorem carryOut_script (r : Runner) (s : Script) (e : Example) :
    r.carryOut Script.executor e s = (attempt s.disk s.answers e, r.behind s [e]) := by
  cases hprogram : Synthesis.program s.disk e with
  | error f =>
    have hjobs : r.jobs s.disk [e] = [] := by simp [jobs, job?, hprogram]
    have hcarried : r.carryOut Script.executor e s = (.error f, s) := by
      simp only [carryOut, Script.executor, hprogram]
    simp [hcarried, attempt, hprogram, behind, hjobs]
  | ok program =>
    have hjobs : r.jobs s.disk [e] = [⟨program, r.workingFolder, r.timeout⟩] := by
      simp [jobs, job?, hprogram]
    simp only [attempt, hprogram, behind, hjobs, carryOut, Script.executor]
    cases s.answers <;> rfl

theorem runOne_script (r : Runner) (s : Script) (e : Example) :
    Reports e (attempt s.disk s.answers e) (r.runOne Script.executor e s).1 ∧
      (r.runOne Script.executor e s).2 = r.behind s [e] := by
  have hcarried : r.carryOut Script.executor e (Script.executor.clock s).2 =
      (attempt s.disk s.answers e, r.behind s [e]) := r.carryOut_script s e
  rw [runOne_eq]
  simp only [hcarried]
  exact ⟨reports_of e _ _, rfl⟩

/-! ### All examples -/

theorem run_append {σ : Type} (r : Runner) (x : Executor σ) (es fs : List Example) (s : σ) :
    r.run x (es ++ fs) s =
      ((r.run x es s).1 ++ (r.run x fs (r.run x es s).2).1, (r.run x fs (r.run x es s).2).2) := by
  induction es generalizing s with
  | nil => rfl
  | cons e es ih => simp only [List.cons_append, run_cons, ih]

theorem behind_cons (r : Runner) (s : Script) (e : Example) (es : List Example) :
    r.behind (r.behind s [e]) es = r.behind s (e :: es) := by
  simp [behind, r.jobs_cons s.disk e es, List.drop_drop]

/-- A run does the jobs of its examples and uses up as many answers. -/
theorem state_run (r : Runner) (s : Script) (es : List Example) :
    (r.run Script.executor es s).2 = r.behind s es := by
  induction es generalizing s with
  | nil => rfl
  | cons e es ih =>
    rw [run_cons]
    simp only [(r.runOne_script s e).2, ih, behind_cons]

/-- Each result of a run reports on its example, with the answers that the examples
before it have left. -/
theorem reports_run (r : Runner) (s : Script) (es : List Example) (i : Nat) (e : Example)
    (he : es[i]? = some e) :
    ∃ result, (r.run Script.executor es s).1[i]? = some result ∧
      Reports e (attempt s.disk (r.behind s (es.take i)).answers e) result := by
  induction es generalizing s i with
  | nil => simp at he
  | cons d es ih =>
    obtain ⟨hreports, hstate⟩ := r.runOne_script s d
    rw [run_cons]
    cases i with
    | zero =>
      obtain rfl := Option.some.inj he
      exact ⟨_, rfl, hreports⟩
    | succ i =>
      obtain ⟨result, hresult, hrest⟩ := ih (r.behind s [d]) i he
      rw [behind_cons] at hrest
      rw [← hstate] at hresult
      exact ⟨result, hresult, hrest⟩

theorem length_run {σ : Type} (r : Runner) (x : Executor σ) (es : List Example) (s : σ) :
    (r.run x es s).1.length = es.length := by
  induction es generalizing s with
  | nil => rfl
  | cons e es ih =>
    rw [run_cons]
    simp only [List.length_cons, ih]

end Runner
end DocExamples
