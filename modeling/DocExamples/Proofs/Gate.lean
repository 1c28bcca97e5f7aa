/-
# The gate before a run

A request to run examples passes four checks before anything is run: its time limit, its
wish for output, its paths, and the discovery below them.  The first that fails is the
answer, and then no executor has been called.  If all succeed, the run is over just the
examples that the discovery finds, and every program is given the time limit that was
checked.

Two requests have no answer: one that is refused for a value which cannot be shown, and one
that passes every check where the working folder is needed and gone.
-/

import DocExamples.Proofs.Batch
import DocExamples.Service

namespace DocExamples

variable {σ : Type}

/-- An executor that also keeps the jobs that it was given, the last one first. -/
def Executor.recording (x : Executor σ) : Executor (σ × List Job) where
  disk s := x.disk s.1
  execute job := fun s => ((x.execute job s.1).1, ((x.execute job s.1).2, job :: s.2))
  clock := fun s => ((x.clock s.1).1, ((x.clock s.1).2, s.2))

namespace Runner

theorem carryOut_recording (r : Runner) (x : Executor σ) (e : Example) (s : σ) (log : List Job) :
    r.carryOut x.recording e (s, log) =
      ((r.carryOut x e s).1, ((r.carryOut x e s).2, (r.job? (x.disk s) e).toList ++ log)) := by
  simp only [carryOut, job?, Executor.recording]
  cases Synthesis.program (x.disk s) e <;> rfl

/-- Recording the job of an example changes nothing else. -/
theorem runOne_recording (r : Runner) (x : Executor σ) (e : Example) (s : σ) (log : List Job) :
    r.runOne x.recording e (s, log) = ((r.runOne x e s).1,
      ((r.runOne x e s).2, (r.job? (x.disk (x.clock s).2) e).toList ++ log)) := by
  have hclock (s : σ) (log : List Job) :
      x.recording.clock (s, log) = ((x.clock s).1, ((x.clock s).2, log)) := rfl
  rw [runOne_eq, runOne_eq]
  simp only [hclock, carryOut_recording]

/-- A job is for the folder and the time limit of its runner. -/
theorem job?_eq_some {r : Runner} {d : Disk} {e : Example} {job : Job}
    (h : r.job? d e = some job) : job.workingFolder = r.workingFolder ∧ job.timeout = r.timeout := by
  unfold job? at h
  split at h
  · obtain rfl := Option.some.inj h
    exact ⟨rfl, rfl⟩
  · exact nomatch h

/-- A run records only jobs for the folder and the time limit of its runner, and recording
them changes nothing else. -/
theorem run_recording (r : Runner) (x : Executor σ) (es : List Example) (s : σ)
    (log : List Job) :
    ∃ jobs, r.run x.recording es (s, log) =
        ((r.run x es s).1, ((r.run x es s).2, jobs ++ log)) ∧
      ∀ job ∈ jobs, job.workingFolder = r.workingFolder ∧ job.timeout = r.timeout := by
  induction es generalizing s log with
  | nil => exact ⟨[], rfl, fun _ h => absurd h List.not_mem_nil⟩
  | cons e es ih =>
    obtain ⟨jobs, hrun, hjobs⟩ :=
      ih (r.runOne x e s).2 ((r.job? (x.disk (x.clock s).2) e).toList ++ log)
    refine ⟨jobs ++ (r.job? (x.disk (x.clock s).2) e).toList, ?_, fun job hjob => ?_⟩
    · rw [run_cons, run_cons, runOne_recording]
      simp only [hrun, List.append_assoc]
    · rcases List.mem_append.1 hjob with h | h
      · exact hjobs job h
      · exact job?_eq_some (Option.mem_toList.1 h)

theorem source_runOne (r : Runner) (x : Executor σ) (e : Example) (s : σ) :
    (r.runOne x e s).1.source = e :=
  (reports_of e _ _).source

/-- **The results of a run are those of its examples, one to one and in order.** -/
theorem sources_run (r : Runner) (x : Executor σ) (es : List Example) (s : σ) :
    (r.run x es s).1.map (·.source) = es := by
  induction es generalizing s with
  | nil => rfl
  | cons e es ih =>
    rw [run_cons]
    simp only [List.map_cons, source_runOne, ih]

/-- An example without code. -/
def codeless : Example := ⟨"m.ts".toList, 1, "f".toList, [], none⟩

end Runner

namespace Json

/-- A value that counts as absent. -/
inductive IsAbsent : Json → Prop
  | null : IsAbsent .null
  | false : IsAbsent (.bool false)
  | zero : IsAbsent (.int 0)
  | decimal {d : Decimal} : d.isZero = true → IsAbsent (.decimal d)
  | string : IsAbsent (.string [])
  | array : IsAbsent (.array [])
  | object : IsAbsent (.object [])

/-- A positive whole number. -/
def IsLimit (v : Json) : Prop := ∃ n, v = .int n ∧ 0 < n

/-- A truth value. -/
def IsTruth (v : Json) : Prop := ∃ b, v = .bool b

/-- A list that holds texts only. -/
def AreTexts (v : Json) : Prop := ∃ ps : List Text, v = .array (ps.map .string)

theorem isEmpty_iff (v : Json) : v.isEmpty = true ↔ v.IsAbsent := by
  constructor
  · intro h
    cases v with
    | null => exact .null
    | bool b =>
      obtain rfl : b = Bool.false := by simpa [isEmpty] using h
      exact .false
    | int n =>
      obtain rfl : n = 0 := by simpa [isEmpty] using h
      exact .zero
    | decimal d => exact .decimal h
    | string s =>
      obtain rfl : s = [] := by simpa [isEmpty] using h
      exact .string
    | array items =>
      obtain rfl : items = [] := by simpa [isEmpty] using h
      exact .array
    | object fields =>
      obtain rfl : fields = [] := by simpa [isEmpty] using h
      exact .object
  · rintro (_ | _)
    case decimal h => exact h
    all_goals rfl

theorem texts?_map_string (ps : List Text) : texts? (.array (ps.map .string)) = some ps := by
  induction ps with
  | nil => rfl
  | cons p ps ih =>
    simp only [texts?, List.map_cons, List.mapM_cons] at ih ⊢
    rw [ih]
    rfl

theorem texts?_eq_some {v : Json} {ps : List Text} (h : v.texts? = some ps) :
    v = .array (ps.map .string) := by
  cases v with
  | array items =>
    congr 1
    simp only [texts?] at h
    induction items generalizing ps with
    | nil =>
      obtain rfl : [] = ps := by simpa using h
      rfl
    | cons item items ih =>
      rw [List.mapM_cons] at h
      cases item with
      | string s =>
        obtain ⟨qs, hqs, rfl⟩ : ∃ qs, items.mapM _ = some qs ∧ s :: qs = ps := by
          simpa [Option.bind_eq_some_iff] using h
        rw [ih hqs, List.map_cons]
      | _ => simp at h
  | _ => simp [texts?] at h

end Json

namespace Service

theorem checkedTimeout_of_not_isLimit {o : Options} (h : ¬ o.timeout.IsLimit) :
    checkedTimeout o = .error (.timeout o.timeout) := by
  obtain ⟨verbose, timeout⟩ := o
  cases timeout with
  | int n =>
    have hn : ¬ 0 < n := fun hn => h ⟨n, rfl, hn⟩
    cases verbose <;> simp [checkedTimeout, hn]
  | _ => rfl

theorem checkedTimeout_of_not_isTruth {o : Options} (h : o.timeout.IsLimit)
    (hverbose : ¬ o.verbose.IsTruth) : checkedTimeout o = .error (.verbose o.verbose) := by
  obtain ⟨verbose, timeout⟩ := o
  obtain ⟨n, rfl, hn⟩ : timeout.IsLimit := h
  cases verbose with
  | bool b => exact absurd ⟨b, rfl⟩ hverbose
  | _ => simp [checkedTimeout, hn]

theorem checkedTimeout_eq_ok {o : Options} {n : Int} (h : o.timeout = .int n) (hn : 0 < n)
    (hverbose : o.verbose.IsTruth) : checkedTimeout o = .ok n := by
  obtain ⟨verbose, timeout⟩ := o
  obtain rfl : timeout = .int n := h
  obtain ⟨b, rfl⟩ : verbose.IsTruth := hverbose
  simp [checkedTimeout, hn]

theorem equipped_of_folder (x : Executor σ) (d : Disk) (folder : Option Text) {p : Path}
    (h : Runner.folder? d folder = .ok p) :
    equipped (.ok x) d folder = .ok (x, p) := by
  simp only [equipped, h, bind, Except.bind, pure, Except.pure]

theorem equipped_of_no_folder (x : Executor σ) (d : Disk) (folder : Option Text) {f : Failure}
    (h : Runner.folder? d folder = .error f) :
    equipped (.ok x) d folder = .error f := by
  simp only [equipped, h, bind, Except.bind]

variable [Stack]

theorem discover_of_isAbsent (d : Disk) {paths : Json} (h : paths.IsAbsent) :
    discover d paths = .error .missingInput := by
  rw [discover, checkedPaths, (Json.isEmpty_iff paths).2 h]
  rfl

theorem discover_of_not_areTexts (d : Disk) {paths : Json} (h : ¬ paths.IsAbsent)
    (htexts : ¬ paths.AreTexts) : discover d paths = .error .notPaths := by
  have hempty : paths.isEmpty = false :=
    Bool.eq_false_iff.2 fun he => h ((Json.isEmpty_iff paths).1 he)
  have hnone : paths.texts? = none :=
    Option.eq_none_iff_forall_ne_some.2 fun ps hps => htexts ⟨ps, Json.texts?_eq_some hps⟩
  rw [discover, checkedPaths, hempty, hnone]
  rfl

/-- Paths that are a list of texts are used as they are. -/
theorem discover_texts (d : Disk) {ps : List Text} (h : ps ≠ []) :
    discover d (.array (ps.map .string)) = discoverPaths Finder.default d ps := by
  have hempty : (Json.array (ps.map .string)).isEmpty = false := by simp [Json.isEmpty, h]
  rw [discover, checkedPaths, hempty, Json.texts?_map_string]
  rfl

/-- What a request comes to, with the jobs that it has handed out. -/
abbrev Asked (σ : Type) := Except Failure (Except Refusal Summary) × (σ × List Job)

/-- A request was refused with a code, and nothing was run.  Where the message shows a value
that cannot be shown, there is a failure instead. -/
structure RefusedWith (asked : Asked σ) (s : σ) (log : List Job) (code : Text) (r : Refusal) :
    Prop where
  /-- The refusal has the code. -/
  code : r.code = code
  /-- It is the answer, if its message can be made. -/
  answered : r.hidden? = none → asked = (.ok (.error r), (s, log))
  /-- Otherwise there is none. -/
  failed : ∀ f, r.hidden? = some f → asked = (.error f, (s, log))

/-- A request was passed by the gate, in the state `s` and with the jobs `log` before it. -/
structure Gated (d : Disk) (folder : Option Text) (o : Options) (paths : Json) (s : σ)
    (log : List Job) (asked : Asked σ) : Prop where
  /-- First of all, the time limit has to be a positive whole number. -/
  timeout : ¬ o.timeout.IsLimit →
    RefusedWith asked s log "validation_error".toList (.timeout o.timeout)
  /-- Then the wish for output has to be a truth value. -/
  verbose : o.timeout.IsLimit → ¬ o.verbose.IsTruth →
    RefusedWith asked s log "validation_error".toList (.verbose o.verbose)
  /-- Then there have to be paths. -/
  missing : o.timeout.IsLimit → o.verbose.IsTruth → paths.IsAbsent →
    RefusedWith asked s log "missing_input".toList .missingInput
  /-- Then the paths have to be a list of texts. -/
  shape : o.timeout.IsLimit → o.verbose.IsTruth → ¬ paths.IsAbsent → ¬ paths.AreTexts →
    RefusedWith asked s log "validation_error".toList .notPaths
  /-- Then the discovery has to succeed; its refusal is passed on as it is. -/
  discovery : o.timeout.IsLimit → o.verbose.IsTruth → ∀ r, discover d paths = .error r →
    asked = (.ok (.error r), (s, log))
  /-- Otherwise the examples are run, if there is a folder to run them in. -/
  success : o.timeout.IsLimit → o.verbose.IsTruth → ∀ h, discover d paths = .ok h →
    (∃ p, Runner.folder? d folder = .ok p) → ∃ summary, asked.1 = .ok (.ok summary)
  /-- Without such a folder there is no answer. -/
  homeless : o.timeout.IsLimit → o.verbose.IsTruth → ∀ h, discover d paths = .ok h →
    ∀ f, Runner.folder? d folder = .error f → asked = (.error f, (s, log))
  /-- Unless examples were run, the executor was not called. -/
  untouched : (∀ summary, asked.1 ≠ .ok (.ok summary)) → asked.2 = (s, log)
  /-- Whenever the examples were run, they are those of the discovery, and every job has
  the time limit that was checked. -/
  agrees : ∀ summary, asked.1 = .ok (.ok summary) →
    ∃ limit h jobs, o.timeout = .int limit ∧ 0 < limit ∧ discover d paths = .ok h ∧
      summary.results.map (·.source) = h.examples ∧ summary.errors = h.errors ∧
      asked.2.2 = jobs ++ log ∧ ∀ job ∈ jobs, job.timeout = .int limit

section

variable (e : Except Failure (Executor σ)) (x : Executor σ) (d : Disk) (folder : Option Text)
variable {o : Options} {paths : Json} (s : σ) (log : List Job)

/-- What a refusal is answered with, or why it cannot be. -/
def answerOf (r : Refusal) : Except Failure (Except Refusal Summary) :=
  match r.hidden? with
  | some f => .error f
  | none => .ok (.error r)

theorem answerOf_ne_summary (r : Refusal) (summary : Summary) : answerOf r ≠ .ok (.ok summary) := by
  unfold answerOf
  split
  · exact nofun
  · exact fun h => nomatch Except.ok.inj h

theorem run_of_checkedTimeout_error {r : Refusal} (h : checkedTimeout o = .error r) :
    run e d folder o paths s = (answerOf r, s) := by
  simp only [run, h, answerOf]
  cases r.hidden? <;> rfl

theorem run_of_discover_error {n : Int} (h : checkedTimeout o = .ok n) {r : Refusal}
    (hdiscover : discover d paths = .error r) :
    run e d folder o paths s = (.ok (.error r), s) := by
  simp only [run, h, hdiscover]

theorem run_of_equipped_error {n : Int} (h : checkedTimeout o = .ok n) {harvest : Harvest}
    (hdiscover : discover d paths = .ok harvest) {f : Failure}
    (hequipped : equipped e d folder = .error f) : run e d folder o paths s = (.error f, s) := by
  simp only [run, h, hdiscover, hequipped]

theorem run_of_equipped_ok {n : Int} (h : checkedTimeout o = .ok n) {harvest : Harvest}
    (hdiscover : discover d paths = .ok harvest) {p : Path}
    (hequipped : equipped e d folder = .ok (x, p)) :
    run e d folder o paths s =
      let done := Runner.run ⟨p, .int n⟩ x harvest.examples s
      (.ok (.ok ⟨done.1, harvest.errors⟩), done.2) := by
  simp only [run, h, hdiscover, hequipped]

/-- What a request with valid options comes to where the discovery succeeds and there is a
folder to run programs in. -/
theorem recorded_of_folder {n : Int} (h : checkedTimeout o = .ok n) {harvest : Harvest}
    (hdiscover : discover d paths = .ok harvest) {p : Path}
    (hfolder : Runner.folder? d folder = .ok p) :
    ∃ results after jobs,
      run (.ok x.recording) d folder o paths (s, log) =
        (.ok (.ok ⟨results, harvest.errors⟩), (after, jobs ++ log)) ∧
      run (.ok x) d folder o paths s = (.ok (.ok ⟨results, harvest.errors⟩), after) ∧
      results.map (·.source) = harvest.examples ∧ ∀ job ∈ jobs, job.timeout = .int n := by
  let runner : Runner := ⟨p, .int n⟩
  obtain ⟨jobs, hrun, hjobs⟩ := runner.run_recording x harvest.examples s log
  have hrecorded := run_of_equipped_ok _ x.recording d folder (s, log) h hdiscover
    (equipped_of_folder x.recording d folder hfolder)
  rw [show Runner.mk p (.int n) = runner from rfl, hrun] at hrecorded
  exact ⟨_, _, jobs, hrecorded,
    run_of_equipped_ok _ x d folder s h hdiscover (equipped_of_folder x d folder hfolder),
    runner.sources_run x harvest.examples s, fun job hjob => (hjobs job hjob).2⟩

/-- An answer without a summary leaves everything as it was, or else the options are valid, the
discovery has succeeded and there is a folder to run programs in. -/
theorem refused_or_discovered :
    (∃ a, (∀ summary, a ≠ .ok (.ok summary)) ∧
      run (.ok x.recording) d folder o paths (s, log) = (a, (s, log)) ∧
      run (.ok x) d folder o paths s = (a, s)) ∨
    ∃ n h p, o.timeout = .int n ∧ 0 < n ∧ checkedTimeout o = .ok n ∧ discover d paths = .ok h ∧
      Runner.folder? d folder = .ok p := by
  by_cases hlimit : o.timeout.IsLimit
  · by_cases htruth : o.verbose.IsTruth
    · obtain ⟨n, hn, hpos⟩ := hlimit
      have hchecked := checkedTimeout_eq_ok hn hpos htruth
      cases hdiscover : discover d paths with
      | error r =>
        exact .inl ⟨.ok (.error r), fun _ h => (nomatch Except.ok.inj h),
          run_of_discover_error _ d folder (s, log) hchecked hdiscover,
          run_of_discover_error _ d folder s hchecked hdiscover⟩
      | ok h =>
        cases hfolder : Runner.folder? d folder with
        | error f =>
          exact .inl ⟨.error f, fun _ h => (nomatch h),
            run_of_equipped_error _ d folder (s, log) hchecked hdiscover
              (equipped_of_no_folder x.recording d folder hfolder),
            run_of_equipped_error _ d folder s hchecked hdiscover
              (equipped_of_no_folder x d folder hfolder)⟩
        | ok p => exact .inr ⟨n, h, p, hn, hpos, hchecked, rfl, rfl⟩
    · have hchecked := checkedTimeout_of_not_isTruth hlimit htruth
      exact .inl ⟨_, answerOf_ne_summary _,
        run_of_checkedTimeout_error _ d folder (s, log) hchecked,
        run_of_checkedTimeout_error _ d folder s hchecked⟩
  · have hchecked := checkedTimeout_of_not_isLimit hlimit
    exact .inl ⟨_, answerOf_ne_summary _,
      run_of_checkedTimeout_error _ d folder (s, log) hchecked,
      run_of_checkedTimeout_error _ d folder s hchecked⟩

/-- To keep the jobs changes neither the answer nor the state. -/
theorem run_recording :
    run (.ok x) d folder o paths s =
      let asked := run (.ok x.recording) d folder o paths (s, log)
      (asked.1, asked.2.1) := by
  rcases refused_or_discovered x d folder s log with
    ⟨a, -, hrecorded, hrun⟩ | ⟨n, h, p, -, -, hchecked, hdiscover, hfolder⟩
  · rw [hrecorded, hrun]
  · obtain ⟨results, after, jobs, hrecorded, hrun, -⟩ :=
      recorded_of_folder x d folder s log hchecked hdiscover hfolder
    rw [hrecorded, hrun]

/-- A refusal by the first two checks is the answer, if its message can be made. -/
theorem refusedWith_of_checkedTimeout_error {r : Refusal} (h : checkedTimeout o = .error r) :
    RefusedWith (run (.ok x.recording) d folder o paths (s, log)) s log r.code r where
  code := rfl
  answered hshown := by rw [run_of_checkedTimeout_error _ d folder _ h, answerOf, hshown]
  failed f hhidden := by rw [run_of_checkedTimeout_error _ d folder _ h, answerOf, hhidden]

end

end Service
end DocExamples
