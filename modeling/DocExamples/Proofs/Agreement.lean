/-
# The command line and the tool

The command line does by itself what the tool does through the service: it finds the
examples below its paths and runs them.  It also writes its paths in the shortest form
before it passes them on.  Both come to the same: the same programs are run, in the same
order and with the same folder and time limit, and the verdict is the same.

What the command prints is not quite what the tool answers.  Every result is timed, and
the clock need not show the same to both.  And a console may leave control sequences out of
what it prints, as the usual one does, and so out of the report.

| the console is relied on to | for |
| --- | --- |
| ask for the paths that it accepts as they stand | texts that do not look like options |
| take `--dry-run` as the wish that nothing be run | wherever it stands |
| print a text as it is | texts without control sequences |
-/

import DocExamples.CommandLine
import DocExamples.Proofs.PathText
import DocExamples.Proofs.Raising
import DocExamples.Tool

namespace DocExamples

/-! ### Runs by different clocks -/

variable {σ τ : Type}

/-- An executor that takes its time from a clock of its own. -/
def Executor.timed (x : Executor σ) (tick : StateM τ Int) : Executor (σ × τ) where
  disk s := x.disk s.1
  execute job := fun s => ((x.execute job s.1).1, ((x.execute job s.1).2, s.2))
  clock := fun s => ((tick s.2).1, (s.1, (tick s.2).2))

namespace Result

/-- A result without the time that it took. -/
def undated (r : Result) : Result := { r with duration := 0 }

theorem undated_of (e : Example) (duration : Int) (a : Except Failure Outcome) :
    (Result.of e duration a).undated = .of e 0 a := by
  cases a <;> rfl

/-- Results that differ in the times that they took, and in nothing else. -/
def SameButTime (results timed : List Result) : Prop :=
  results.map undated = timed.map undated

end Result

namespace Runner

variable (r : Runner) (x : Executor σ)

theorem carryOut_timed (tick : StateM τ Int) (e : Example) (s : σ) (t : τ) :
    r.carryOut (x.timed tick) e (s, t) = ((r.carryOut x e s).1, ((r.carryOut x e s).2, t)) := by
  simp only [carryOut, Executor.timed]
  cases Synthesis.program (x.disk s) e <;> rfl

/-- What comes of an example does not depend on what the clock shows. -/
theorem runOne_timed (tick : StateM τ Int) (e : Example) (s : σ) (t : τ) :
    ∃ duration u, r.runOne (x.timed tick) e (s, t) =
      (.of e duration (r.carryOut x e s).1, ((r.carryOut x e s).2, u)) := by
  have hclock (s : σ) (t : τ) :
      (x.timed tick).clock (s, t) = ((tick t).1, (s, (tick t).2)) := rfl
  rw [runOne_eq]
  simp only [hclock, carryOut_timed]
  exact ⟨_, _, rfl⟩

/-- **Whatever the clock shows, the same is done**, and the results differ in nothing but the
times that they took. -/
theorem run_timed (es : List Example) (s : σ) :
    ∃ (undated : List Result) (after : σ), ∀ (tick : StateM τ Int) (t : τ), ∃ timed u,
      r.run (x.timed tick) es (s, t) = (timed, (after, u)) ∧
        timed.map Result.undated = undated := by
  induction es generalizing s with
  | nil => exact ⟨[], s, fun _ t => ⟨[], t, rfl, rfl⟩⟩
  | cons e es ih =>
    obtain ⟨undated, after, hrest⟩ := ih (r.carryOut x e s).2
    refine ⟨.of e 0 (r.carryOut x e s).1 :: undated, after, fun tick t => ?_⟩
    obtain ⟨duration, u, hone⟩ := r.runOne_timed x tick e s t
    obtain ⟨timed, u', hrun, hsame⟩ := hrest tick u
    refine ⟨.of e duration (r.carryOut x e s).1 :: timed, u', ?_, ?_⟩
    · rw [run_cons, hone]
      simp only [hrun]
    · rw [List.map_cons, Result.undated_of, hsame]

end Runner

namespace Text

theorem needsMark_readControl : NeedsMark [escapeChar, '['] fun _ => readControl? := by
  intro _ s hs
  simp only [readControl?, hs]
  rfl

/-- A text without escape characters has no control sequence to lose. -/
theorem withoutControls_eq_self {s : Text} (h : escapeChar ∉ s) : withoutControls s = s := by
  have hfree : FreeOf [escapeChar, '['] s [] := freeOf_of_notMem escapeChar rfl h
  have hsegments := segmentsFrom_of_freeOf needsMark_readControl hfree none []
  rw [List.append_nil, segmentsFrom] at hsegments
  rw [withoutControls, segments, hsegments]
  simp [Segmentation.replaced]

end Text

namespace Json

/-- A field of a record is looked for from the front. -/
theorem fieldOr_record (name : String) (v : Json) (fs : List (String × Json)) (key : Text)
    (default : Json) :
    (record ((name, v) :: fs)).fieldOr key default =
      if name.toList = key then v else (record fs).fieldOr key default := by
  by_cases h : name.toList = key
  · subst h
    simp only [record, fieldOr, field?, List.map_cons]
    rw [if_pos trivial, List.find?_cons_of_pos (by simp)]
    rfl
  · simp only [record, fieldOr, field?, List.map_cons]
    rw [if_neg h, List.find?_cons_of_neg (by simpa using h)]

end Json

namespace Finder

/-- A path may as well be given in its shortest form. -/
theorem find_map_text [Stack] (f : Finder) (d : Disk) (ps : List Text) :
    f.find d (ps.map fun p => (Path.ofText p).text) = f.find d ps := by
  induction ps with
  | nil => rfl
  | cons p ps ih =>
    have hexpand : f.expand d (Path.ofText p).text = f.expand d p := by
      rw [expand, Path.ofText_text]
      rfl
    rw [List.map_cons, find, find, hexpand, ih]

end Finder

namespace Service

variable [Stack]

/-- The discovery succeeds for paths in their shortest form just as for the paths as they
are; only the message of a refusal shows which were given. -/
theorem discoverPaths_map_text (f : Finder) (d : Disk) (ps : List Text) (h : Harvest) :
    discoverPaths f d (ps.map fun p => (Path.ofText p).text) = .ok h ↔
      discoverPaths f d ps = .ok h := by
  unfold discoverPaths
  rw [Finder.find_map_text]
  cases f.find d ps with
  | error failure => rfl
  | ok found =>
    simp only
    split <;> simp

/-- It fails for paths in their shortest form just as for the paths as they are. -/
theorem discoverPaths_map_text_error {f : Finder} {d : Disk} {ps : List Text} {r : Refusal}
    (h : discoverPaths f d ps = .error r) :
    ∃ r', discoverPaths f d (ps.map fun p => (Path.ofText p).text) = .error r' := by
  cases hshort : discoverPaths f d (ps.map fun p => (Path.ofText p).text) with
  | error r' => exact ⟨r', rfl⟩
  | ok harvest =>
    rw [discoverPaths_map_text, h] at hshort
    exact nomatch hshort

end Service

namespace Tool

/-- The arguments that ask a tool about paths. -/
def pathArguments (ps : List Text) : Json :=
  .record [("paths", .array (ps.map .string))]

theorem field_pathArguments (ps : List Text) :
    (pathArguments ps).field "paths".toList = .array (ps.map .string) := by
  rw [Json.field, pathArguments, Json.fieldOr_record, if_pos rfl]

theorem options_pathArguments (env : Environment) (ps : List Text) :
    options env (pathArguments ps) = ⟨.bool false, .int env.timeLimit⟩ := by
  rw [options, Json.field, pathArguments, Json.fieldOr_record, Json.fieldOr_record,
    if_neg (by decide), if_neg (by decide)]
  rfl

/-- The options of a call with nothing but paths are valid. -/
theorem checkedTimeout_pathArguments (env : Environment) (ps : List Text) :
    Service.checkedTimeout (options env (pathArguments ps)) = .ok env.timeLimit := by
  rw [options_pathArguments]
  exact Service.checkedTimeout_eq_ok rfl env.timeLimit_pos ⟨false, rfl⟩

/-- The report of results, without output, with places relative to the working folder. -/
def reportOf (d : Disk) (results : List Result) : Text :=
  Report.results d.cwdText d.cwdText false results

/-- What the tool answers behind a run: its report and its summary. -/
def answerTexts (d : Disk) (summary : Summary) : List Text :=
  [reportOf d summary.results, summary.json.write .indented]

variable [Stack] (env : Environment)

theorem call_run (executor : Except Failure (Executor σ)) (d : Disk) (arguments : Json) (s : σ) :
    call env executor d "run_doc_tests".toList arguments s =
      answerRun env executor d arguments s := by
  rw [call, if_neg (by decide), if_pos (by decide)]

variable (x : Executor σ) {d : Disk} {ps : List Text} (s : σ)

theorem call_of_discover_error {r : Refusal}
    (h : Service.discover d (.array (ps.map .string)) = .error r) :
    call env (.ok x) d "run_doc_tests".toList (pathArguments ps) s = (.ok [refused r], s) := by
  rw [← field_pathArguments] at h
  rw [call_run]
  exact answerRun_of_refusal
    (Service.run_of_discover_error _ d none s (checkedTimeout_pathArguments env ps) h)

theorem call_of_homeless {h : Harvest}
    (hdiscover : Service.discover d (.array (ps.map .string)) = .ok h) {f : Failure}
    (hfolder : Runner.folder? d none = .error f) :
    call env (.ok x) d "run_doc_tests".toList (pathArguments ps) s = (.error f, s) := by
  rw [← field_pathArguments] at hdiscover
  rw [call_run]
  exact answerRun_of_failure
    (Service.run_of_equipped_error _ d none s (checkedTimeout_pathArguments env ps) hdiscover
      (Service.equipped_of_no_folder x d none hfolder))

theorem call_of_folder {h : Harvest}
    (hdiscover : Service.discover d (.array (ps.map .string)) = .ok h) {p : Path}
    (hfolder : Runner.folder? d none = .ok p) {results : List Result} {after : σ}
    (hrun : Runner.run ⟨p, .int env.timeLimit⟩ x h.examples s = (results, after)) :
    call env (.ok x) d "run_doc_tests".toList (pathArguments ps) s =
      (runTexts (x.disk after) false ⟨results, h.errors⟩, after) := by
  rw [← field_pathArguments] at hdiscover
  have hasked : asked env (.ok x) d (pathArguments ps) s =
      (.ok (.ok ⟨results, h.errors⟩), after) := by
    rw [asked, Service.run_of_equipped_ok _ x d none s (checkedTimeout_pathArguments env ps)
      hdiscover (Service.equipped_of_folder x d none hfolder), hrun]
  rw [call_run, answerRun_of_summary hasked, options_pathArguments]
  rfl

omit [Stack]

theorem fromHere_of_there (h : ¬ d.IsHomeless) (results : List Result) :
    Report.fromHere d false results = .ok (reportOf d results) := by
  have hthere : d.at? d.cwd = some .folder := Classical.not_not.1 h
  rw [Report.fromHere, Disk.whereabouts, if_pos hthere]
  split <;> rfl

theorem fromHere_of_homeless (h : d.IsHomeless) {results : List Result} (hne : results ≠ []) :
    Report.fromHere d false results = .error (.disk .notFound none) :=
  Report.fromHere_eq_error_iff.2 ⟨hne, h, rfl⟩

theorem runTexts_of_report {summary : Summary}
    (h : Report.fromHere d false summary.results = .ok (reportOf d summary.results)) :
    runTexts d false summary = .ok (answerTexts d summary) := by
  rw [runTexts, h]
  rfl

theorem runTexts_of_failure {summary : Summary} {f : Failure}
    (h : Report.fromHere d false summary.results = .error f) :
    runTexts d false summary = .error f := by
  rw [runTexts, h]
  rfl

end Tool

namespace Summary

/-- A count in the JSON of a summary. -/
def countIn (j : Json) (name : String) : Json := (j.field "summary".toList).field name.toList

theorem field_summary (s : Summary) : s.json.field "summary".toList =
    .record [("total", .int s.total), ("passed", .int s.passed), ("failed", .int s.failed)] := by
  rw [json, Json.field, Json.fieldOr_record, if_pos rfl]

theorem countIn_total (s : Summary) : countIn s.json "total" = .int s.total := by
  rw [countIn, field_summary, Json.field, Json.fieldOr_record, if_pos rfl]

theorem countIn_failed (s : Summary) : countIn s.json "failed" = .int s.failed := by
  rw [countIn, field_summary, Json.field, Json.fieldOr_record, if_neg (by decide),
    Json.fieldOr_record, if_neg (by decide), Json.fieldOr_record, if_pos rfl]

theorem failed_eq_of_sameButTime {results timed : List Result}
    (h : Result.SameButTime results timed) (errors : List Text) :
    failed ⟨results, errors⟩ = failed ⟨timed, errors⟩ := by
  have hundated (rs : List Result) : failed ⟨rs.map Result.undated, errors⟩ = failed ⟨rs, errors⟩ := by
    rw [failed, List.countP_map]
    rfl
  rw [← hundated, ← hundated timed, h]

theorem exitCode_eq_zero_iff (s : Summary) :
    s.exitCode = 0 ↔ countIn s.json "failed" = .int 0 := by
  rw [countIn_failed]
  simp [exitCode, success]

end Summary

namespace CommandLine

variable {c : Console} {ps : List Text}

/-- A path that is read as one: it does not begin like an option, and the system accepts
it. -/
structure IsPlain (p : Text) : Prop where
  head?_ne : p.head? ≠ some '-'
  nul_notMem : '\x00' ∉ p

theorem attached?_eq_none {s : Text} (h : s.head? ≠ some '-') :
    attached? "--timeout".toList s = none := by
  cases s with
  | nil => rfl
  | cons c s => exact Text.after?_eq_none (m := '-') (by decide) (fun hc => h (hc ▸ rfl)) s

theorem readFrom_cons_of_isPlain {p : Text} (hp : IsPlain p) (a : Arguments)
    (rest : List Text) : readFrom a (p :: rest) = readFrom (a.withPath p) rest := by
  have ne (o : Text) (ho : o.head? = some '-') : p ≠ o := fun he => hp.head?_ne (he ▸ ho)
  -- Unfolded once: the equations of `readFrom` would compare the texts of all options.
  conv => lhs; unfold readFrom
  simp only [ne "--timeout".toList (by decide), attached?_eq_none hp.head?_ne,
    ne "--".toList (by decide), ne "--verbose".toList (by decide),
    ne "--dry-run".toList (by decide), ne "--version".toList (by decide),
    ne "--help".toList (by decide), if_false]
  split
  · exact absurd rfl hp.head?_ne
  · rfl

theorem readFrom_nil (a : Arguments) : readFrom a [] = some a := by
  unfold readFrom
  rfl

/-- Plain paths are read as paths, in order. -/
theorem readFrom_of_isPlain {ps : List Text} (h : ∀ p ∈ ps, IsPlain p) (a : Arguments)
    (rest : List Text) :
    readFrom a (ps ++ rest) = readFrom { a with paths := ps.reverse ++ a.paths } rest := by
  induction ps generalizing a with
  | nil => rfl
  | cons p ps ih =>
    rw [List.cons_append, readFrom_cons_of_isPlain (h p List.mem_cons_self),
      ih fun q hq => h q (List.mem_cons_of_mem _ hq)]
    simp [Arguments.withPath]

theorem readFrom_dryRun (a : Arguments) (rest : List Text) :
    readFrom a ("--dry-run".toList :: rest) = readFrom { a with dryRun := true } rest := by
  have hattached : attached? "--timeout".toList "--dry-run".toList = none := by decide
  conv => lhs; unfold readFrom
  simp only [hattached]
  rfl

theorem readFrom_plain {ps : List Text} (h : ∀ p ∈ ps, IsPlain p) :
    readFrom .none ps = some { Arguments.none with paths := ps.reverse } := by
  rw [← List.append_nil ps, readFrom_of_isPlain h, readFrom_nil]
  simp [Arguments.none]

/-- With `--dry-run` anywhere between them, plain paths are read as paths too. -/
theorem readFrom_with_dryRun {front behind : List Text} (h : ∀ p ∈ front ++ behind, IsPlain p) :
    readFrom .none (front ++ "--dry-run".toList :: behind) =
      some { Arguments.none with paths := (front ++ behind).reverse, dryRun := true } := by
  have hfront : ∀ p ∈ front, IsPlain p := fun p hp => h p (List.mem_append_left _ hp)
  have hbehind : ∀ p ∈ behind, IsPlain p := fun p hp => h p (List.mem_append_right _ hp)
  rw [readFrom_of_isPlain hfront, readFrom_dryRun, ← List.append_nil behind,
    readFrom_of_isPlain hbehind, readFrom_nil]
  simp [Arguments.none]

/-- What a console is relied on for. -/
structure Console.IsFaithful (c : Console) : Prop where
  /-- Where it accepts paths, it asks for them as they stand, and for nothing besides. -/
  paths : ∀ d ps q, (∀ p ∈ ps, IsPlain p) → c.understand d ps = .request q →
    q = ⟨ps, false, none, false⟩
  /-- Where it accepts paths with `--dry-run` between them, it also asks that nothing be run. -/
  dryRun : ∀ d front behind q, (∀ p ∈ front ++ behind, IsPlain p) →
    c.understand d (front ++ "--dry-run".toList :: behind) = .request q →
    q = ⟨front ++ behind, false, none, true⟩
  /-- It shows a text without control sequences as it is. -/
  shown : ∀ s, Text.escapeChar ∉ s → c.shown s = s

/-- Arguments that were read without a notice and a time limit ask for their paths. -/
theorem eq_of_understood {a : Arguments} {d : Disk} {q : Request} (hnotice : a.notice = none)
    (htimeout : a.timeout = none) (h : a.understood d = .request q) :
    q = ⟨a.paths.reverse, a.verbose, none, a.dryRun⟩ := by
  obtain ⟨paths, verbose, dryRun, timeout, notice⟩ := a
  obtain rfl : notice = none := hnotice
  obtain rfl : timeout = none := htimeout
  simp only [Arguments.understood, limit?] at h
  split at h
  · exact nomatch h
  · exact (Understood.request.inj h).symm

/-- The usual console is faithful. -/
theorem isFaithful_usual : usual.IsFaithful where
  paths d ps q hplain h := by
    simp only [usual, readFrom_plain hplain] at h
    have hq := eq_of_understood rfl rfl h
    rwa [List.reverse_reverse] at hq
  dryRun d front behind q hplain h := by
    simp only [usual, readFrom_with_dryRun hplain] at h
    have hq := eq_of_understood rfl rfl h
    rwa [List.reverse_reverse] at hq
  shown _ := Text.withoutControls_eq_self

section

variable [Stack] (env : Environment) (x : Executor σ) {d : Disk} (s : σ)

/-- The command scans the paths that it was asked for, in their shortest form. -/
theorem runOn_of_request {arguments paths : List Text} {dryRun : Bool} (hne : paths ≠ [])
    (h : c.understand d arguments = .request ⟨paths, false, none, dryRun⟩) {printed : Printed}
    {after : σ} (hscan : scan c (.ok x) d false dryRun env.timeLimit
      (paths.map fun p => (Path.ofText p).text) s = (printed, after)) :
    runOn c env (.ok x) d arguments s = (.printed printed, after) := by
  have hsome : paths.isEmpty = false := List.isEmpty_eq_false_iff.2 hne
  rw [runOn, h]
  simp only [hsome, Bool.false_eq_true, if_false, limitOr]
  rw [hscan]

variable {x s}

theorem scan_of_discover_error (dryRun : Bool) (limit : Int) {r : Refusal}
    (h : Service.discoverPaths Finder.default d ps = .error r) :
    scan c (.ok x) d false dryRun limit ps s = (printedRefusal c ps r, s) := by
  simp only [scan, h]

theorem scan_of_empty (dryRun : Bool) (limit : Int) {h : Harvest}
    (hdiscover : Service.discoverPaths Finder.default d ps = .ok h) (hempty : h.examples = []) :
    scan c (.ok x) d false dryRun limit ps s = (printedNothing c ps h, s) := by
  simp [scan, hdiscover, hempty]

theorem scan_of_dryRun (limit : Int) {h : Harvest}
    (hdiscover : Service.discoverPaths Finder.default d ps = .ok h) (hne : h.examples ≠ []) :
    scan c (.ok x) d false true limit ps s = (printedListing c ps h, s) := by
  simp [scan, hdiscover, hne]

theorem scan_of_homeless (limit : Int) {h : Harvest}
    (hdiscover : Service.discoverPaths Finder.default d ps = .ok h) (hne : h.examples ≠ [])
    {f : Failure} (hfolder : Runner.folder? d none = .error f) :
    scan c (.ok x) d false false limit ps s = (printedFailure c ps h f, s) := by
  have hequipped := Service.equipped_of_no_folder x d none hfolder
  simp [scan, hdiscover, hne, hequipped]

theorem scan_of_folder (limit : Int) {h : Harvest}
    (hdiscover : Service.discoverPaths Finder.default d ps = .ok h) (hne : h.examples ≠ [])
    {p : Path} (hfolder : Runner.folder? d none = .ok p) {results : List Result} {after : σ}
    (hrun : Runner.run ⟨p, .int limit⟩ x h.examples s = (results, after)) :
    scan c (.ok x) d false false limit ps s =
      (match Report.fromHere (x.disk after) false results with
      | .error f => printedFailure c ps h f
      | .ok report => printedResults c report ps h results, after) := by
  have hequipped := Service.equipped_of_folder x d none hfolder
  simp only [scan, hdiscover, List.isEmpty_iff, hne, if_false, hequipped, hrun]
  cases Report.fromHere (x.disk after) false results <;> rfl

end

/-! ### The verdicts -/

/-- What the command has printed goes with what the tool has answered.  The run has come to
`results` for the tool and to `timed` for the command, on the disk `after`. -/
inductive Agrees [Stack] (c : Console) (d after : Disk) (ps : List Text) (results timed : List Result) :
    Printed → Except Failure (List Text) → Prop
  /-- The discovery fails.  The tool answers with the error alone, and the command fails. -/
  | refused {printed : Printed} {r : Refusal} :
      Service.discover d (.array (ps.map .string)) = .error r → printed.exitCode = 1 →
      Agrees c d after ps results timed printed (.ok ["Error: ".toList ++ r.message])
  /-- The working folder is gone.  The call of the tool fails, and the command fails if there are
  examples to run. -/
  | homeless {printed : Printed} {h : Harvest} {f : Failure} :
      Service.discover d (.array (ps.map .string)) = .ok h → d.IsHomeless →
      printed.exitCode = (if h.examples = [] then 0 else 1) →
      Agrees c d after ps results timed printed (.error f)
  /-- There is no example.  The command succeeds, and the tool has counted none. -/
  | empty {printed : Printed} {h : Harvest} :
      Service.discover d (.array (ps.map .string)) = .ok h → ¬ d.IsHomeless → h.examples = [] →
      printed.exitCode = 0 →
      Summary.countIn (Summary.json ⟨results, h.errors⟩) "total" = .int 0 →
      Agrees c d after ps results timed printed (.ok (Tool.answerTexts after ⟨results, h.errors⟩))
  /-- The working folder is gone behind the run.  Then there is no report, and both fail. -/
  | unreported {printed : Printed} {h : Harvest} {f : Failure} :
      Service.discover d (.array (ps.map .string)) = .ok h → ¬ d.IsHomeless → h.examples ≠ [] →
      after.IsHomeless → printed.exitCode = 1 →
      Agrees c d after ps results timed printed (.error f)
  /-- Otherwise the command has printed its report at last, as the console shows it, which is as
  it stands if it has no control sequence.  It succeeds exactly if the tool has counted no
  failure. -/
  | ran {printed : Printed} {h : Harvest} :
      Service.discover d (.array (ps.map .string)) = .ok h → ¬ d.IsHomeless → h.examples ≠ [] →
      ¬ after.IsHomeless → c.shown (Tool.reportOf after timed) ++ ['\n'] <:+ printed.stdout →
      (Text.escapeChar ∉ Tool.reportOf after timed →
        Tool.reportOf after timed ++ ['\n'] <:+ printed.stdout) →
      (printed.exitCode = 0 ↔
        Summary.countIn (Summary.json ⟨results, h.errors⟩) "failed" = .int 0) →
      Agrees c d after ps results timed printed (.ok (Tool.answerTexts after ⟨results, h.errors⟩))

section

variable [Stack] (hc : c.IsFaithful) (env : Environment) (d : Disk)
include hc

/-- With `--dry-run`, nothing is run, and the command succeeds exactly if the discovery
does. -/
theorem runOn_dryRun (x : Executor σ) {front behind : List Text} (hne : front ++ behind ≠ [])
    (hplain : ∀ p ∈ front ++ behind, IsPlain p) {q : Request}
    (haccepted : c.understand d (front ++ "--dry-run".toList :: behind) = .request q) (s : σ) :
    ∃ listed, runOn c env (.ok x) d (front ++ "--dry-run".toList :: behind) s =
        (.printed listed, s) ∧
      (listed.exitCode = 0 ↔
        ∃ h, Service.discoverPaths Finder.default d (front ++ behind) = .ok h) := by
  obtain rfl := hc.dryRun d front behind q hplain haccepted
  cases hdiscover : Service.discoverPaths Finder.default d (front ++ behind) with
  | error r =>
    obtain ⟨r', hshort⟩ := Service.discoverPaths_map_text_error hdiscover
    refine ⟨_, runOn_of_request env x s hne haccepted (scan_of_discover_error _ _ hshort), ?_⟩
    simp [printedRefusal]
  | ok h =>
    have hshort := (Service.discoverPaths_map_text _ _ _ _).2 hdiscover
    by_cases hempty : h.examples = []
    · refine ⟨_, runOn_of_request env x s hne haccepted (scan_of_empty _ _ hshort hempty), ?_⟩
      simp [printedNothing]
    · refine ⟨_, runOn_of_request env x s hne haccepted (scan_of_dryRun _ hshort hempty), ?_⟩
      simp [printedListing]

variable {ps : List Text}

/-- Where the examples are run, what is printed behind the run goes with what is answered. -/
theorem agrees_of_run {x : Executor σ} {h : Harvest} {results timed : List Result} {after : σ}
    (hdiscover : Service.discover d (.array (ps.map .string)) = .ok h) (hthere : ¬ d.IsHomeless)
    (hexamples : h.examples ≠ []) (hlength : results.length = h.examples.length)
    (hsame : Result.SameButTime results timed) (paths : List Text) :
    Agrees c d (x.disk after) ps results timed
      (match Report.fromHere (x.disk after) false timed with
      | .error f => printedFailure c paths h f
      | .ok report => printedResults c report paths h timed)
      (Tool.runTexts (x.disk after) false ⟨results, h.errors⟩) := by
  have hresults : results ≠ [] := fun hnil => hexamples (List.length_eq_zero_iff.1 (by
    rw [← hlength, hnil]
    rfl))
  have htimed : timed ≠ [] := fun hnil => hresults (by
    rw [hnil] at hsame
    exact List.map_eq_nil_iff.1 hsame)
  by_cases hgone : (x.disk after).IsHomeless
  · rw [Tool.fromHere_of_homeless hgone htimed,
      Tool.runTexts_of_failure (Tool.fromHere_of_homeless hgone hresults)]
    exact .unreported hdiscover hthere hexamples hgone rfl
  · have hreport : c.shown (Tool.reportOf (x.disk after) timed) ++ ['\n'] <:+
        (printedResults c (Tool.reportOf (x.disk after) timed) paths h timed).stdout :=
      List.suffix_append _ _
    rw [Tool.fromHere_of_there hgone timed,
      Tool.runTexts_of_report (Tool.fromHere_of_there hgone results)]
    refine .ran hdiscover hthere hexamples hgone hreport (fun hescape => ?_) ?_
    · rw [hc.shown _ hescape] at hreport
      exact hreport
    · rw [Summary.countIn_failed, Summary.failed_eq_of_sameButTime hsame, ← Summary.countIn_failed]
      exact Summary.exitCode_eq_zero_iff _

variable (hne : ps ≠ [])
include hne

/-- The command and the tool lead to the same state, and what they say goes together. -/
theorem runOn_agrees_call (x : Executor σ) (tick tick' : StateM τ Int)
    (hplain : ∀ p ∈ ps, IsPlain p) {q : Request} (haccepted : c.understand d ps = .request q)
    (s : σ) (t t' : τ) :
    ∃ printed answer after u u' results timed,
      runOn c env (.ok (x.timed tick')) d ps (s, t') = (.printed printed, (after, u')) ∧
      Tool.call env (.ok (x.timed tick)) d "run_doc_tests".toList (Tool.pathArguments ps) (s, t) =
        (answer, (after, u)) ∧
      Result.SameButTime results timed ∧ (tick = tick' → t = t' → results = timed) ∧
      Agrees c d (x.disk after) ps results timed printed answer := by
  obtain rfl := hc.paths d ps q hplain haccepted
  have htexts := Service.discover_texts d hne
  cases hdiscover : Service.discover d (.array (ps.map .string)) with
  | error r =>
    obtain ⟨r', hshort⟩ := Service.discoverPaths_map_text_error (htexts ▸ hdiscover)
    exact ⟨_, _, _, _, _, [], [],
      runOn_of_request env _ _ hne haccepted (scan_of_discover_error _ _ hshort),
      Tool.call_of_discover_error env _ _ hdiscover, rfl, fun _ _ => rfl, .refused hdiscover rfl⟩
  | ok h =>
    have hshort := (Service.discoverPaths_map_text _ _ _ _).2 (htexts ▸ hdiscover)
    cases hfolder : Runner.folder? d none with
    | error f =>
      have hcall := Tool.call_of_homeless env (x.timed tick) (s, t) hdiscover hfolder
      obtain ⟨-, hgone, -⟩ := Runner.folder?_eq_error_iff.1 hfolder
      by_cases hempty : h.examples = []
      · exact ⟨_, _, _, _, _, [], [],
          runOn_of_request env _ _ hne haccepted (scan_of_empty _ _ hshort hempty), hcall, rfl,
          fun _ _ => rfl, .homeless hdiscover hgone (if_pos hempty).symm⟩
      · exact ⟨_, _, _, _, _, [], [],
          runOn_of_request env _ _ hne haccepted (scan_of_homeless _ hshort hempty hfolder), hcall,
          rfl, fun _ _ => rfl, .homeless hdiscover hgone (if_neg hempty).symm⟩
    | ok p =>
      have hthere : ¬ d.IsHomeless := fun hgone => by
        have hnone : Runner.folder? d none = .error (.disk .notFound none) :=
          Runner.folder?_eq_error_iff.2 ⟨rfl, hgone, rfl⟩
        rw [hnone] at hfolder
        exact nomatch hfolder
      obtain ⟨undated, after, hruns⟩ :=
        Runner.run_timed ⟨p, .int env.timeLimit⟩ x h.examples s
      obtain ⟨results, u, hrun, hresults⟩ := hruns tick t
      obtain ⟨timed, u', hrun', htimed⟩ := hruns tick' t'
      have hsame : Result.SameButTime results timed := hresults.trans htimed.symm
      have hclock : tick = tick' → t = t' → results = timed := by
        rintro rfl rfl
        exact congrArg Prod.fst (hrun.symm.trans hrun')
      have hcall := Tool.call_of_folder env (x.timed tick) (s, t) hdiscover hfolder hrun
      by_cases hempty : h.examples = []
      · rw [hempty] at hrun
        have hnothing : (([] : List Result), (s, t)) = (results, (after, u)) := hrun
        cases hnothing
        have htexts : Tool.runTexts (x.disk s) false ⟨[], h.errors⟩ =
            .ok (Tool.answerTexts (x.disk s) ⟨[], h.errors⟩) := Tool.runTexts_of_report rfl
        exact ⟨_, _, _, _, _, [], [],
          runOn_of_request env _ _ hne haccepted (scan_of_empty _ _ hshort hempty),
          hcall.trans (congrArg (·, (s, t)) htexts), rfl, fun _ _ => rfl,
          .empty hdiscover hthere hempty rfl (Summary.countIn_total _)⟩
      · have hscan := scan_of_folder (c := c) env.timeLimit hshort hempty hfolder hrun'
        have hlength : results.length = h.examples.length :=
          (congrArg (List.length ∘ Prod.fst) hrun).symm.trans (Runner.length_run _ _ _ _)
        exact ⟨_, _, _, _, _, results, timed,
          runOn_of_request env _ _ hne haccepted hscan, hcall, hsame, hclock,
          agrees_of_run hc d hdiscover hthere hempty hlength hsame _⟩

end

/-- One example, and a program that fails with a complaint in red. -/
def colourful : Script where
  disk :=
    { entries := [(["m.ts".toList], .file (Utf8.encode
        "/**\n * @example\n * ```\n * f();\n * ```\n */\nfunction f() \x7b\x7d\n".toList) 0o644)]
      cwd := [] }
  answers := [.ok ⟨1, [], "\x1b[31mboom".toList, false⟩]
  jobs := []

theorem isPlain_colourful : ∀ p ∈ ["m.ts".toList], IsPlain p := by
  intro p hp
  obtain rfl := List.mem_singleton.1 hp
  exact ⟨by decide, by decide⟩

/-- A clock that goes on by some time whenever it is read. -/
def ticking (step : Int) : StateM Int Int := fun now => (now, now + step)

/-- Whether the command has printed the report that the tool has answered with, at last. -/
def endsWithReport : Answer → Except Failure (List Text) → Bool
  | .printed p, .ok [report, _] => (report ++ ['\n']).isSuffixOf p.stdout
  | _, _ => true

end CommandLine
end DocExamples
