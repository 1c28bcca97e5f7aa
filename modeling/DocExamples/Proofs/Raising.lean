/-
# The ways in which a request fails

A request to run examples is answered with a summary or refused with a code.  Where it is
neither, it fails, and there are four ways to that, one for each thing that is done outside
of all handlers.

| what is done | fails |
| --- | --- |
| an option that cannot be used is shown | if it holds too many digits or is nested too deep |
| the command is cut into words | if it ends within quotes or behind a backslash |
| the working folder is asked for | if it is gone |
| places are shown relative to it, in the report | if it is gone by then |

The reader of words is a small machine that looks at one character after another, so where
a command ends is the state that the machine is left in.
-/

import DocExamples.Proofs.Gate
import DocExamples.Run.Workspace
import DocExamples.Tool

namespace DocExamples

/-! ### Commands that cannot be cut into words -/

namespace Words

/-- Where in a word the reader is after one more character. -/
def next : Mode → Char → Mode
  | .plain, c => if c = '\\' then .escaped else if c = '\'' ∨ c = '"' then .quoted c else .plain
  | .quoted q, c =>
    if c = q then .plain else if c = '\\' ∧ q = '"' then .quotedEscape else .quoted q
  | .escaped, _ => .plain
  | .quotedEscape, _ => .quoted '"'

/-- What is wrong with a text that ends where the reader is. -/
def defect? : Mode → Option Failure
  | .plain => none
  | .quoted _ => some .unclosedQuote
  | .escaped => some .danglingEscape
  | .quotedEscape => some .danglingEscape

theorem next_of_separates {c : Char} (h : separates c = true) : next .plain c = .plain := by
  have hc : ((c = ' ' ∨ c = '\t') ∨ c = '\r') ∨ c = '\n' := by simpa [separates] using h
  rcases hc with ((rfl | rfl) | rfl) | rfl <;> rfl

theorem map_eq_error_iff {α β : Type} {g : α → β} {x : Except Failure α} {f : Failure} :
    x.map g = .error f ↔ x = .error f := by
  cases x <;> simp [Except.map]

theorem map_eq_ok_iff {α β : Type} {g : α → β} {x : Except Failure α} {b : β} :
    x.map g = .ok b ↔ ∃ a, x = .ok a ∧ g a = b := by
  cases x <;> simp [Except.map]

/-- **Words cannot be read exactly if the text ends within quotes or behind a backslash.** -/
theorem readFrom_eq_error_iff {m : Mode} {word s : Text} {begun : Bool} {f : Failure} :
    readFrom m word begun s = .error f ↔ defect? (s.foldl next m) = some f := by
  induction s generalizing m word begun with
  | nil => cases m <;> simp [readFrom, defect?]
  | cons c s ih =>
    rw [List.foldl_cons]
    cases m with
    | plain =>
      rw [readFrom]
      split
      · next hc => rw [map_eq_error_iff, ih, next_of_separates hc]
      · split
        · next hc => rw [ih, next, if_pos hc]
        · next hc =>
          split
          · next hq => rw [ih, next, if_neg hc, if_pos hq]
          · next hq => rw [ih, next, if_neg hc, if_neg hq]
    | quoted q =>
      rw [readFrom]
      split
      · next hc => rw [ih, next, if_pos hc]
      · next hc =>
        split
        · next hq => rw [ih, next, if_neg hc, if_pos hq]
        · next hq => rw [ih, next, if_neg hc, if_neg hq]
    | escaped => rw [readFrom, ih, next]
    | quotedEscape =>
      rw [readFrom]
      split <;> rw [ih, next]

end Words

namespace Environment

/-- What is wrong with the command that the environment sets, if anything is. -/
def commandDefect? (e : Environment) : Option Failure :=
  Words.defect? ((Text.strip (e.interpreter.getD [])).foldl Words.next .plain)

theorem command_eq_error_iff {e : Environment} {f : Failure} :
    e.command = .error f ↔ e.commandDefect? = some f := by
  simp only [command, commandDefect?]
  split
  · next hempty =>
    rw [List.isEmpty_iff.1 hempty]
    simp [Words.defect?]
  · exact Words.readFrom_eq_error_iff

theorem interpreterOf_eq_error_iff {e : Environment} {f : Failure} :
    e.interpreterOf = .error f ↔ e.commandDefect? = some f := by
  rw [← command_eq_error_iff, interpreterOf]
  cases e.command <;> simp [bind, Except.bind, pure, Except.pure]

end Environment

/-! ### Working folders that are gone -/

namespace Disk

/-- The working folder is not there any more. -/
def IsHomeless (d : Disk) : Prop :=
  d.at? d.cwd ≠ some .folder

theorem whereabouts_eq_error_iff {d : Disk} {f : Failure} :
    d.whereabouts = .error f ↔ d.IsHomeless ∧ f = .disk .notFound none := by
  unfold whereabouts IsHomeless
  split
  · next hthere => simp [hthere]
  · next hgone => simp [hgone, eq_comm]

end Disk

namespace Runner

/-- No folder to run programs in is asked for. -/
def IsUnsaid (folder : Option Text) : Prop :=
  folder.getD [] = []

theorem folder?_eq_error_iff {d : Disk} {folder : Option Text} {f : Failure} :
    folder? d folder = .error f ↔ IsUnsaid folder ∧ d.IsHomeless ∧ f = .disk .notFound none := by
  unfold folder? IsUnsaid
  split
  · simp
  · next hunsaid =>
    have hempty : folder.getD [] = [] := by
      cases folder with
      | none => rfl
      | some s =>
        cases s with
        | nil => rfl
        | cons c s => exact absurd rfl (hunsaid c s)
    rw [Words.map_eq_error_iff, Disk.whereabouts_eq_error_iff, and_iff_right hempty]

end Runner

namespace Report

theorem fromHere_eq_error_iff {d : Disk} {verbose : Bool} {results : List Result} {f : Failure} :
    fromHere d verbose results = .error f ↔
      results ≠ [] ∧ d.IsHomeless ∧ f = .disk .notFound none := by
  unfold fromHere
  split
  · next hempty => simp [List.isEmpty_iff.1 hempty]
  · next hsome =>
    have hne : results ≠ [] := fun h => hsome (List.isEmpty_iff.2 h)
    rw [Words.map_eq_error_iff, Disk.whereabouts_eq_error_iff, and_iff_right hne]

end Report

/-! ### Requests that fail -/

namespace Service

variable {σ : Type}

/-- The codes that programs go by. -/
def codes : List Text :=
  ["validation_error".toList, "missing_input".toList, "file_not_found".toList,
    "internal_error".toList]

theorem code_mem_codes : (r : Refusal) → r.code ∈ codes
  | .timeout _ => .head _
  | .verbose _ => .head _
  | .missingInput => .tail _ (.head _)
  | .notPaths => .head _
  | .notFound .. => .tail _ (.tail _ (.head _))
  | .discovery _ => .tail _ (.tail _ (.tail _ (.head _)))

/-- Why there is no executor, or no folder for it. -/
theorem equipped_eq_error_iff {env : Environment} {make : Interpreter → Executor σ} {d : Disk}
    {folder : Option Text} {f : Failure} :
    equipped (env.interpreterOf.map make) d folder = .error f ↔
      env.commandDefect? = some f ∨
        env.commandDefect? = none ∧ Runner.folder? d folder = .error f := by
  have hdefect (g : Failure) : env.interpreterOf = .error g ↔ env.commandDefect? = some g :=
    Environment.interpreterOf_eq_error_iff
  cases hinterpreter : env.interpreterOf with
  | error g =>
    have hsome := (hdefect g).1 hinterpreter
    simp [equipped, Except.map, bind, Except.bind, hsome]
  | ok i =>
    have hnone : env.commandDefect? = none := by
      rw [Option.eq_none_iff_forall_ne_some]
      intro g hg
      rw [(hdefect g).2 hg] at hinterpreter
      cases hinterpreter
    cases hfolder : Runner.folder? d folder with
    | error g => simp [equipped, Except.map, bind, Except.bind, hnone, hfolder]
    | ok p => simp [equipped, Except.map, bind, Except.bind, pure, Except.pure, hnone, hfolder]

theorem executor_of_equipped {e : Except Failure (Executor σ)} {d : Disk} {folder : Option Text}
    {x : Executor σ} {p : Path} (h : equipped e d folder = .ok (x, p)) : e = .ok x := by
  cases e with
  | error f => exact nomatch h
  | ok y =>
    cases hfolder : Runner.folder? d folder with
    | error f =>
      rw [equipped_of_no_folder y d folder hfolder] at h
      exact nomatch h
    | ok q =>
      rw [equipped_of_folder y d folder hfolder] at h
      rw [(Prod.mk.inj (Except.ok.inj h)).1]

variable [Stack]

/-- A request passes every check: its time limit is a positive whole number, its wish for
output a truth value, and the discovery succeeds. -/
structure Passes (d : Disk) (o : Options) (paths : Json) : Prop where
  limit : o.timeout.IsLimit
  truth : o.verbose.IsTruth
  found : ∃ h, discover d paths = .ok h

/-- The ways in which a request fails, and with what. -/
inductive Fails (env : Environment) (d : Disk) (folder : Option Text) (o : Options) (paths : Json) :
    Failure → Prop
  /-- The time limit is refused and cannot be shown. -/
  | timeout {f : Failure} : ¬ o.timeout.IsLimit → o.timeout.hidden? Stack.values = some f →
      Fails env d folder o paths f
  /-- The wish for output is refused and cannot be shown. -/
  | verbose {f : Failure} : o.timeout.IsLimit → ¬ o.verbose.IsTruth →
      o.verbose.hidden? Stack.values = some f → Fails env d folder o paths f
  /-- All checks are passed, and the command of the environment cannot be cut into words. -/
  | quoting {f : Failure} : Passes d o paths → env.commandDefect? = some f →
      Fails env d folder o paths f
  /-- All checks are passed, and the working folder is needed and gone. -/
  | homeless : Passes d o paths → env.commandDefect? = none → Runner.IsUnsaid folder →
      d.IsHomeless → Fails env d folder o paths (.disk .notFound none)

/-- How a request goes: what it comes to, and the state behind it. -/
inductive Goes (e : Except Failure (Executor σ)) (d : Disk) (folder : Option Text) (o : Options)
    (paths : Json) (s : σ) : Except Failure (Except Refusal Summary) × σ → Prop
  /-- The options are refused. -/
  | invalid {r : Refusal} : checkedTimeout o = .error r → Goes e d folder o paths s (answerOf r, s)
  /-- The discovery is refused. -/
  | refused {n : Int} {r : Refusal} : checkedTimeout o = .ok n → discover d paths = .error r →
      Goes e d folder o paths s (.ok (.error r), s)
  /-- There is no executor, or no folder for it. -/
  | unequipped {n : Int} {h : Harvest} {f : Failure} : checkedTimeout o = .ok n →
      discover d paths = .ok h → equipped e d folder = .error f →
      Goes e d folder o paths s (.error f, s)
  /-- The examples are run. -/
  | ran {n : Int} {h : Harvest} {x : Executor σ} {p : Path} {results : List Result} {after : σ} :
      checkedTimeout o = .ok n → discover d paths = .ok h → equipped e d folder = .ok (x, p) →
      Runner.run ⟨p, .int n⟩ x h.examples s = (results, after) →
      Goes e d folder o paths s (.ok (.ok ⟨results, h.errors⟩), after)

theorem goes_run (e : Except Failure (Executor σ)) (d : Disk) (folder : Option Text) (o : Options)
    (paths : Json) (s : σ) : Goes e d folder o paths s (run e d folder o paths s) := by
  cases hchecked : checkedTimeout o with
  | error r =>
    rw [run_of_checkedTimeout_error e d folder s hchecked]
    exact .invalid hchecked
  | ok n =>
    cases hdiscover : discover d paths with
    | error r =>
      rw [run_of_discover_error e d folder s hchecked hdiscover]
      exact .refused hchecked hdiscover
    | ok h =>
      cases hequipped : equipped e d folder with
      | error f =>
        rw [run_of_equipped_error e d folder s hchecked hdiscover hequipped]
        exact .unequipped hchecked hdiscover hequipped
      | ok equipment =>
        rw [run_of_equipped_ok e equipment.1 d folder s hchecked hdiscover hequipped]
        exact .ran hchecked hdiscover hequipped rfl

/-- Only valid options are passed on. -/
theorem passes_iff {d : Disk} {o : Options} {paths : Json} :
    Passes d o paths ↔ (∃ n, checkedTimeout o = .ok n) ∧ ∃ h, discover d paths = .ok h := by
  constructor
  · rintro ⟨⟨n, hn, hpos⟩, htruth, hfound⟩
    exact ⟨⟨n, checkedTimeout_eq_ok hn hpos htruth⟩, hfound⟩
  · rintro ⟨⟨n, hn⟩, hfound⟩
    by_cases hlimit : o.timeout.IsLimit
    · by_cases htruth : o.verbose.IsTruth
      · exact ⟨hlimit, htruth, hfound⟩
      · rw [checkedTimeout_of_not_isTruth hlimit htruth] at hn
        exact nomatch hn
    · rw [checkedTimeout_of_not_isLimit hlimit] at hn
      exact nomatch hn

section

variable {env : Environment} {make : Interpreter → Executor σ} {d : Disk} {folder : Option Text}
  {o : Options} {paths : Json} {f : Failure} {s : σ}

/-- An option that is refused and cannot be shown is the failure. -/
theorem fails_of_hidden {r : Refusal} (hchecked : checkedTimeout o = .error r)
    (hhidden : r.hidden? = some f) : Fails env d folder o paths f := by
  by_cases hlimit : o.timeout.IsLimit
  · by_cases htruth : o.verbose.IsTruth
    · obtain ⟨n, hn, hpos⟩ := hlimit
      rw [checkedTimeout_eq_ok hn hpos htruth] at hchecked
      exact nomatch hchecked
    · rw [checkedTimeout_of_not_isTruth hlimit htruth] at hchecked
      obtain rfl := Except.error.inj hchecked
      exact .verbose hlimit htruth hhidden
  · rw [checkedTimeout_of_not_isLimit hlimit] at hchecked
    obtain rfl := Except.error.inj hchecked
    exact .timeout hlimit hhidden

theorem answerOf_eq_error_iff {r : Refusal} : answerOf r = .error f ↔ r.hidden? = some f := by
  unfold answerOf
  split
  · next hhidden => simp [hhidden]
  · next hhidden => simp [hhidden]

/-- What is missing where a request passes all checks is the failure. -/
theorem fails_of_unequipped (hpasses : Passes d o paths)
    (h : equipped (env.interpreterOf.map make) d folder = .error f) :
    Fails env d folder o paths f := by
  rcases equipped_eq_error_iff.1 h with hdefect | ⟨hnone, hfolder⟩
  · exact .quoting hpasses hdefect
  · obtain ⟨hunsaid, hgone, rfl⟩ := Runner.folder?_eq_error_iff.1 hfolder
    exact .homeless hpasses hnone hunsaid hgone

/-- **A request fails in these ways and in no other.** -/
theorem run_eq_error_iff :
    (run (env.interpreterOf.map make) d folder o paths s).1 = .error f ↔
      Fails env d folder o paths f := by
  constructor
  · intro hrun
    have hgoes := goes_run (env.interpreterOf.map make) d folder o paths s
    generalize run (env.interpreterOf.map make) d folder o paths s = asked at hrun hgoes
    cases hgoes with
    | invalid hchecked => exact fails_of_hidden hchecked (answerOf_eq_error_iff.1 hrun)
    | refused hchecked hdiscover => exact nomatch hrun
    | unequipped hchecked hdiscover hequipped =>
      obtain rfl := Except.error.inj hrun
      exact fails_of_unequipped (passes_iff.2 ⟨⟨_, hchecked⟩, _, hdiscover⟩) hequipped
    | ran _ _ _ _ => exact nomatch hrun
  · have unequipped (hpasses : Passes d o paths)
        (h : equipped (env.interpreterOf.map make) d folder = .error f) :
        (run (env.interpreterOf.map make) d folder o paths s).1 = .error f := by
      obtain ⟨⟨n, hchecked⟩, harvest, hdiscover⟩ := passes_iff.1 hpasses
      rw [run_of_equipped_error _ d folder s hchecked hdiscover h]
    rintro (⟨hlimit, hhidden⟩ | ⟨hlimit, htruth, hhidden⟩ | ⟨hpasses, hdefect⟩ |
      ⟨hpasses, hnone, hunsaid, hgone⟩)
    · rw [run_of_checkedTimeout_error _ d folder s (checkedTimeout_of_not_isLimit hlimit)]
      exact answerOf_eq_error_iff.2 hhidden
    · rw [run_of_checkedTimeout_error _ d folder s (checkedTimeout_of_not_isTruth hlimit htruth)]
      exact answerOf_eq_error_iff.2 hhidden
    · exact unequipped hpasses (equipped_eq_error_iff.2 (.inl hdefect))
    · exact unequipped hpasses (equipped_eq_error_iff.2
        (.inr ⟨hnone, Runner.folder?_eq_error_iff.2 ⟨hunsaid, hgone, rfl⟩⟩))

end

/-- A request that gives no summary changes nothing. -/
theorem state_run {e : Except Failure (Executor σ)} {d : Disk} {folder : Option Text} {o : Options}
    {paths : Json} {s : σ} (h : ∀ summary, (run e d folder o paths s).1 ≠ .ok (.ok summary)) :
    (run e d folder o paths s).2 = s := by
  have hgoes := goes_run e d folder o paths s
  generalize run e d folder o paths s = asked at h hgoes
  cases hgoes with
  | ran _ _ _ _ => exact absurd rfl (h _)
  | _ => rfl

/-- Where a request gives a summary, there was an executor. -/
theorem exists_executor_of_run {e : Except Failure (Executor σ)} {d : Disk} {folder : Option Text}
    {o : Options} {paths : Json} {s : σ} {summary : Summary}
    (h : (run e d folder o paths s).1 = .ok (.ok summary)) : ∃ x, e = .ok x := by
  have hgoes := goes_run e d folder o paths s
  generalize run e d folder o paths s = asked at h hgoes
  cases hgoes with
  | invalid _ => exact absurd h (answerOf_ne_summary _ _)
  | refused _ _ => exact nomatch Except.ok.inj h
  | unequipped _ _ _ => exact nomatch h
  | ran _ _ hequipped _ => exact ⟨_, executor_of_equipped hequipped⟩

end Service

namespace Tool

/-- The texts of a run cannot be made exactly if its report cannot. -/
theorem runTexts_eq_error_iff {d : Disk} {verbose : Bool} {summary : Summary} {f : Failure} :
    runTexts d verbose summary = .error f ↔
      Report.fromHere d verbose summary.results = .error f := by
  rw [runTexts]
  cases Report.fromHere d verbose summary.results <;>
    simp [bind, Except.bind, pure, Except.pure]

theorem runTexts_ne_nil (d : Disk) (verbose : Bool) (summary : Summary) :
    runTexts d verbose summary ≠ .ok [] := by
  rw [runTexts]
  cases Report.fromHere d verbose summary.results <;>
    simp [bind, Except.bind, pure, Except.pure]

variable [Stack] {σ : Type}

/-- The request that the tool makes to run examples. -/
def asked (env : Environment) (executor : Except Failure (Executor σ)) (d : Disk)
    (arguments : Json) (s : σ) : Except Failure (Except Refusal Summary) × σ :=
  Service.run executor d none (options env arguments) (arguments.field "paths".toList) s

section

variable {env : Environment} {executor : Except Failure (Executor σ)} {d : Disk} {arguments : Json}
  {s after : σ} {f : Failure}

theorem answerRun_of_failure (h : asked env executor d arguments s = (.error f, after)) :
    answerRun env executor d arguments s = (.error f, after) := by
  rw [asked] at h
  rw [answerRun, h]

theorem answerRun_of_refusal {r : Refusal}
    (h : asked env executor d arguments s = (.ok (.error r), after)) :
    answerRun env executor d arguments s = (.ok [refused r], after) := by
  rw [asked] at h
  rw [answerRun, h]

theorem answerRun_of_summary {summary : Summary}
    (h : asked env executor d arguments s = (.ok (.ok summary), after)) :
    answerRun env executor d arguments s =
      (runTexts (Executor.diskOr executor d after) (isVerbose (options env arguments)) summary,
        after) := by
  rw [asked] at h
  rw [answerRun, h]

theorem call_eq_error_iff {name : Text} :
    (call env executor d name arguments s).1 = .error f ↔
      name = run.name.toList ∧ (answerRun env executor d arguments s).1 = .error f := by
  unfold call
  split
  · next hname =>
    subst hname
    exact ⟨nofun, fun ⟨hrun, _⟩ => absurd hrun (by decide)⟩
  · split
    · next hname => exact ⟨fun h => ⟨hname, h⟩, fun ⟨_, h⟩ => h⟩
    · next hname => exact ⟨nofun, fun ⟨hrun, _⟩ => absurd hrun hname⟩

end

/-- The ways in which a call of the tool that runs examples fails, and with what. -/
inductive Fails (env : Environment) (host : Host) (d : Disk) (arguments : Json) (s : Site) :
    Failure → Prop
  /-- The request fails. -/
  | request {f : Failure} :
      Service.Fails env d none (options env arguments) (arguments.field "paths".toList) f →
      Fails env host d arguments s f
  /-- Examples were run, and the working folder is gone behind them. -/
  | report {summary : Summary} {after : Site} :
      asked env (env.interpreterOf.map (Workspace.executor host)) d arguments s =
        (.ok (.ok summary), after) →
      summary.results ≠ [] → after.disk.IsHomeless →
      Fails env host d arguments s (.disk .notFound none)

/-- **The tool that runs examples fails in these ways and in no other.** -/
theorem answerRun_eq_error_iff (env : Environment) (host : Host) (d : Disk) (arguments : Json)
    (s : Site) (f : Failure) :
    (answerRun env (env.interpreterOf.map (Workspace.executor host)) d arguments s).1 = .error f ↔
      Fails env host d arguments s f := by
  have hfails : (asked env (env.interpreterOf.map (Workspace.executor host)) d arguments s).1 =
      .error f ↔
      Service.Fails env d none (options env arguments) (arguments.field "paths".toList) f :=
    Service.run_eq_error_iff
  have hdisk {summary : Summary} {after : Site}
      (h : asked env (env.interpreterOf.map (Workspace.executor host)) d arguments s =
        (.ok (.ok summary), after)) :
      Executor.diskOr (env.interpreterOf.map (Workspace.executor host)) d after = after.disk := by
    obtain ⟨x, hx⟩ := Service.exists_executor_of_run (congrArg Prod.fst h)
    obtain ⟨i, -, rfl⟩ := Words.map_eq_ok_iff.1 hx
    rw [hx]
    rfl
  constructor
  · intro hanswer
    cases hasked : asked env (env.interpreterOf.map (Workspace.executor host)) d arguments s with
    | mk answer after =>
      cases answer with
      | error g =>
        rw [answerRun_of_failure hasked] at hanswer
        obtain rfl := Except.error.inj hanswer
        exact .request (hfails.1 (congrArg Prod.fst hasked))
      | ok answer =>
        cases answer with
        | error r =>
          rw [answerRun_of_refusal hasked] at hanswer
          exact nomatch hanswer
        | ok summary =>
          rw [answerRun_of_summary hasked, hdisk hasked, runTexts_eq_error_iff,
            Report.fromHere_eq_error_iff] at hanswer
          obtain ⟨hne, hgone, rfl⟩ := hanswer
          exact .report hasked hne hgone
  · rintro (hfailed | ⟨hasked, hne, hgone⟩)
    · rw [answerRun_of_failure (Prod.ext (hfails.2 hfailed) rfl)]
    · rw [answerRun_of_summary hasked, hdisk hasked, runTexts_eq_error_iff,
        Report.fromHere_eq_error_iff]
      exact ⟨hne, hgone, rfl⟩

/-- An answer of a tool is never empty. -/
theorem call_ne_nil (env : Environment) (executor : Except Failure (Executor σ)) (d : Disk)
    (name : Text) (arguments : Json) (s : σ) :
    (call env executor d name arguments s).1 ≠ .ok [] := by
  simp only [call, answerExtract, answerRun]
  split
  · split <;> simp
  · split
    · split
      · simp
      · simp
      · exact runTexts_ne_nil _ _ _
    · simp

end Tool

namespace Service

/-- **When a request fails.**  Whatever the workspace, the options and the paths are, a request
is refused with one of four codes, or its examples are run, or it fails.  It fails exactly where
an option that is refused cannot be shown, or where all checks are passed and the command that
the environment sets ends within quotes or behind a backslash, or the working folder is needed
and gone.  Only a run changes anything.  A tool fails exactly if it is the one that runs examples
and its request fails, or examples were run and the working folder is gone behind them;
otherwise it answers with at least one text. -/
theorem fails_exactly [Stack] (env : Environment) (host : Host) (d : Disk) (s : Site) :
    let executor := env.interpreterOf.map (Workspace.executor host)
    (∀ folder o paths,
      let asked := run executor d folder o paths s
      (∀ f, asked.1 = .error f ↔ Fails env d folder o paths f) ∧
        (∀ r, asked.1 = .ok (.error r) → r.code ∈ codes) ∧
        ((∀ summary, asked.1 ≠ .ok (.ok summary)) → asked.2 = s)) ∧
      ∀ name arguments,
        let called := Tool.call env executor d name arguments s
        (∀ f, called.1 = .error f ↔
          name = Tool.run.name.toList ∧ Tool.Fails env host d arguments s f) ∧
          called.1 ≠ .ok [] := by
  intro executor
  refine ⟨fun folder o paths => ⟨fun f => run_eq_error_iff, fun r _ => code_mem_codes r, state_run⟩,
    fun name arguments => ⟨fun f => ?_, ?_⟩⟩
  · rw [Tool.call_eq_error_iff, Tool.answerRun_eq_error_iff]
  · exact Tool.call_ne_nil env executor d name arguments s

/-- A folder with a source file that has no examples. -/
def plain : Disk where
  entries := [(["m.ts".toList], .file (Utf8.encode "export const a = 1;\n".toList) 0o644)]
  cwd := []

/-- An open quote for a command. -/
example : (Environment.mk (some ['\'']) none none).commandDefect? = some .unclosedQuote ∧
    (discover plain (.array [.string "m.ts".toList])).toOption = some ⟨[], []⟩ := by
  decide +kernel

end Service
end DocExamples
