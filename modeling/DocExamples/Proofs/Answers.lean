/-
# The tools answer with the service's data

Both tools ask the service and write down what it returns.  The text is ASCII and, read as
JSON, is the returned value: names, code, outputs and paths keep every code point.  Where the
service refuses, the answer is a single text with its message instead.

| tool | asks for | answers with |
| --- | --- | --- |
| `extract_doc_examples` | the discovery | the harvest |
| `run_doc_tests` | the run | a report, then the summary |

The value tells all of the data.  Two harvests with the same value are the same, and so are two
summaries, but for the code and the expected outputs of their examples.
-/

import Mathlib.Data.List.Basic
import DocExamples.Proofs.Agreement
import DocExamples.Proofs.Clauses
import DocExamples.Proofs.Rereading

namespace DocExamples

/-! ### The values that are written -/

namespace Json

attribute [simp] Plain.null Plain.bool Plain.int Plain.string

theorem plain_ofOption (s : Option Text) : Plain (ofOption s) := by cases s <;> simp [ofOption]

theorem plain_map {α : Type} {f : α → Json} (h : ∀ a, Plain (f a)) (as : List α) :
    Plain (.array (as.map f)) := by
  refine Plain.array fun v hv => ?_
  obtain ⟨a, -, rfl⟩ := List.mem_map.1 hv
  exact h a

/-- The names of a record are given as literals, so that they can be compared. -/
theorem plain_record {fields : List (String × Json)}
    (hnames : ((fields.map (·.1)).map String.toList).Nodup) (h : ∀ f ∈ fields, Plain f.2) :
    Plain (.record fields) := by
  refine Plain.object ?_ fun f hf => ?_
  · rw [List.map_map] at hnames ⊢
    exact hnames
  · obtain ⟨g, hg, rfl⟩ := List.mem_map.1 hf
    exact h g hg

end Json

open Json

theorem Example.plain_json (e : Example) : Plain e.json := by
  have hnames : (["name", "file", "line", "code", "expected_output"].map String.toList).Nodup := by
    decide
  exact plain_record hnames (by simp [plain_ofOption])

theorem Harvest.plain_json (h : Harvest) : Plain h.json := by
  have hnames : (["total", "examples", "errors"].map String.toList).Nodup := by decide
  exact plain_record hnames (by simp [plain_map, Example.plain_json])

theorem Result.plain_json (r : Result) : Plain r.json := by
  have hnames : (["name", "location", "passed", "duration_ms", "timed_out", "error",
      "output"].map String.toList).Nodup := by decide
  exact plain_record hnames (by simp [plain_ofOption])

theorem Summary.plain_json (s : Summary) : Plain s.json := by
  have hcounts : (["total", "passed", "failed"].map String.toList).Nodup := by decide
  have hnames : (["summary", "results", "errors"].map String.toList).Nodup := by decide
  have hsummary : Plain (.record [("total", .int s.total), ("passed", .int s.passed),
      ("failed", .int s.failed)]) := plain_record hcounts (by simp)
  exact plain_record hnames (by simp [hsummary, plain_map, Result.plain_json])

/-! ### What the values tell -/

theorem Json.ofOption_inj {s s' : Option Text} (h : ofOption s = ofOption s') : s = s' := by
  cases s <;> cases s' <;> simp_all [ofOption]

theorem Json.map_string_inj {ss ss' : List Text}
    (h : Json.array (ss.map .string) = .array (ss'.map .string)) : ss = ss' :=
  List.map_injective_iff.2 (fun _ _ => Json.string.inj) (Json.array.inj h)

/-- The fields of two equal records are the same, one by one. -/
theorem Json.record_inj {fields fields' : List (String × Json)}
    (h : record fields = record fields') : fields = fields' := by
  have hpair : Function.Injective fun f : String × Json => (f.1.toList, f.2) := by
    intro f f' heq
    obtain ⟨hname, hvalue⟩ := Prod.mk.inj heq
    exact Prod.ext (String.toList_injective hname) hvalue
  exact List.map_injective_iff.2 hpair (Json.object.inj h)

/-- **The JSON of an example tells all of it.** -/
theorem Example.json_injective : Function.Injective Example.json := by
  intro e e' h
  have hfields := record_inj h
  simp only [List.cons.injEq, Prod.mk.injEq, true_and, and_true] at hfields
  obtain ⟨hname, horigin, hline, hcode, hexpected⟩ := hfields
  cases e
  cases e'
  simp only [Example.mk.injEq]
  exact ⟨Json.string.inj horigin, Json.int.inj hline, Json.string.inj hname,
    Json.string.inj hcode, Json.ofOption_inj hexpected⟩

/-- **The JSON of a harvest tells all of it.** -/
theorem Harvest.json_injective : Function.Injective Harvest.json := by
  intro h h' heq
  have hfields := record_inj heq
  simp only [List.cons.injEq, Prod.mk.injEq, true_and, and_true] at hfields
  obtain ⟨-, hexamples, herrors⟩ := hfields
  cases h
  cases h'
  rw [Harvest.mk.injEq]
  exact ⟨List.map_injective_iff.2 Example.json_injective (Json.array.inj hexamples),
    Json.map_string_inj herrors⟩

/-- A location names one file and one line. -/
theorem Example.location_inj {e e' : Example} (h : e.location = e'.location) :
    e.origin = e'.origin ∧ e.line = e'.line := by
  have hreverse := congrArg List.reverse h
  simp only [location, List.reverse_append, List.reverse_cons, List.append_assoc,
    List.singleton_append] at hreverse
  have hcolon (e : Example) : ∀ c ∈ (Text.integer e.line).reverse, (c == ':') = false :=
    fun c hc => beq_false_of_ne fun heq =>
      Text.notMem_integer (by decide) (by decide) _ (heq ▸ List.mem_reverse.1 hc)
  obtain ⟨hline, -, horigin⟩ :=
    Text.eq_of_append_cons (p := (· == ':')) (hcolon e) (hcolon e') rfl rfl hreverse
  exact ⟨List.reverse_injective horigin, Json.Token.integer_injective
    (List.reverse_injective hline)⟩

/-- A result as far as its JSON tells it: the code of its example and the expected output are left
out. -/
def Result.told (r : Result) : Result :=
  { r with source := { r.source with code := [], expected := none } }

/-- **The JSON of a result tells just that.** -/
theorem Result.json_eq_iff (r r' : Result) : r.json = r'.json ↔ r.told = r'.told := by
  constructor
  · intro h
    have hfields := record_inj h
    simp only [List.cons.injEq, Prod.mk.injEq, true_and, and_true] at hfields
    obtain ⟨hname, hlocation, hpassed, hduration, htimedOut, herror, houtput⟩ := hfields
    obtain ⟨horigin, hline⟩ := Example.location_inj (Json.string.inj hlocation)
    simp only [told, Result.mk.injEq, Example.mk.injEq, and_true]
    exact ⟨⟨horigin, hline, Json.string.inj hname⟩, Json.bool.inj hpassed,
      Json.int.inj hduration, Json.ofOption_inj herror, Json.string.inj houtput,
      Json.bool.inj htimedOut⟩
  · have htold (r : Result) : r.told.json = r.json := rfl
    intro h
    rw [← htold, h, htold]

theorem map_eq_map_iff {α β γ : Type} {f : α → β} {g : α → γ}
    (h : ∀ a b, f a = f b ↔ g a = g b) (as bs : List α) :
    as.map f = bs.map f ↔ as.map g = bs.map g := by
  induction as generalizing bs with
  | nil => cases bs <;> simp
  | cons a as ih =>
    cases bs with
    | nil => simp
    | cons b bs => simp [h, ih]

/-- **The JSON of a summary tells its results in order, and its diagnostics.** -/
theorem Summary.json_eq_iff {s s' : Summary} :
    s.json = s'.json ↔ s.results.map Result.told = s'.results.map Result.told ∧
      s.errors = s'.errors := by
  have hresults := map_eq_map_iff Result.json_eq_iff s.results s'.results
  constructor
  · intro h
    have hfields := record_inj h
    simp only [List.cons.injEq, Prod.mk.injEq, true_and, and_true] at hfields
    obtain ⟨-, hmap, herrors⟩ := hfields
    exact ⟨hresults.1 (Json.array.inj hmap), Json.map_string_inj herrors⟩
  · rintro ⟨htold, herrors⟩
    have hcount (p : Result → Bool) (hp : ∀ r : Result, p r.told = p r) :
        s.results.countP p = s'.results.countP p := by
      have hsame := congrArg (List.countP p) htold
      simpa only [List.countP_map, Function.comp_def, hp] using hsame
    have hlength := congrArg List.length htold
    rw [List.length_map, List.length_map] at hlength
    simp only [json, total, passed, failed, hresults.2 htold, herrors, hlength,
      hcount (·.passed) fun _ => rfl, hcount (!·.passed) fun _ => rfl]

/-! ### The answers -/

namespace Tool

/-- A text carries a value: it is ASCII, and read as JSON it is this value. -/
structure Carries (s : Text) (v : Json) : Prop where
  ascii : IsAscii s
  read? : Json.read? s = some v

theorem carries_write {v : Json} (h : Plain v) (layout : Layout) : Carries (v.write layout) v :=
  ⟨isAscii_writeAt h layout 0, read?_write h layout⟩

/-- What a tool answers with for what the service has come to: texts in front and one that
carries the returned value, or the message of a refusal and nothing more.  Where the service
fails, or the texts in front cannot be made, the tool fails alike. -/
def Answers {α : Type} (json : α → Json) (front : α → Except Failure (List Text)) :
    Except Failure (Except Refusal α) → Except Failure (List Text) → Prop
  | .error f, answer => answer = .error f
  | .ok (.error r), answer => answer = .ok ["Error: ".toList ++ r.message]
  | .ok (.ok a), answer =>
    match front a with
    | .error f => answer = .error f
    | .ok texts => ∃ text, answer = .ok (texts ++ [text]) ∧ Carries text (json a)

/-- The report that stands before the summary of a run which has left a disk. -/
def reportBefore (d : Disk) (summary : Summary) : Except Failure (List Text) :=
  (Report.fromHere d false summary.results).map fun report => [report]

/-- The texts behind a run are the report and a text that carries the summary. -/
theorem answers_runTexts (d : Disk) (summary : Summary) :
    Answers Summary.json (reportBefore d) (.ok (.ok summary)) (runTexts d false summary) := by
  rw [Answers, reportBefore, runTexts]
  cases Report.fromHere d false summary.results with
  | error f => rfl
  | ok report => exact ⟨_, rfl, carries_write summary.plain_json _⟩

variable [Stack] {σ : Type} (env : Environment) (executor : Except Failure (Executor σ))
  (d : Disk) (paths : Json) (s : σ)

omit [Stack] in
theorem field_paths : (Json.record [("paths", paths)]).field "paths".toList = paths := by
  rw [Json.field, Json.fieldOr_record, if_pos rfl]

omit [Stack] in
theorem options_paths :
    options env (.record [("paths", paths)]) = ⟨.bool false, .int env.timeLimit⟩ := by
  rw [options, Json.field, Json.fieldOr_record, Json.fieldOr_record, if_neg (by decide),
    if_neg (by decide)]
  rfl

theorem call_extract (arguments : Json) :
    call env executor d "extract_doc_examples".toList arguments s =
      (.ok (answerExtract d arguments), s) := by
  rw [call, if_pos (by decide)]

theorem answers_extract :
    Answers Harvest.json (fun _ => .ok []) (.ok (Service.discover d paths))
      (.ok (answerExtract d (.record [("paths", paths)]))) := by
  rw [answerExtract, field_paths]
  cases Service.discover d paths with
  | error r => rfl
  | ok h => exact ⟨_, rfl, carries_write h.plain_json _⟩

theorem answers_run :
    let done := Service.run executor d none ⟨.bool false, .int env.timeLimit⟩ paths s
    ∃ answer, answerRun env executor d (.record [("paths", paths)]) s = (answer, done.2) ∧
      Answers Summary.json (reportBefore (Executor.diskOr executor d done.2)) done.1 answer := by
  intro done
  have hasked : asked env executor d (.record [("paths", paths)]) s = (done.1, done.2) := by
    rw [asked, field_paths, options_paths]
    rfl
  cases hdone : done.1 with
  | error f => exact ⟨_, answerRun_of_failure (hdone ▸ hasked), rfl⟩
  | ok returned =>
    cases returned with
    | error r => exact ⟨_, answerRun_of_refusal (hdone ▸ hasked), rfl⟩
    | ok summary =>
      have hanswer := answerRun_of_summary (hdone ▸ hasked)
      rw [options_paths] at hanswer
      exact ⟨_, hanswer, answers_runTexts _ summary⟩

/-- Where there is a summary, the working folder was there before the run. -/
theorem there_of_summary {o : Service.Options} {summary : Summary}
    (h : (Service.run executor d none o paths s).1 = .ok (.ok summary)) : ¬ d.IsHomeless := by
  have hgoes := Service.goes_run executor d none o paths s
  generalize Service.run executor d none o paths s = asked at h hgoes
  cases hgoes with
  | invalid _ => exact absurd h (Service.answerOf_ne_summary _ _)
  | refused _ _ => exact nomatch Except.ok.inj h
  | unequipped _ _ _ => exact nomatch h
  | ran _ _ hequipped _ =>
    intro hgone
    have hfolder : Runner.folder? d none = .error (.disk .notFound none) :=
      Runner.folder?_eq_error_iff.2 ⟨rfl, hgone, rfl⟩
    obtain rfl := Service.executor_of_equipped hequipped
    rw [Service.equipped_of_no_folder _ d none hfolder] at hequipped
    exact nomatch hequipped

/-- **The tools answer with exactly what the service returns.**  Asked about paths, whatever
they are and whatever the programs come to, the tool that lists examples answers with the
harvest and changes nothing.  The tool that runs them leads where the service's run leads, and
answers with the report and the summary of that run; only where the run has taken the working
folder away can there be no report.  Either answers a refusal with its message alone. -/
theorem call_answers :
    let ask (name : String) := call env executor d name.toList (.record [("paths", paths)]) s
    let done := Service.run executor d none ⟨.bool false, .int env.timeLimit⟩ paths s
    let left := Executor.diskOr executor d done.2
    (∃ answer, ask "extract_doc_examples" = (answer, s) ∧
      Answers Harvest.json (fun _ => .ok []) (.ok (Service.discover d paths)) answer) ∧
    (∃ answer, ask "run_doc_tests" = (answer, done.2) ∧
      Answers Summary.json (reportBefore left) done.1 answer) ∧
    ∀ summary, done.1 = .ok (.ok summary) →
      reportBefore left summary = .ok [reportOf left summary.results] ∨
        ¬ d.IsHomeless ∧ left.IsHomeless := by
  intro ask done left
  have hrun : ask "run_doc_tests" = answerRun env executor d (.record [("paths", paths)]) s :=
    call_run env executor d _ s
  rw [hrun]
  refine ⟨⟨_, call_extract env executor d s _, answers_extract d paths⟩,
    answers_run env executor d paths s, fun summary hsummary => ?_⟩
  by_cases hgone : left.IsHomeless
  · exact .inr ⟨there_of_summary executor d paths s hsummary, hgone⟩
  · exact .inl (congrArg (Except.map fun report => [report]) (fromHere_of_there hgone _))

end Tool
end DocExamples
