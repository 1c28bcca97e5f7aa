/-
# Limits that no clock can hold

A time limit is accepted if it is a positive whole number, however large.  The deadline of a
process is computed only when the process has been started.  This fails for limits from a
certain bound on: a thousand times the first number that is beyond all binary64 numbers.  The
process is then left to itself, neither waited for nor killed, and its example fails, whatever
becomes of it.

| limit | the process | the example |
| --- | --- | --- |
| below the bound | is watched to its end or its limit | passes if that ends with code 0 |
| from the bound on | is left to itself | fails |
-/

import DocExamples.CommandLine
import DocExamples.Proofs.Gate
import DocExamples.Proofs.Traces
import DocExamples.Proofs.Verdict

namespace DocExamples

/-! ### Counts are positive -/

namespace Text

theorem le_foldl_digits (ds : List Nat) (n : Nat) :
    n ≤ ds.foldl (fun n d => 10 * n + d) n := by
  induction ds generalizing n with
  | nil => exact Nat.le_refl n
  | cons d ds ih => exact Nat.le_trans (by omega) (ih (10 * n + d))

/-- A numeral that begins with a positive digit stands for a positive number. -/
theorem ofDigitValues_pos {d : Nat} (h : 0 < d) (ds : List Nat) : 0 < ofDigitValues (d :: ds) :=
  Nat.lt_of_lt_of_le (by omega) (le_foldl_digits ds (10 * 0 + d))

variable {c : Char} {s t : Text}

/-- The first digit of a numeral is the value of its first character. -/
theorem exists_head_digitValues? {ds : List Nat} (h : digitValues? (c :: s) = some ds) :
    ∃ d rest, digitValue? c = some d ∧ ds = d :: rest := by
  have hmore {s : Text} (h : (do
      let d ← digitValue? c
      let ds ← digitValues? s
      return d :: ds) = some ds) : ∃ d rest, digitValue? c = some d ∧ ds = d :: rest := by
    obtain ⟨d, hd, h⟩ := Option.bind_eq_some_iff.1 h
    obtain ⟨rest, -, h⟩ := Option.bind_eq_some_iff.1 h
    exact ⟨d, rest, hd, (Option.some.inj h).symm⟩
  unfold digitValues? at h
  split at h
  · next hnil => exact nomatch hnil
  · next hone =>
    obtain ⟨rfl, -⟩ := List.cons.inj hone
    obtain ⟨d, hd, rfl⟩ := Option.map_eq_some_iff.1 h
    exact ⟨d, [], hd, rfl⟩
  · next hscore =>
    obtain ⟨rfl, -⟩ := List.cons.inj hscore
    exact hmore h
  · next hdigit =>
    obtain ⟨rfl, -⟩ := List.cons.inj hdigit
    exact hmore h

theorem digitValue?_pos {d : Nat} (hdigit : c.isDigit = true) (hzero : c ≠ '0')
    (h : digitValue? c = some d) : 0 < d := by
  rw [digitValue?, if_pos hdigit] at h
  obtain rfl := Option.some.inj h
  have hlow : '0'.toNat ≤ c.toNat := by
    rw [Char.isDigit, Bool.and_eq_true, decide_eq_true_iff] at hdigit
    exact hdigit.1
  have hne : c.toNat ≠ '0'.toNat := fun he => hzero (Char.toNat_inj.1 he)
  omega

/-- A numeral without its leading zeros begins with another digit. -/
theorem exists_head_withoutZeros? (h : withoutZeros? s = some t) :
    ∃ c rest, t = c :: rest ∧ c.isDigit = true ∧ c ≠ '0' := by
  unfold withoutZeros? at h
  split at h
  · next rest =>
    split at h
    · next c more hdrop =>
      obtain ⟨hdigit, ht⟩ := Option.ite_none_right_eq_some.1 h
      refine ⟨c, more, (Option.some.inj ht).symm, hdigit, ?_⟩
      rintro rfl
      have hstop := List.head?_dropWhile_not (fun c => c == '0' || c == '_') rest
      rw [hdrop] at hstop
      simp at hstop
    · exact nomatch h
  · next c rest hzero =>
    obtain ⟨hdigit, ht⟩ := Option.ite_none_right_eq_some.1 h
    exact ⟨c, rest, (Option.some.inj ht).symm, hdigit, hzero⟩
  · exact nomatch h

/-- **A count is positive.** -/
theorem count?_pos {n : Nat} (h : count? s = some n) : 0 < n := by
  obtain ⟨digits, hdigits, h⟩ := Option.bind_eq_some_iff.1 h
  obtain ⟨c, rest, rfl, hdigit, hzero⟩ := exists_head_withoutZeros? hdigits
  obtain ⟨-, hnatural⟩ := Option.ite_none_right_eq_some.1 h
  have hpoint : c ≠ '.' := by
    rintro rfl
    exact absurd hdigit (by decide)
  have htake : (c :: rest).takeWhile (· != '.') = c :: rest.takeWhile (· != '.') :=
    List.takeWhile_cons_of_pos (bne_iff_ne.2 hpoint)
  rw [htake] at hnatural
  obtain ⟨ds, hds, hnumber⟩ := Option.bind_eq_some_iff.1 hnatural
  obtain ⟨-, hn⟩ := Option.ite_none_right_eq_some.1 hnumber
  obtain rfl := Option.some.inj hn
  obtain ⟨d, more, hd, rfl⟩ := exists_head_digitValues? hds
  exact ofDigitValues_pos (digitValue?_pos hdigit hzero hd) more

end Text

/-! ### Processes that nobody watches -/

namespace Workspace

variable {host : Host} {i : Interpreter} {stamp : Stamp} {job : Job} {d : Disk}

/-- A process whose limit can be computed, and is not over at once, is watched. -/
theorem process?_eq_spawned? [Stack] {n : Nat} (h : millisecondsOf job.timeout = .ok (some n)) :
    process? host i stamp job d = spawned? host i stamp job d := by
  have hreached : reached? job.timeout = some := by
    funext p
    rw [reached?, h]
    rfl
  rw [process?, hreached]
  exact Option.bind_fun_some _

/-- A process whose limit cannot be computed is not watched. -/
theorem process?_eq_none [Stack] {f : Failure} (h : millisecondsOf job.timeout = .error f) :
    process? host i stamp job d = none := by
  refine Option.eq_none_iff_forall_ne_some.2 fun p hp => ?_
  obtain ⟨limit, hlimit⟩ := exists_millisecondsOf hp
  exact nomatch hlimit.symm.trans h

/-- Where a process is started and its limit cannot be computed, that is all there is to
report. -/
theorem outcome_run_of_spawned? [Stack] {p : ProcessRun} {f : Failure}
    (hp : spawned? host i stamp job d = some p) (h : millisecondsOf job.timeout = .error f)
    (hclear : clogs host i stamp job d = false) : (run host i stamp job d).outcome = .error f := by
  obtain ⟨⟨l, made⟩, hhoused, hp⟩ := Option.bind_eq_some_iff.1 hp
  obtain ⟨written, hwritten, hp⟩ := Option.bind_eq_some_iff.1 hp
  obtain ⟨hplain, hspawn⟩ := Option.ite_none_left_eq_some.1 hp
  have hlaunch : (launch host i l job.timeout written).outcome = .error f := by
    cases hstarted : host.spawn (launchOf i l job.timeout) written with
    | error fault =>
      rw [hstarted] at hspawn
      cases hspawn
    | ok q =>
      unfold launchOf at hplain hstarted
      simp only [launch, hplain, Bool.false_eq_true, if_false]
      rw [hstarted]
      simp only [h]
  rw [outcome_run_of_housed? hhoused hclear]
  rcases runInside_cases host i l job made with ⟨written', hw, hinside⟩ | ⟨hnone, -⟩
  · obtain rfl := Option.some.inj (hwritten.symm.trans hw)
    rw [hinside]
    exact hlaunch
  · cases hnone.symm.trans hwritten

/-- The deadline of a positive limit can be computed exactly below the bound. -/
theorem millisecondsOf_int {n : Int} (h : 0 < n) : millisecondsOf (.int n) =
    if n < limitBound then .ok (some n.toNat) else .error .limitTooLarge := by
  rw [millisecondsOf]
  by_cases hbound : n < limitBound
  · rw [if_pos hbound, if_neg (by omega), if_neg (by omega)]
  · rw [if_neg hbound, if_pos (by omega)]

end Workspace

/-! ### Accepted limits -/

namespace Runner

open Workspace (limitBound millisecondsOf)

/-- A limit that passes the check of the service, or that of the command line. -/
inductive Accepted (n : Int) : Prop
  | options {o : Service.Options} : Service.checkedTimeout o = .ok n → Accepted n
  | argument {a : CommandLine.Arguments} : CommandLine.limit? a = some (some n) → Accepted n

/-- Accepted limits are positive. -/
theorem Accepted.pos {n : Int} (h : Accepted n) : 0 < n := by
  cases h with
  | @options o h =>
    by_cases hlimit : o.timeout.IsLimit
    · by_cases htruth : o.verbose.IsTruth
      · obtain ⟨m, hm, hpos⟩ := hlimit
        rw [Service.checkedTimeout_eq_ok hm hpos htruth] at h
        exact Except.ok.inj h ▸ hpos
      · rw [Service.checkedTimeout_of_not_isTruth hlimit htruth] at h
        cases h
    · rw [Service.checkedTimeout_of_not_isLimit hlimit] at h
      cases h
  | @argument a h =>
    unfold CommandLine.limit? at h
    split at h
    · cases Option.some.inj h
    · obtain ⟨k, hcount, hk⟩ := Option.map_eq_some_iff.1 h
      obtain rfl := Option.some.inj hk
      obtain ⟨m, hm, hcast⟩ := Option.bind_eq_some_iff.1 hcount
      obtain rfl := Option.some.inj hcast
      exact Int.natCast_pos.2 (Text.count?_pos hm)

/-- The process that is started for an example, whether it is watched or not. -/
def spawned? [Stack] (r : Runner) (host : Host) (i : Interpreter) (e : Example) (s : Site) :
    Option ProcessRun :=
  (r.job? s.disk e).bind fun job => Workspace.spawned? host i (host.stamp s.serial) job s.disk

/-- What becomes of a process that was started with an accepted limit. -/
structure Attended (n : Int) (started : ProcessRun) (process : Option ProcessRun) (clogs : Bool)
    (result : Result) : Prop where
  /-- Below the bound it is watched, to its end or its limit. -/
  watched : n < limitBound → process = some started
  /-- The example passes then exactly if the process ends by itself with code 0, and what it
  leaves in its private folder can be removed. -/
  passed : n < limitBound → (result.passed = true ↔ started.ending = .exited 0 ∧ clogs = false)
  /-- From the bound on it is left to itself. -/
  unwatched : limitBound ≤ n → process = none
  /-- The example fails then, and the error says why. -/
  failed : limitBound ≤ n → result.passed = false ∧ result.error = some
    (if clogs then "Runner error: maximum recursion depth exceeded".toList
      else "Runner error: integer division result too large for a float".toList)

section

variable [Stack] {r : Runner} {host : Host} {i : Interpreter} {e : Example} {s : Site} {n : Int}

theorem attended_carryOut (hn : 0 < n) (htimeout : r.timeout = .int n) {p : ProcessRun}
    (hp : r.spawned? host i e s = some p) (duration : Int) :
    Attended n p (r.process? host i e s) (r.clogs host i e s)
      (.of e duration (r.carryOut (Workspace.executor host i) e s).1) := by
  obtain ⟨job, hjob, hp⟩ := Option.bind_eq_some_iff.1 hp
  have hlimit : millisecondsOf job.timeout =
      if n < limitBound then .ok (some n.toNat) else .error .limitTooLarge := by
    rw [(job?_eq_some hjob).2, htimeout, Workspace.millisecondsOf_int hn]
  have hprocess : r.process? host i e s =
      Workspace.process? host i (host.stamp s.serial) job s.disk := by
    rw [process?, hjob, Option.bind_some]
  by_cases hbound : n < limitBound
  · rw [if_pos hbound] at hlimit
    have hwatched : r.process? host i e s = some p := by
      rw [hprocess, Workspace.process?_eq_spawned? hlimit, hp]
    refine ⟨fun _ => hwatched, fun _ => ?_, fun h => absurd hbound (by omega),
      fun h => absurd hbound (by omega)⟩
    cases hclogs : r.clogs host i e s with
    | true => simp [(r.lost_carryOut host i e s duration hclogs).passed]
    | false =>
      rw [(r.verdict_carryOut host i e s duration hclogs).passed, hwatched]
      constructor
      · rintro ⟨q, hq, hcode⟩
        exact ⟨Option.some.inj hq ▸ hcode, rfl⟩
      · exact fun hcode => ⟨p, rfl, hcode.1⟩
  · rw [if_neg hbound] at hlimit
    refine ⟨fun h => absurd h hbound, fun h => absurd h hbound,
      fun _ => hprocess.trans (Workspace.process?_eq_none hlimit), fun _ => ?_⟩
    cases hclogs : r.clogs host i e s with
    | true =>
      have hlost := r.lost_carryOut host i e s duration hclogs
      exact ⟨hlost.passed, hlost.error⟩
    | false =>
      rw [clogs_of_job? host i hjob] at hclogs
      rw [carryOut_of_job? host i hjob, Workspace.outcome_run_of_spawned? hp hlimit hclogs]
      exact ⟨rfl, rfl⟩

/-- **An accepted limit is usable exactly if it is below the bound.**  Its deadline can be
computed exactly then.  Of all examples of a run for which a process is started, it then depends
on the process alone whether they pass, on how it ends and on what it leaves in its private
folder, and every process is watched.  From the bound on, every process that is started is left
to itself, and its example fails. -/
theorem accepted_usable_iff (h : Accepted n) :
    ((∃ limit, millisecondsOf (.int n) = .ok limit) ↔ n < limitBound) ∧
      ∀ (r : Runner) (host : Host) (i : Interpreter) (es : List Example) (s : Site)
        (k : Fin es.length), r.timeout = .int n →
        let x := Workspace.executor host i
        let before := (x.clock (r.run x (es.take k) s).2).2
        ∀ p, r.spawned? host i (es.get k) before = some p →
          ∃ result, (r.run x es s).1[k.val]? = some result ∧ result.source = es.get k ∧
            Attended n p (r.process? host i (es.get k) before) (r.clogs host i (es.get k) before)
              result := by
  have hn := h.pos
  refine ⟨?_, fun r host i es s k htimeout => ?_⟩
  · rw [Workspace.millisecondsOf_int hn]
    split
    · next hbound => exact ⟨fun _ => hbound, fun _ => ⟨_, rfl⟩⟩
    · next hbound => exact ⟨fun ⟨_, hlimit⟩ => (nomatch hlimit), fun hlt => absurd hlt hbound⟩
  · intro x before p hp
    refine ⟨(r.runOne x (es.get k) (r.run x (es.take k) s).2).1, ?_, r.source_runOne x _ _,
      attended_carryOut hn htimeout hp _⟩
    rw [getElem?_run, List.getElem?_eq_getElem k.isLt]
    rfl

end

/-- A limit that no clock can hold. -/
def boundless : Int := 10 ^ 400

/-- The runner with that limit. -/
def patient : Runner := ⟨Path.ofText Path.dot, .int boundless⟩

/-- A process that ends by itself with code 0, for an example that fails all the same. -/
theorem accepted_usable_iff_boundless :
    Accepted boundless ∧ limitBound ≤ boundless ∧
      ∃ p result, p.ending = .exited 0 ∧
        patient.spawned? Workspace.writer Workspace.shell codeless ⟨Workspace.bare, 1⟩ = some p ∧
        (patient.run (Workspace.executor Workspace.writer Workspace.shell) [codeless]
          ⟨Workspace.bare, 0⟩).1[0]? = some result ∧ result.passed = false := by
  have haccepted : Accepted boundless :=
    .options (Service.checkedTimeout_eq_ok (o := ⟨.bool false, .int boundless⟩) rfl
      (by decide +kernel) ⟨false, rfl⟩)
  have hbound : limitBound ≤ boundless := by decide +kernel
  have hspawned : (patient.spawned? Workspace.writer Workspace.shell codeless
      ⟨Workspace.bare, 1⟩).map (·.ending) = some (.exited 0) := by decide +kernel
  obtain ⟨p, hp, hending⟩ := Option.map_eq_some_iff.1 hspawned
  obtain ⟨result, hresult, -, hattended⟩ := (accepted_usable_iff haccepted).2 patient
    Workspace.writer Workspace.shell [codeless] ⟨Workspace.bare, 0⟩ ⟨0, by decide⟩ rfl p hp
  exact ⟨haccepted, hbound, p, result, hending, hp, hresult, (hattended.failed hbound).1⟩

end Runner
end DocExamples
