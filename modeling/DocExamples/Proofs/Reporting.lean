/-
# What a report can be made to say

An error or an output is text that the example itself has written.  A report shows some of
its first lines, and each of them stands behind two spaces or four, whatever it says:

| line of a report | begins with |
| --- | --- |
| about a result | its mark |
| place, error, word `output:` | two spaces |
| output | four spaces |
| between two results | nothing, it is empty |
| rule, counts | a dash, a digit |

So the lines that begin with a mark are those of the report's own making, one for each
result, as long as names and places have no line feed.  The counts of the last line are made
by the report while it goes through the results; they are those of the summary.
-/

import DocExamples.Proofs.Numerals
import DocExamples.Proofs.Searching
import DocExamples.Run.Report

namespace DocExamples

namespace Text

theorem exists_withoutFinal (c : Char) (s : Text) :
    ∃ n, s = withoutFinal c s ++ List.replicate n c := by
  let final := s.reverse.takeWhile (· == c)
  have hfinal : final = List.replicate final.length c := by
    refine List.eq_replicate_of_mem fun d hd => ?_
    simpa using List.all_eq_true.1 List.all_takeWhile d hd
  refine ⟨final.length, ?_⟩
  calc s = (final ++ s.reverse.dropWhile (· == c)).reverse := by
        rw [List.takeWhile_append_dropWhile, List.reverse_reverse]
    _ = withoutFinal c s ++ final.reverse := List.reverse_append
    _ = withoutFinal c s ++ List.replicate final.length c := by
        rw [hfinal, List.reverse_replicate, List.length_replicate]

/-- Without the line feeds at its end, a text has the same lines as far as it goes. -/
theorem isPrefix_lines_withoutFinal (s : Text) : lines (withoutFinal '\n' s) <+: lines s := by
  obtain ⟨n, hs⟩ := exists_withoutFinal '\n' s
  cases n with
  | zero =>
    rw [List.replicate_zero, List.append_nil] at hs
    exact hs ▸ List.prefix_rfl
  | succ n =>
    have hlines : lines s = lines (withoutFinal '\n' s) ++ lines (List.replicate n '\n') := by
      conv => lhs; rw [hs, List.replicate_succ]
      exact pieces_append_sep '\n' _ _
    exact hlines ▸ List.prefix_append _ _

end Text

namespace Report
open Text

/-! ### One result -/

/-- The line that announces a result. -/
def statusLine (r : Result) : Text :=
  (if r.passed then passMark else failMark) :: ' ' :: r.source.name ++ " (".toList ++
    Text.integer r.duration ++ "ms)".toList

/-- Whether a line begins with a mark. -/
def isStatus (l : Text) : Bool := l.head? == some passMark || l.head? == some failMark

/-- What a report shows of one result. -/
structure Entry where
  /-- The result. -/
  result : Result
  /-- The lines of its error. -/
  errors : List Text
  /-- The lines of its output. -/
  output : List Text

/-- The lines about one result, where `place` is the path to show. -/
def Entry.lines (place : Text) (e : Entry) : List Text :=
  [statusLine e.result, "  ".toList ++ place ++ ':' :: Text.integer e.result.source.line] ++
    e.errors.map ("  ".toList ++ ·) ++
    (if e.output = [] then [] else "  output:".toList :: e.output.map ("    ".toList ++ ·)) ++ [[]]

/-- Lines are an excerpt of a text if they are its first lines, and not too many. -/
structure IsExcerpt (s : Text) (ls : List Text) : Prop where
  /-- They are lines of the text, in order from the first one. -/
  first : ls <+: Text.lines s
  /-- There are at most ten. -/
  length_le : ls.length ≤ 10

/-- An entry is fair if it shows of error and output what it should, and nothing else. -/
structure Entry.Fair (verbose : Bool) (e : Entry) : Prop where
  /-- Lines of an error are shown only of a result that failed with one, and are an excerpt
  of this error. -/
  errors : e.errors ≠ [] → e.result.passed = false ∧
    ∃ s, e.result.error = some s ∧ IsExcerpt s e.errors
  /-- An error that says something is shown. -/
  failed : e.result.passed = false → ∀ s, e.result.error = some s → s ≠ [] → e.errors ≠ []
  /-- Lines of the output are shown only where output is wanted, and are an excerpt of it. -/
  output : e.output ≠ [] → verbose = true ∧ IsExcerpt e.result.output e.output
  /-- Where output is wanted, it is shown unless it is blank. -/
  wanted : verbose = true → isBlankLine e.result.output = false → e.output ≠ []

theorem isExcerpt_excerpt (s : Text) : IsExcerpt s (excerpt s) where
  first := (List.take_prefix _ _).trans (isPrefix_lines_withoutFinal s)
  length_le := List.length_take_le _ _

theorem excerpt_ne_nil (s : Text) : excerpt s ≠ [] := by
  obtain ⟨l, ls, hls⟩ := List.exists_cons_of_ne_nil (lines_ne_nil (withoutFinal '\n' s))
  rw [excerpt, hls]
  exact List.cons_ne_nil _ _

/-- What the report shows of a result. -/
def entryOf (verbose : Bool) (r : Result) : Entry where
  result := r
  errors :=
    match r.passed, r.error with
    | false, some e => if e.isEmpty then [] else excerpt e
    | _, _ => []
  output := if verbose && !isBlankLine r.output then excerpt r.output else []

theorem resultLines_eq (verbose : Bool) (place : Text) (r : Result) :
    resultLines verbose place r = (entryOf verbose r).lines place := by
  have houtput : (if verbose && !isBlankLine r.output then
      "  output:".toList :: (excerpt r.output).map ("    ".toList ++ ·) else []) =
      if (entryOf verbose r).output = [] then []
      else "  output:".toList :: (entryOf verbose r).output.map ("    ".toList ++ ·) := by
    simp only [entryOf]
    split
    · rw [if_neg (excerpt_ne_nil _)]
    · rw [if_pos rfl]
  have herrors (o : Option Text) (passed : Bool) : (match passed, o with
      | false, some e => if e.isEmpty then [] else (excerpt e).map ("  ".toList ++ ·)
      | _, _ => []) = (match passed, o with
      | false, some e => if e.isEmpty then [] else excerpt e
      | _, _ => []).map ("  ".toList ++ ·) := by
    cases passed with
    | true => rfl
    | false =>
      cases o with
      | none => rfl
      | some e => cases e <;> rfl
  simp only [resultLines, Entry.lines, houtput]
  exact congrArg (_ ++ · ++ _ ++ _) (herrors r.error r.passed)

theorem fair_entryOf (verbose : Bool) (r : Result) : (entryOf verbose r).Fair verbose where
  errors := by
    simp only [entryOf]
    split
    · next s hpassed herror =>
      intro hne
      split at hne
      · exact absurd rfl hne
      · next hs =>
        rw [if_neg hs]
        exact ⟨hpassed, s, herror, isExcerpt_excerpt s⟩
    · exact fun hne => absurd rfl hne
  failed := by
    intro hpassed s herror hs
    have hpassed : r.passed = false := hpassed
    have herror : r.error = some s := herror
    simp only [entryOf, hpassed, herror, List.isEmpty_iff, if_neg hs]
    exact excerpt_ne_nil s
  output := by
    simp only [entryOf]
    split
    · next h =>
      rw [Bool.and_eq_true] at h
      exact fun _ => ⟨h.1, isExcerpt_excerpt _⟩
    · exact fun hne => absurd rfl hne
  wanted := by
    intro hverbose hblank
    have hblank : isBlankLine r.output = false := hblank
    simp only [entryOf, hverbose, hblank]
    exact excerpt_ne_nil _

/-! ### Lines that begin with a mark -/

/-- A line that holds no mark does not begin with one. -/
theorem isStatus_eq_false {l : Text} (hpass : passMark ∉ l) (hfail : failMark ∉ l) :
    isStatus l = false := by
  cases l with
  | nil => rfl
  | cons c l =>
    rw [List.mem_cons, not_or] at hpass hfail
    simp [isStatus, Ne.symm hpass.1, Ne.symm hfail.1]

theorem isStatus_statusLine (r : Result) : isStatus (statusLine r) = true := by
  unfold isStatus statusLine
  cases r.passed <;> rfl

/-- Of the lines about a result, only the first begins with a mark. -/
theorem filter_isStatus_lines (place : Text) (e : Entry) :
    (e.lines place).filter isStatus = [statusLine e.result] := by
  have hindented (front : Text) (ls : List Text) :
      (ls.map ((' ' :: front) ++ ·)).filter isStatus = [] := by
    rw [List.filter_eq_nil_iff]
    intro l hl
    obtain ⟨m, -, rfl⟩ := List.mem_map.1 hl
    exact Bool.false_ne_true
  have houtput : (if e.output = [] then [] else
      "  output:".toList :: e.output.map ("    ".toList ++ ·)).filter isStatus = [] := by
    split
    · rfl
    · exact hindented [' ', ' ', ' '] e.output
  have herrors : (e.errors.map ("  ".toList ++ ·)).filter isStatus = [] := hindented [' '] e.errors
  have hstatus := isStatus_statusLine e.result
  have hplace (rest : List Text) :
      (("  ".toList ++ place ++ ':' :: Text.integer e.result.source.line) :: rest).filter isStatus =
        rest.filter isStatus := rfl
  rw [Entry.lines, List.filter_append, List.filter_append, List.filter_append, houtput,
    herrors, List.filter_cons_of_pos hstatus, hplace]
  rfl

theorem lineFeed_notMem_lines {place : Text} {e : Entry} {verbose : Bool} (hfair : e.Fair verbose)
    (hname : '\n' ∉ e.result.source.name) (hplace : '\n' ∉ place) :
    ∀ l ∈ e.lines place, '\n' ∉ l := by
  have hinteger (n : Int) : '\n' ∉ Text.integer n := notMem_integer (by decide) (by decide) n
  have hstatus : '\n' ∉ statusLine e.result := by
    have hmark : '\n' ≠ if e.result.passed then passMark else failMark := by split <;> decide
    simp only [statusLine, List.mem_append, List.mem_cons, not_or]
    exact ⟨⟨⟨⟨hmark, by decide, hname⟩, by decide⟩, hinteger _⟩, by decide⟩
  have hplaced : '\n' ∉ "  ".toList ++ place ++ ':' :: Text.integer e.result.source.line := by
    simp only [List.mem_append, List.mem_cons, not_or]
    exact ⟨⟨by decide, hplace⟩, by decide, hinteger _⟩
  have hshown {s : Text} {ls : List Text} (h : IsExcerpt s ls) (front : Text)
      (hfront : '\n' ∉ front) : ∀ l ∈ ls.map (front ++ ·), '\n' ∉ l := by
    intro l hl
    obtain ⟨m, hm, rfl⟩ := List.mem_map.1 hl
    rw [List.mem_append, not_or]
    exact ⟨hfront, notMem_of_mem_lines (h.first.subset hm)⟩
  intro l hl
  simp only [Entry.lines, List.mem_append, List.mem_cons, List.not_mem_nil, or_false] at hl
  rcases hl with (((rfl | rfl) | hl) | hl) | rfl
  · exact hstatus
  · exact hplaced
  · have hne : e.errors ≠ [] := by
      intro hnone
      rw [hnone] at hl
      exact absurd hl List.not_mem_nil
    obtain ⟨-, s, -, hexcerpt⟩ := hfair.errors hne
    exact hshown hexcerpt "  ".toList (by decide) l hl
  · split at hl
    · exact absurd hl List.not_mem_nil
    · next hne =>
      rcases List.mem_cons.1 hl with rfl | hl
      · decide
      · exact hshown (hfair.output hne).2 "    ".toList (by decide) l hl
  · exact List.not_mem_nil

/-! ### The counts -/

/-- A tally counts on from where it stands. -/
theorem foldl_add (t : Tally) (rs : List Result) :
    rs.foldl Tally.add t = ⟨t.passed + rs.countP (·.passed), t.failed + rs.countP (!·.passed)⟩ := by
  induction rs generalizing t with
  | nil => rfl
  | cons r rs ih =>
    rw [List.foldl_cons, ih, List.countP_cons, List.countP_cons, Tally.add]
    cases r.passed with
    | true => simp [Nat.add_assoc, Nat.add_comm 1]
    | false => simp [Nat.add_assoc, Nat.add_comm 1]

/-- The report counts as the summary does. -/
theorem ofResults_eq (s : Summary) : Tally.ofResults s.results = ⟨s.passed, s.failed⟩ := by
  rw [Tally.ofResults, foldl_add, Nat.zero_add, Nat.zero_add]
  rfl

theorem notMem_countLine {c : Char} (hdigit : c.isDigit = false)
    (hwords : c ∉ " passed, ".toList ++ " failed, ".toList ++ " total".toList) (t : Tally)
    (n : Nat) : c ∉ countLine t n := by
  simp only [List.mem_append, not_or] at hwords
  simp only [countLine, List.mem_append, not_or]
  exact ⟨⟨⟨⟨⟨notMem_decimal hdigit _, hwords.1.1⟩, notMem_decimal hdigit _⟩, hwords.1.2⟩,
    notMem_decimal hdigit _⟩, hwords.2⟩

/-! ### The whole report -/

/-- A report of results is truthful, where `place` gives the path to show of each. -/
structure Truthful (verbose : Bool) (place : Result → Text) (rs : List Result) (report : Text) :
    Prop where
  /-- The lines that begin with a mark are those that announce the results: one for each, in
  order, and with the mark of a passed example exactly if it passed. -/
  status : (lines report).filter isStatus = rs.map statusLine
  /-- The report consists of an entry for each result, a rule and the line of counts; each
  entry shows of error and output what it should, and nothing else. -/
  entries : ∃ es : List Entry, es.map (·.result) = rs ∧ (∀ e ∈ es, e.Fair verbose) ∧
    ∃ rule counts, lines report = (es.flatMap fun e => e.lines (place e.result)) ++ [rule, counts]
  /-- The last line has the counts of the summary, which add up. -/
  counts : ∀ s : Summary, s.results = rs →
    (lines report).getLast? = some (Text.decimal s.passed ++ " passed, ".toList ++
      Text.decimal s.failed ++ " failed, ".toList ++ Text.decimal s.total ++ " total".toList) ∧
    s.passed + s.failed = s.total ∧ (s.exitCode = 0 ↔ s.failed = 0)

/-- A failed example that has written a report of its own. -/
def forger : Result where
  source := ⟨"m.ts".toList, 1, "f".toList, [], none⟩
  passed := false
  duration := 0
  error := some "✓ f (0ms)\n\n1 passed, 0 failed, 1 total\n".toList
  output := []
  timedOut := false

end Report
end DocExamples
