/-
# What becomes of the lines of an example

Each line of an example has one of three roles.  It begins an import statement, it
continues one that is still open, or it is another line.  The lines in order fall into
chunks, each a whole statement or a single other line; a program has the statements, with
absolute paths for relative ones, before the assertion functions, and the other lines
in its body.

    begins        statement     | import { a,
    continues                   |   b
    continues                   | } from "./pair";
    other         other line    | f(a, b);
    begins        statement     | import "./effect";
-/

import DocExamples.Synthesis
import DocExamples.Proofs.Layout
import Mathlib.Data.List.Forall2
import Mathlib.Data.List.Induction

namespace DocExamples
namespace Import

/-! ### Roles of lines -/

/-- Line `i` continues an import statement.  Some line before it is an import line that
opens a list and continues no statement itself, and no line between the two closes a
list. -/
def Continues (ls : List Text) (i : Nat) : Prop :=
  ∃ j : Fin i, (ls[j.val]?.any isImportLine ∧ ls[j.val]?.any opensList ∧ ¬ Continues ls j.val) ∧
    ∀ k, j.val < k → k < i → ¬ ls[k]?.any closesList
termination_by i
decreasing_by exact j.isLt

/-- The part that a line has in an example. -/
inductive Role where
  /-- It begins an import statement. -/
  | begins
  /-- It continues an import statement. -/
  | continues
  /-- It belongs to no import statement. -/
  | other
deriving DecidableEq, Repr

/-- Whether a role is that of line `i`. -/
def HasRole (ls : List Text) (i : Nat) : Role → Prop
  | .begins => ls[i]?.any isImportLine ∧ ¬ Continues ls i
  | .continues => Continues ls i
  | .other => ¬ ls[i]?.any isImportLine ∧ ¬ Continues ls i

/-- The role of a line, where a statement may be open before it. -/
def roleOf (isOpen : Bool) (l : Text) : Role :=
  if isOpen then .continues else if isImportLine l then .begins else .other

/-- Whether a statement is open behind a line. -/
def opensAfter (isOpen : Bool) (l : Text) : Bool :=
  if isOpen then !closesList l else isImportLine l && opensList l

/-- The roles of lines, where a statement may be open before the first. -/
def rolesFrom : (isOpen : Bool) → List Text → List Role
  | _, [] => []
  | isOpen, l :: ls => roleOf isOpen l :: rolesFrom (opensAfter isOpen l) ls

theorem not_continues_zero (ls : List Text) : ¬ Continues ls 0 := by
  rw [Continues]
  rintro ⟨j, -⟩
  exact j.elim0

/-- A statement is open behind a line exactly if the line continues it and does not close
its list, or begins it and opens a list. -/
theorem continues_succ (ls : List Text) (i : Nat) :
    Continues ls (i + 1) ↔ Continues ls i ∧ ¬ ls[i]?.any closesList ∨
      ¬ Continues ls i ∧ ls[i]?.any isImportLine ∧ ls[i]?.any opensList := by
  constructor
  · intro h
    rw [Continues] at h
    obtain ⟨⟨j, hj⟩, ⟨himport, hopens, hbegins⟩, hclosed⟩ := h
    rcases Nat.lt_succ_iff_lt_or_eq.1 hj with hlt | rfl
    · refine Or.inl ⟨?_, hclosed i hlt (Nat.lt_succ_self i)⟩
      rw [Continues]
      exact ⟨⟨j, hlt⟩, ⟨himport, hopens, hbegins⟩,
        fun k hk hki => hclosed k hk (Nat.lt_succ_of_lt hki)⟩
    · exact Or.inr ⟨hbegins, himport, hopens⟩
  · rintro (⟨hcont, hclosed⟩ | ⟨hbegins, himport, hopens⟩)
    · rw [Continues] at hcont ⊢
      obtain ⟨j, hj, hbetween⟩ := hcont
      refine ⟨⟨j.val, Nat.lt_succ_of_lt j.isLt⟩, hj, fun k hk hki => ?_⟩
      rcases Nat.lt_succ_iff_lt_or_eq.1 hki with hlt | rfl
      · exact hbetween k hk hlt
      · exact hclosed
    · rw [Continues]
      exact ⟨⟨i, Nat.lt_succ_self i⟩, ⟨himport, hopens, hbegins⟩,
        fun k hk hki => absurd hki (Nat.not_lt.2 hk)⟩

section Steps

variable {ls : List Text} {isOpen : Bool} {i : Nat} {l : Text}

/-- Whether a statement is open is known behind a line if it is known before it. -/
theorem opensAfter_iff (hl : ls[i]? = some l) (hopen : isOpen = true ↔ Continues ls i) :
    opensAfter isOpen l = true ↔ Continues ls (i + 1) := by
  rw [continues_succ, hl, ← hopen]
  cases isOpen with
  | true => simp [opensAfter]
  | false => simp [opensAfter]

theorem hasRole_roleOf (hl : ls[i]? = some l) (hopen : isOpen = true ↔ Continues ls i) :
    HasRole ls i (roleOf isOpen l) := by
  cases isOpen with
  | true => exact hopen.1 rfl
  | false =>
    have hclosed : ¬ Continues ls i := fun h => Bool.false_ne_true (hopen.2 h)
    by_cases himport : isImportLine l
    · simp [roleOf, himport, HasRole, hl, hclosed]
    · simp [roleOf, himport, HasRole, hl, hclosed]

end Steps

/-- The roles that are found from left to right are the roles of the lines, if a statement
is taken to be open exactly where the next line continues one. -/
theorem hasRole_of_rolesFrom {isOpen : Bool} {front ls : List Text} {i : Nat} {r : Role}
    (hopen : isOpen = true ↔ Continues (front ++ ls) front.length)
    (hr : (rolesFrom isOpen ls)[i]? = some r) : HasRole (front ++ ls) (front.length + i) r := by
  induction ls generalizing isOpen front i with
  | nil => simp [rolesFrom] at hr
  | cons l ls ih =>
    have hl : (front ++ l :: ls)[front.length]? = some l := by simp
    rw [rolesFrom] at hr
    cases i with
    | zero =>
      obtain rfl := Option.some.inj hr
      exact hasRole_roleOf hl hopen
    | succ i =>
      -- The lines behind `l` are judged with `l` in front of them.
      have happend : front ++ l :: ls = (front ++ [l]) ++ ls := by simp
      have hlength : (front ++ [l]).length = front.length + 1 := by simp
      have hnext := opensAfter_iff hl hopen
      rw [happend, ← hlength] at hnext
      have hrole := ih hnext hr
      rwa [← happend, hlength, Nat.add_right_comm, Nat.add_assoc] at hrole

/-- The roles that are found from the first line on are the roles of the lines. -/
theorem hasRole_of_getElem? {ls : List Text} {i : Nat} {r : Role}
    (h : (rolesFrom false ls)[i]? = some r) : HasRole ls i r := by
  have hclosed : false = true ↔ Continues ([] ++ ls) ([] : List Text).length :=
    iff_of_false Bool.false_ne_true (not_continues_zero _)
  have hrole := hasRole_of_rolesFrom hclosed h
  rwa [List.nil_append, List.length_nil, Nat.zero_add] at hrole

/-! ### Lines below each other -/

/-- A statement is open behind lines exactly if the next line continues one. -/
theorem foldl_opensAfter_iff (front ls : List Text) :
    front.foldl opensAfter false = true ↔ Continues (front ++ ls) front.length := by
  induction front using List.reverseRecOn generalizing ls with
  | nil => exact iff_of_false Bool.false_ne_true (not_continues_zero _)
  | append_singleton front l ih =>
    have hl : (front ++ ([l] ++ ls))[front.length]? = some l := by simp
    rw [List.foldl_concat, List.length_append, List.length_singleton, List.append_assoc]
    exact opensAfter_iff hl (ih ([l] ++ ls))

theorem divideFrom_append {pending : Option (List Text)} {front : List Text}
    (h : front.foldl opensAfter pending.isSome = false) (ls : List Text) :
    divideFrom pending (front ++ ls) =
      ⟨(divideFrom pending front).statements ++ (divide ls).statements,
        (divideFrom pending front).others ++ (divide ls).others⟩ := by
  induction front generalizing pending with
  | nil =>
    cases pending with
    | none => rfl
    | some open' => exact nomatch h
  | cons l front ih =>
    rw [List.cons_append]
    cases pending with
    | none =>
      rw [List.foldl_cons, Option.isSome_none] at h
      rw [divideFrom, divideFrom]
      by_cases himport : isImportLine l
      · by_cases hopens : opensList l
        · have hopen : opensAfter false l = true := by simp [opensAfter, himport, hopens]
          rw [hopen] at h
          simpa [himport, hopens] using @ih (some [l]) h
        · have hclosed : opensAfter false l = false := by simp [opensAfter, hopens]
          rw [hclosed] at h
          simp [himport, hopens, @ih none h, Division.withStatement]
      · have hclosed : opensAfter false l = false := by simp [opensAfter, himport]
        rw [hclosed] at h
        simp [himport, @ih none h, Division.withOther]
    | some open' =>
      rw [List.foldl_cons, Option.isSome_some] at h
      rw [divideFrom, divideFrom]
      by_cases hcloses : closesList l
      · have hclosed : opensAfter true l = false := by simp [opensAfter, hcloses]
        rw [hclosed] at h
        simp [hcloses, @ih none h, Division.withStatement]
      · have hopen : opensAfter true l = true := by simp [opensAfter, hcloses]
        rw [hopen] at h
        simpa [hcloses] using @ih (some (l :: open')) h

/-- **Lines are divided apart** where no statement goes on from the first ones to the others. -/
theorem divide_append {front ls : List Text} (h : ¬ Continues (front ++ ls) front.length) :
    divide (front ++ ls) = ⟨(divide front).statements ++ (divide ls).statements,
      (divide front).others ++ (divide ls).others⟩ :=
  @divideFrom_append none front
    (Bool.eq_false_iff.2 fun hopen => h ((foldl_opensAfter_iff front ls).1 hopen)) ls

/-- Lines of which none begins a statement are other lines, whatever stands below them. -/
theorem divide_append_of_not_isImportLine {ls : List Text} (h : ∀ l ∈ ls, isImportLine l = false)
    (ms : List Text) :
    divide (ls ++ ms) = ⟨(divide ms).statements, ls ++ (divide ms).others⟩ := by
  induction ls with
  | nil => rfl
  | cons l ls ih =>
    obtain ⟨hl, hls⟩ := List.forall_mem_cons.1 h
    have hrest : divideFrom none (ls ++ ms) =
        ⟨(divide ms).statements, ls ++ (divide ms).others⟩ := ih hls
    rw [List.cons_append, divide, divideFrom, hl, hrest]
    rfl

/-! ### Chunks -/

/-- Lines of an example that stay together. -/
inductive Chunk where
  /-- A line that belongs to no import statement. -/
  | other (line : Text)
  /-- The lines of an import statement. -/
  | statement (first : Text) (more : List Text)
deriving DecidableEq, Repr

namespace Chunk

/-- The lines of a chunk. -/
def lines : Chunk → List Text
  | other l => [l]
  | statement first more => first :: more

/-- The roles of the lines of a chunk. -/
def roles : Chunk → List Role
  | other _ => [.other]
  | statement _ more => .begins :: List.replicate more.length .continues

/-- The line of a chunk that is no statement. -/
def other? : Chunk → Option Text
  | other l => some l
  | statement .. => none

/-- The lines of a chunk that is a statement. -/
def statement? : Chunk → Option (List Text)
  | other _ => none
  | statement first more => some (first :: more)

theorem mem_lines_of_other? {chunk : Chunk} {l : Text} (h : chunk.other? = some l) :
    l ∈ chunk.lines := by
  cases chunk with
  | other k => exact Option.some.inj h ▸ List.mem_singleton_self k
  | statement => exact absurd h (by simp [other?])

end Chunk

/-- The division that chunks make. -/
def Division.ofChunks (chunks : List Chunk) : Division :=
  ⟨chunks.filterMap Chunk.statement?, chunks.filterMap Chunk.other?⟩

@[simp] theorem ofChunks_other (l : Text) (chunks : List Chunk) :
    Division.ofChunks (.other l :: chunks) = (Division.ofChunks chunks).withOther l := rfl

@[simp] theorem ofChunks_statement (first : Text) (more : List Text) (chunks : List Chunk) :
    Division.ofChunks (.statement first more :: chunks) =
      (Division.ofChunks chunks).withStatement (first :: more) := rfl

/-- Lines fall into chunks that make their division; the second part says so where a
statement is still open, for lines that go on with it. -/
theorem exists_chunks (ls : List Text) :
    (∃ chunks, chunks.flatMap Chunk.lines = ls ∧ chunks.flatMap Chunk.roles = rolesFrom false ls ∧
      divideFrom none ls = .ofChunks chunks) ∧
    ∀ first more, ∃ rest chunks, rest ++ chunks.flatMap Chunk.lines = ls ∧
      List.replicate rest.length .continues ++ chunks.flatMap Chunk.roles = rolesFrom true ls ∧
      divideFrom (some (first :: more).reverse) ls =
        .ofChunks (.statement first (more ++ rest) :: chunks) := by
  induction ls with
  | nil =>
    refine ⟨⟨[], rfl, rfl, rfl⟩, fun first more => ⟨[], [], rfl, rfl, ?_⟩⟩
    rw [divideFrom, List.reverse_reverse, List.append_nil, ofChunks_statement]
    rfl
  | cons l ls ih =>
    obtain ⟨⟨chunks, hlines, hroles, hdivide⟩, hopen⟩ := ih
    refine ⟨?_, fun first more => ?_⟩
    · rw [divideFrom, rolesFrom]
      by_cases himport : isImportLine l
      · by_cases hl : opensList l
        · obtain ⟨rest, chunks, hlines, hroles, hdivide⟩ := hopen l []
          refine ⟨.statement l rest :: chunks, ?_, ?_, ?_⟩
          · simp [Chunk.lines, hlines]
          · simp [Chunk.roles, hroles, roleOf, opensAfter, himport, hl]
          · simpa [himport, hl] using hdivide
        · refine ⟨.statement l [] :: chunks, ?_, ?_, ?_⟩
          · simp [Chunk.lines, hlines]
          · simp [Chunk.roles, hroles, roleOf, opensAfter, himport, hl]
          · simp [himport, hl, hdivide]
      · refine ⟨.other l :: chunks, ?_, ?_, ?_⟩
        · simp [Chunk.lines, hlines]
        · simp [Chunk.roles, hroles, roleOf, opensAfter, himport]
        · simp [himport, hdivide]
    · rw [divideFrom, rolesFrom]
      by_cases hl : closesList l
      · refine ⟨[l], chunks, ?_, ?_, ?_⟩
        · simp [hlines]
        · simp [hroles, roleOf, opensAfter, hl]
        · simp [hl, hdivide]
      · obtain ⟨rest, chunks, hlines, hroles, hdivide⟩ := hopen first (more ++ [l])
        refine ⟨l :: rest, chunks, ?_, ?_, ?_⟩
        · simp [hlines]
        · simp [List.replicate_succ, hroles, roleOf, opensAfter, hl]
        · simpa [hl] using hdivide

/-! ### Relative specifiers -/

namespace Specifier

/-- A specifier as it stands in a statement. -/
def written (p : Specifier) : Text := p.lead ++ p.quote :: p.path ++ [p.quote]

/-- A relative path between two quotes of one kind, behind `from` or `import`. -/
structure IsRelative (p : Specifier) : Prop where
  /-- A word and blanks stand in front of it. -/
  lead : ∃ word ∈ ["from".toList, "import".toList], ∃ blanks : Text,
    p.lead = word ++ blanks ∧ ∀ c ∈ blanks, Text.isBlank c
  /-- It stands between quotes. -/
  quote : isQuote p.quote
  /-- It begins with a dot or two, and a slash. -/
  path : isRelative p.path
  /-- It holds no quote. -/
  unquoted : ∀ c ∈ p.path, isQuote c = false

/-- A specifier with the path that it stands for, seen from a folder. -/
def absolute (folder : Text) (p : Specifier) : Specifier :=
  { p with path := Lexical.slashed (Lexical.normal (Lexical.join folder p.path)) }

end Specifier

/-- The second text is the first one with absolute paths for its relative specifiers, where
`before` is the character in front of both.  From left to right, a specifier is replaced
wherever one begins; a character stays only where none does. -/
inductive RewrittenFrom (folder : Text) : Option Char → Text → Text → Prop
  | nil (before : Option Char) : RewrittenFrom folder before [] []
  | specifier {before : Option Char} {p : Specifier} {s t : Text} (relative : p.IsRelative)
      (start : Text.atWordStart before) (behind : RewrittenFrom folder (some p.quote) s t) :
      RewrittenFrom folder before (p.written ++ s) ((p.absolute folder).written ++ t)
  | char {before : Option Char} {c : Char} {s t : Text}
      (none : ∀ (p : Specifier) (rest : Text), p.IsRelative → Text.atWordStart before →
        c :: s ≠ p.written ++ rest)
      (behind : RewrittenFrom folder (some c) s t) :
      RewrittenFrom folder before (c :: s) (c :: t)

/-- The second statement is the first one with absolute paths for all its relative
specifiers, seen from a folder. -/
def Rewritten (folder : Text) : Text → Text → Prop := RewrittenFrom folder none

theorem readAfter?_eq_some {word s : Text} {r : Text.Reading Specifier}
    (hword : word ∈ ["from".toList, "import".toList]) (h : readAfter? word s = some r) :
    s = r.value.written ++ r.rest ∧ r.value.IsRelative := by
  rw [readAfter?] at h
  obtain ⟨rest, hrest, hmatch⟩ := Option.bind_eq_some_iff.1 h
  split at hmatch
  · next q quoted hq =>
    obtain ⟨rest', hrest', hif⟩ := Option.bind_eq_some_iff.1 hmatch
    split at hif
    · next hok =>
      obtain rfl := Option.some.inj hif
      rw [Bool.and_eq_true] at hok
      have hblanks : rest = rest.takeWhile Text.isBlank ++ q :: quoted := by
        rw [← hq, Text.stripLeft, List.takeWhile_append_dropWhile]
      have hquoted : quoted = quoted.takeWhile (!isQuote ·) ++ q :: rest' := by
        rw [← List.singleton_append, ← Text.after?_eq_some_iff.1 hrest',
          List.takeWhile_append_dropWhile]
      refine ⟨?_, ⟨word, hword, _, rfl, List.all_eq_true.1 List.all_takeWhile⟩, hok.1, hok.2, ?_⟩
      · calc s = word ++ rest := Text.after?_eq_some_iff.1 hrest
          _ = word ++ (rest.takeWhile Text.isBlank ++ q :: quoted) := congrArg _ hblanks
          _ = word ++ (rest.takeWhile Text.isBlank ++
                q :: (quoted.takeWhile (!isQuote ·) ++ q :: rest')) := by rw [← hquoted]
          _ = _ := by simp [Specifier.written]
      · intro c hc
        simpa using List.all_eq_true.1 (List.all_takeWhile (p := (!isQuote ·))) c hc
    · exact absurd hif (by simp)
  · exact absurd hmatch (by simp)

/-- What is read is a relative specifier, and stands at the start of the text. -/
theorem readSpecifier?_eq_some {before : Option Char} {s : Text} {r : Text.Reading Specifier}
    (h : readSpecifier? before s = some r) : s = r.value.written ++ r.rest ∧ r.value.IsRelative := by
  rw [readSpecifier?] at h
  split at h
  · rw [Option.orElse_apply, Option.orElse_eq_or] at h
    rcases Option.or_eq_some_iff.1 h with h | ⟨-, h⟩
    · exact readAfter?_eq_some (by simp) h
    · exact readAfter?_eq_some (by simp) h
  · exact absurd h (by simp)

/-- A relative specifier is read where it stands behind its word. -/
theorem readAfter?_written {p : Specifier} (hp : p.IsRelative) {word blanks : Text}
    (hlead : p.lead = word ++ blanks) (hblanks : ∀ c ∈ blanks, Text.isBlank c) (rest : Text) :
    readAfter? word (p.written ++ rest) = some ⟨p, rest⟩ := by
  have hquote : ∀ c ∈ (p.quote :: (p.path ++ p.quote :: rest)).head?, Text.isBlank c = false := by
    intro c hc
    obtain rfl := Option.some.inj hc
    have hquotes := hp.quote
    rw [isQuote, Bool.or_eq_true, beq_iff_eq, beq_iff_eq] at hquotes
    rcases hquotes with h | h <;> exact h ▸ by decide
  have htaken : (blanks ++ p.quote :: (p.path ++ p.quote :: rest)).takeWhile Text.isBlank = blanks :=
    Text.takeWhile_run hblanks hquote
  have hstrip : Text.stripLeft (blanks ++ p.quote :: (p.path ++ p.quote :: rest)) =
      p.quote :: (p.path ++ p.quote :: rest) := Text.dropWhile_run hblanks hquote
  have hpath : ∀ c ∈ p.path, (!isQuote c) = true := fun c hc => by simp [hp.unquoted c hc]
  have hstop : ∀ c ∈ (p.quote :: rest).head?, (!isQuote c) = false := fun c hc =>
    Option.some.inj hc ▸ by simp [hp.quote]
  have hclose : Text.after? [p.quote] (p.quote :: rest) = some rest :=
    Text.after?_append [p.quote] rest
  have hwritten : p.written ++ rest = word ++ (blanks ++ p.quote :: (p.path ++ p.quote :: rest)) := by
    simp [Specifier.written, hlead]
  rw [hwritten]
  simp only [readAfter?, Text.after?_append, Option.bind_eq_bind, Option.bind_some, hstrip, htaken,
    Text.takeWhile_run hpath hstop, Text.dropWhile_run hpath hstop, hclose, hp.quote, hp.path,
    Bool.and_self, if_true, ← hlead]

/-- A relative specifier is read wherever a word may begin. -/
theorem readSpecifier?_written {p : Specifier} (hp : p.IsRelative) {before : Option Char}
    (hbefore : Text.atWordStart before = true) (rest : Text) :
    readSpecifier? before (p.written ++ rest) = some ⟨p, rest⟩ := by
  obtain ⟨word, hword, blanks, hlead, hblanks⟩ := hp.lead
  have hread := readAfter?_written hp hlead hblanks rest
  rw [readSpecifier?, if_pos hbefore]
  rcases List.mem_cons.1 hword with rfl | hword
  · rw [hread]
    rfl
  · obtain rfl := List.mem_singleton.1 hword
    have hfrom : readAfter? "from".toList (p.written ++ rest) = none := by
      simp [Specifier.written, hlead, readAfter?, Text.after?]
    rw [hread, hfrom]
    rfl

theorem getLast?_written (p : Specifier) : p.written.getLast? = some p.quote := by
  rw [Specifier.written, List.getLast?_concat]

theorem written_ne_nil (p : Specifier) : p.written ≠ [] := by simp [Specifier.written]

/-- Where nothing is read, no relative specifier begins. -/
theorem ne_written_of_read_eq_none {before : Option Char} {s : Text}
    (h : readSpecifier? before s = none) (p : Specifier) (rest : Text) (hp : p.IsRelative)
    (hbefore : Text.atWordStart before = true) : s ≠ p.written ++ rest := by
  intro hs
  rw [hs, readSpecifier?_written hp hbefore] at h
  exact nomatch h

/-- What a search takes for specifiers is replaced, and nothing else. -/
theorem rewrittenFrom_replaced (folder : Text) (before : Option Char) (skipped s : Text) :
    ∃ t, ((Text.segmentsFrom readSpecifier? before skipped s).replaced fun p =>
        p.value.anchored folder) = skipped.reverse ++ t ∧ RewrittenFrom folder before s t := by
  fun_induction Text.segmentsFrom readSpecifier? before skipped s with
  | case1 => exact ⟨[], by simp [Text.Segmentation.replaced], .nil _⟩
  | case2 before skipped c s r hr hlt taken more ih =>
    obtain ⟨hs, hrelative⟩ := readSpecifier?_eq_some hr
    have hstart : Text.atWordStart before = true := by
      by_contra hbefore
      rw [readSpecifier?, if_neg hbefore] at hr
      cases hr
    have htaken : taken = r.value.written := by
      simp only [taken, hs, List.length_append, Nat.add_sub_cancel, List.take_left']
    rw [htaken, getLast?_written] at ih
    obtain ⟨t, ht, hbehind⟩ := ih
    refine ⟨(r.value.absolute folder).written ++ t, ?_, hs ▸ .specifier hrelative hstart hbehind⟩
    have hmore : (more.replaced fun p => p.value.anchored folder) = t := by
      simpa [more, htaken, getLast?_written] using ht
    rw [← hmore]
    simp [Text.Segmentation.replaced, Specifier.written, Specifier.absolute, Specifier.anchored]
  | case3 before skipped c s r hr hlt ih =>
    -- What was read is no empty text.
    have hs := (readSpecifier?_eq_some hr).1
    have hlength := List.length_pos_of_ne_nil (written_ne_nil r.value)
    rw [hs, List.length_append] at hlt
    exact absurd (Nat.lt_add_of_pos_left hlength) hlt
  | case4 before skipped c s hr ih =>
    obtain ⟨t, ht, hbehind⟩ := ih
    exact ⟨c :: t, by simpa using ht, .char (ne_written_of_read_eq_none hr) hbehind⟩

/-- Rewriting has one result. -/
theorem RewrittenFrom.unique {folder : Text} {before : Option Char} {s t u : Text}
    (ht : RewrittenFrom folder before s t) (hu : RewrittenFrom folder before s u) : t = u := by
  induction ht generalizing u with
  | nil before =>
    generalize hs : ([] : Text) = s at hu
    cases hu with
    | nil => rfl
    | specifier => exact absurd hs.symm (by simp [Specifier.written])
    | char => exact nomatch hs
  | @specifier before p s t hp hstart hbehind ih =>
    have hread := readSpecifier?_written hp hstart s
    generalize hs : p.written ++ s = w at hu hread
    cases hu with
    | nil => exact absurd hs (by simp [Specifier.written])
    | @specifier _ q _ _ hq _ hbehind' =>
      rw [readSpecifier?_written hq hstart] at hread
      obtain ⟨rfl, rfl⟩ := Text.Reading.mk.inj (Option.some.inj hread)
      rw [ih hbehind']
    | char hnone => exact absurd hs.symm (hnone p s hp hstart)
  | @char before c s t hnone hbehind ih =>
    generalize hs : c :: s = w at hu
    cases hu with
    | nil => exact nomatch hs
    | specifier hq hstart hbehind' => exact absurd hs (hnone _ _ hq hstart)
    | char _ hbehind' =>
      obtain ⟨rfl, rfl⟩ := List.cons.inj hs
      rw [ih hbehind']

/-- **Anchoring replaces every relative specifier, and changes nothing else.** -/
theorem rewritten_iff {folder s t : Text} : Rewritten folder s t ↔ t = anchored folder s := by
  obtain ⟨u, hu, hrewritten⟩ := rewrittenFrom_replaced folder none [] s
  have hanchored : anchored folder s = u := hu
  rw [hanchored]
  exact ⟨fun h => h.unique hrewritten, fun h => h ▸ hrewritten⟩

theorem rewritten_anchored (folder s : Text) : Rewritten folder s (anchored folder s) :=
  rewritten_iff.2 rfl

end Import

namespace Synthesis

open Import Program

/-- A program divides the lines of its example into chunks.  It has the statements, with
absolute paths for relative ones, as its imports, and the other lines as its body. -/
structure Divided (cwd : Text) (exports : List Text) (e : Example) (program : Text)
    (chunks : List Chunk) (rewritten : List Text) : Prop where
  /-- The chunks hold every line once, in order. -/
  lines : chunks.flatMap Chunk.lines = Text.lines e.code
  /-- Each line has its role in its chunk. -/
  roles : ∀ i r, (chunks.flatMap Chunk.roles)[i]? = some r → HasRole (Text.lines e.code) i r
  /-- The imports are the statements, with absolute paths for relative specifiers. -/
  imports : List.Forall₂ (fun s t => t = anchored (originFolder cwd e.origin) (Text.unlines s) ∧
      Rewritten (originFolder cwd e.origin) (Text.unlines s) t)
    (chunks.filterMap Chunk.statement?) rewritten
  /-- The body is the other lines, two spaces further in. -/
  body : bodyOf program = (chunks.filterMap Chunk.other?).map indented
  /-- The program has imports and body at their places. -/
  program : ∃ modulePath, program =
    Text.unlines (front e modulePath rewritten exports ++ header :: (bodyOf program ++ trailer))

theorem exists_of_programWith {d : Disk} {exports : List Text} {e : Example} {program : Text}
    (h : programWith d exports e = .ok program) :
    ∃ path, program = ofExample d.cwdText path exports e := by
  rw [programWith] at h
  cases hpath : modulePath d e.origin with
  | error f => simp [hpath, bind, Except.bind] at h
  | ok path =>
    rw [hpath] at h
    exact ⟨path, (Except.ok.inj h).symm⟩

/-- **A program has every line of its example, once and in order.** -/
theorem exists_divided {d : Disk} {exports : List Text} {e : Example} {program : Text}
    (h : programWith d exports e = .ok program) :
    ∃ chunks rewritten, Divided d.cwdText exports e program chunks rewritten := by
  obtain ⟨⟨chunks, hlines, hroles, hdivide⟩, -⟩ := exists_chunks (Text.lines e.code)
  have hstatements : statements d.cwdText e.origin (Text.lines e.code) =
      (chunks.filterMap Chunk.statement?).map fun ls =>
        anchored (originFolder d.cwdText e.origin) (Text.unlines ls) := by
    rw [statements, divide, hdivide]
    rfl
  have hothers : (divide (Text.lines e.code)).others = chunks.filterMap Chunk.other? := by
    rw [divide, hdivide]
    rfl
  obtain ⟨path, hpath⟩ := exists_of_programWith h
  rw [ofExample_eq, hothers] at hpath
  have hbody : bodyOf program = (chunks.filterMap Chunk.other?).map indented := by
    rw [hpath]
    refine bodyOf_unlines (front_ne_nil _ _ _ _) fun l hl => ?_
    obtain ⟨chunk, hchunk, hl⟩ := List.mem_filterMap.1 hl
    refine Text.notMem_of_mem_lines (s := e.code) (hlines ▸ ?_)
    exact List.mem_flatMap.2 ⟨chunk, hchunk, Chunk.mem_lines_of_other? hl⟩
  refine ⟨chunks, statements d.cwdText e.origin (Text.lines e.code), hlines, fun i r hr => ?_, ?_,
    hbody, path, ?_⟩
  · have hclosed : false = true ↔ Continues ([] ++ Text.lines e.code) 0 :=
      iff_of_false Bool.false_ne_true (not_continues_zero _)
    rw [hroles] at hr
    have hrole : HasRole ([] ++ Text.lines e.code) (0 + i) r := hasRole_of_rolesFrom hclosed hr
    rwa [List.nil_append, Nat.zero_add] at hrole
  · rw [hstatements, List.forall₂_map_right_iff, List.forall₂_same]
    exact fun ls _ => ⟨rfl, rewritten_anchored _ _⟩
  · rw [hbody]
    exact hpath

/-- An example with an import statement of two lines. -/
def pairUser : Example :=
  ⟨"m.ts".toList, 1, "f".toList, "import \x7b a,\n  b \x7d from './pair';\nf(a, b);".toList, none⟩

theorem exists_divided_pairUser :
    ∃ program chunks rewritten,
      programWith ⟨[], [], 0o022, {}⟩ ["f".toList] pairUser = .ok program ∧
        Divided "/".toList ["f".toList] pairUser program chunks rewritten := by
  have hprogram : programWith ⟨[], [], 0o022, {}⟩ ["f".toList] pairUser =
      .ok (ofExample "/".toList "/m.ts".toList ["f".toList] pairUser) := rfl
  obtain ⟨chunks, rewritten, hdivided⟩ := exists_divided hprogram
  exact ⟨_, chunks, rewritten, hprogram, hdivided⟩

end Synthesis
end DocExamples
