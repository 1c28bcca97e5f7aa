/-
# Clauses that touch the word `import`

A line begins an import statement if a blank, a brace, a star or a quote follows the word `import`.
The clause of a statement is read only behind a blank.  So a statement whose clause touches the
word is taken out of the body like any other, but no name is read from it, and the exports with
the names that it binds are bound once more:

| line | statement | seen to bind |
| --- | --- | --- |
| `import {a} from "./m";` | yes | `a` |
| `import{a} from "./m";` | yes | nothing |

If the documented module exports `a`, the second line is followed by `const { a } = …;`.
-/

import DocExamples.Proofs.Ambient

namespace DocExamples
namespace Import
open Text

/-! ### The clause is not read -/

/-- The marks with which a clause can touch the word `import`. -/
def marks : List Char := ['\x7b', '*']

variable {m : Char}

theorem isBlank_of_mem_marks (hm : m ∈ marks) : isBlank m = false :=
  (by decide : ∀ m ∈ marks, isBlank m = false) m hm

theorem stripLeft_indented (indent : Blanks) (s : Text) :
    stripLeft (indent.text ++ ("import".toList ++ s)) = "import".toList ++ s := by
  rw [stripLeft_append indent.blank]
  exact stripLeft_eq_self fun c hc => Option.some.inj hc ▸ by decide

/-- A text that begins with the word `import` and a mark, behind blanks, has no clause. -/
theorem clause?_touching (hm : m ∈ marks) (indent : Blanks) (s : Text) :
    clause? (indent.text ++ ("import".toList ++ m :: s)) = none := by
  have hspaced : spaced? "import".toList ("import".toList ++ m :: s) = none := by
    rw [spaced?, after?_append]
    simp only [isBlank_of_mem_marks hm, Bool.false_eq_true, if_false]
  rw [clause?, stripLeft_indented]
  exact congrArg (Option.bind · _) hspaced

/-- No specifier begins before the mark: the first character behind words and blanks that stands
in neither would have to be a quote. -/
theorem readSpecifier?_touching (hm : m ∈ marks) (indent : Blanks) {t : Text}
    (ht : t <:+ indent.text ++ ("import".toList ++ [m])) (hne : t ≠ []) (before : Option Char)
    (s : Text) : readSpecifier? before (t ++ s) = none := by
  have hmark : isLoose m = false ∧ isQuote m = false :=
    (by decide : ∀ m ∈ marks, isLoose m = false ∧ isQuote m = false) m hm
  have hfront : ∀ c ∈ indent.text ++ "import".toList, isLoose c = true :=
    List.forall_mem_append.2 ⟨indent.isLoose_of_mem, List.all_eq_true.1 (by decide)⟩
  obtain ⟨u, rfl, hu⟩ : ∃ u, t = u ++ [m] ∧ u <:+ indent.text ++ "import".toList := by
    rw [← List.append_assoc] at ht
    exact (List.suffix_concat_iff.1 ht).resolve_left hne
  rw [Option.eq_none_iff_forall_ne_some]
  intro r hr
  obtain ⟨htext, hrelative⟩ := readSpecifier?_eq_some hr
  have hlead : ∀ c ∈ r.value.lead, isLoose c = true := by
    obtain ⟨word, hword, w, hlead, hw⟩ := hrelative.lead
    have hwords : ∀ word ∈ ["from".toList, "import".toList], word.all isLoose = true := by decide
    rw [hlead]
    exact List.forall_mem_append.2 ⟨List.all_eq_true.1 (hwords word hword), fun c hc => by
      rw [isLoose, hw c hc, Bool.true_or]⟩
  have hquote : isLoose r.value.quote = false := by
    rw [Bool.eq_false_iff]
    exact fun hloose =>
      Bool.false_ne_true ((isQuote_of_isLoose hloose).symm.trans hrelative.quote)
  have hsame : u ++ m :: s =
      r.value.lead ++ r.value.quote :: (r.value.path ++ ([r.value.quote] ++ r.rest)) := by
    simpa [Specifier.written] using htext
  obtain ⟨-, rfl, -⟩ := eq_of_append_cons (p := (!isLoose ·))
    (fun c hc => by simp [hfront c (hu.mem hc)]) (fun c hc => by simp [hlead c hc])
    (by simp [hmark.1]) (by simp [hquote]) hsame
  exact Bool.false_ne_true (hmark.2.symm.trans hrelative.quote)

/-- Replacing specifiers changes nothing up to the mark. -/
theorem exists_anchored_touching (hm : m ∈ marks) (folder : Text) (indent : Blanks) (s : Text) :
    ∃ u, anchored folder (indent.text ++ ("import".toList ++ m :: s)) =
      indent.text ++ ("import".toList ++ m :: u) := by
  have htext (s : Text) : indent.text ++ ("import".toList ++ m :: s) =
      (indent.text ++ ("import".toList ++ [m])) ++ s := by simp
  rw [anchored, segments, htext, segmentsFrom_of_none fun t ht hne b =>
    readSpecifier?_touching hm indent ht hne b s, List.append_nil]
  obtain ⟨u, hu⟩ := exists_replaced readSpecifier? (fun p => p.value.anchored folder)
    ((indent.text ++ ("import".toList ++ [m])).getLast?.or none)
    (indent.text ++ ("import".toList ++ [m])).reverse s
  exact ⟨u, by rw [htext u, hu, List.reverse_reverse]⟩

/-- **What touches the word `import` is not read**, in whatever folder. -/
theorem boundNames_anchored_touching (hm : m ∈ marks) (folder : Text) (indent : Blanks) (s : Text) :
    boundNames (anchored folder (indent.text ++ ("import".toList ++ m :: s))) = [] := by
  obtain ⟨u, hu⟩ := exists_anchored_touching hm folder indent s
  rw [hu, boundNames, clause?_touching hm]

theorem isImportLine_append (indent : Blanks) (m : Char) (s : Text) :
    isImportLine (indent.text ++ ("import".toList ++ m :: s)) =
      (isBlank m || m == '\x7b' || m == '*' || m == '\x27' || m == '"') := by
  rw [isImportLine, stripLeft_indented, after?_append]

/-! ### Statements with and without blanks -/

/-- An import statement as it is written with blanks behind the word `import` or, where a mark
follows them, without. -/
structure Hoisted where
  /-- The statement with the blanks. -/
  spaced : Statement
  /-- Whether the blanks are left out. -/
  touching : Bool
  /-- They are left out only before a clause in braces or one that begins with a star. -/
  marked : touching = true → spaced.typed = none ∧ ∃ b, spaced.clause = .only b

namespace Hoisted

/-- A statement as it is written. -/
def text (h : Hoisted) : Text :=
  if h.touching then
    h.spaced.indent.text ++ ("import".toList ++ (h.spaced.body ++ h.spaced.quote :: h.spaced.rest))
  else h.spaced.text

variable {h : Hoisted}

theorem text_of_touching (ht : h.touching = true) :
    ∃ m ∈ marks, ∃ s, h.text = h.spaced.indent.text ++ ("import".toList ++ m :: s) := by
  obtain ⟨-, b, hb⟩ := h.marked ht
  obtain ⟨m, hm, s, hs⟩ : ∃ m ∈ marks, ∃ s, b.text = m :: s := by
    cases b with
    | everything star word n => exact ⟨'*', by decide, _, rfl⟩
    | listed items => exact ⟨'\x7b', by decide, _, rfl⟩
  refine ⟨m, hm, s ++ (h.spaced.gap.text ++ ("from".toList ++ h.spaced.tight.text)) ++
    h.spaced.quote :: h.spaced.rest, ?_⟩
  rw [text, if_pos ht, Statement.body, hb, Clause.text, hs]
  rfl

/-- **A statement is seen to bind the names of its clause unless that touches the word**, in
whatever folder. -/
theorem mem_boundNames_anchored_text (folder n : Text) :
    n ∈ boundNames (anchored folder h.text) ↔ n ∈ h.spaced.clause.names ∧ h.touching = false := by
  cases ht : h.touching with
  | true =>
    obtain ⟨m, hm, s, hs⟩ := text_of_touching ht
    rw [hs, boundNames_anchored_touching hm]
    simp
  | false =>
    rw [text, ht, if_neg Bool.false_ne_true, mem_boundNames_anchored]
    simp

end Hoisted
end Import

namespace Program
open Import Text

/-- What a program leaves for its own constants, if the import statements of its example have
clauses. -/
theorem ambient_of_form {cwd origin : Text} {ls : List Text} {hs : List Hoisted}
    (hform : (divide ls).statements.map unlines = hs.map Hoisted.text) (exports : List Text) :
    ambient (statements cwd origin ls) exports = exports.filter fun n =>
      decide (∀ h ∈ hs, n ∈ h.spaced.clause.names → h.touching = true) := by
  rw [statements_of_form hform]
  refine List.filter_congr fun n _ => ?_
  simp only [List.contains_eq_mem, List.flatMap_map, List.mem_flatMap,
    Hoisted.mem_boundNames_anchored_text, decide_not.symm, not_exists, not_and, Bool.not_eq_false]

/-- **Exports are bound once more where a clause touches the word `import`.**  With `import` and
a brace or a star behind it a line begins a statement and opens as many lists as with a space
between the two, but however the statement goes on, no name is read from it: the same names are
read from both only if none is read with the space.  So an export is left exactly if no statement
binds it, apart from statements whose clause touches the word, and no export that is left is bound
by a statement exactly if each that a statement binds is also bound by one with blanks. -/
theorem ambient_hoisted (cwd origin : Text) (exports : List Text) :
    (∀ m ∈ marks, ∀ (indent : Blanks) (s : Text),
      let touching := indent.text ++ ("import".toList ++ m :: s)
      let spaced := indent.text ++ ("import".toList ++ ' ' :: m :: s)
      isImportLine touching = true ∧ isImportLine spaced = true ∧
        opensList touching = opensList spaced ∧
        boundNames (anchored (originFolder cwd origin) touching) = [] ∧
        ((∀ n, n ∈ boundNames touching ↔ n ∈ boundNames spaced) ↔ boundNames spaced = [])) ∧
    ∀ (ls : List Text) (hs : List Hoisted),
      (divide ls).statements.map unlines = hs.map Hoisted.text →
        (ambient (statements cwd origin ls) exports = exports.filter fun n =>
          decide (∀ h ∈ hs, n ∈ h.spaced.clause.names → h.touching = true)) ∧
        ((∀ n ∈ ambient (statements cwd origin ls) exports, ∀ h ∈ hs,
            n ∉ h.spaced.clause.names) ↔
          ∀ n ∈ exports, ∀ h ∈ hs, n ∈ h.spaced.clause.names →
            ∃ k ∈ hs, n ∈ k.spaced.clause.names ∧ k.touching = false) := by
  refine ⟨fun m hm indent s => ⟨?_, ?_, ?_, boundNames_anchored_touching hm _ indent s, ?_⟩,
    fun ls hs hform => ⟨ambient_of_form hform exports, ?_⟩⟩
  · rw [isImportLine_append]
    exact (by decide : ∀ m ∈ marks,
      (isBlank m || m == '\x7b' || m == '*' || m == '\x27' || m == '"') = true) m hm
  · rw [isImportLine_append]
    rfl
  · simp [opensList, List.count_cons]
  · have hnone : boundNames (indent.text ++ ("import".toList ++ m :: s)) = [] := by
      rw [boundNames, clause?_touching hm]
    rw [hnone, List.eq_nil_iff_forall_not_mem]
    exact forall_congr' fun n => by simp
  · rw [ambient_of_form hform]
    simp only [List.mem_filter, decide_eq_true_eq, and_imp]
    constructor
    · intro h n hn k hk hmem
      by_contra hnone
      push Not at hnone
      exact h n hn (fun k hk hmem => eq_true_of_ne_false (hnone k hk hmem)) k hk hmem
    · intro h n hn htouching k hk hmem
      obtain ⟨l, hl, hmem, hspaced⟩ := h n hn k hk hmem
      exact Bool.false_ne_true (hspaced.symm.trans (htouching l hl hmem))

/-- A name to bind. -/
def mean : Name := spelled 'm' "ean".toList (by decide) (by decide) (by decide)

/-- Another one. -/
def spread : Name := spelled 's' "pread".toList (by decide) (by decide) (by decide)

/-- A third one. -/
def total : Name := spelled 't' "otal".toList (by decide) (by decide) (by decide)

/-- A statement that takes something from a module, with one space between its words. -/
def taking (b : Binding) : Statement where
  indent := nothing
  space := single
  typed := none
  clause := .only b
  gap := single.toBlanks
  apart := fun _ => single.ne_nil
  tight := single.toBlanks
  quote := crafty.quote
  isQuote := crafty.isQuote
  rest := crafty.rest

/-- A list with one name, and spaces around it. -/
def braced (n : Name) : Binding :=
  .listed [.entry ⟨single.toBlanks, none, n, none, single.toBlanks⟩]

/-- Two statements whose clauses touch the word, and one whose clause does not. -/
def crowded : List Hoisted :=
  [⟨taking (braced mean), true, fun _ => ⟨rfl, _, rfl⟩⟩,
    ⟨taking (.everything single.toBlanks single spread), true, fun _ => ⟨rfl, _, rfl⟩⟩,
    ⟨taking (braced total), false, nofun⟩]

/-- The lines of an example with these statements. -/
def crowdedLines : List Text :=
  ["import\x7b mean \x7d from \"./m\";".toList, "import* as spread from \"./m\";".toList,
    "import \x7b total \x7d from \"./m\";".toList, "mean(total, spread.wide);".toList]

theorem ambient_hoisted_crowded :
    (divide crowdedLines).statements.map unlines = crowded.map Hoisted.text ∧
    ambient (statements "/w".toList "m.ts".toList crowdedLines)
      ["mean".toList, "spread".toList, "total".toList, "median".toList] =
        ["mean".toList, "spread".toList, "median".toList] ∧
    '\x7b' ∈ marks ∧
    boundNames "import \x7b mean \x7d from \"./m\";".toList = ["mean".toList] ∧
    ¬ ∀ n, n ∈ boundNames "import\x7b mean \x7d from \"./m\";".toList ↔
      n ∈ boundNames "import \x7b mean \x7d from \"./m\";".toList := by
  have hform : (divide crowdedLines).statements.map unlines = crowded.map Hoisted.text := by
    decide +kernel
  obtain ⟨htouching, hambient⟩ := ambient_hoisted "/w".toList "m.ts".toList
    ["mean".toList, "spread".toList, "total".toList, "median".toList]
  have hmark : '\x7b' ∈ marks := by decide
  have hspaced : boundNames "import \x7b mean \x7d from \"./m\";".toList = ["mean".toList] := by
    decide +kernel
  have hagree := (htouching '\x7b' hmark nothing " mean \x7d from \"./m\";".toList).2.2.2.2
  refine ⟨hform, (hambient crowdedLines crowded hform).1.trans ?_, hmark, hspaced, fun h => ?_⟩
  · decide +kernel
  · exact List.cons_ne_nil _ _ (hspaced.symm.trans (hagree.1 h))

end Program
end DocExamples
