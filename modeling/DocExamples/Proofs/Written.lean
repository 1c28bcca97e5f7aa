/-
# Documentation that is written and read back

Documentation can be written down from its parts: blocks, each of which documents one
function with lines of prose and any number of fenced codes.

    /**
     * Adds two numbers.
     * @example
     * ```ts
     * add(1, 2); // => 3
     * ```
     */
    export function add() {}

Every line inside the comment stands behind a margin of its own, a star and a space.
What is read from such a source is the codes, character by character, each at the
line of its comment and under the name of the function.  Codes may hold stars, tags
and openings of comments; only a closing mark and a fence would end them.
-/

import DocExamples.Example
import DocExamples.Proofs.Searching

namespace DocExamples

namespace Snippet
open Text

/-- Lines that are visible at both ends are kept as they are. -/
theorem withoutBlankEnds_eq_self {ls : List Text} (hfirst : ∀ l ∈ ls.head?, isBlankLine l = false)
    (hlast : ∀ l ∈ ls.getLast?, isBlankLine l = false) : withoutBlankEnds ls = ls := by
  have hkept {ms : List Text} (h : ∀ l ∈ ms.head?, isBlankLine l = false) :
      ms.dropWhile isBlankLine = ms := by
    cases ms with
    | nil => rfl
    | cons m ms => exact List.dropWhile_cons_of_neg (by simp [h m rfl])
  rw [withoutBlankEnds, hkept hfirst, hkept (by rwa [List.head?_reverse]), List.reverse_reverse]

/-- A blank line behind lines makes no difference. -/
theorem withoutBlankEnds_concat (ls : List Text) {l : Text} (hl : isBlankLine l = true) :
    withoutBlankEnds (ls ++ [l]) = withoutBlankEnds ls := by
  rw [withoutBlankEnds, List.dropWhile_append]
  split
  · next hnil => simp [hl, withoutBlankEnds, List.isEmpty_iff.1 hnil]
  · rw [List.reverse_append, List.reverse_singleton, List.singleton_append,
      List.dropWhile_cons_of_pos hl, withoutBlankEnds]

end Snippet

namespace Written

/-- A run of spaces and tabs. -/
structure Margin where
  /-- The spaces and tabs. -/
  text : Text
  /-- It holds nothing else. -/
  isGap : ∀ c ∈ text, Text.isGap c

/-- A line of prose in a comment. -/
structure Prose where
  /-- The line. -/
  text : Text
  /-- It is one line. -/
  oneLine : '\n' ∉ text
  /-- It does not end the comment. -/
  unclosed : ¬ "*/".toList <:+: text
  /-- It announces no example. -/
  untagged : ¬ "@example".toList <:+: text

/-- A code that a comment shows between fences. -/
structure Code where
  /-- The language tag behind the opening fence. -/
  language : Text
  /-- The language tag stands in one line. -/
  language_oneLine : '\n' ∉ language
  /-- The language tag holds no backtick. -/
  language_bare : '\x60' ∉ language
  /-- The language tag does not end the comment. -/
  language_unclosed : ¬ "*/".toList <:+: language
  /-- The code. -/
  text : Text
  /-- The code does not end the comment. -/
  unclosed : ¬ "*/".toList <:+: text
  /-- The code does not end its own fence. -/
  unfenced : ¬ "```".toList <:+: text
  /-- The first line of the code is not blank. -/
  first_visible : ∀ l ∈ (Text.lines text).head?, Text.isBlankLine l = false
  /-- The last line of the code is not blank. -/
  last_visible : ∀ l ∈ (Text.lines text).getLast?, Text.isBlankLine l = false

/-- A letter or an underscore. -/
def isNameStart (c : Char) : Bool := c.isAlpha || c == '_'

/-- A letter, a digit or an underscore. -/
def isNamePart (c : Char) : Bool := c.isAlphanum || c == '_'

/-- A documented function: a comment with prose and codes, and the function behind it. -/
structure Block where
  /-- The name of the function. -/
  name : Text
  /-- The name begins with a letter or an underscore and goes on with those and digits. -/
  isName : ∃ c s, name = c :: s ∧ isNameStart c ∧ ∀ d ∈ s, isNamePart d
  /-- The lines of prose. -/
  prose : List Prose
  /-- The codes. -/
  codes : List Code
  /-- The margin of each line inside the comment. -/
  margins : Nat → Margin
  /-- The margin of the closing mark. -/
  closingMargin : Margin

/-- The lines that show a code: the tag, and the code between fences. -/
def Code.lines (c : Code) : List Text :=
  "@example".toList :: ("```".toList ++ c.language) :: (Text.lines c.text ++ ["```".toList])

/-- A line inside a comment, behind a margin, a star and a space. -/
def row (m : Margin) (l : Text) : Text := m.text ++ '*' :: ' ' :: l

/-- Lines inside a comment, each behind its own margin. -/
def starred (margins : Nat → Margin) (ls : List Text) : List Text :=
  ls.mapIdx fun i l => row (margins i) l

namespace Block

/-- The lines inside the comment of a block, without what stands in front of them. -/
def inner (b : Block) : List Text := b.prose.map (·.text) ++ b.codes.flatMap Code.lines

/-- The lines of a block. -/
def lines (b : Block) : List Text :=
  "/**".toList :: starred b.margins b.inner ++
    [b.closingMargin.text ++ "*/".toList, "export function ".toList ++ b.name ++ "() \x7b\x7d".toList]

/-- The examples that a block shows if it begins on line `line`: one has the name of
the function, several are numbered. -/
def examples (origin : Text) (line : Nat) (b : Block) : List Example :=
  b.codes.mapIdx fun i c =>
    ⟨origin, line, if b.codes.length = 1 then b.name else Example.numbered b.name (i + 1), c.text,
      Annotation.find? c.text⟩

end Block

/-- The source of blocks, without a line feed behind the last line. -/
def source (blocks : List Block) : Text := Text.unlines (blocks.flatMap Block.lines)

/-- The examples of blocks, the first of which begins on line `line`. -/
def examplesFrom (origin : Text) : (line : Nat) → List Block → List Example
  | _, [] => []
  | line, b :: bs => b.examples origin line ++ examplesFrom origin (line + b.lines.length) bs

/-- What holds of every line of prose and of every line that shows a code holds of every
line inside a comment. -/
theorem forall_mem_inner {P : Text → Prop} (hprose : ∀ p : Prose, P p.text)
    (htag : P "@example".toList) (hopening : ∀ c : Code, P ("```".toList ++ c.language))
    (hcode : ∀ c : Code, ∀ l ∈ Text.lines c.text, P l) (hclosing : P "```".toList) (b : Block) :
    ∀ l ∈ b.inner, P l := by
  intro l hl
  rcases List.mem_append.1 hl with hl | hl
  · obtain ⟨p, _, rfl⟩ := List.mem_map.1 hl
    exact hprose p
  · obtain ⟨c, _, hl⟩ := List.mem_flatMap.1 hl
    rw [Code.lines, List.mem_cons, List.mem_cons, List.mem_append, List.mem_singleton] at hl
    rcases hl with rfl | rfl | hl | rfl
    · exact htag
    · exact hopening c
    · exact hcode c l hl
    · exact hclosing

/-! ### Rows -/

theorem starred_cons (margins : Nat → Margin) (l : Text) (ls : List Text) :
    starred margins (l :: ls) = row (margins 0) l :: starred (fun i => margins (i + 1)) ls :=
  List.mapIdx_cons

theorem starred_append (margins : Nat → Margin) (ls ms : List Text) :
    starred margins (ls ++ ms) =
      starred margins ls ++ starred (fun i => margins (i + ls.length)) ms :=
  List.mapIdx_append

theorem Margin.notMem {c : Char} (hc : Text.isGap c = false) (m : Margin) : c ∉ m.text := by
  intro h
  rw [m.isGap c h] at hc
  exact Bool.noConfusion hc

theorem lineFeed_notMem_row (m : Margin) {l : Text} (hl : '\n' ∉ l) : '\n' ∉ row m l := by
  simp [row, hl, m.notMem (c := '\n') rfl]

theorem lineFeed_notMem_starred (margins : Nat → Margin) {ls : List Text}
    (h : ∀ l ∈ ls, '\n' ∉ l) : ∀ r ∈ starred margins ls, '\n' ∉ r := by
  intro r hr
  obtain ⟨i, hi, rfl⟩ := List.mem_mapIdx.1 hr
  exact lineFeed_notMem_row _ (h _ (List.getElem_mem hi))

/-- Reading a row gives back the line. -/
theorem withoutStar_row (m : Margin) (l : Text) : Snippet.withoutStar (row m l) = l := by
  have hstrip : Text.stripLeft (row m l) = '*' :: ' ' :: l := by
    rw [row, Text.stripLeft,
      List.dropWhile_append_of_pos fun c hc => Text.isBlank_of_isGap (m.isGap c hc)]
    rfl
  simp only [Snippet.withoutStar, hstrip]

theorem map_withoutStar_starred (margins : Nat → Margin) (ls : List Text) :
    (starred margins ls).map Snippet.withoutStar = ls := by
  induction ls generalizing margins with
  | nil => rfl
  | cons l ls ih => rw [starred_cons, List.map_cons, withoutStar_row, ih]

/-- A mark begins nowhere in rows if it begins in none of their lines, where it neither
begins with a gap nor with a star and a space. -/
theorem freeOf_starred {mark : Text} (m : Char) (hm : mark.head? = some m)
    (hgap : Text.isGap m = false) (hbreak : m ≠ '\n')
    (hstar : ∀ s, Text.after? mark ('*' :: ' ' :: s) = none) {ls : List Text}
    (hls : ∀ l ∈ ls, ∀ s, Text.FreeOf mark l ('\n' :: s)) (margins : Nat → Margin) (rest : Text) :
    Text.FreeOf mark (Text.ended (starred margins ls)) rest := by
  have hspace : m ≠ ' ' := by
    rintro rfl
    exact Bool.noConfusion hgap
  induction ls generalizing margins with
  | nil => trivial
  | cons l ls ih =>
    have hmore := ih (fun k hk => hls k (List.mem_cons_of_mem _ hk)) fun i => margins (i + 1)
    rw [starred_cons, Text.ended_cons, row, List.append_assoc, Text.freeOf_append]
    refine ⟨Text.freeOf_of_notMem m hm ((margins 0).notMem hgap), hstar _,
      Text.after?_eq_none hm hspace _, ?_⟩
    rw [List.append_eq, Text.freeOf_append]
    exact ⟨hls l List.mem_cons_self _, Text.after?_eq_none hm hbreak _, hmore⟩

/-! ### Codes -/

/-- The lines of a code have no blank ones around them. -/
theorem withoutBlankEnds_lines (c : Code) :
    Snippet.withoutBlankEnds (Text.lines c.text ++ [[]]) = Text.lines c.text :=
  (Snippet.withoutBlankEnds_concat _ rfl).trans
    (Snippet.withoutBlankEnds_eq_self c.first_visible c.last_visible)

/-- Cleaning the rows of a code, and the row that the closing fence stands in, gives
back the code. -/
theorem clean_starred (c : Code) (margins : Nat → Margin) (m : Margin) :
    Snippet.clean (Text.ended (starred margins (Text.lines c.text)) ++ row m []) = c.text := by
  have hraw : Text.lines (Text.ended (starred margins (Text.lines c.text)) ++ row m []) =
      starred margins (Text.lines c.text) ++ [row m []] := by
    have hunlines := Text.unlines_append (starred margins (Text.lines c.text))
      (List.cons_ne_nil (row m []) [])
    rw [Text.unlines_singleton] at hunlines
    rw [← hunlines]
    refine Text.lines_unlines (by simp) fun r hr => ?_
    rcases List.mem_append.1 hr with hr | hr
    · exact lineFeed_notMem_starred margins (fun l hl => Text.notMem_of_mem_lines hl) r hr
    · exact List.mem_singleton.1 hr ▸ lineFeed_notMem_row m List.not_mem_nil
  rw [Snippet.clean, Snippet.cleanLines, hraw, List.map_append, map_withoutStar_starred,
    List.map_singleton, withoutStar_row, withoutBlankEnds_lines, Text.unlines_lines]

end Written
end DocExamples
