/-
# Template literals in the body

A template literal stands between two backquotes and may go on over several lines.  The body of a
program has the lines of an example two spaces further in, and lines of blanks only as empty
lines, whatever stands in them.  So a literal on one line is kept as it is, and a literal on
several lines is not:

    documented                  in the body

    f(`a                          f(`a
      b                             b
                                (nothing)
    c`);                          c`);

Behind its first line, every line of the literal is two spaces further in, and a line of blanks
only within it is empty.
-/

import DocExamples.Proofs.Division
import DocExamples.Proofs.PathText
import Mathlib.Tactic.IntervalCases

namespace DocExamples

namespace Text

/-- The backquote, which stands on both sides of a template literal. -/
def tick : Char := '\x60'

@[simp] theorem tick_ne_space : tick ≠ ' ' := by decide

@[simp] theorem tick_ne_lineFeed : tick ≠ '\n' := by decide

/-- The first line and the last may be written in two parts. -/
theorem unlines_around (before behind first last : Text) (inner : List Text) :
    unlines ((before ++ first) :: (inner ++ [last ++ behind])) =
      before ++ (unlines (first :: (inner ++ [last])) ++ behind) := by
  rw [← List.cons_append, ← List.cons_append, unlines_append _ (List.cons_ne_nil _ _),
    unlines_append _ (List.cons_ne_nil _ _), unlines_singleton, unlines_singleton, ended_cons,
    ended_cons]
  simp only [List.append_assoc, List.cons_append]

/-- The lines of a text between two others go on with the last line before it and the first line
behind it. -/
theorem exists_lines_around (before s after : Text) :
    ∃ front p q behind, lines before = front ++ [p] ∧ lines after = q :: behind ∧
      lines (before ++ (s ++ after)) = front ++ (lines (p ++ (s ++ q)) ++ behind) := by
  obtain ⟨q, behind, hafter⟩ := List.exists_cons_of_ne_nil (lines_ne_nil after)
  rcases (lines before).eq_nil_or_concat with hnil | ⟨front, p, hbefore⟩
  · exact absurd hnil (lines_ne_nil before)
  rw [List.concat_eq_append] at hbefore
  refine ⟨front, p, q, behind, hbefore, hafter, ?_⟩
  have hne : lines (p ++ (s ++ q)) ++ behind ≠ [] := by simp [lines_ne_nil]
  have htext : before ++ (s ++ after) = unlines (front ++ (lines (p ++ (s ++ q)) ++ behind)) := by
    conv_lhs => rw [← unlines_lines before, ← unlines_lines after, hbefore, hafter]
    rw [unlines_append front (List.cons_ne_nil _ _), unlines_append front hne,
      unlines_append_flatMap (lines_ne_nil _), unlines_lines, ← List.singleton_append (l := behind),
      unlines_append_flatMap (List.cons_ne_nil _ _), unlines_singleton, unlines_singleton]
    simp only [List.append_assoc]
  have hfeeds : ∀ l ∈ front ++ (lines (p ++ (s ++ q)) ++ behind), '\n' ∉ l := by
    refine List.forall_mem_append.2 ⟨fun l hl => ?_, List.forall_mem_append.2
      ⟨fun l hl => notMem_of_mem_lines hl, fun l hl => ?_⟩⟩
    · exact notMem_of_mem_lines (hbefore ▸ List.mem_append_left [p] hl)
    · exact notMem_of_mem_lines (hafter ▸ List.mem_cons_of_mem q hl)
  rw [htext, lines_unlines (by simp [hne]) hfeeds]

theorem notMem_unlines {c : Char} (hc : c ≠ '\n') {ls : List Text} (h : ∀ l ∈ ls, c ∉ l) :
    c ∉ unlines ls := by
  intro hmem
  rcases mem_joined hmem with hsep | ⟨l, hl, hcl⟩
  · exact hc (List.mem_singleton.1 hsep)
  · exact h l hl hcl

end Text

namespace Import

theorem mem_of_mem_others {l : Text} {ls : List Text} (h : l ∈ (divide ls).others) : l ∈ ls := by
  obtain ⟨⟨chunks, hlines, -, hdivide⟩, -⟩ := exists_chunks ls
  rw [divide, hdivide] at h
  obtain ⟨chunk, hchunk, hl⟩ := List.mem_filterMap.1 h
  exact hlines ▸ List.mem_flatMap.2 ⟨chunk, hchunk, Chunk.mem_lines_of_other? hl⟩

/-- **Lines that belong to no import statement stay together.** -/
theorem others_of_hasRole {front ls behind : List Text} (hne : ls ≠ [])
    (h : ∀ i, front.length ≤ i → i < front.length + ls.length →
      HasRole (front ++ (ls ++ behind)) i .other) :
    (divide (front ++ (ls ++ behind))).others =
      (divide front).others ++ (ls ++ (divide behind).others) := by
  have hfirst := h front.length (Nat.le_refl _)
    (Nat.lt_add_of_pos_right (List.length_pos_iff.2 hne))
  have himport : ∀ l ∈ ls, isImportLine l = false := by
    intro l hl
    obtain ⟨i, hi, rfl⟩ := List.getElem_of_mem hl
    have hrole := (h (front.length + i) (Nat.le_add_right _ _) (Nat.add_lt_add_left hi _)).1
    rw [List.getElem?_append_right (Nat.le_add_right _ _), Nat.add_sub_cancel_left,
      List.getElem?_append_left hi, List.getElem?_eq_getElem hi] at hrole
    exact Bool.eq_false_iff.2 hrole
  rw [divide_append hfirst.2, divide_append_of_not_isImportLine himport]

end Import

namespace Program
open Text

/-! ### A literal further in -/

/-- The lines behind the first one of a text that begins and ends within lines, after these lines
have moved further in. -/
def movedLines (more : List Text) : List Text :=
  more.dropLast.map indented ++ (more.getLast?.map fun l => ' ' :: ' ' :: l).toList

/-- A text that begins and ends within lines, after these lines have moved further in. -/
def furtherIn (s : Text) : Text :=
  match lines s with
  | [] => []
  | first :: more => unlines (first :: movedLines more)

theorem indented_of_mem {c : Char} {l : Text} (hc : isBlank c = false) (h : c ∈ l) :
    indented l = ' ' :: ' ' :: l := by
  rw [indented, if_neg]
  exact fun hblank => Bool.false_ne_true (hc.symm.trans (List.all_eq_true.1 hblank c h))

theorem movedLines_concat (inner : List Text) (last : Text) :
    movedLines (inner ++ [last]) = inner.map indented ++ [' ' :: ' ' :: last] := by
  simp [movedLines]

/-- A character other than a space comes into no line. -/
theorem notMem_movedLines {c : Char} (hc : c ≠ ' ') {more : List Text} (h : ∀ l ∈ more, c ∉ l) :
    ∀ l ∈ movedLines more, c ∉ l := by
  rcases more.eq_nil_or_concat with rfl | ⟨inner, last, rfl⟩
  · exact List.forall_mem_nil _
  · rw [List.concat_eq_append] at h ⊢
    obtain ⟨hinner, hlast⟩ := List.forall_mem_append.1 h
    rw [movedLines_concat, List.forall_mem_append]
    refine ⟨List.forall_mem_map.2 fun l hl => notMem_indented hc (hinner l hl), ?_⟩
    simpa [hc] using hlast

variable {s : Text}

theorem furtherIn_of_lines {first : Text} {more : List Text} (h : lines s = first :: more) :
    furtherIn s = unlines (first :: movedLines more) := by
  rw [furtherIn, h]

theorem notMem_furtherIn {c : Char} (hspace : c ≠ ' ') (hfeed : c ≠ '\n') (h : c ∉ s) :
    c ∉ furtherIn s := by
  obtain ⟨first, more, hlines⟩ := List.exists_cons_of_ne_nil (lines_ne_nil s)
  have hline : ∀ l ∈ first :: more, c ∉ l := fun l hl hcl =>
    h ((infix_of_mem_lines (hlines ▸ hl)).mem hcl)
  obtain ⟨hfirst, hmore⟩ := List.forall_mem_cons.1 hline
  rw [furtherIn_of_lines hlines]
  exact notMem_unlines hfeed (List.forall_mem_cons.2 ⟨hfirst, notMem_movedLines hspace hmore⟩)

/-- **A text is kept as it is exactly if it is on one line.** -/
theorem furtherIn_eq_self_iff : furtherIn s = s ↔ '\n' ∉ s := by
  obtain ⟨first, more, hlines⟩ := List.exists_cons_of_ne_nil (lines_ne_nil s)
  have hline : ∀ l ∈ first :: more, '\n' ∉ l := fun l hl => notMem_of_mem_lines (hlines ▸ hl)
  obtain ⟨hfirst, hmore⟩ := List.forall_mem_cons.1 hline
  rw [furtherIn_of_lines hlines]
  rcases more.eq_nil_or_concat with rfl | ⟨inner, last, rfl⟩
  · have hs := unlines_lines s
    rw [hlines] at hs
    rw [unlines_singleton] at hs
    exact iff_of_true (hs ▸ unlines_singleton first) (hs ▸ hfirst)
  · rw [List.concat_eq_append] at hlines hmore ⊢
    refine iff_of_false (fun h => ?_) (fun hmem => ?_)
    · -- The last line has two characters more.
      have hsame := congrArg lines h
      rw [lines_unlines (List.cons_ne_nil _ _) (List.forall_mem_cons.2
        ⟨hfirst, notMem_movedLines (by decide) hmore⟩), hlines, movedLines_concat,
        List.cons.injEq] at hsame
      have hlast := congrArg List.getLast? hsame.2
      rw [List.getLast?_concat, List.getLast?_concat, Option.some.injEq] at hlast
      have hlength := congrArg List.length hlast
      simp only [List.length_cons] at hlength
      omega
    · rw [lines, pieces_of_notMem hmem] at hlines
      simp at hlines

/-- **A literal moves further in with its lines.**  What stands before it and behind it on its
first and last line moves too. -/
theorem unlines_map_indented {c : Char} (hc : isBlank c = false) {before behind : Text}
    (hbefore : '\n' ∉ before) (hbehind : '\n' ∉ behind) (s : Text) :
    unlines ((lines (before ++ c :: (s ++ c :: behind))).map indented) =
      ' ' :: ' ' :: before ++ c :: (furtherIn s ++ c :: behind) := by
  have hfeed : c ≠ '\n' := by
    rintro rfl
    exact absurd hc (by decide)
  obtain ⟨first, more, hlines⟩ := List.exists_cons_of_ne_nil (lines_ne_nil s)
  have hline : ∀ l ∈ first :: more, '\n' ∉ l := fun l hl => notMem_of_mem_lines (hlines ▸ hl)
  obtain ⟨hfirst, hmore⟩ := List.forall_mem_cons.1 hline
  have hs := unlines_lines s
  rw [hlines] at hs
  rw [furtherIn_of_lines hlines]
  rcases more.eq_nil_or_concat with rfl | ⟨inner, last, rfl⟩
  · rw [unlines_singleton] at hs
    subst hs
    have hmid : '\n' ∉ before ++ c :: (first ++ c :: behind) := by
      simp [hbefore, hbehind, hfirst, Ne.symm hfeed]
    rw [lines, pieces_of_notMem hmid, List.map_singleton, unlines_singleton,
      indented_of_mem (c := c) hc (by simp)]
    simp [movedLines]
  · rw [List.concat_eq_append] at hs hmore ⊢
    obtain ⟨hinner, hlast⟩ := List.forall_mem_append.1 hmore
    have hlist : before ++ c :: (s ++ c :: behind) =
        unlines ((before ++ [c] ++ first) :: (inner ++ [last ++ c :: behind])) := by
      rw [unlines_around, hs]
      simp
    have hlast' : '\n' ∉ last ++ c :: behind := by
      simp [hbehind, Ne.symm hfeed, hlast last List.mem_cons_self]
    have hfeeds : ∀ l ∈ (before ++ [c] ++ first) :: (inner ++ [last ++ c :: behind]), '\n' ∉ l :=
      List.forall_mem_cons.2 ⟨by simp [hbefore, hfirst, Ne.symm hfeed],
        List.forall_mem_append.2 ⟨hinner, List.forall_mem_singleton.2 hlast'⟩⟩
    have hopening : indented (before ++ [c] ++ first) = (' ' :: ' ' :: before ++ [c]) ++ first :=
      indented_of_mem (c := c) hc (by simp)
    have hclosing : indented (last ++ c :: behind) = (' ' :: ' ' :: last) ++ c :: behind :=
      indented_of_mem (c := c) hc (by simp)
    rw [hlist, lines_unlines (List.cons_ne_nil _ _) hfeeds, List.map_cons, List.map_append,
      List.map_singleton, hopening, hclosing, unlines_around, movedLines_concat]
    simp

/-! ### The body -/

/-- No backquote stands around a literal: in the lines above and below it, before it on its first
line and behind it on its last. -/
structure Surrounds (above below : List Text) (p q : Text) : Prop where
  /-- None is above. -/
  above : ∀ l ∈ above, tick ∉ l
  /-- None is below. -/
  below : ∀ l ∈ below, tick ∉ l
  /-- What is before it is part of a line. -/
  before : '\n' ∉ p ∧ tick ∉ p
  /-- What is behind it is part of a line. -/
  behind : '\n' ∉ q ∧ tick ∉ q

/-- A literal stands between the only two backquotes of lines, before they move and behind. -/
theorem pieces_unlines_indented {above below : List Text} {p q s : Text}
    (h : Surrounds above below p q) (hs : tick ∉ s) :
    ∃ before after, pieces tick (unlines ((above ++
      (lines (p ++ tick :: (s ++ tick :: q)) ++ below)).map indented)) =
        [before, furtherIn s, after] := by
  have hne : (lines (p ++ tick :: (s ++ tick :: q))).map indented ≠ [] := fun hnil =>
    lines_ne_nil _ (List.map_eq_nil_iff.1 hnil)
  have hmoved {ls : List Text} (hls : ∀ l ∈ ls, tick ∉ l) : ∀ l ∈ ls.map indented, tick ∉ l :=
    List.forall_mem_map.2 fun l hl => notMem_indented (by decide) (hls l hl)
  have hbefore : tick ∉ ended (above.map indented) ++ (' ' :: ' ' :: p) := by
    rw [List.mem_append, not_or]
    refine ⟨fun hmem => ?_, by simpa using h.before.2⟩
    obtain ⟨l, hl, hmem⟩ := List.mem_flatMap.1 hmem
    rcases List.mem_append.1 hmem with hmem | hmem
    · exact hmoved h.above l hl hmem
    · exact absurd hmem (by decide)
  have hafter : tick ∉ q ++ (below.map indented).flatMap ('\n' :: ·) := by
    rw [List.mem_append, not_or]
    refine ⟨h.behind.2, fun hmem => ?_⟩
    obtain ⟨l, hl, hmem⟩ := List.mem_flatMap.1 hmem
    rcases List.mem_cons.1 hmem with hmem | hmem
    · exact absurd hmem (by decide)
    · exact hmoved h.below l hl hmem
  have htext : unlines ((above ++ (lines (p ++ tick :: (s ++ tick :: q)) ++ below)).map indented) =
      (ended (above.map indented) ++ (' ' :: ' ' :: p)) ++ tick ::
        (furtherIn s ++ tick :: (q ++ (below.map indented).flatMap ('\n' :: ·))) := by
    rw [List.map_append, List.map_append,
      unlines_append _ (List.append_ne_nil_of_left_ne_nil hne _), unlines_append_flatMap hne,
      unlines_map_indented (by decide) h.before.1 h.behind.1]
    simp only [List.append_assoc, List.cons_append]
  exact ⟨_, _, by rw [htext, pieces_append_cons hbefore,
    pieces_append_cons (notMem_furtherIn (by decide) (by decide) hs), pieces_of_notMem hafter]⟩

/-- The lines from the first backquote to the second, and those around them. -/
theorem exists_lines_of_pieces {text before s after : Text}
    (h : pieces tick text = [before, s, after]) :
    ∃ front p q behind, lines text = front ++ (lines (p ++ tick :: (s ++ tick :: q)) ++ behind) ∧
      front.length = before.count '\n' ∧
      (lines (p ++ tick :: (s ++ tick :: q))).length = s.count '\n' + 1 ∧
      Surrounds front behind p q := by
  have hbefore : tick ∉ before := notMem_of_mem_pieces (s := text) (h ▸ by simp)
  have hafter : tick ∉ after := notMem_of_mem_pieces (s := text) (h ▸ by simp)
  have htext : text = before ++ ((tick :: (s ++ [tick])) ++ after) := by
    rw [← joined_pieces tick text, h]
    simp [joined, List.intercalate]
  obtain ⟨front, p, q, behind, hfront, hbehind, hlines⟩ :=
    exists_lines_around before (tick :: (s ++ [tick])) after
  have hmid : p ++ ((tick :: (s ++ [tick])) ++ q) = p ++ tick :: (s ++ tick :: q) := by simp
  rw [← htext, hmid] at hlines
  have habove (l : Text) (hl : l ∈ front ++ [p]) : '\n' ∉ l ∧ tick ∉ l :=
    ⟨notMem_of_mem_lines (hfront ▸ hl), fun hmem =>
      hbefore ((infix_of_mem_lines (hfront ▸ hl)).mem hmem)⟩
  have hbelow (l : Text) (hl : l ∈ q :: behind) : '\n' ∉ l ∧ tick ∉ l :=
    ⟨notMem_of_mem_lines (hbehind ▸ hl), fun hmem =>
      hafter ((infix_of_mem_lines (hbehind ▸ hl)).mem hmem)⟩
  have hp := habove p (List.mem_append_right _ List.mem_cons_self)
  have hq := hbelow q List.mem_cons_self
  refine ⟨front, p, q, behind, hlines, ?_, ?_,
    fun l hl => (habove l (List.mem_append_left _ hl)).2,
    fun l hl => (hbelow l (List.mem_cons_of_mem _ hl)).2, hp, hq⟩
  · have hcount := count_unlines (lines_ne_nil before) fun l hl => notMem_of_mem_lines hl
    rw [unlines_lines, hfront, List.length_append, List.length_singleton] at hcount
    omega
  · have hcount := count_unlines (lines_ne_nil (p ++ tick :: (s ++ tick :: q)))
      fun l hl => notMem_of_mem_lines hl
    rw [unlines_lines] at hcount
    simpa [List.count_eq_zero.2 hp.1, List.count_eq_zero.2 hq.1] using hcount.symm

end Program

namespace Synthesis
open Text Import Program

/-- The body of a program has the lines that belong to no import statement. -/
theorem bodyOf_eq {d : Disk} {exports : List Text} {e : Example} {program : Text}
    (h : programWith d exports e = .ok program) :
    bodyOf program = (divide (lines e.code)).others.map indented := by
  obtain ⟨path, rfl⟩ := exists_of_programWith h
  rw [ofExample_eq]
  exact bodyOf_unlines (front_ne_nil _ _ _ _) fun l hl => notMem_of_mem_lines (mem_of_mem_others hl)

/-- **A template literal in the body** is the documented one further in with its lines, where none
of them is taken for an import.  It is the documented one as it is exactly if it is on one line. -/
theorem exists_pieces_bodyOf {d : Disk} {exports : List Text} {e : Example}
    {program before s after : Text} (h : programWith d exports e = .ok program)
    (hcode : pieces tick e.code = [before, s, after])
    (hother : ∀ i, before.count '\n' ≤ i → i ≤ before.count '\n' + s.count '\n' →
      HasRole (lines e.code) i .other) :
    (∃ before' after', pieces tick (unlines (bodyOf program)) = [before', furtherIn s, after']) ∧
      (furtherIn s = s ↔ '\n' ∉ s) := by
  obtain ⟨front, p, q, behind, hlines, hstart, hspan, hsurrounds⟩ := exists_lines_of_pieces hcode
  have hs : tick ∉ s := notMem_of_mem_pieces (s := e.code) (hcode ▸ by simp)
  have hrole : ∀ i, front.length ≤ i →
      i < front.length + (lines (p ++ tick :: (s ++ tick :: q))).length →
        HasRole (front ++ (lines (p ++ tick :: (s ++ tick :: q)) ++ behind)) i .other := by
    intro i hi hlt
    rw [← hlines]
    exact hother i (by omega) (by omega)
  rw [bodyOf_eq h, hlines, others_of_hasRole (lines_ne_nil _) hrole]
  have hothers : Surrounds (divide front).others (divide behind).others p q :=
    ⟨fun l hl => hsurrounds.above l (mem_of_mem_others hl),
      fun l hl => hsurrounds.below l (mem_of_mem_others hl), hsurrounds.before, hsurrounds.behind⟩
  exact ⟨pieces_unlines_indented hothers hs, furtherIn_eq_self_iff⟩

/-- An example with an import of two lines and a literal of four, one of them blank. -/
def quoter : Example :=
  ⟨"m.ts".toList, 1, "f".toList,
    "import \x7b a,\n  b \x7d from \"p\";\nf(`x\n\n \t\n y`);".toList, none⟩

theorem exists_pieces_bodyOf_quoter :
    ∃ program before s after, programWith ⟨[], [], 0o022, {}⟩ [] quoter = .ok program ∧
      pieces tick quoter.code = [before, s, after] ∧
      (∀ i, before.count '\n' ≤ i → i ≤ before.count '\n' + s.count '\n' →
        HasRole (lines quoter.code) i .other) ∧
      (∃ before' after', pieces tick (unlines (bodyOf program)) = [before', furtherIn s, after']) ∧
      (furtherIn s = s ↔ '\n' ∉ s) := by
  have hprogram : programWith ⟨[], [], 0o022, {}⟩ [] quoter =
      .ok (ofExample "/".toList "/m.ts".toList [] quoter) := rfl
  have hcode : pieces tick quoter.code = ["import \x7b a,\n  b \x7d from \"p\";\nf(".toList,
      "x\n\n \t\n y".toList, ");".toList] := by decide
  have hother : ∀ i, "import \x7b a,\n  b \x7d from \"p\";\nf(".toList.count '\n' ≤ i →
      i ≤ "import \x7b a,\n  b \x7d from \"p\";\nf(".toList.count '\n' +
        "x\n\n \t\n y".toList.count '\n' → HasRole (lines quoter.code) i .other := by
    intro i (hi : 2 ≤ i) (hle : i ≤ 5)
    interval_cases i <;> exact hasRole_of_getElem? rfl
  exact ⟨_, _, _, _, hprogram, hcode, hother, exists_pieces_bodyOf hprogram hcode hother⟩

example : furtherIn "x\n\n \t\n y".toList = "x\n\n\n   y".toList := by decide

/-- An example with a literal of two lines. -/
def twoLined : Example := ⟨"m.ts".toList, 1, "f".toList, "f(`a\nb`);".toList, none⟩

/-- A literal on two lines has another value in the body. -/
theorem not_kept_twoLined :
    ¬ ∀ (d : Disk) (exports : List Text) (e : Example) (program before s after : Text),
      programWith d exports e = .ok program → pieces tick e.code = [before, s, after] →
      (∀ i, before.count '\n' ≤ i → i ≤ before.count '\n' + s.count '\n' →
        HasRole (lines e.code) i .other) →
      ∃ before' after', pieces tick (unlines (bodyOf program)) = [before', s, after'] := by
  intro hkept
  have hprogram : programWith ⟨[], [], 0o022, {}⟩ [] twoLined =
      .ok (ofExample "/".toList "/m.ts".toList [] twoLined) := rfl
  have hcode : pieces tick twoLined.code = ["f(".toList, "a\nb".toList, ");".toList] := by decide
  have hother : ∀ i, "f(".toList.count '\n' ≤ i → i ≤ "f(".toList.count '\n' +
      "a\nb".toList.count '\n' → HasRole (lines twoLined.code) i .other := by
    intro i (hi : 0 ≤ i) (hle : i ≤ 1)
    interval_cases i <;> exact hasRole_of_getElem? rfl
  have hbody : pieces tick (unlines ((divide (lines twoLined.code)).others.map indented)) =
      ["  f(".toList, "a\n  b".toList, ");".toList] := by
    decide
  obtain ⟨before', after', hsame⟩ := hkept _ _ _ _ _ _ _ hprogram hcode hother
  rw [bodyOf_eq hprogram, hbody] at hsame
  have hliteral := (List.cons.inj (List.cons.inj hsame).2).1
  exact absurd hliteral (by decide)

end Synthesis
end DocExamples
