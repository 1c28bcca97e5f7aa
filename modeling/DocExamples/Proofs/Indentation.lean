/-
# Indented code that is written and read back

Code may stand in a comment without fences.  Its lines follow the tag, each behind a margin
of its own, a star and three spaces:

    @example
     *   if (ready) {
     *     add(1, 2);
     *   }
     *
    @example
    *   add(3, 4); // => 7

One space goes with the star.  The two that are left are what all visible lines share, as
long as the lines of the code share no indentation themselves, so that reading takes away
what writing has put in front and nothing else.  A code ends before the first line that is
not indented so far.
-/

import DocExamples.Proofs.Openings

namespace DocExamples

/-! ### Shared indentation -/

namespace Snippet
open Text

theorem prefix_takeWhile_iff {α : Type} {p : α → Bool} {s t : List α} :
    s <+: t.takeWhile p ↔ s <+: t ∧ ∀ a ∈ s, p a = true := by
  induction t generalizing s with
  | nil =>
    rw [List.takeWhile_nil, List.prefix_nil]
    exact ⟨fun h => ⟨h, by simp [h]⟩, fun h => h.1⟩
  | cons b t ih =>
    cases s with
    | nil => simp
    | cons a s =>
      by_cases hb : p b = true
      · rw [List.takeWhile_cons_of_pos hb, List.cons_prefix_cons, List.cons_prefix_cons, ih,
          List.forall_mem_cons]
        constructor
        · rintro ⟨rfl, hs, hall⟩
          exact ⟨⟨rfl, hs⟩, hb, hall⟩
        · rintro ⟨⟨rfl, hs⟩, -, hall⟩
          exact ⟨rfl, hs, hall⟩
      · rw [List.takeWhile_cons_of_neg hb, List.prefix_nil, List.cons_prefix_cons,
          List.forall_mem_cons]
        refine iff_of_false (List.cons_ne_nil a s) ?_
        rintro ⟨⟨rfl, -⟩, ha, -⟩
        exact hb ha

/-- Both texts start with what they have in common, and with nothing longer. -/
theorem prefix_commonStart_iff {p s t : Text} : p <+: commonStart s t ↔ p <+: s ∧ p <+: t := by
  induction s generalizing p t with
  | nil =>
    rw [commonStart, List.prefix_nil]
    · exact ⟨fun h => by simp [h], fun h => h.1⟩
    · simp
  | cons a s ih =>
    cases t with
    | nil =>
      rw [commonStart, List.prefix_nil]
      · exact ⟨fun h => by simp [h], fun h => h.2⟩
      · simp
    | cons b t =>
      rw [commonStart]
      cases p with
      | nil => simp
      | cons c p =>
        split
        · next hab => rw [hab, List.cons_prefix_cons, List.cons_prefix_cons, List.cons_prefix_cons,
            ih, and_and_left]
        · next hab =>
          rw [List.prefix_nil, List.cons_prefix_cons, List.cons_prefix_cons]
          refine iff_of_false (List.cons_ne_nil c p) ?_
          rintro ⟨⟨rfl, -⟩, rfl, -⟩
          exact hab rfl

theorem prefix_foldl_commonStart_iff {p first : Text} {others : List Text} :
    p <+: others.foldl commonStart first ↔ p <+: first ∧ ∀ o ∈ others, p <+: o := by
  induction others generalizing first with
  | nil => simp
  | cons o others ih =>
    rw [List.foldl_cons, ih, prefix_commonStart_iff, List.forall_mem_cons, and_assoc]

/-- The margin is the longest run of spaces and tabs that all lines with anything else
start with. -/
theorem prefix_margin_iff {p : Text} {ls : List Text} (h : ∃ l ∈ ls, l.all isGap = false) :
    p <+: margin ls ↔ (∀ c ∈ p, isGap c = true) ∧ ∀ l ∈ ls, l.all isGap = false → p <+: l := by
  have hvisible {l : Text} : l ∈ ls.filter (!·.all isGap) ↔ l ∈ ls ∧ l.all isGap = false := by
    rw [List.mem_filter, Bool.not_eq_true']
  obtain ⟨l, hl⟩ := h
  obtain ⟨first, others, hfilter⟩ := List.exists_cons_of_ne_nil (List.ne_nil_of_mem (hvisible.2 hl))
  have hmargin : p <+: margin ls ↔ ∀ l ∈ ls.filter (!·.all isGap), p <+: l.takeWhile isGap := by
    rw [margin, hfilter, List.map_cons, List.forall_mem_cons]
    simp only [prefix_foldl_commonStart_iff, List.forall_mem_map]
  rw [hmargin]
  constructor
  · intro hall
    refine ⟨(prefix_takeWhile_iff.1 (hall l (hvisible.2 hl))).2, fun k hk hgap => ?_⟩
    exact (prefix_takeWhile_iff.1 (hall k (hvisible.2 ⟨hk, hgap⟩))).1
  · rintro ⟨hgaps, hall⟩ k hk
    obtain ⟨hmem, hgap⟩ := hvisible.1 hk
    exact prefix_takeWhile_iff.2 ⟨hall k hmem hgap, hgaps⟩

end Snippet

/-! ### Written codes -/

namespace Indentation
open Text Written

/-- A code whose lines stand at the left edge as far as they can. -/
structure Code where
  /-- The code. -/
  text : Text
  /-- The first line of the code is not blank. -/
  first_visible : ∀ l ∈ (Text.lines text).head?, isBlankLine l = false
  /-- The last line of the code is not blank. -/
  last_visible : ∀ l ∈ (Text.lines text).getLast?, isBlankLine l = false
  /-- A line that holds spaces and tabs only holds nothing. -/
  unpadded : ∀ l ∈ Text.lines text, (∀ c ∈ l, isGap c = true) → l = []
  /-- Lines that hold anything share no spaces and tabs at their start. -/
  flush : ∀ m : Text, (∀ c ∈ m, isGap c = true) →
    (∀ l ∈ Text.lines text, l ≠ [] → m <+: l) → m = []

/-- A line with two spaces in front. -/
def deepened (l : Text) : Text := ' ' :: ' ' :: l

/-- Whether a line begins with a star, perhaps behind spaces and tabs, and two spaces or tabs
behind the star. -/
def isDeep (line : Text) : Bool :=
  match line.dropWhile isGap with
  | '*' :: a :: b :: _ => isGap a && isGap b
  | _ => false

/-- A code as it is shown, and what stands between it and the next one. -/
structure Shown where
  /-- The code. -/
  code : Code
  /-- Spaces and tabs behind the tag. -/
  gap : Margin
  /-- The margin of each line. -/
  margins : Nat → Margin
  /-- What stands behind the last line. -/
  behind : Text
  /-- What stands behind announces no example. -/
  untagged : ¬ Snippet.tag <:+: behind
  /-- What stands behind does not go on with the code. -/
  shallow : ∀ l ∈ (Text.lines behind).head?, isDeep l = false

namespace Shown

/-- The lines that show a code: each behind its margin, a star and three spaces. -/
def rows (s : Shown) : List Text := starred s.margins ((Text.lines s.code.text).map deepened)

/-- A code from its tag to its last line. -/
def shown (s : Shown) : Text := Snippet.tag ++ (s.gap.text ++ '\n' :: Text.ended s.rows)

/-- A code as it is shown, and what stands behind it. -/
def text (s : Shown) : Text := s.shown ++ s.behind

end Shown

/-! ### Reading one code -/

namespace Code

variable (c : Code)

/-- The first line of a code holds more than spaces and tabs. -/
theorem exists_visible :
    ∃ l ∈ Text.lines c.text, l.all isGap = false ∧ isBlankLine l = false := by
  obtain ⟨l, ls, hl⟩ := List.exists_cons_of_ne_nil (lines_ne_nil c.text)
  have hvisible := c.first_visible l (by rw [hl]; rfl)
  refine ⟨l, hl ▸ List.mem_cons_self, ?_, hvisible⟩
  rw [Bool.eq_false_iff] at hvisible ⊢
  exact fun hgap => hvisible (List.all_eq_true.2 fun d hd =>
    isBlank_of_isGap (List.all_eq_true.1 hgap d hd))

/-- A line of a code is empty, or else it holds more than spaces and tabs. -/
theorem all_isGap_iff {l : Text} (hl : l ∈ Text.lines c.text) : l.all isGap = true ↔ l = [] := by
  constructor
  · exact fun h => c.unpadded l hl (List.all_eq_true.1 h)
  · rintro rfl
    rfl

theorem all_isGap_deepened (l : Text) : (deepened l).all isGap = l.all isGap := rfl

/-- Lines of a code that were set two spaces further in share these spaces and no more. -/
theorem margin_deepened : Snippet.margin ((Text.lines c.text).map deepened) = [' ', ' '] := by
  obtain ⟨first, hfirst, hvisible, -⟩ := c.exists_visible
  have hmargin {p : Text} := Snippet.prefix_margin_iff (p := p)
    ⟨deepened first, List.mem_map_of_mem hfirst, hvisible⟩
  have hspaces : [' ', ' '] <+: Snippet.margin ((Text.lines c.text).map deepened) := by
    refine hmargin.2 ⟨List.all_eq_true.1 (by decide), fun l hl _ => ?_⟩
    obtain ⟨k, -, rfl⟩ := List.mem_map.1 hl
    exact ⟨k, rfl⟩
  obtain ⟨m, hm⟩ := hspaces
  obtain ⟨hgaps, hshared⟩ := hmargin.1 List.prefix_rfl
  rw [← hm] at hgaps hshared
  -- What is shared beyond the two spaces is shared by the lines of the code.
  have hnone : m = [] := by
    refine c.flush m (fun d hd => hgaps d (List.mem_append_right _ hd)) fun l hl hne => ?_
    have hl' : (deepened l).all isGap = false := by
      rw [all_isGap_deepened, Bool.eq_false_iff]
      exact fun hgap => hne ((c.all_isGap_iff hl).1 hgap)
    exact (List.prefix_append_right_inj [' ', ' ']).1 (hshared _ (List.mem_map_of_mem hl) hl')
  rw [← hm, hnone, List.append_nil]

/-- The indentation that was put in front of a code is taken away again. -/
theorem dedent_deepened :
    Snippet.dedent ((Text.lines c.text).map deepened) = Text.lines c.text := by
  rw [Snippet.dedent, c.margin_deepened, List.map_map]
  refine (List.map_congr_left fun l hl => ?_).trans (List.map_id _)
  have hafter : after? [' ', ' '] (deepened l) = some l := after?_append [' ', ' '] l
  rw [Function.comp_apply, all_isGap_deepened, hafter, Option.getD_some, id]
  split
  · next hgap => exact ((c.all_isGap_iff hl).1 hgap).symm
  · rfl

/-- Cleaning the rows of a code leaves its lines, two spaces further in. -/
theorem cleanLines_starred (margins : Nat → Margin) :
    Snippet.cleanLines (starred margins ((Text.lines c.text).map deepened)) =
      (Text.lines c.text).map deepened := by
  rw [Snippet.cleanLines, map_withoutStar_starred]
  refine Snippet.withoutBlankEnds_eq_self (fun l hl => ?_) (fun l hl => ?_)
  · rw [List.head?_map] at hl
    obtain ⟨k, hk, rfl⟩ := Option.map_eq_some_iff.1 hl
    exact c.first_visible k hk
  · rw [List.getLast?_map] at hl
    obtain ⟨k, hk, rfl⟩ := Option.map_eq_some_iff.1 hl
    exact c.last_visible k hk

/-- **Cleaning and dedenting the rows of a code gives back the code.** -/
theorem dedent_cleanLines_starred (margins : Nat → Margin) :
    unlines (Snippet.dedent
      (Snippet.cleanLines (starred margins ((Text.lines c.text).map deepened)))) = c.text := by
  rw [c.cleanLines_starred, c.dedent_deepened, unlines_lines]

theorem isBlankLine_text : isBlankLine c.text = false := by
  obtain ⟨l, hl, -, hvisible⟩ := c.exists_visible
  rw [Bool.eq_false_iff] at hvisible ⊢
  exact fun hblank => hvisible (List.all_eq_true.2 fun d hd =>
    List.all_eq_true.1 hblank d ((infix_of_mem_lines hl).mem hd))

end Code

/-! ### Reading all codes -/

/-- A row of a code goes on with an indented example. -/
theorem isIndented_row (m : Margin) (l : Text) :
    Snippet.isIndented (row m (deepened l)) = true := by
  have hgaps : (row m (deepened l)).dropWhile isGap = '*' :: ' ' :: ' ' :: ' ' :: l := by
    rw [row, List.dropWhile_append_of_pos m.isGap]
    rfl
  rw [Snippet.isIndented, hgaps]
  rfl

theorem isIndented_iff {l : Text} :
    Snippet.isIndented l = true ↔ ∃ a b c t, l.dropWhile isGap = '*' :: a :: b :: c :: t ∧
      isGap a = true ∧ isGap b = true := by
  rw [Snippet.isIndented]
  split
  · next a b c t h => simp [h]
  · next h =>
    refine iff_of_false Bool.false_ne_true ?_
    rintro ⟨a, b, c, t, hl, -⟩
    exact h a b c t hl

/-- A line that is not deep does not go on with an indented example, and neither does one
that a tag is added to. -/
theorem isIndented_eq_false {l u : Text} (hl : isDeep l = false) (hu : ∀ c ∈ u.head?, c = '@') :
    Snippet.isIndented (l ++ u) = false := by
  rw [Bool.eq_false_iff] at hl ⊢
  refine fun h => hl ?_
  obtain ⟨a, b, c, t, hdrop, ha, hb⟩ := isIndented_iff.1 h
  have hfront : (l ++ u).dropWhile isGap = l.dropWhile isGap ++ u := by
    cases u with
    | nil => rw [List.append_nil, List.append_nil]
    | cons d u =>
      obtain rfl := hu d rfl
      exact dropWhile_append_stop (by decide) l u
  rw [hfront] at hdrop
  -- Star and gaps stand before the tag, since it begins with neither.
  have hat {d : Char} {s : Text} (h : u = d :: s) : d = '@' := hu d (by rw [h]; rfl)
  rw [isDeep]
  rcases hw : l.dropWhile isGap with _ | ⟨x, _ | ⟨y, _ | ⟨z, w⟩⟩⟩ <;> rw [hw] at hdrop
  · exact absurd (hat hdrop) (by decide)
  · obtain rfl := hat (List.cons.inj hdrop).2
    exact absurd ha (by decide)
  · obtain rfl := hat (List.cons.inj (List.cons.inj hdrop).2).2
    exact absurd hb (by decide)
  · obtain ⟨hx, hdrop⟩ := List.cons.inj hdrop
    obtain ⟨hy, hdrop⟩ := List.cons.inj hdrop
    obtain ⟨hz, -⟩ := List.cons.inj hdrop
    simp [hx, hy, hz, ha, hb]

namespace Shown

theorem lineFeed_notMem_rows (s : Shown) : ∀ r ∈ s.rows, '\n' ∉ r := by
  refine lineFeed_notMem_starred s.margins fun l hl => ?_
  obtain ⟨k, hk, rfl⟩ := List.mem_map.1 hl
  simpa [deepened] using notMem_of_mem_lines hk

theorem rows_ne_nil (s : Shown) : s.rows ≠ [] := by
  simp [rows, starred, lines_ne_nil]

theorem isIndented_of_mem_rows (s : Shown) : ∀ r ∈ s.rows, Snippet.isIndented r = true := by
  intro r hr
  obtain ⟨i, hi, rfl⟩ := List.mem_mapIdx.1 hr
  rw [List.getElem_map]
  exact isIndented_row _ _

/-- The lines behind a tag are the rows of its code, and lines of which the first does not go
on with it. -/
theorem lines_rows (s : Shown) (rest : Text) :
    Text.lines (ended s.rows ++ rest) = s.rows ++ Text.lines rest := by
  have hlines := lines_unlines_append s.rows_ne_nil (lines_ne_nil rest)
    fun l hl => notMem_of_mem_lines hl
  rwa [unlines_append _ (lines_ne_nil rest), unlines_lines,
    lines_unlines s.rows_ne_nil s.lineFeed_notMem_rows] at hlines

/-- A code is read from its tag to its last line. -/
theorem readIndented?_shown (s : Shown) {rest : Text} (hrest : ∀ c ∈ rest.head?, c = '@') :
    Snippet.readIndented? (s.shown ++ (s.behind ++ rest)) =
      some ⟨s.rows, s.behind ++ rest⟩ := by
  have hgap (t : Text) : (s.gap.text ++ '\n' :: t).dropWhile isGap = '\n' :: t := by
    rw [List.dropWhile_append_of_pos s.gap.isGap]
    rfl
  have hbreak (t : Text) : after? ['\n'] ('\n' :: t) = some t := after?_append ['\n'] t
  obtain ⟨l, u, hl, hu, hprefix⟩ := exists_head_lines_append s.behind rest
  obtain ⟨ls, hls⟩ := List.head?_eq_some_iff.1 hu
  have hend : Snippet.isIndented (l ++ u) = false := by
    refine isIndented_eq_false (s.shallow l hl) fun c hc => hrest c ?_
    obtain ⟨v, rfl⟩ := hprefix
    rw [List.head?_append, hc]
    rfl
  have hrows : (Text.lines (ended s.rows ++ (s.behind ++ rest))).takeWhile Snippet.isIndented =
      s.rows := by
    rw [s.lines_rows, List.takeWhile_append_of_pos s.isIndented_of_mem_rows, hls,
      List.takeWhile_cons_of_neg (by simp [hend]), List.append_nil]
  have hbehind : (Text.lines (ended s.rows ++ (s.behind ++ rest))).dropWhile Snippet.isIndented =
      Text.lines (s.behind ++ rest) := by
    rw [s.lines_rows, List.dropWhile_append_of_pos s.isIndented_of_mem_rows, hls,
      List.dropWhile_cons_of_neg (by simp [hend])]
  have hne : s.rows.isEmpty = false := by simpa using s.rows_ne_nil
  simp only [shown, Snippet.readIndented?, List.append_assoc, List.cons_append, after?_append,
    Option.bind_eq_bind, Option.bind_some, hgap, hbreak, hrows, hbehind, hne, unlines_lines]
  rfl

/-- What stands behind codes is nothing, or it begins with a tag. -/
theorem head?_flatMap_text (shown : List Shown) : ∀ c ∈ (shown.flatMap text).head?, c = '@' := by
  cases shown with
  | nil => exact fun c hc => absurd hc (by simp)
  | cons s shown => exact fun c hc => (Option.some.inj hc).symm

theorem freeOf_tag {front rest : Text} (hfront : ¬ Snippet.tag <:+: front)
    (hrest : ∀ c ∈ rest.head?, c = '@') : FreeOf Snippet.tag front rest :=
  freeOf_of_head? (fun c hc => hrest c hc ▸ by decide) hfront

end Shown

/-- The search for indented examples takes the rows of each code. -/
theorem values_segmentsFrom {front : Text} (hfront : ¬ Snippet.tag <:+: front)
    (shown : List Shown) (before : Option Char) (skipped : Text) :
    (segmentsFrom (fun _ => Snippet.readIndented?) before skipped
      (front ++ shown.flatMap Shown.text)).values = shown.map Shown.rows := by
  induction shown generalizing front before skipped with
  | nil =>
    have hfree : FreeOf Snippet.tag front [] := Shown.freeOf_tag hfront (by simp)
    have hnone := segmentsFrom_eq_nil needsMark_readIndented hfree before skipped
    rw [List.flatMap_nil, List.append_nil, Segmentation.values, hnone]
    rfl
  | cons s shown ih =>
    have hrest := Shown.head?_flatMap_text shown
    have hfree := Shown.freeOf_tag hfront (Shown.head?_flatMap_text (s :: shown))
    have hne : s.shown ≠ [] := List.cons_ne_nil _ _
    rw [segmentsFrom_of_freeOf needsMark_readIndented hfree, List.flatMap_cons, Shown.text,
      List.append_assoc, Segmentation.values,
      segmentsFrom_of_read (s.readIndented?_shown hrest) hne, List.map_cons, List.map_cons,
      ← Segmentation.values, ih s.untagged]

/-- A comment without a fence has no fenced examples. -/
theorem fenced_eq_nil {comment : Text} (h : ¬ Snippet.fence <:+: comment) :
    Snippet.fenced comment = [] := by
  have hscan : Snippet.Scans comment 0 (segments (fun _ => Snippet.readFenced?) comment).values :=
    Snippet.scans_segmentsFrom none [] comment 0 List.drop_zero
  have hnone : ¬ ∃ i, Snippet.ClosableAt comment i := by
    rintro ⟨i, j, k, -, -, hfence⟩
    exact h (hfence.isInfix.trans (List.drop_suffix k comment).isInfix)
  rw [Snippet.fenced, hscan.eq_nil_iff.2 hnone]
  rfl

/-- **Indented codes are read back.**  The examples of a comment that shows codes one after
another, without a fence anywhere, are these codes, character by character and in order, each
with the output that it is annotated with.  Codes may hold tags. -/
theorem all_shown {front : Text} {shown : List Shown} (hfront : ¬ Snippet.tag <:+: front)
    (hbare : ¬ Snippet.fence <:+: front ++ shown.flatMap Shown.text) :
    Snippet.all (front ++ shown.flatMap Shown.text) =
      shown.map fun s => ⟨s.code.text, Annotation.find? s.code.text⟩ := by
  have hvalues := values_segmentsFrom hfront shown none []
  have hcodes : (shown.map Shown.rows).map
      (fun ls => unlines (Snippet.dedent (Snippet.cleanLines ls))) =
      shown.map (·.code.text) := by
    rw [List.map_map]
    exact List.map_congr_left fun s _ => s.code.dedent_cleanLines_starred s.margins
  have hvisible : (shown.map (·.code.text)).filter (!isBlankLine ·) = shown.map (·.code.text) := by
    rw [List.filter_eq_self]
    intro text htext
    obtain ⟨s, -, rfl⟩ := List.mem_map.1 htext
    simp [s.code.isBlankLine_text]
  rw [Snippet.all, fenced_eq_nil hbare, Snippet.indented, segments, hvalues, hcodes, hvisible,
    List.map_map]
  rfl

/-- A code whose lines are indented by unlike characters, with an empty line between them. -/
def uneven : Code where
  text := "  a();\n\n\tb(); // => 2".toList
  first_visible := by decide +kernel
  last_visible := by decide +kernel
  unpadded := by
    simp only [← List.all_eq_true]
    decide +kernel
  flush := by
    intro m _ hshared
    cases m with
    | nil => rfl
    | cons c m =>
      obtain ⟨s, hs⟩ := hshared "  a();".toList (by decide +kernel) (by decide)
      obtain ⟨t, ht⟩ := hshared "\tb(); // => 2".toList (by decide +kernel) (by decide)
      exact absurd ((List.cons.inj hs).1.symm.trans (List.cons.inj ht).1) (by decide)

/-- The code under one tag, and another tag on the next line. -/
def upper : Shown where
  code := uneven
  gap := ⟨" \t".toList, List.all_eq_true.1 (by decide)⟩
  margins := fun i =>
    if i = 1 then ⟨[], nofun⟩ else ⟨"\t ".toList, List.all_eq_true.1 (by decide)⟩
  behind := " * ".toList
  untagged := by decide +kernel
  shallow := by decide +kernel

/-- The code under a tag at the end of a comment. -/
def lower : Shown where
  code := uneven
  gap := ⟨[], nofun⟩
  margins := fun _ => ⟨[' '], List.all_eq_true.1 (by decide)⟩
  behind := " *\n *   more\n ".toList
  untagged := by decide +kernel
  shallow := by decide +kernel

theorem all_shown_uneven :
    ¬ Snippet.tag <:+: "*\n * Two codes.\n * ".toList ∧
      ¬ Snippet.fence <:+: "*\n * Two codes.\n * ".toList ++ [upper, lower].flatMap Shown.text ∧
      Snippet.all ("*\n * Two codes.\n * ".toList ++ [upper, lower].flatMap Shown.text) =
        [upper, lower].map fun s => ⟨s.code.text, Annotation.find? s.code.text⟩ := by
  have hfront : ¬ Snippet.tag <:+: "*\n * Two codes.\n * ".toList := by decide +kernel
  have hbare : ¬ Snippet.fence <:+:
      "*\n * Two codes.\n * ".toList ++ [upper, lower].flatMap Shown.text := by
    decide +kernel
  exact ⟨hfront, hbare, all_shown hfront hbare⟩

end Indentation
end DocExamples
