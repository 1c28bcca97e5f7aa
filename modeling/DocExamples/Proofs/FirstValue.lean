/-
# The first visible value

A line comment announces an output if its first word is an arrow.  The value of a line is what
stands behind its leftmost announcement, without the blanks around it:

    f(); // note ///  => 3 // -> 4
                  ^^^^^^            the leftmost announcement
                        ^^^^^^^^^^  what stands behind it: the value is ‹3 // -> 4›

The search for it has more freedom than that.  It may leave blanks behind the arrow to the value,
and as it wants something for the value, it goes on where an announcement ends its line:

| freedom | changes nothing, since |
| --- | --- |
| blanks go with the arrow or with the value | they are stripped |
| an announcement at the end of its line is passed over | none begins within it |

So an output is expected exactly if some line has a visible value, and it is the first one.
-/

import DocExamples.Snippet
import DocExamples.Proofs.Declarations

namespace DocExamples

namespace Text

/-- What is left of a text that is stripped ends visibly. -/
theorem isBlank_of_mem_getLast?_strip {s : Text} : ∀ c ∈ (strip s).getLast?, isBlank c = false := by
  intro c hc
  rw [strip, stripRight, List.getLast?_reverse] at hc
  have hstop := List.head?_dropWhile_not isBlank (stripLeft s).reverse
  rw [Option.mem_def.1 hc] at hstop
  exact hstop

/-- A stripped text is blank only if nothing is left of it. -/
theorem isBlankLine_strip {s : Text} : isBlankLine (strip s) = true ↔ strip s = [] := by
  refine ⟨fun hblank => ?_, fun hnil => by rw [hnil]; rfl⟩
  by_contra hne
  have hlast := isBlank_of_mem_getLast?_strip _ (List.getLast?_eq_some_getLast hne)
  rw [List.all_eq_true.1 hblank _ (List.getLast_mem hne)] at hlast
  cases hlast

end Text

namespace Annotation
open Text

/-! ### Announcements -/

/-- What announces a value: the start of a line comment, blanks, and an arrow. -/
def IsAnnouncement (a : Text) : Prop :=
  ∃ blanks arrow, a = "//".toList ++ (blanks ++ arrow) ∧ (∀ c ∈ blanks, isBlank c = true) ∧
    (arrow = "=>".toList ∨ arrow = "->".toList ∨ arrow = "output:".toList)

/-- An announcement stands at position `i` of a line, and `rest` is what stands behind it. -/
def AnnouncesAt (line : Text) (i : Nat) (rest : Text) : Prop :=
  ∃ a, IsAnnouncement a ∧ line.drop i = a ++ rest

/-- The value of a line is what stands behind its leftmost announcement, stripped. -/
def HasValue (line value : Text) : Prop :=
  ∃ i rest, AnnouncesAt line i rest ∧ (∀ m < i, ∀ r, ¬ AnnouncesAt line m r) ∧ value = strip rest

/-- What the search looks for at position `i`: an announcement, blanks, and a tail that is not
empty.  The blanks in front of the visible part may belong to either side. -/
def MatchesAt (line : Text) (i : Nat) (tail : Text) : Prop :=
  ∃ blanks, (∀ c ∈ blanks, isBlank c = true) ∧ AnnouncesAt line i (blanks ++ tail) ∧ tail ≠ []

variable {line s rest tail v w : Text} {i m : Nat}

theorem mem_arrows_iff {arrow : Text} : arrow ∈ arrows ↔
    arrow = "=>".toList ∨ arrow = "->".toList ∨ arrow = "output:".toList := by
  simp only [arrows, List.mem_cons, List.not_mem_nil, or_false]

/-- No arrow begins like another one. -/
theorem after?_other_arrow {arrow other : Text} (ha : arrow ∈ arrows) (ho : other ∈ arrows)
    (hne : arrow ≠ other) (rest : Text) : after? other (arrow ++ rest) = none := by
  rw [mem_arrows_iff] at ha ho
  rcases ha with rfl | rfl | rfl <;> rcases ho with rfl | rfl | rfl <;>
    first | exact absurd rfl hne | rfl

/-- What stands behind the announcement at the start of a text. -/
def behind? (s : Text) : Option Text :=
  (after? "//".toList s).bind fun t => arrows.findSome? (after? · (stripLeft t))

theorem read?_eq (s : Text) : read? s =
    (behind? s).bind fun rest => if rest.isEmpty then none else some (strip rest) := by
  simp only [read?, behind?, Option.bind_eq_bind, Option.bind_assoc]

theorem behind?_eq_some_iff : behind? s = some rest ↔ ∃ a, IsAnnouncement a ∧ s = a ++ rest := by
  constructor
  · intro h
    obtain ⟨t, hslashes, harrow⟩ := Option.bind_eq_some_iff.1 h
    obtain ⟨arrow, hmem, hrest⟩ := List.exists_of_findSome?_eq_some harrow
    rw [after?_eq_some_iff] at hslashes hrest
    have ht : t = t.takeWhile isBlank ++ (arrow ++ rest) := by
      rw [← hrest]
      exact List.takeWhile_append_dropWhile.symm
    refine ⟨_, ⟨t.takeWhile isBlank, arrow, rfl, List.all_eq_true.1 List.all_takeWhile,
      mem_arrows_iff.1 hmem⟩, ?_⟩
    rw [hslashes, List.append_assoc, List.append_assoc, ← ht]
  · rintro ⟨_, ⟨blanks, arrow, rfl, hblanks, harrow⟩, rfl⟩
    have hstripped : stripLeft (blanks ++ (arrow ++ rest)) = arrow ++ rest := by
      rw [stripLeft_append hblanks]
      rcases harrow with rfl | rfl | rfl <;> rfl
    have hmem := mem_arrows_iff.2 harrow
    rw [List.append_assoc, List.append_assoc, behind?, after?_append, Option.bind_some, hstripped]
    exact findSome?_eq_some_of_unique hmem (after?_append arrow rest) fun other hother hne =>
      after?_other_arrow hmem hother hne rest

theorem behind?_drop_iff : behind? (line.drop i) = some rest ↔ AnnouncesAt line i rest :=
  behind?_eq_some_iff

/-- An announcement has only one end. -/
theorem AnnouncesAt.unique (h : AnnouncesAt line i v) (hw : AnnouncesAt line i w) : v = w :=
  Option.some.inj ((behind?_drop_iff.2 h).symm.trans (behind?_drop_iff.2 hw))

/-- **A line has at most one value.** -/
theorem HasValue.unique (hv : HasValue line v) (hw : HasValue line w) : v = w := by
  obtain ⟨i, rest, hi, hfirst, rfl⟩ := hv
  obtain ⟨m, rest', hm, hfirst', rfl⟩ := hw
  obtain rfl : i = m := by
    rcases Nat.lt_trichotomy i m with hlt | heq | hlt
    · exact absurd hi (hfirst' i hlt rest)
    · exact heq
    · exact absurd hm (hfirst m hlt rest')
  rw [hi.unique hm]

/-- The value of a line is blank only if it is empty. -/
theorem HasValue.isBlankLine_eq_false_iff (h : HasValue line v) :
    isBlankLine v = false ↔ v ≠ [] := by
  obtain ⟨i, rest, -, -, rfl⟩ := h
  rw [Ne, ← isBlankLine_strip, Bool.not_eq_true]

/-- An announcement has two slashes, at its start. -/
theorem IsAnnouncement.exists_body {a : Text} (h : IsAnnouncement a) :
    ∃ body, a = '/' :: '/' :: body ∧ '/' ∉ body := by
  obtain ⟨blanks, arrow, rfl, hblanks, harrow⟩ := h
  refine ⟨blanks ++ arrow, rfl, fun hslash => ?_⟩
  rcases List.mem_append.1 hslash with hslash | hslash
  · exact absurd (hblanks _ hslash) (by decide)
  · rcases harrow with rfl | rfl | rfl <;> exact absurd hslash (by decide)

/-- Behind the start of an announcement that ends its line, no other one begins. -/
theorem AnnouncesAt.not_of_end (h : AnnouncesAt line m []) (hlt : m < i) (rest : Text) :
    ¬ AnnouncesAt line i rest := by
  rintro ⟨b, hb, hdrop⟩
  obtain ⟨a, ha, hend⟩ := h
  obtain ⟨body, rfl, hbody⟩ := ha.exists_body
  obtain ⟨_, rfl, -⟩ := hb.exists_body
  have hsuffix : line.drop i <:+ '/' :: body := by
    have hnext : line.drop (m + 1) = '/' :: body := by
      rw [← List.drop_drop, hend, List.append_nil]
      rfl
    rw [← hnext, ← Nat.add_sub_cancel' hlt, ← List.drop_drop]
    exact List.drop_suffix _ _
  have hcount := hsuffix.sublist.count_le '/'
  rw [hdrop, List.count_cons_self, List.count_eq_zero.2 hbody, List.cons_append, List.cons_append,
    List.count_cons_self, List.count_cons_self] at hcount
  omega

/-! ### The search in a line -/

theorem MatchesAt.announcesAt (h : MatchesAt line i tail) : ∃ rest, AnnouncesAt line i rest := by
  obtain ⟨blanks, -, hannounces, -⟩ := h
  exact ⟨_, hannounces⟩

/-- Where something stands behind an announcement, the search succeeds. -/
theorem AnnouncesAt.matchesAt (h : AnnouncesAt line i rest) (hne : rest ≠ []) :
    MatchesAt line i rest :=
  ⟨[], List.forall_mem_nil _, h, hne⟩

/-- What is read at a position is the tail of any match there, stripped: it does not matter to
which side the blanks in front of it go. -/
theorem read?_drop_eq_some_iff :
    read? (line.drop i) = some v ↔ ∃ tail, MatchesAt line i tail ∧ strip tail = v := by
  rw [read?_eq, Option.bind_eq_some_iff]
  constructor
  · rintro ⟨rest, hrest, hvalue⟩
    split at hvalue
    · cases hvalue
    · next hne =>
      exact ⟨rest, (behind?_drop_iff.1 hrest).matchesAt fun hnil => hne (by rw [hnil]; rfl),
        Option.some.inj hvalue⟩
  · rintro ⟨tail, ⟨blanks, hblanks, hannounces, hne⟩, rfl⟩
    refine ⟨blanks ++ tail, behind?_drop_iff.2 hannounces, ?_⟩
    have hfull : (blanks ++ tail).isEmpty = false :=
      List.isEmpty_eq_false_iff.2 (List.append_ne_nil_of_right_ne_nil blanks hne)
    rw [hfull, if_neg Bool.false_ne_true, strip, stripLeft_append hblanks, strip]

theorem read?_drop_eq_none_iff :
    read? (line.drop i) = none ↔ ∀ tail, ¬ MatchesAt line i tail := by
  rw [Option.eq_none_iff_forall_ne_some]
  exact ⟨fun h tail hmatch => h _ (read?_drop_eq_some_iff.2 ⟨tail, hmatch, rfl⟩),
    fun h v hv => (read?_drop_eq_some_iff.1 hv).elim fun tail hmatch => h tail hmatch.1⟩

/-- The search reads at the leftmost position where something can be read. -/
theorem inLine?_eq_some_iff_read? : inLine? line = some v ↔
    ∃ i, read? (line.drop i) = some v ∧ ∀ m < i, read? (line.drop m) = none := by
  induction line with
  | nil =>
    refine ⟨nofun, fun ⟨i, hi, _⟩ => ?_⟩
    rw [List.drop_nil] at hi
    cases hi
  | cons c s ih =>
    rw [inLine?, Option.orElse_eq_orElse, Option.orElse_eq_or, Option.or_eq_some_iff, ih]
    constructor
    · rintro (h | ⟨hnone, i, hi, hfirst⟩)
      · exact ⟨0, h, nofun⟩
      · refine ⟨i + 1, hi, fun m hm => ?_⟩
        cases m with
        | zero => exact hnone
        | succ m => exact hfirst m (Nat.lt_of_succ_lt_succ hm)
    · rintro ⟨i, hi, hfirst⟩
      cases i with
      | zero => exact .inl hi
      | succ i =>
        exact .inr ⟨hfirst 0 (Nat.succ_pos i), i, hi, fun m hm =>
          hfirst (m + 1) (Nat.succ_lt_succ hm)⟩

/-- **A line is searched for its leftmost match.** -/
theorem inLine?_eq_some_iff : inLine? line = some v ↔
    ∃ i tail, MatchesAt line i tail ∧ (∀ m < i, ∀ t, ¬ MatchesAt line m t) ∧ strip tail = v := by
  simp only [inLine?_eq_some_iff_read?, read?_drop_eq_some_iff, read?_drop_eq_none_iff]
  constructor
  · rintro ⟨i, ⟨tail, hmatch, hvalue⟩, hfirst⟩
    exact ⟨i, tail, hmatch, hfirst, hvalue⟩
  · rintro ⟨i, tail, hmatch, hfirst, hvalue⟩
    exact ⟨i, ⟨tail, hmatch, hvalue⟩, hfirst⟩

/-- **Every leftmost match has the value of the line.** -/
theorem MatchesAt.hasValue (h : MatchesAt line i tail)
    (hfirst : ∀ m < i, ∀ t, ¬ MatchesAt line m t) : HasValue line (strip tail) := by
  obtain ⟨blanks, hblanks, hannounces, -⟩ := h
  refine ⟨i, blanks ++ tail, hannounces, fun m hm r hr => ?_, ?_⟩
  · -- An announcement further left matches too, unless nothing stands behind it.
    by_cases hnil : r = []
    · exact (hnil ▸ hr).not_of_end hm _ hannounces
    · exact hfirst m hm r (hr.matchesAt hnil)
  · rw [strip, strip, stripLeft_append hblanks]

/-- The search finds the visible value of a line. -/
theorem filter_inLine?_eq_some_iff : (inLine? line).filter (!·.isEmpty) = some v ↔
    HasValue line v ∧ isBlankLine v = false := by
  rw [Option.filter_eq_some_iff, inLine?_eq_some_iff, Bool.not_eq_true', List.isEmpty_eq_false_iff]
  constructor
  · rintro ⟨⟨i, tail, hmatch, hfirst, rfl⟩, hne⟩
    have hvalue := hmatch.hasValue hfirst
    exact ⟨hvalue, hvalue.isBlankLine_eq_false_iff.2 hne⟩
  · rintro ⟨hvalue, hvisible⟩
    have hne := hvalue.isBlankLine_eq_false_iff.1 hvisible
    obtain ⟨i, rest, hannounces, hfirst, rfl⟩ := hvalue
    refine ⟨⟨i, rest, hannounces.matchesAt ?_, fun m hm t hmatch => ?_, rfl⟩, hne⟩
    · rintro rfl
      exact hne rfl
    · obtain ⟨r, hr⟩ := hmatch.announcesAt
      exact hfirst m hm r hr

theorem filter_inLine?_eq_none_iff : (inLine? line).filter (!·.isEmpty) = none ↔
    ∀ v, HasValue line v → isBlankLine v = true := by
  rw [Option.eq_none_iff_forall_ne_some]
  refine forall_congr' fun v => ?_
  rw [Ne, filter_inLine?_eq_some_iff, not_and, Bool.not_eq_false]

/-! ### The search in a code -/

/-- Code below other code is searched if nothing is found above. -/
theorem find?_append (code more : Text) :
    find? (code ++ '\n' :: more) = (find? code).or (find? more) := by
  rw [find?, lines, pieces_append_sep, List.findSome?_append]
  rfl

/-- **An example expects the first visible value of its code.**  The code stays as it is.  A line
has at most one value, which is that of every leftmost match in it.  The value of the first line
that has a visible one is expected, and nothing if no line has one; so code below other code
counts only if nothing is expected above. -/
theorem expected_first_visible (code : Text) :
    (Snippet.ofCode code).code = code ∧
    (∀ line v w, HasValue line v → HasValue line w → v = w) ∧
    (∀ line i tail, MatchesAt line i tail → (∀ m < i, ∀ t, ¬ MatchesAt line m t) →
      HasValue line (strip tail)) ∧
    (∀ v, (Snippet.ofCode code).expected = some v ↔
      ∃ above line below, lines code = above ++ line :: below ∧
        HasValue line v ∧ isBlankLine v = false ∧
        ∀ l ∈ above, ∀ w, HasValue l w → isBlankLine w = true) ∧
    ((Snippet.ofCode code).expected = none ↔
      ∀ line ∈ lines code, ∀ v, HasValue line v → isBlankLine v = true) ∧
    ∀ more, (Snippet.ofCode (code ++ '\n' :: more)).expected =
      (Snippet.ofCode code).expected.or (Snippet.ofCode more).expected := by
  refine ⟨rfl, fun line v w => HasValue.unique, fun line i tail => MatchesAt.hasValue,
    fun v => ?_, ?_, fun more => find?_append code more⟩
  · rw [Snippet.ofCode, find?, List.findSome?_eq_some_iff]
    simp only [filter_inLine?_eq_some_iff, filter_inLine?_eq_none_iff, and_assoc]
  · rw [Snippet.ofCode, find?, List.findSome?_eq_none_iff]
    simp only [filter_inLine?_eq_none_iff]

/-- A line with a remark, slashes that overlap, and two arrows. -/
def crowded : Text := "h(); // note ///  => 3 // -> 4".toList

/-- Code in which that line stands below a remark and a blank value, and above another value. -/
def stacked : Text := "f(); // note\ng(); // => \t\nh(); // note ///  => 3 // -> 4\n// => 5".toList

theorem expected_first_visible_stacked :
    MatchesAt crowded 14 "3 // -> 4".toList ∧ MatchesAt crowded 14 " 3 // -> 4".toList ∧
      MatchesAt crowded 23 "4".toList ∧ HasValue crowded "3 // -> 4".toList ∧
      HasValue "g(); // => \t".toList [] ∧
      (Snippet.ofCode stacked).expected = some "3 // -> 4".toList := by
  have hannounces : AnnouncesAt crowded 14 " 3 // -> 4".toList := behind?_drop_iff.1 (by decide)
  have hmatch : MatchesAt crowded 14 "3 // -> 4".toList := ⟨[' '], by decide, hannounces, by decide⟩
  have hlater : MatchesAt crowded 23 "4".toList :=
    ⟨[' '], by decide, behind?_drop_iff.1 (by decide), by decide⟩
  have hfirst : ∀ m < 14, read? (crowded.drop m) = none := by decide
  have hbare : ∀ m < 5, behind? ("g(); // => \t".toList.drop m) = none := by decide
  have habove : ∀ l ∈ ["f(); // note".toList, "g(); // => \t".toList],
      (inLine? l).filter (!·.isEmpty) = none := by decide
  obtain ⟨-, -, hvalue, hexpected, -, -⟩ := expected_first_visible stacked
  have hcrowded : HasValue crowded "3 // -> 4".toList :=
    hvalue _ 14 _ hmatch fun m hm => read?_drop_eq_none_iff.1 (hfirst m hm)
  have hblank : HasValue "g(); // => \t".toList [] := by
    refine ⟨5, " \t".toList, behind?_drop_iff.1 (by decide), fun m hm r hr => ?_, by decide⟩
    rw [← behind?_drop_iff, hbare m hm] at hr
    cases hr
  refine ⟨hmatch, hannounces.matchesAt (by decide), hlater, hcrowded, hblank, (hexpected _).2 ?_⟩
  exact ⟨_, crowded, ["// => 5".toList], by decide, hcrowded, by decide, fun l hl =>
    filter_inLine?_eq_none_iff.1 (habove l hl)⟩

end Annotation
end DocExamples
