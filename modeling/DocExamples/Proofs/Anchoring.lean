/-
# Statements with one specifier

An import statement has one specifier between two quotes.  The word `from` stands before it, or
the word `import` if there is no clause.

| statement | is read |
| --- | --- |
| `import { a, from as b } from "../x/y";` | from the last `from` to the second quote |
| `import './z'` | from `import` to the second quote |
| `import c from "z"` | nowhere |

No quote stands in front of the specifier, and none behind it.  So one specifier at most is read,
whatever words stand in the clause, and it is the one between the quotes.  If it is relative, the
place that it leads to from a folder stands for it afterwards; that begins with a slash, so that
nothing more is read.
-/

import DocExamples.Proofs.Ambient
import DocExamples.Proofs.Components

namespace DocExamples
namespace Import
open Text

/-! ### Written statements -/

/-- What stands before the blanks in front of a specifier. -/
inductive Lead where
  /-- The word `import`. -/
  | bare
  /-- The word `import`, a clause without quotes and the word `from`, which begins behind the
  clause. -/
  | clause (c : Text) (unquoted : ∀ x ∈ c, isQuote x = false)
    (apart : ∀ x ∈ ("import".toList ++ c).getLast?, isWord x = false)

/-- What stands before the last word. -/
def Lead.front : Lead → Text
  | .bare => []
  | .clause c _ _ => "import".toList ++ c

/-- The last word. -/
def Lead.word : Lead → Text
  | .bare => "import".toList
  | .clause _ _ _ => "from".toList

/-- An import statement around its specifier. -/
structure Frame where
  /-- The words in front. -/
  lead : Lead
  /-- The blanks behind them. -/
  gap : Blanks
  /-- The quote on both sides. -/
  quote : Char
  /-- It is a quote. -/
  isQuote : isQuote quote = true
  /-- All that stands behind. -/
  rest : Text
  /-- No quote is among it. -/
  unquoted : ∀ c ∈ rest, Import.isQuote c = false

/-- What stands before the first quote. -/
def Frame.opening (f : Frame) : Text := f.lead.front ++ (f.lead.word ++ f.gap.text)

/-- The statement with its specifier. -/
def Frame.around (f : Frame) (spec : Text) : Text :=
  f.opening ++ f.quote :: (spec ++ f.quote :: f.rest)

/-- A folder as an absolute path text without quotes and backslashes. -/
structure Anchor where
  /-- The path text. -/
  text : Text
  /-- It begins with exactly one slash. -/
  rooted : ∃ rest : Text, text = '/' :: rest ∧ rest.head? ≠ some '/'
  /-- It has no quote and no backslash. -/
  plain : ∀ c ∈ text, isQuote c = false ∧ c ≠ '\\'

theorem isRelative_iff {s : Text} :
    isRelative s = true ↔ "./".toList <+: s ∨ "../".toList <+: s := by
  constructor
  · intro h
    unfold isRelative at h
    split at h
    · exact .inl ⟨_, rfl⟩
    · exact .inr ⟨_, rfl⟩
    · exact absurd h Bool.false_ne_true
  · rintro (⟨t, rfl⟩ | ⟨t, rfl⟩) <;> rfl

/-! ### What is read -/

/-- Whatever is read begins with one of two words, and blanks. -/
theorem exists_word_of_read {before : Option Char} {u : Text} {r : Reading Specifier}
    (h : readSpecifier? before u = some r) : ∃ word ∈ ["from".toList, "import".toList],
      stripRight r.value.lead = word ∧ ∀ c ∈ r.value.lead, isQuote c = false := by
  obtain ⟨word, hword, w, hlead, hw⟩ := (readSpecifier?_eq_some h).2.lead
  have hwords : ∀ word ∈ ["from".toList, "import".toList],
      word.all isLoose = true ∧ stripRight word = word := by decide
  refine ⟨word, hword, ?_, ?_⟩
  · rw [hlead, stripRight_append hw, (hwords word hword).2]
  · rw [hlead]
    exact List.forall_mem_append.2
      ⟨isQuote_of_all (hwords word hword).1, fun c hc => isQuote_of_isBlank (hw c hc)⟩

theorem countP_isQuote_eq_zero {s : Text} (h : ∀ c ∈ s, isQuote c = false) :
    s.countP isQuote = 0 :=
  List.countP_eq_zero.2 fun c hc => Bool.eq_false_iff.1 (h c hc)

/-- No specifier is read from a text without quotes. -/
theorem readSpecifier?_eq_none {u : Text} (h : ∀ c ∈ u, isQuote c = false)
    (before : Option Char) : readSpecifier? before u = none := by
  rw [Option.eq_none_iff_forall_ne_some]
  intro r hr
  obtain ⟨hu, hrelative⟩ := readSpecifier?_eq_some hr
  have hmem : r.value.quote ∈ u := by
    rw [hu, Specifier.written]
    simp
  exact Bool.false_ne_true ((h _ hmem).symm.trans hrelative.quote)

theorem Lead.unquoted_front (l : Lead) : ∀ c ∈ l.front, isQuote c = false := by
  cases l with
  | bare => exact List.forall_mem_nil _
  | clause c unquoted apart =>
    exact List.forall_mem_append.2
      ⟨isQuote_of_all (by decide : "import".toList.all isLoose = true), unquoted⟩

theorem Lead.unquoted_word (l : Lead) : ∀ c ∈ l.word, isQuote c = false := by
  cases l with
  | bare => exact isQuote_of_all (by decide : "import".toList.all isLoose = true)
  | clause => exact isQuote_of_all (by decide : "from".toList.all isLoose = true)

namespace Frame

variable (f : Frame) {spec : Text}

theorem unquoted_opening : ∀ c ∈ f.opening, Import.isQuote c = false :=
  List.forall_mem_append.2 ⟨f.lead.unquoted_front, List.forall_mem_append.2
    ⟨f.lead.unquoted_word, fun c hc => isQuote_of_isBlank (f.gap.blank c hc)⟩⟩

/-- A statement has two quotes. -/
theorem countP_around (hspec : ∀ c ∈ spec, Import.isQuote c = false) :
    (f.around spec).countP Import.isQuote = 2 := by
  simp only [around, List.countP_append, List.countP_cons, f.isQuote, if_true,
    countP_isQuote_eq_zero f.unquoted_opening, countP_isQuote_eq_zero hspec,
    countP_isQuote_eq_zero f.unquoted]

/-- **Wherever a specifier is read in a statement**, it ends what stands before the first quote,
and is what stands between the quotes. -/
theorem eq_of_read (hspec : ∀ c ∈ spec, Import.isQuote c = false) {a u : Text}
    (htext : f.around spec = a ++ u) {before : Option Char} {r : Reading Specifier}
    (h : readSpecifier? before u = some r) :
    a ++ r.value.lead = f.opening ∧ r.value.path = spec := by
  obtain ⟨hu, hrelative⟩ := readSpecifier?_eq_some h
  obtain ⟨word, -, -, hlead⟩ := exists_word_of_read h
  have ha : ∀ c ∈ a, Import.isQuote c = false := by
    have hcount := f.countP_around hspec
    rw [htext, hu, List.countP_append, List.countP_append, Specifier.written, List.countP_append,
      List.countP_append, List.countP_cons_of_pos hrelative.quote,
      List.countP_cons_of_pos hrelative.quote] at hcount
    have hnone : a.countP Import.isQuote = 0 := by omega
    exact fun c hc => Bool.eq_false_iff.2 (List.countP_eq_zero.1 hnone c hc)
  have hsame : f.opening ++ f.quote :: (spec ++ f.quote :: f.rest) =
      (a ++ r.value.lead) ++ r.value.quote :: (r.value.path ++ r.value.quote :: r.rest) := by
    have hwritten : f.around spec = a ++ (r.value.written ++ r.rest) := htext.trans (by rw [← hu])
    simpa [around, Specifier.written] using hwritten
  obtain ⟨hopening, -, hbehind⟩ := eq_of_append_cons f.unquoted_opening
    (List.forall_mem_append.2 ⟨ha, hlead⟩) f.isQuote hrelative.quote hsame
  obtain ⟨hpath, -, -⟩ := eq_of_append_cons hspec hrelative.unquoted f.isQuote hrelative.quote
    hbehind
  exact ⟨hopening.symm, hpath.symm⟩

/-- Nothing is read from a statement whose specifier is not relative. -/
theorem segments_of_not_isRelative (hspec : ∀ c ∈ spec, Import.isQuote c = false)
    (h : isRelative spec = false) :
    segments readSpecifier? (f.around spec) = ⟨[], f.around spec⟩ := by
  have hnone : ∀ t, t <:+ f.around spec → t ≠ [] → ∀ b, readSpecifier? b (t ++ []) = none := by
    rintro t ⟨a, ha⟩ - b
    rw [List.append_nil, Option.eq_none_iff_forall_ne_some]
    intro r hr
    have hrelative := (readSpecifier?_eq_some hr).2.path
    rw [(f.eq_of_read hspec ha.symm hr).2, h] at hrelative
    exact Bool.false_ne_true hrelative
  have hskip := segmentsFrom_of_none hnone none []
  rw [List.append_nil, segmentsFrom, List.append_nil, List.reverse_reverse] at hskip
  exact hskip

/-- Nothing is read before the last word in front of the specifier. -/
theorem readSpecifier?_front (hspec : ∀ c ∈ spec, Import.isQuote c = false) {t : Text}
    (ht : t <:+ f.lead.front) (hne : t ≠ []) (before : Option Char) :
    readSpecifier? before (t ++ (f.lead.word ++ (f.gap.text ++
      f.quote :: (spec ++ f.quote :: f.rest)))) = none := by
  obtain ⟨a, ha⟩ := ht
  rw [Option.eq_none_iff_forall_ne_some]
  intro r hr
  have htext : f.around spec = a ++ (t ++ (f.lead.word ++ (f.gap.text ++
      f.quote :: (spec ++ f.quote :: f.rest)))) := by
    simp only [around, opening, ← ha, List.append_assoc]
  -- What is read would end in the same word, with more in front of it.
  have hlead := (f.eq_of_read hspec htext hr).1
  rw [opening, ← ha, List.append_assoc, List.append_cancel_left_eq] at hlead
  obtain ⟨word, hword, hstrip, -⟩ := exists_word_of_read hr
  cases hcase : f.lead with
  | bare =>
    have hfront : f.lead.front = [] := by
      rw [hcase]
      rfl
    exact hne (List.append_eq_nil_iff.1 (ha.trans hfront)).2
  | clause c unquoted apart =>
    have hfrom : f.lead.word.getLast? = some 'm' ∧ f.lead.word.length = 4 := by
      rw [hcase]
      exact ⟨rfl, rfl⟩
    have hend : (t ++ f.lead.word).getLast? = some 'm' := by
      rw [List.getLast?_append, hfrom.1, Option.some_or]
    have hlast : ∀ x ∈ (t ++ f.lead.word).getLast?, isBlank x = false := fun x hx => by
      rw [hend] at hx
      exact Option.some.inj hx ▸ by decide
    have hwords : ∀ word ∈ ["from".toList, "import".toList],
        word.getLast? = some 'm' → word.length = 4 := by decide
    rw [hlead, ← List.append_assoc, stripRight_append f.gap.blank, stripRight_eq_self hlast]
      at hstrip
    have hlength := hwords word hword (hstrip ▸ hend)
    rw [← hstrip, List.length_append, hfrom.2] at hlength
    exact hne (List.length_eq_zero_iff.1 (Nat.add_eq_right.1 hlength))

theorem atWordStart_front : atWordStart (f.lead.front.getLast?.or none) = true := by
  rw [Option.or_none]
  cases f.lead with
  | bare => rfl
  | clause c unquoted apart =>
    cases hc : (Lead.clause c unquoted apart).front.getLast? with
    | none => rfl
    | some x => simp [atWordStart, apart x hc]

/-- A relative specifier is read behind the last word. -/
theorem readSpecifier?_word (hspec : ∀ c ∈ spec, Import.isQuote c = false)
    (h : isRelative spec = true) {before : Option Char} (hbefore : atWordStart before = true) :
    readSpecifier? before (f.lead.word ++ (f.gap.text ++
        f.quote :: (spec ++ f.quote :: f.rest))) =
      some ⟨⟨f.lead.word ++ f.gap.text, f.quote, spec⟩, f.rest⟩ := by
  have hword : f.lead.word ∈ ["from".toList, "import".toList] := by
    cases f.lead with
    | bare => exact List.mem_cons_of_mem _ (List.mem_singleton_self _)
    | clause => exact List.mem_cons_self
  have hrelative : (⟨f.lead.word ++ f.gap.text, f.quote, spec⟩ : Specifier).IsRelative :=
    ⟨⟨_, hword, _, rfl, f.gap.blank⟩, f.isQuote, h, hspec⟩
  simpa [Specifier.written] using readSpecifier?_written hrelative hbefore f.rest

/-- **A relative specifier is replaced** by the path that it stands for. -/
theorem anchored_of_isRelative (folder : Text) (hspec : ∀ c ∈ spec, Import.isQuote c = false)
    (h : isRelative spec = true) :
    anchored folder (f.around spec) =
      f.around (Lexical.slashed (Lexical.normal (Lexical.join folder spec))) := by
  have htext : f.around spec = f.lead.front ++
      ((f.lead.word ++ (f.gap.text ++ f.quote :: (spec ++ [f.quote]))) ++ f.rest) := by
    simp [around, opening]
  have hbehind : (f.lead.word ++ (f.gap.text ++ f.quote :: (spec ++ [f.quote]))) ++ f.rest =
      f.lead.word ++ (f.gap.text ++ f.quote :: (spec ++ f.quote :: f.rest)) := by
    simp
  have hread := f.readSpecifier?_word hspec h f.atWordStart_front
  rw [← hbehind] at hread
  have hnone : ∀ t, t <:+ f.rest → t ≠ [] → ∀ b, readSpecifier? b (t ++ []) = none := by
    intro t ht _ b
    rw [List.append_nil]
    exact readSpecifier?_eq_none (fun c hc => f.unquoted c (ht.mem hc)) b
  have hrest (before : Option Char) :
      segmentsFrom readSpecifier? before [] f.rest = ⟨[], f.rest⟩ := by
    have hskip := segmentsFrom_of_none hnone before []
    rwa [List.append_nil, segmentsFrom, List.append_nil, List.reverse_reverse] at hskip
  rw [anchored, htext, segments, segmentsFrom_of_none fun t ht hne b =>
      hbehind ▸ f.readSpecifier?_front hspec ht hne b,
    segmentsFrom_append_of_read hread (by simp), hrest]
  simp [Segmentation.replaced, Specifier.anchored, around, opening]

/-- Any other specifier stays. -/
theorem anchored_of_not_isRelative (folder : Text)
    (hspec : ∀ c ∈ spec, Import.isQuote c = false) (h : isRelative spec = false) :
    anchored folder (f.around spec) = f.around spec := by
  rw [anchored, f.segments_of_not_isRelative hspec h]
  rfl

end Frame

/-! ### Specifiers for another folder -/

/-- The place that a specifier leads to from a folder, as a path text. -/
def placeFrom (folder spec : Text) : Text :=
  '/' :: joined ['/'] (Lexical.way (pieces '/' folder ++ pieces '/' spec))

theorem forall_placeFrom {folder spec : Text} {p : Char → Prop} (hslash : p '/')
    (hfolder : ∀ c ∈ folder, p c) (hspec : ∀ c ∈ spec, p c) : ∀ c ∈ placeFrom folder spec, p c := by
  intro c hc
  rcases List.mem_cons.1 hc with rfl | hc
  · exact hslash
  · rcases mem_joined hc with hc | ⟨n, hn, hc⟩
    · exact List.mem_singleton.1 hc ▸ hslash
    · rcases List.mem_append.1 (Lexical.mem_and_leadsDown_of_mem_way hn).1 with hn | hn
      · exact hfolder c (mem_of_mem_pieces hn hc)
      · exact hspec c (mem_of_mem_pieces hn hc)

/-- Slashes take the place of no character where there is no backslash. -/
theorem slashed_eq_self {s : Text} (h : ∀ c ∈ s, c ≠ '\\') : Lexical.slashed s = s := by
  rw [Lexical.slashed, List.map_congr_left fun c hc => if_neg (h c hc), List.map_id']

theorem head?_of_isRelative {spec : Text} (h : isRelative spec = true) :
    spec.head? ≠ some '/' := by
  rcases isRelative_iff.1 h with ⟨t, rfl⟩ | ⟨t, rfl⟩ <;>
    exact fun hc => absurd (Option.some.inj hc) (by decide)

theorem normal_join (folder : Anchor) {spec : Text} (h : isRelative spec = true) :
    Lexical.normal (Lexical.join folder.text spec) = placeFrom folder.text spec := by
  obtain ⟨rest, hfolder, hrest⟩ := folder.rooted
  have hspec := head?_of_isRelative h
  rw [hfolder, Lexical.normal_eq (Lexical.rootOf_join hrest hspec), Lexical.way_pieces_join hspec,
    placeFrom]

/-- **Relative specifiers lead to their places, and nothing else changes.**  A relative specifier
is replaced by the place that it leads to from the folder, and any other stays; in either case
nothing changes the second time. -/
theorem anchored_around (folder : Anchor) (f : Frame) {spec : Text}
    (hspec : ∀ c ∈ spec, isQuote c = false ∧ c ≠ '\\') :
    ("./".toList <+: spec ∨ "../".toList <+: spec →
      anchored folder.text (f.around spec) = f.around ('/' :: joined ['/']
        (Lexical.way (pieces '/' folder.text ++ pieces '/' spec)))) ∧
    (¬ ("./".toList <+: spec ∨ "../".toList <+: spec) →
      anchored folder.text (f.around spec) = f.around spec) ∧
    anchored folder.text (anchored folder.text (f.around spec)) =
      anchored folder.text (f.around spec) := by
  have hunquoted : ∀ c ∈ spec, isQuote c = false := fun c hc => (hspec c hc).1
  have hplain : ∀ c ∈ placeFrom folder.text spec, isQuote c = false ∧ c ≠ '\\' :=
    forall_placeFrom (by decide) folder.plain hspec
  have hrelative (h : isRelative spec = true) :
      anchored folder.text (f.around spec) = f.around (placeFrom folder.text spec) := by
    rw [f.anchored_of_isRelative folder.text hunquoted h, normal_join folder h,
      slashed_eq_self fun c hc => (hplain c hc).2]
  have hother (h : isRelative spec = false) :
      anchored folder.text (f.around spec) = f.around spec :=
    f.anchored_of_not_isRelative folder.text hunquoted h
  refine ⟨fun h => hrelative (isRelative_iff.2 h), fun h => hother ?_, ?_⟩
  · exact Bool.eq_false_iff.2 fun hr => h (isRelative_iff.1 hr)
  · by_cases h : isRelative spec = true
    · rw [hrelative h]
      exact f.anchored_of_not_isRelative folder.text (fun c hc => (hplain c hc).1) rfl
    · rw [hother (Bool.eq_false_iff.2 h), hother (Bool.eq_false_iff.2 h)]

/-- A folder two names below the root. -/
def twoBelow : Anchor where
  text := "/w/src".toList
  rooted := ⟨"w/src".toList, rfl, by decide⟩
  plain := by decide

/-- A clause whose names are the words around it. -/
def crossed : Frame where
  lead := .clause " from, \x7b import as from \x7d ".toList (by decide) (by decide)
  gap := ⟨[], List.forall_mem_nil _⟩
  quote := '\''
  isQuote := rfl
  rest := "; // from".toList
  unquoted := by decide

theorem anchored_around_crossed :
    (∀ c ∈ "../../..//a/./b".toList, isQuote c = false ∧ c ≠ '\\') ∧
      anchored "/w/src".toList (crossed.around "../../..//a/./b".toList) =
        crossed.around "/a/b".toList := by
  have hspec : ∀ c ∈ "../../..//a/./b".toList, isQuote c = false ∧ c ≠ '\\' := by decide
  have hanchored := (anchored_around twoBelow crossed hspec).1 (.inr ⟨_, rfl⟩)
  have hplace : '/' :: joined ['/'] (Lexical.way
      (pieces '/' twoBelow.text ++ pieces '/' "../../..//a/./b".toList)) = "/a/b".toList := by
    decide
  rw [hplace] at hanchored
  exact ⟨hspec, hanchored⟩

end Import
end DocExamples
