/-
# What a program has of its origin

The path of the documented file comes into a program in three ways:

| passage | written |
| --- | --- |
| the location in the caption | as it is |
| the literal for the documented module | as JSON |
| the literal for a relative specifier | as it is, between the quotes that the example has |

Everything else is made of the name, the code and the exports.  JSON keeps any path within its
literal.  A path that is written as it is leaves its place if it has the characters that end the
place: a line end in the caption; in a specifier, the quote around it, a line feed or a carriage
return.

    origin            caption               import x from './y'

    /w/m.ts           // From: /w/m.ts:1    import x from '/w/y'
    /it's/m.ts        // From: /it's/m.ts:1 import x from '/it's/y'
-/

import DocExamples.Proofs.Literal
import DocExamples.Proofs.Targets

namespace DocExamples

namespace Literal
open Text

/-! ### Literals in quotes of either kind -/

/-- Reads a literal up to the first quote of its kind, behind the opening one. -/
def readQuoted? (q : Char) : Text → Option (Reading (List Nat))
  | [] => none
  | c :: s =>
    if c = q then some ⟨[], s⟩
    else if c = '\\' then
      match _h : readEscape? s with
      | some r => (readQuoted? q r.rest).map (after r.value)
      | none => none
    else if c = '\n' ∨ c = '\r' then none
    else (readQuoted? q s).map (after (units c.toNat))
termination_by s => s.length
decreasing_by
  · exact Nat.lt_succ_of_le (length_readEscape?_le _h)
  · exact Nat.lt_succ_self _

/-- Reads a string literal in quotes of either kind. -/
def readString? : Text → Option (Reading (List Nat))
  | [] => none
  | q :: s => if Import.isQuote q then readQuoted? q s else none

/-- Literals in double quotes are read as they were before. -/
theorem readQuoted?_double (s : Text) : readQuoted? '"' s = readBody? s := by
  fun_induction readBody? s with
  | case1 => rw [readQuoted?]
  | case2 s => rw [readQuoted?, if_pos rfl]
  | case3 s r hr hquote ih =>
    rw [readQuoted?, if_neg hquote, if_pos rfl, ← ih]
    split
    · next r' hr' => rw [Option.some.inj (hr'.symm.trans hr)]
    · next hnone => exact nomatch hnone.symm.trans hr
  | case4 s hnone hquote =>
    rw [readQuoted?, if_neg hquote, if_pos rfl]
    split
    · next r hr => exact nomatch hr.symm.trans hnone
    · rfl
  | case5 c s hquote hslash hend => rw [readQuoted?, if_neg hquote, if_neg hslash, if_pos hend]
  | case6 c s hquote hslash hend ih =>
    rw [readQuoted?, if_neg hquote, if_neg hslash, if_neg hend, ih]

theorem Denotes.readString? {literal s : Text} (h : Denotes literal s) (rest : Text) :
    readString? (literal ++ rest) = some ⟨utf16 s, rest⟩ := by
  obtain ⟨body, hbody, -⟩ := h.quoted
  have hread := h.read rest
  rw [hbody, List.cons_append] at hread ⊢
  rw [Literal.readString?, if_pos (by decide), readQuoted?_double]
  exact hread

/-- **A literal without backslashes** is read up to its end, as what stands between its quotes,
exactly if this has no quote of the same kind and no end of a line. -/
theorem readQuoted?_append_iff {q : Char} {s rest : Text} {us : List Nat} (hslash : '\\' ∉ s) :
    readQuoted? q (s ++ q :: rest) = some ⟨us, rest⟩ ↔
      us = utf16 s ∧ ∀ c ∈ s, c ≠ q ∧ c ≠ '\n' ∧ c ≠ '\r' := by
  induction s generalizing us with
  | nil =>
    rw [List.nil_append, readQuoted?, if_pos rfl]
    simp [utf16, eq_comm]
  | cons c s ih =>
    rw [List.mem_cons, not_or] at hslash
    obtain ⟨hc, hs⟩ := hslash
    rw [List.cons_append, readQuoted?, List.forall_mem_cons]
    by_cases hquote : c = q
    · -- The literal ends at this quote, before its own.
      rw [if_pos hquote]
      refine iff_of_false (fun h => ?_) fun h => h.2.1.1 hquote
      have hrest : s ++ q :: rest = rest := congrArg Reading.rest (Option.some.inj h)
      have hlength := congrArg List.length hrest
      rw [List.length_append, List.length_cons] at hlength
      omega
    · rw [if_neg hquote, if_neg (Ne.symm hc)]
      by_cases hend : c = '\n' ∨ c = '\r'
      · rw [if_pos hend]
        exact iff_of_false nofun fun h => hend.elim h.2.1.2.1 h.2.1.2.2
      · have hunits : utf16 (c :: s) = units c.toNat ++ utf16 s := List.flatMap_cons
        rw [if_neg hend, Option.map_eq_some_iff, hunits]
        constructor
        · rintro ⟨⟨vs, rest'⟩, hread, hafter⟩
          obtain ⟨hus, rfl⟩ := Reading.mk.inj hafter
          obtain ⟨rfl, hplain⟩ := (ih hs).1 hread
          exact ⟨hus.symm, ⟨hquote, not_or.1 hend⟩, hplain⟩
        · rintro ⟨rfl, -, hplain⟩
          exact ⟨⟨utf16 s, rest⟩, (ih hs).2 ⟨rfl, hplain⟩, rfl⟩

end Literal

namespace Import
open Text

theorem notMem_slashed (s : Text) : '\\' ∉ Lexical.slashed s := by
  intro h
  obtain ⟨c, -, hc⟩ := List.mem_map.1 h
  split at hc
  · exact absurd hc (by decide)
  · next hne => exact hne hc

end Import

namespace Synthesis
open Text Import Program

/-! ### Passages -/

/-- A passage of a program, by where its text comes from. -/
inductive Passage where
  /-- Text that has nothing of the origin. -/
  | plain (text : Text)
  /-- The location of the example. -/
  | location
  /-- The literal for the documented module. -/
  | documented
  /-- The literal for a relative specifier. -/
  | specifier (quote : Char) (path : Text)
deriving DecidableEq, Repr

/-- What a program takes from the origin of its example. -/
structure Origin where
  /-- The working folder. -/
  cwd : Text
  /-- The path as it was given. -/
  path : Text
  /-- The location of the example. -/
  location : Text
  /-- The real path. -/
  modulePath : Text

/-- A passage as it is written. -/
def Passage.text (o : Origin) : Passage → Text
  | plain t => t
  | location => o.location
  | documented => Json.writeText o.modulePath
  | specifier q p => q :: (target o.cwd o.path p ++ [q])

/-- A program as it is written. -/
def written (o : Origin) (ps : List Passage) : Text := ps.flatMap (Passage.text o)

/-- The caption of a program. -/
def caption (name : Text) : List Passage :=
  [.plain ("// Auto-generated test for: ".toList ++ (name ++ "\n// From: ".toList)), .location]

/-- The passages of a statement. -/
def passagesOf (statement : Text) : List Passage :=
  ((segments readSpecifier? statement).segments.flatMap fun p =>
      [.plain (p.skipped ++ p.value.lead), .specifier p.value.quote p.value.path]) ++
    [.plain (segments readSpecifier? statement).tail]

/-- The passages behind the caption, where the names in `bound` are bound. -/
def passages (code : Text) (bound : List Text) : List Passage :=
  [.plain "\n\nimport * as __testdoc_module from ".toList, .documented, .plain ";".toList] ++
    ((divide (lines code)).statements.flatMap fun ls =>
      .plain "\n".toList :: passagesOf (unlines ls)) ++
    [.plain ((bindings bound ++ ([[], assertions, []] ++ header ::
      ((divide (lines code)).others.map indented ++ trailer))).flatMap ('\n' :: ·))]

/-- A statement has its passages. -/
theorem written_passagesOf (o : Origin) (s : Text) :
    written o (passagesOf s) = anchored (originFolder o.cwd o.path) s := by
  simp [written, passagesOf, anchored, Segmentation.replaced, List.flatMap_assoc, Passage.text,
    Specifier.anchored, target]

/-- Specifiers are relative, and stand between quotes without any quote among them. -/
theorem of_mem_passagesOf {q : Char} {p s : Text} (h : Passage.specifier q p ∈ passagesOf s) :
    isQuote q = true ∧ isRelative p = true ∧ ∀ c ∈ p, isQuote c = false := by
  rw [passagesOf, List.mem_append, List.mem_flatMap] at h
  rcases h with ⟨seg, hseg, hmem⟩ | hmem
  · have hshape := (shape_of_mem_segmentsFrom (fun _ _ _ => readSpecifier?_eq_some) hseg).2
    simp only [List.mem_cons, reduceCtorEq, Passage.specifier.injEq, List.not_mem_nil, or_false,
      false_or] at hmem
    rw [hmem.1, hmem.2]
    exact ⟨hshape.quote, hshape.path, hshape.unquoted⟩
  · simp at hmem

/-- **A program has its passages.** -/
theorem ofExample_eq_written (cwd modulePath : Text) (exports : List Text) (e : Example) :
    ofExample cwd modulePath exports e = written ⟨cwd, e.origin, e.location, modulePath⟩
      (caption e.name ++
        passages e.code (ambient (statements cwd e.origin (lines e.code)) exports)) := by
  generalize ho : Origin.mk cwd e.origin e.location modulePath = o
  have hopening : unlines (opening e modulePath) = written o (caption e.name ++
      [.plain "\n\nimport * as __testdoc_module from ".toList, .documented, .plain ";".toList]) := by
    have halias : "import * as ".toList ++ moduleAlias ++ " from ".toList =
        "import * as __testdoc_module from ".toList := by decide
    rw [opening, halias, ← ho]
    simp [written, caption, Passage.text, unlines, joined, List.intercalate]
  have himports : (statements cwd e.origin (lines e.code)).flatMap ('\n' :: ·) =
      written o ((divide (lines e.code)).statements.flatMap fun ls =>
        .plain "\n".toList :: passagesOf (unlines ls)) := by
    have hstatement (ls : List Text) : written o (.plain "\n".toList :: passagesOf (unlines ls)) =
        '\n' :: anchored (originFolder cwd e.origin) (unlines ls) := by
      have hpassages := written_passagesOf o (unlines ls)
      rw [← ho] at hpassages ⊢
      exact congrArg ('\n' :: ·) hpassages
    rw [statements, List.flatMap_map, written, List.flatMap_assoc]
    exact List.flatMap_congr fun ls _ => (hstatement ls).symm
  rw [ofExample_eq, front, List.append_assoc, List.append_assoc, List.append_assoc,
    unlines_append_flatMap (by simp [opening]), hopening, List.flatMap_append, himports]
  simp only [written, passages, List.flatMap_append, List.flatMap_singleton, Passage.text,
    List.append_assoc]

theorem of_mem_passages {q : Char} {p code : Text} {bound : List Text}
    (h : Passage.specifier q p ∈ passages code bound) :
    isQuote q = true ∧ isRelative p = true ∧ ∀ c ∈ p, isQuote c = false := by
  simp only [passages, List.mem_append, List.mem_cons, List.mem_flatMap, List.not_mem_nil,
    reduceCtorEq, or_false, false_or] at h
  obtain ⟨ls, -, hmem⟩ := h
  exact of_mem_passagesOf hmem

/-! ### The caption -/

/-- The lines of code, wherever a line may end in it. -/
def codeLines (s : Text) : List Text :=
  lines (s.map fun c => if Literal.isLineEnd c then '\n' else c)

/-- A line that is empty or a comment. -/
def IsRemark (l : Text) : Prop := l = [] ∨ "//".toList <+: l

instance {l : Text} : Decidable (IsRemark l) := inferInstanceAs (Decidable (_ ∨ _))

theorem map_lineEnds {s : Text} (h : ∀ c ∈ s, Literal.isLineEnd c = false) :
    s.map (fun c => if Literal.isLineEnd c then '\n' else c) = s := by
  rw [List.map_congr_left fun c hc => if_neg (Bool.eq_false_iff.1 (h c hc)), List.map_id']

theorem codeLines_append_lineFeed (s t : Text) :
    codeLines (s ++ '\n' :: t) = codeLines s ++ codeLines t := by
  rw [codeLines, List.map_append]
  exact pieces_append_sep '\n' _ _

/-- Behind a mark that begins a comment, only the further lines count. -/
theorem forall_codeLines_append {mark : Text} (hmark : "//".toList <+: mark)
    (hplain : ∀ c ∈ mark, Literal.isLineEnd c = false) (s : Text) :
    (∀ l ∈ codeLines (mark ++ s), IsRemark l) ↔ ∀ l ∈ (codeLines s).tail, IsRemark l := by
  have hfeed : '\n' ∉ mark := fun h => absurd (hplain _ h) (by decide)
  have hfirst : IsRemark (mark ++ (codeLines s).headD []) := .inr (hmark.trans ⟨_, rfl⟩)
  rw [codeLines, List.map_append, map_lineEnds hplain, lines_append hfeed]
  exact List.forall_mem_cons.trans (and_iff_right hfirst)

theorem tail_codeLines {s : Text} (h : ∀ c ∈ s, Literal.isLineEnd c = false) :
    (codeLines s).tail = [] := by
  have hfeed : '\n' ∉ s := fun hmem => absurd (h _ hmem) (by decide)
  rw [codeLines, map_lineEnds h, lines, pieces_of_notMem hfeed]
  rfl

/-- **The caption is a comment** exactly if the further lines of the name and the location are. -/
theorem forall_codeLines_caption (o : Origin) (name : Text) :
    (∀ l ∈ codeLines (written o (caption name)), IsRemark l) ↔
      ∀ l ∈ (codeLines name).tail ++ (codeLines o.location).tail, IsRemark l := by
  have htext : written o (caption name) = ("// Auto-generated test for: ".toList ++ name) ++
      '\n' :: ("// From: ".toList ++ o.location) := by
    simp [written, caption, Passage.text]
  have hname := @forall_codeLines_append "// Auto-generated test for: ".toList ⟨_, rfl⟩ (by decide)
    name
  have hlocation := @forall_codeLines_append "// From: ".toList ⟨_, rfl⟩ (by decide) o.location
  rw [htext, codeLines_append_lineFeed, List.forall_mem_append, hname, hlocation,
    List.forall_mem_append]

/-! ### The footprint -/

/-- A program and what it has of the origin of its example. -/
structure Footprint (o : Origin) (e : Example) (exports bound : List Text) (program : Text) :
    Prop where
  /-- What is bound is exported. -/
  exported : bound.Sublist exports
  /-- The program has its caption and its passages. -/
  text : program = written o (caption e.name ++ passages e.code bound)
  /-- The caption is a comment exactly if the further lines of the name and the location are. -/
  caption : (∀ l ∈ codeLines (written o (Synthesis.caption e.name)), IsRemark l) ↔
    ∀ l ∈ (codeLines e.name).tail ++ (codeLines o.location).tail, IsRemark l
  /-- The literal for the documented module denotes its real path, whatever this is. -/
  documented : ∀ t, (∀ rest, Literal.readString? (Passage.documented.text o ++ rest) =
    some ⟨Literal.utf16 t, rest⟩) ↔ t = o.modulePath
  /-- The literal for a relative specifier is one literal exactly if its target has no quote of
  the same kind and no end of a line, and denotes the target then. -/
  specifier : ∀ q p, Passage.specifier q p ∈ passages e.code bound →
    isQuote q = true ∧ isRelative p = true ∧ (∀ c ∈ p, isQuote c = false) ∧
      ∀ t, (∀ rest, Literal.readString? ((Passage.specifier q p).text o ++ rest) =
          some ⟨Literal.utf16 t, rest⟩) ↔
        t = target o.cwd o.path p ∧ ∀ c ∈ t, c ≠ q ∧ c ≠ '\n' ∧ c ≠ '\r'

theorem readString?_documented_iff (o : Origin) (t : Text) :
    (∀ rest, Literal.readString? (Passage.documented.text o ++ rest) =
      some ⟨Literal.utf16 t, rest⟩) ↔ t = o.modulePath := by
  have hread (rest : Text) : Literal.readString? (Passage.documented.text o ++ rest) =
      some ⟨Literal.utf16 o.modulePath, rest⟩ :=
    (Literal.denotes_writeText o.modulePath).readString? rest
  constructor
  · intro h
    have hsame := Option.some.inj ((h []).symm.trans (hread []))
    exact Literal.utf16_injective (congrArg Reading.value hsame)
  · rintro rfl
    exact hread

theorem readString?_specifier_iff (o : Origin) {q : Char} (hq : isQuote q = true) (p t : Text) :
    (∀ rest, Literal.readString? ((Passage.specifier q p).text o ++ rest) =
        some ⟨Literal.utf16 t, rest⟩) ↔
      t = target o.cwd o.path p ∧ ∀ c ∈ t, c ≠ q ∧ c ≠ '\n' ∧ c ≠ '\r' := by
  have hread (rest : Text) : Literal.readString? ((Passage.specifier q p).text o ++ rest) =
      some ⟨Literal.utf16 t, rest⟩ ↔ Literal.utf16 t = Literal.utf16 (target o.cwd o.path p) ∧
        ∀ c ∈ target o.cwd o.path p, c ≠ q ∧ c ≠ '\n' ∧ c ≠ '\r' := by
    have htext : (Passage.specifier q p).text o ++ rest =
        q :: (target o.cwd o.path p ++ q :: rest) := by
      simp [Passage.text]
    rw [htext, Literal.readString?, if_pos hq]
    exact Literal.readQuoted?_append_iff (notMem_slashed _)
  constructor
  · intro h
    obtain ⟨hunits, hplain⟩ := (hread []).1 (h [])
    obtain rfl := Literal.utf16_injective hunits
    exact ⟨rfl, hplain⟩
  · rintro ⟨rfl, hplain⟩ rest
    exact (hread rest).2 ⟨rfl, hplain⟩

/-- A character that ends neither a line nor a literal. -/
def IsQuiet (c : Char) : Prop := isQuote c = false ∧ Literal.isLineEnd c = false

instance {c : Char} : Decidable (IsQuiet c) := inferInstanceAs (Decidable (_ ∧ _))

/-- **An origin without quotes and line ends stays in its places**: the caption is a comment, and
every literal for a relative specifier denotes its target. -/
theorem Footprint.contained {o : Origin} {e : Example} {exports bound : List Text} {program : Text}
    (h : Footprint o e exports bound program) (hcwd : ∀ c ∈ o.cwd, IsQuiet c)
    (hpath : ∀ c ∈ o.path, IsQuiet c) (hlocation : ∀ c ∈ o.location, Literal.isLineEnd c = false)
    (hname : ∀ c ∈ e.name, Literal.isLineEnd c = false) :
    (∀ l ∈ codeLines (written o (Synthesis.caption e.name)), IsRemark l) ∧
      ∀ q p, Passage.specifier q p ∈ passages e.code bound →
        (∀ c ∈ p, Literal.isLineEnd c = false) →
        ∀ rest, Literal.readString? ((Passage.specifier q p).text o ++ rest) =
          some ⟨Literal.utf16 (target o.cwd o.path p), rest⟩ := by
  refine ⟨h.caption.2 ?_, fun q p hmem hp => ?_⟩
  · rw [tail_codeLines hname, tail_codeLines hlocation]
    exact List.forall_mem_nil _
  · obtain ⟨hquote, -, hunquoted, hread⟩ := h.specifier q p hmem
    have hquiet : ∀ c ∈ target o.cwd o.path p, IsQuiet c :=
      forall_target (by decide) (by decide) hcwd hpath fun c hc => ⟨hunquoted c hc, hp c hc⟩
    refine (hread _).2 ⟨rfl, fun c hc => ⟨?_, ?_, ?_⟩⟩
    · rintro rfl
      exact Bool.false_ne_true ((hquiet c hc).1.symm.trans hquote)
    · rintro rfl
      exact absurd (hquiet _ hc).2 (by decide)
    · rintro rfl
      exact absurd (hquiet _ hc).2 (by decide)

/-- **What a program has of its origin**: the location in the caption, the literal for the
documented module, and the literals for relative specifiers.  Nothing else depends on the origin,
but for the choice among the exports. -/
theorem exists_footprint {d : Disk} {e : Example} {path : Text}
    (h : modulePath d e.origin = .ok path) (exports : List Text) :
    ∃ program bound, programWith d exports e = .ok program ∧
      Footprint ⟨d.cwdText, e.origin, e.location, path⟩ e exports bound program := by
  have hprogram : programWith d exports e = .ok (ofExample d.cwdText path exports e) := by
    rw [programWith, h]
    rfl
  refine ⟨_, _, hprogram, List.filter_sublist, ofExample_eq_written _ _ _ _,
    forall_codeLines_caption _ _, readString?_documented_iff _, fun q p hmem => ?_⟩
  obtain ⟨hquote, hrelative, hunquoted⟩ := of_mem_passages hmem
  exact ⟨hquote, hrelative, hunquoted, readString?_specifier_iff _ hquote p⟩

/-- An example in a folder whose name has a quote. -/
def possessive : Example := ⟨"/it's/m.ts".toList, 1, ['f'], "import x from './y';".toList, none⟩

theorem exists_footprint_possessive :
    modulePath ⟨[], [], 0o022, {}⟩ possessive.origin = .ok "/it's/m.ts".toList ∧
      ∃ program bound, programWith ⟨[], [], 0o022, {}⟩ [] possessive = .ok program ∧
        Footprint ⟨"/".toList, possessive.origin, possessive.location, "/it's/m.ts".toList⟩
          possessive [] bound program := by
  have hpath : modulePath ⟨[], [], 0o022, {}⟩ possessive.origin = .ok "/it's/m.ts".toList := by decide
  exact ⟨hpath, exists_footprint hpath []⟩

example : target "/".toList possessive.origin "./y".toList = "/it's/y".toList := by decide

example : Literal.readString? "'/it's/y'".toList =
    some ⟨Literal.utf16 "/it".toList, "s/y'".toList⟩ := by
  cbv

example : ¬ ∀ l ∈ codeLines "// From: a\nb.ts:1".toList, IsRemark l := by decide

end Synthesis
end DocExamples
