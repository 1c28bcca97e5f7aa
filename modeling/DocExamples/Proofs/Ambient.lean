/-
# Imports and the exports that are left

A program binds the exports of the documented module as constants, other than those that the
example binds itself.  Which these are is read from the import statements of the example,
after their relative specifiers have been replaced by absolute paths.

The word `from` that ends a clause is the one in front of the first quote, whatever names the
clause has, since no quote stands in a clause.  Replacing a specifier changes nothing before
the first quote either, so that a statement binds the same names afterwards.
-/

import DocExamples.Proofs.Clauses
import DocExamples.Proofs.Division

namespace DocExamples
namespace Import
open Text

/-! ### Written statements -/

/-- Whether a binding ends in a name. -/
def Binding.endsInName : Binding → Bool
  | .everything .. => true
  | .listed _ => false

/-- Whether a clause ends in a name. -/
def Clause.endsInName (c : Clause) : Bool := c.binding.elim true Binding.endsInName

/-- An import statement with a clause. -/
structure Statement where
  /-- The blanks in front. -/
  indent : Blanks
  /-- The blanks behind the word `import`. -/
  space : Space
  /-- The blanks behind the word `type`, if it stands there. -/
  typed : Option Space
  /-- The clause. -/
  clause : Clause
  /-- The blanks behind the clause. -/
  gap : Blanks
  /-- They keep a name at the end of the clause apart from the word `from`. -/
  apart : clause.endsInName = true → gap.text ≠ []
  /-- The blanks behind the word `from`. -/
  tight : Blanks
  /-- The first quote. -/
  quote : Char
  /-- It is a quote. -/
  isQuote : isQuote quote = true
  /-- All that stands behind it. -/
  rest : Text

namespace Statement

/-- What stands behind the word `import` and the marker for types, up to the first quote. -/
def body (st : Statement) : Text :=
  st.clause.text ++ (st.gap.text ++ ("from".toList ++ st.tight.text))

/-- A statement up to the first quote. -/
def front (st : Statement) : Text :=
  st.indent.text ++ ("import".toList ++ (st.space.text ++ (marker st.typed ++ st.body)))

/-- A statement as it is written. -/
def text (st : Statement) : Text := st.front ++ st.quote :: st.rest

end Statement

/-! ### Quotes -/

/-- No quote is a blank or a character of names. -/
theorem isQuote_of_isLoose {c : Char} (h : isLoose c = true) : isQuote c = false := by
  rw [Bool.eq_false_iff]
  intro hquote
  rw [isQuote, Bool.or_eq_true, beq_iff_eq, beq_iff_eq] at hquote
  rcases hquote with rfl | rfl <;> exact absurd h (by decide)

theorem isQuote_of_isBlank {c : Char} (h : isBlank c = true) : isQuote c = false :=
  isQuote_of_isLoose (by rw [isLoose, h, Bool.true_or])

/-- No quote stands in a word. -/
theorem isQuote_of_all {word : Text} (h : word.all isLoose = true) :
    ∀ c ∈ word, isQuote c = false :=
  fun c hc => isQuote_of_isLoose (List.all_eq_true.1 h c hc)

/-! ### Both ends of a clause -/

namespace Clause

variable (c : Clause) {t : Text}

theorem isBlank_head : ∀ x ∈ (c.text ++ t).head?, isBlank x = false := by
  cases c with
  | default n => exact n.isBlank_head
  | only b =>
    intro x hx
    cases b with
    | everything => exact Option.some.inj hx ▸ by decide
    | listed => exact Option.some.inj hx ▸ by decide
  | both n before behind b =>
    rw [text, List.append_assoc]
    exact n.isBlank_head

/-- The word `type` is not read from a clause. -/
theorem optional_append
    (ht : c.endsInName = true → ∀ x ∈ t.head?, isIdentifierPart x = false) :
    Export.optional "type".toList (c.text ++ t) = c.text ++ t := by
  cases c with
  | default n => exact n.optional_append (ht rfl)
  | only b => cases b <;> rfl
  | both n before behind b =>
    rw [text, List.append_assoc]
    refine n.optional_append ?_
    rw [List.append_assoc]
    exact before.isIdentifierPart_head fun x hx => Option.some.inj hx ▸ by decide

/-- A clause ends in a name or in a brace. -/
theorem exists_end : ∃ s, (c.endsInName = true ∧ ∃ n : Name, c.text = s ++ n.text) ∨
    c.endsInName = false ∧ c.text = s ++ ['\x7d'] := by
  cases hbinding : c.binding with
  | none =>
    cases c with
    | default n => exact ⟨[], .inl ⟨rfl, n, rfl⟩⟩
    | _ => exact nomatch hbinding
  | some b =>
    rw [endsInName, hbinding, c.text_eq, hbinding, Option.elim_some, Option.elim_some]
    cases b with
    | everything star word n =>
      refine ⟨c.front ++ '*' :: (star.text ++ ("as".toList ++ word.text)), .inl ⟨rfl, n, ?_⟩⟩
      simp [Binding.text]
    | listed items =>
      refine ⟨c.front ++ '\x7b' :: listText items, .inr ⟨rfl, ?_⟩⟩
      simp [Binding.text]

theorem isBlank_getLast : ∀ x ∈ c.text.getLast?, isBlank x = false := by
  obtain ⟨s, ⟨-, n, h⟩ | ⟨-, h⟩⟩ := c.exists_end
  · rw [h]
    exact n.isBlank_getLast s
  · rw [h, List.getLast?_concat]
    exact fun x hx => Option.some.inj hx ▸ by decide

theorem isQuote_of_mem : ∀ x ∈ c.text, isQuote x = false := by
  have hplain {x : Char} (hx : x = ',' ∨ isLoose x = true) : isQuote x = false := by
    rcases hx with rfl | hx
    · decide
    · exact isQuote_of_isLoose hx
  intro x hx
  rw [c.text_eq, List.mem_append] at hx
  rcases hx with hx | hx
  · exact hplain (c.isLoose_of_mem_front x hx)
  · cases hbinding : c.binding with
    | none =>
      rw [hbinding] at hx
      exact absurd hx List.not_mem_nil
    | some b =>
      rw [hbinding, Option.elim_some] at hx
      cases b with
      | everything star word n =>
        rcases isLoose_of_mem_everything star word n x hx with rfl | hx
        · decide
        · exact hplain (.inr hx)
      | listed items =>
        rcases List.mem_cons.1 hx with rfl | hx
        · decide
        · rcases List.mem_append.1 hx with hx | hx
          · exact hplain (isLoose_of_mem_listText hx)
          · exact List.mem_singleton.1 hx ▸ by decide

end Clause

/-! ### The clause of a statement -/

theorem readFrom?_eq_some {before : Option Char} {s : Text} {r : Reading Unit}
    (h : readFrom? before s = some r) : ∃ w q, s = "from".toList ++ (w ++ q :: r.rest) ∧
      (∀ c ∈ w, isBlank c = true) ∧ isQuote q = true := by
  rw [readFrom?] at h
  split at h
  · obtain ⟨t, ht, h⟩ := Option.bind_eq_some_iff.1 h
    split at h
    · next q u hu =>
      split at h
      · next hq =>
        obtain rfl := Option.some.inj h
        refine ⟨t.takeWhile isBlank, q, ?_, List.all_eq_true.1 List.all_takeWhile, hq⟩
        rw [← hu, stripLeft, List.takeWhile_append_dropWhile]
        exact after?_eq_some_iff.1 ht
      · cases h
    · cases h
  · cases h

/-- The word `from` is read with blanks and a quote behind it. -/
theorem readFrom?_append {before : Option Char} (hbefore : atWordStart before = true) (w : Blanks)
    {q : Char} (hq : isQuote q = true) (rest : Text) :
    readFrom? before ("from".toList ++ (w.text ++ q :: rest)) = some ⟨(), rest⟩ := by
  have hstrip : stripLeft (w.text ++ q :: rest) = q :: rest := by
    rw [stripLeft_append w.blank]
    refine stripLeft_eq_self fun c hc => ?_
    rw [Bool.eq_false_iff]
    intro hblank
    obtain rfl := Option.some.inj hc
    exact Bool.false_ne_true ((isQuote_of_isBlank hblank).symm.trans hq)
  rw [readFrom?, if_pos hbefore, after?_append]
  simp only [Option.bind_eq_bind, Option.bind_some, hstrip, hq, if_true]

namespace Statement

variable (st : Statement)

theorem isQuote_of_mem_body : ∀ c ∈ st.body, Import.isQuote c = false :=
  List.forall_mem_append.2 ⟨st.clause.isQuote_of_mem, List.forall_mem_append.2
    ⟨fun c hc => isQuote_of_isBlank (st.gap.blank c hc), List.forall_mem_append.2
      ⟨isQuote_of_all (by decide), fun c hc => isQuote_of_isBlank (st.tight.blank c hc)⟩⟩⟩

theorem isQuote_of_mem_front : ∀ c ∈ st.front, Import.isQuote c = false := by
  have hmarker : ∀ c ∈ marker st.typed, Import.isQuote c = false := by
    cases st.typed with
    | none => exact nofun
    | some w =>
      exact List.forall_mem_append.2
        ⟨isQuote_of_all (by decide), fun c hc => isQuote_of_isBlank (w.blank c hc)⟩
  exact List.forall_mem_append.2 ⟨fun c hc => isQuote_of_isBlank (st.indent.blank c hc),
    List.forall_mem_append.2 ⟨isQuote_of_all (by decide), List.forall_mem_append.2
      ⟨fun c hc => isQuote_of_isBlank (st.space.blank c hc),
        List.forall_mem_append.2 ⟨hmarker, st.isQuote_of_mem_body⟩⟩⟩⟩

/-- The word `from` is not read before the end of the clause: no quote follows it there. -/
theorem readFrom?_eq_none {t : Text} (ht : t <:+ st.clause.text ++ st.gap.text) (hne : t ≠ [])
    (before : Option Char) :
    readFrom? before (t ++ ("from".toList ++ (st.tight.text ++ st.quote :: st.rest))) = none := by
  rw [Option.eq_none_iff_forall_ne_some]
  intro r hr
  obtain ⟨w, q, hs, hw, hq⟩ := readFrom?_eq_some hr
  have hfree : ∀ c ∈ t ++ ("from".toList ++ st.tight.text), Import.isQuote c = false := by
    refine List.forall_mem_append.2 ⟨fun c hc => ?_, List.forall_mem_append.2
      ⟨isQuote_of_all (by decide), fun c hc => isQuote_of_isBlank (st.tight.blank c hc)⟩⟩
    rcases List.mem_append.1 (ht.mem hc) with hc | hc
    · exact st.clause.isQuote_of_mem c hc
    · exact isQuote_of_isBlank (st.gap.blank c hc)
  have hfree' : ∀ c ∈ "from".toList ++ w, Import.isQuote c = false :=
    List.forall_mem_append.2
      ⟨isQuote_of_all (by decide), fun c hc => isQuote_of_isBlank (hw c hc)⟩
  have hsame : (t ++ ("from".toList ++ st.tight.text)) ++ st.quote :: st.rest =
      ("from".toList ++ w) ++ q :: r.rest := by
    simpa only [List.append_assoc] using hs
  -- What stands before the first quote ends with the word in both readings.
  have hfront := congrArg stripRight (eq_of_append_cons hfree hfree' st.isQuote hq hsame).1
  have hlast : ∀ c ∈ (t ++ "from".toList).getLast?, isBlank c = false := by
    intro c hc
    rw [List.getLast?_append_of_ne_nil _ (by decide)] at hc
    exact Option.some.inj hc ▸ by decide
  have hword : stripRight "from".toList = "from".toList := by decide
  rw [← List.append_assoc, stripRight_append st.tight.blank, stripRight_eq_self hlast,
    stripRight_append hw, hword] at hfront
  have hlength := congrArg List.length hfront
  rw [List.length_append] at hlength
  exact hne (List.length_eq_zero_iff.1 (by omega))

/-- The word `from` behind a clause begins there. -/
theorem atWordStart_gap :
    atWordStart ((st.clause.text ++ st.gap.text).getLast?.or none) = true := by
  have hlast : ∀ c ∈ (st.clause.text ++ st.gap.text).getLast?, isWord c = false := by
    by_cases hgap : st.gap.text = []
    · obtain ⟨s, ⟨hname, -⟩ | ⟨-, h⟩⟩ := st.clause.exists_end
      · exact absurd hgap (st.apart hname)
      · rw [hgap, List.append_nil, h, List.getLast?_concat]
        exact fun c hc => Option.some.inj hc ▸ by decide
    · intro c hc
      rw [List.getLast?_append_of_ne_nil _ hgap] at hc
      exact isWord_of_isBlank (st.gap.blank c (List.mem_of_mem_getLast? hc))
  rw [Option.or_none]
  cases hc : (st.clause.text ++ st.gap.text).getLast? with
  | none => rfl
  | some c => simp [atWordStart, hlast c hc]

/-- The word `from` is found behind the clause. -/
theorem exists_segments : ∃ ps, (segments readFrom? (st.body ++ st.quote :: st.rest)).segments =
    ⟨st.clause.text ++ st.gap.text, "from".toList ++ (st.tight.text ++ [st.quote]), ()⟩ :: ps := by
  have hbody : st.body ++ st.quote :: st.rest = (st.clause.text ++ st.gap.text) ++
      (("from".toList ++ (st.tight.text ++ [st.quote])) ++ st.rest) := by
    simp [body]
  have hword : ("from".toList ++ (st.tight.text ++ [st.quote])) ++ st.rest =
      "from".toList ++ (st.tight.text ++ st.quote :: st.rest) := by
    simp
  have hread := readFrom?_append st.atWordStart_gap st.tight st.isQuote st.rest
  rw [← hword] at hread
  have hfound :=
    segmentsFrom_of_read hread (by simp) ((st.clause.text ++ st.gap.text).reverse ++ [])
  rw [List.append_nil, List.reverse_reverse] at hfound
  rw [hbody, segments, segmentsFrom_of_none fun t ht hne b => hword ▸ st.readFrom?_eq_none ht hne b,
    List.append_nil, hfound]
  exact ⟨_, rfl⟩

/-- **The clause of a statement is read back.** -/
theorem clause?_text : clause? st.text = some st.clause.text := by
  have htext : st.text = st.indent.text ++ ("import".toList ++ (st.space.text ++
      (marker st.typed ++ (st.body ++ st.quote :: st.rest)))) := by
    simp only [text, front, List.append_assoc]
  have hhead : ∀ c ∈ (st.body ++ st.quote :: st.rest).head?, isBlank c = false := by
    rw [body, List.append_assoc]
    exact st.clause.isBlank_head
  have hplain : Export.optional "type".toList (st.body ++ st.quote :: st.rest) =
      st.body ++ st.quote :: st.rest := by
    rw [body, List.append_assoc, List.append_assoc]
    refine st.clause.optional_append fun hname c hc => ?_
    rw [List.head?_append_of_ne_nil _ (st.apart hname)] at hc
    exact isIdentifierPart_of_isBlank (st.gap.blank c (List.mem_of_mem_head? hc))
  have hmarker : ∀ c ∈ (marker st.typed ++ (st.body ++ st.quote :: st.rest)).head?,
      isBlank c = false := by
    cases st.typed with
    | none => exact hhead
    | some w => exact fun c hc => Option.some.inj hc ▸ by decide
  have hstrip : stripLeft st.text = "import".toList ++ (st.space.text ++
      (marker st.typed ++ (st.body ++ st.quote :: st.rest))) := by
    rw [htext, stripLeft_append st.indent.blank]
    exact stripLeft_eq_self fun c hc => Option.some.inj hc ▸ by decide
  have hspaced : spaced? "import".toList ("import".toList ++ (st.space.text ++
      (marker st.typed ++ (st.body ++ st.quote :: st.rest)))) =
        some (marker st.typed ++ (st.body ++ st.quote :: st.rest)) :=
    spaced?_append st.space.ne_nil st.space.blank hmarker
  obtain ⟨ps, hsegments⟩ := st.exists_segments
  have hclause : stripRight (st.clause.text ++ st.gap.text) = st.clause.text := by
    rw [stripRight_append st.gap.blank, stripRight_eq_self st.clause.isBlank_getLast]
  simp only [clause?, hstrip, hspaced, Option.bind_eq_bind, Option.bind_some,
    optional_marker hhead hplain, hsegments, hclause]

/-- **A statement binds the names of its clause.** -/
theorem mem_boundNames_text (n : Text) : n ∈ boundNames st.text ↔ n ∈ st.clause.names := by
  rw [boundNames_of_clause st.clause?_text, st.clause.names_eq, List.mem_append, List.mem_append,
    or_comm]

end Statement

/-! ### Statements for another folder -/

/-- Whatever pieces are replaced, what was skipped before the first of them stays. -/
theorem exists_replaced {α : Type} (read : Option Char → Text → Option (Reading α))
    (f : Segment α → Text) (before : Option Char) (skipped s : Text) :
    ∃ u, (segmentsFrom read before skipped s).replaced f = skipped.reverse ++ u := by
  fun_induction segmentsFrom read before skipped s with
  | case1 => exact ⟨[], (List.append_nil _).symm⟩
  | case2 => simp [Segmentation.replaced, List.append_assoc]
  | case3 before skipped c t r hr hlt ih =>
    obtain ⟨u, hu⟩ := ih
    exact ⟨c :: u, by simp [hu]⟩
  | case4 before skipped c t hr ih =>
    obtain ⟨u, hu⟩ := ih
    exact ⟨c :: u, by simp [hu]⟩

section

variable {a : Text} {q : Char}

/-- A specifier is read up to the first quote. -/
theorem lead_of_readSpecifier? (ha : ∀ c ∈ a, isQuote c = false) (hq : isQuote q = true)
    {before : Option Char} {t : Text} {r : Reading Specifier}
    (h : readSpecifier? before (a ++ q :: t) = some r) :
    r.value.lead = a ∧ r.value.quote = q := by
  obtain ⟨hs, hrelative⟩ := readSpecifier?_eq_some h
  have hlead : ∀ c ∈ r.value.lead, isQuote c = false := by
    obtain ⟨word, hword, w, hlead, hw⟩ := hrelative.lead
    have hwords : ∀ word ∈ ["from".toList, "import".toList], word.all isLoose = true := by decide
    rw [hlead]
    exact List.forall_mem_append.2
      ⟨isQuote_of_all (hwords word hword), fun c hc => isQuote_of_isBlank (hw c hc)⟩
  have hsame : a ++ q :: t = r.value.lead ++
      r.value.quote :: (r.value.path ++ ([r.value.quote] ++ r.rest)) := by
    rw [hs, Specifier.written]
    simp
  obtain ⟨hfront, hquote, -⟩ := eq_of_append_cons ha hlead hq hrelative.quote hsame
  exact ⟨hfront.symm, hquote.symm⟩

/-- A specifier is replaced behind its quote. -/
theorem exists_replaced_of_read (folder : Text) (ha : ∀ c ∈ a, isQuote c = false)
    (hq : isQuote q = true) {before : Option Char} {t : Text} {r : Reading Specifier}
    (hread : readSpecifier? before (a ++ q :: t) = some r) (skipped : Text) :
    ∃ u, ((segmentsFrom readSpecifier? before skipped (a ++ q :: t)).replaced fun p =>
      p.value.anchored folder) = skipped.reverse ++ (a ++ q :: u) := by
  obtain ⟨hlead, hquote⟩ := lead_of_readSpecifier? ha hq hread
  obtain ⟨hs, -⟩ := readSpecifier?_eq_some hread
  rw [hs] at hread ⊢
  rw [segmentsFrom_append_of_read hread (by simp [Specifier.written])]
  simp [Segmentation.replaced, Specifier.anchored, hlead, hquote]

/-- Replacing specifiers changes nothing up to the first quote. -/
theorem exists_replaced_anchored (folder : Text) (ha : ∀ c ∈ a, isQuote c = false)
    (hq : isQuote q = true) (before : Option Char) (skipped t : Text) :
    ∃ u, ((segmentsFrom readSpecifier? before skipped (a ++ q :: t)).replaced fun p =>
      p.value.anchored folder) = skipped.reverse ++ (a ++ q :: u) := by
  induction a generalizing before skipped with
  | nil =>
    cases hread : readSpecifier? before ([] ++ q :: t) with
    | some r => exact exists_replaced_of_read folder ha hq hread skipped
    | none =>
      rw [List.nil_append] at hread ⊢
      rw [segmentsFrom, hread]
      obtain ⟨u, hu⟩ := exists_replaced readSpecifier? (fun p => p.value.anchored folder) (some q)
        (q :: skipped) t
      exact ⟨u, by simp [hu]⟩
  | cons c a ih =>
    cases hread : readSpecifier? before ((c :: a) ++ q :: t) with
    | some r => exact exists_replaced_of_read folder ha hq hread skipped
    | none =>
      rw [List.cons_append] at hread ⊢
      rw [segmentsFrom, hread]
      obtain ⟨u, hu⟩ := ih (List.forall_mem_cons.1 ha).2 (some c) (c :: skipped)
      exact ⟨u, by simp [hu]⟩

end

theorem exists_anchored (folder : Text) (st : Statement) :
    ∃ u, anchored folder st.text = Statement.text { st with rest := u } :=
  exists_replaced_anchored folder st.isQuote_of_mem_front st.isQuote none [] st.rest

/-- A statement binds the same names when it is ready for another folder. -/
theorem mem_boundNames_anchored (folder : Text) (st : Statement) (n : Text) :
    n ∈ boundNames (anchored folder st.text) ↔ n ∈ st.clause.names := by
  obtain ⟨u, hu⟩ := exists_anchored folder st
  rw [hu, Statement.mem_boundNames_text]

/-- The statements of an example whose form is known, ready for another folder. -/
theorem statements_of_form {α : Type} {text : α → Text} {cwd origin : Text} {ls : List Text}
    {xs : List α} (h : (divide ls).statements.map unlines = xs.map text) :
    statements cwd origin ls = xs.map fun x => anchored (originFolder cwd origin) (text x) := by
  have hmap := congrArg (List.map (anchored (originFolder cwd origin))) h
  rwa [List.map_map, List.map_map] at hmap

end Import

namespace Program
open Import Text

/-- The exports whose names no statement binds. -/
def left (sts : List Statement) (exports : List Text) : List Text :=
  exports.filter fun n => decide (∀ st ∈ sts, n ∉ st.clause.names)

theorem ambient_statements {cwd origin : Text} {ls : List Text} {sts : List Statement}
    (h : (divide ls).statements.map unlines = sts.map Statement.text) (exports : List Text) :
    ambient (statements cwd origin ls) exports = left sts exports := by
  rw [statements_of_form h]
  refine List.filter_congr fun n _ => ?_
  simp only [List.contains_eq_mem, List.flatMap_map, List.mem_flatMap,
    mem_boundNames_anchored, decide_not.symm, not_exists, not_and]

/-- **A program binds the exports that are left.**  An import statement binds the names of its
clause.  If all import statements of an example have a clause, the exports whose names no clause
has are bound in one line, in their order; there is no such line if none is left. -/
theorem prelude_of_statements :
    (∀ (st : Statement) (n : Text), n ∈ boundNames st.text ↔ n ∈ st.clause.names) ∧
      ∀ (cwd modulePath : Text) (exports : List Text) (e : Example) (sts : List Statement),
        (divide (lines e.code)).statements.map unlines = sts.map Statement.text →
        prelude e modulePath (statements cwd e.origin (lines e.code)) exports =
          unlines (opening e modulePath ++ statements cwd e.origin (lines e.code) ++
            (if left sts exports = [] then []
              else [[], "const \x7b ".toList ++ joined ", ".toList (left sts exports) ++
                " \x7d = __testdoc_module;".toList]) ++
            [[], assertions]) := by
  refine ⟨Statement.mem_boundNames_text, fun cwd modulePath exports e sts h => ?_⟩
  have hline (names : List Text) : bindings names = if names = [] then []
      else [[], "const \x7b ".toList ++ joined ", ".toList names ++
        " \x7d = __testdoc_module;".toList] := by
    have hend : " \x7d = ".toList ++ (moduleAlias ++ ";".toList) =
        " \x7d = __testdoc_module;".toList := rfl
    simp only [bindings, List.isEmpty_iff, List.append_assoc, hend]
  rw [prelude, ambient_statements h, hline]
  rfl

/-- No blanks. -/
def nothing : Blanks := ⟨[], nofun⟩

/-- One space. -/
def single : Space := ⟨⟨[' '], List.all_eq_true.1 (by decide)⟩, by decide⟩

/-- A name that is spelled out. -/
def spelled (c : Char) (s : Text) (hc : (c.isAlpha || c == '_' || c == '$') = true)
    (hs : s.all isNameChar = true) (hne : c :: s ≠ "type".toList) : Name where
  text := c :: s
  isName := ⟨c, s, rfl, hc, List.all_eq_true.1 hs⟩
  ne_type := hne

/-- A default called `from`, and a list over two lines with names that look like words. -/
def crafty : Statement where
  indent := nothing
  space := single
  typed := some single
  clause := .both (spelled 'f' "rom".toList (by decide) (by decide) (by decide)) nothing
    single.toBlanks (.listed
      [.entry ⟨single.toBlanks, none, spelled 'a' "s".toList (by decide) (by decide) (by decide),
        some ⟨single, single, spelled 'b' [] (by decide) (by decide) (by decide)⟩, nothing⟩,
      .entry ⟨⟨"\n  ".toList, List.all_eq_true.1 (by decide)⟩, none,
        spelled 'a' "$from".toList (by decide) (by decide) (by decide), none, nothing⟩,
      .nothing single.toBlanks])
  gap := nothing
  apart := by decide
  tight := nothing
  quote := '"'
  isQuote := by decide
  rest := "./m\";".toList

/-- An example with that statement. -/
def craftyUser : Example where
  origin := "m.ts".toList
  line := 1
  name := "m".toList
  code := crafty.text ++ "\nb();".toList
  expected := none

theorem prelude_of_statements_crafty :
    (divide (lines craftyUser.code)).statements.map unlines = [crafty].map Statement.text ∧
      prelude craftyUser "/w/m.ts".toList
          (statements "/w".toList craftyUser.origin (lines craftyUser.code))
          ["a".toList, "b".toList, "from".toList, "c".toList] =
        unlines (opening craftyUser "/w/m.ts".toList ++
          statements "/w".toList craftyUser.origin (lines craftyUser.code) ++
          [[], "const \x7b a, c \x7d = __testdoc_module;".toList] ++ [[], assertions]) := by
  have hform : (divide (lines craftyUser.code)).statements.map unlines =
      [crafty].map Statement.text := by decide +kernel
  have hleft : left [crafty] ["a".toList, "b".toList, "from".toList, "c".toList] =
      ["a".toList, "c".toList] := by decide +kernel
  have hprelude := prelude_of_statements.2 "/w".toList "/w/m.ts".toList
    ["a".toList, "b".toList, "from".toList, "c".toList] craftyUser [crafty] hform
  rw [hleft, if_neg (List.cons_ne_nil _ _)] at hprelude
  exact ⟨hform, hprelude⟩

end Program
end DocExamples
