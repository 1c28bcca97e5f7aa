/-
# What is declared behind a comment

A comment belongs to the name that is declared directly behind it: by blanks, any number of
modifiers, a keyword, and a word.

    /** Opens a session. */
    export default async function open

The word is taken to its end.  Behind `const`, the word `enum` belongs to the keyword if blanks and
another word follow; otherwise it is the name.  A text declares one name at most, and the reader of
declarations finds it.
-/

import DocExamples.Proofs.Naming

namespace DocExamples

namespace Text
open Import (Space)

variable {word s t : Text}

theorem isBlank_of_isWord {c : Char} (h : isWord c = true) : isBlank c = false :=
  Bool.eq_false_iff.2 fun hblank => Bool.false_ne_true ((isWord_of_isBlank hblank).symm.trans h)

theorem isBlank_head_stripLeft (s : Text) : ∀ c ∈ (stripLeft s).head?, isBlank c = false := by
  intro c hc
  have hstop := List.head?_dropWhile_not isBlank s
  rw [stripLeft] at hc
  rw [hc] at hstop
  exact hstop

/-- A word is read with all blanks behind it, of which there is one at least. -/
theorem spaced?_eq_some_iff : spaced? word s = some t ↔
    ∃ w : Space, s = word ++ (w.text ++ t) ∧ ∀ c ∈ t.head?, isBlank c = false := by
  constructor
  · intro h
    unfold spaced? at h
    split at h
    · next c rest hafter =>
      split at h
      · next hc =>
        obtain rfl := Option.some.inj h
        have hblank : ∀ d ∈ c :: rest.takeWhile isBlank, isBlank d = true :=
          List.forall_mem_cons.2 ⟨hc, fun _ => List.mem_takeWhile_imp⟩
        refine ⟨⟨⟨_, hblank⟩, List.cons_ne_nil _ _⟩, ?_, isBlank_head_stripLeft rest⟩
        rw [List.cons_append, List.takeWhile_append_dropWhile]
        exact after?_eq_some_iff.1 hafter
      · exact nomatch h
    · exact nomatch h
  · rintro ⟨w, rfl, ht⟩
    exact spaced?_append w.ne_nil w.blank ht

/-- A word that stands in front of something else, and all of it. -/
structure IsWhole (n rest : Text) : Prop where
  ne_nil : n ≠ []
  isWord : ∀ c ∈ n, Text.isWord c = true
  stops : ∀ c ∈ rest.head?, Text.isWord c = false

/-- Whether a text begins with a word. -/
def BeginsWord (s : Text) : Prop := ∃ c ∈ s.head?, isWord c = true

theorem word?_eq_some_iff {r : Reading Text} :
    word? s = some r ↔ s = r.value ++ r.rest ∧ IsWhole r.value r.rest := by
  constructor
  · intro h
    unfold word? at h
    split at h
    · exact nomatch h
    · next hsome =>
      obtain rfl := Option.some.inj h
      have hstop := List.head?_dropWhile_not isWord s
      refine ⟨List.takeWhile_append_dropWhile.symm, fun he => hsome (List.isEmpty_iff.2 he),
        fun _ => List.mem_takeWhile_imp, fun c hc => ?_⟩
      rw [hc] at hstop
      exact hstop
  · rintro ⟨hs, hwhole⟩
    rw [hs, word?, takeWhile_run hwhole.isWord hwhole.stops, dropWhile_run hwhole.isWord hwhole.stops,
      if_neg fun he => hwhole.ne_nil (List.isEmpty_iff.1 he)]

theorem word?_eq_none_iff : word? s = none ↔ ¬ BeginsWord s := by
  cases s with
  | nil => simp [word?, BeginsWord]
  | cons c s => cases hc : isWord c <;> simp [word?, BeginsWord, hc]

end Text

namespace Declaration
open Text
open Import (Blanks Space)

variable {s t n rest : Text}

/-! ### Modifiers -/

/-- A modifier, and the blanks behind it. -/
structure Modifier where
  /-- The word. -/
  word : Text
  /-- It is a modifier. -/
  mem : word ∈ modifiers
  /-- The blanks. -/
  space : Space

/-- A modifier as it is written. -/
def Modifier.text (m : Modifier) : Text := m.word ++ m.space.text

theorem afterModifier?_eq_some (h : afterModifier? s = some t) :
    ∃ m : Modifier, s = m.text ++ t := by
  obtain ⟨m, hm, hspaced⟩ := List.exists_of_findSome?_eq_some h
  obtain ⟨space, hs, -⟩ := spaced?_eq_some_iff.1 hspaced
  exact ⟨⟨m, hm, space⟩, by rw [hs, Modifier.text, List.append_assoc]⟩

/-- What stands before a text without its modifiers are modifiers. -/
theorem exists_modifiers (s : Text) :
    ∃ ms : List Modifier, s = ms.flatMap Modifier.text ++ withoutModifiers s := by
  induction s using withoutModifiers.induct with
  | case1 s t hafter ih =>
    obtain ⟨m, hm⟩ := afterModifier?_eq_some hafter
    obtain ⟨ms, hms⟩ := ih
    refine ⟨m :: ms, ?_⟩
    rw [withoutModifiers_eq s, hafter, Option.map_some, Option.getD_some, List.flatMap_cons,
      List.append_assoc, ← hms]
    exact hm
  | case2 s hafter =>
    rw [withoutModifiers_eq, hafter]
    exact ⟨[], rfl⟩

theorem isBlank_head_modifiers (ms : List Modifier)
    (ht : ∀ c ∈ t.head?, isBlank c = false) :
    ∀ c ∈ (ms.flatMap Modifier.text ++ t).head?, isBlank c = false := by
  cases ms with
  | nil => exact ht
  | cons m ms =>
    have hall : ∀ m ∈ modifiers, m ≠ [] ∧ ∀ c ∈ m.head?, isBlank c = false := by decide
    obtain ⟨hne, hhead⟩ := hall m.word m.mem
    intro c hc
    rw [List.flatMap_cons, Modifier.text, List.append_assoc, List.append_assoc,
      List.head?_append_of_ne_nil _ hne] at hc
    exact hhead c hc

/-- Modifiers are passed over. -/
theorem withoutModifiers_modifiers (ms : List Modifier)
    (ht : ∀ c ∈ t.head?, isBlank c = false) :
    withoutModifiers (ms.flatMap Modifier.text ++ t) = withoutModifiers t := by
  induction ms with
  | nil => rfl
  | cons m ms ih =>
    rw [List.flatMap_cons, Modifier.text, List.append_assoc, List.append_assoc,
      withoutModifiers_word m.mem m.space (isBlank_head_modifiers ms ht), ih]

/-! ### Keywords -/

theorem afterConstEnum?_eq_some (h : afterConstEnum? s = some t) :
    ∃ between behind, s = (Keyword.constEnum between behind).text ++ t := by
  obtain ⟨u, hu, hspaced⟩ := Option.bind_eq_some_iff.1 h
  obtain ⟨between, hs, -⟩ := spaced?_eq_some_iff.1 hu
  obtain ⟨behind, ht, -⟩ := spaced?_eq_some_iff.1 hspaced
  exact ⟨between, behind, by rw [Keyword.text, pair_append, hs, ht]⟩

/-- A text is what it is without the blanks at its start, behind blanks. -/
theorem exists_blanks (s : Text) : ∃ w : Blanks, s = w.text ++ stripLeft s :=
  ⟨⟨s.takeWhile isBlank, fun _ => List.mem_takeWhile_imp⟩,
    List.takeWhile_append_dropWhile.symm⟩

theorem afterGenerator?_eq_some (h : afterGenerator? s = some t) :
    ∃ before behind, s = (Keyword.generator before behind).text ++ t := by
  simp only [afterGenerator?, Option.bind_eq_bind, Option.bind_eq_some_iff, Option.pure_def] at h
  obtain ⟨u, hu, v, hv, ht⟩ := h
  obtain rfl := Option.some.inj ht
  obtain ⟨before, hbefore⟩ := exists_blanks u
  obtain ⟨behind, hbehind⟩ := exists_blanks v
  refine ⟨before, behind, ?_⟩
  rw [Keyword.text, starred_append, ← hbehind, after?_eq_some_iff.1 hu]
  rw [after?_eq_some_iff.1 hv] at hbefore
  rw [hbefore]
  rfl

/-- **Where a name is read, it stands behind a keyword**, which is not the first of the two words
`const enum` if a name stands behind both. -/
theorem exists_keyword {name : Text → Option (Reading Text)} {r : Reading Text}
    (h : named? name s = some r) : ∃ k : Keyword, ∃ t, s = k.text ++ t ∧ name t = some r ∧
      (k.isConst = true → (spaced? "enum".toList t).bind name = none) := by
  rw [named?] at h
  cases hconst : (afterConstEnum? s).bind name with
  | some r' =>
    rw [hconst] at h
    obtain rfl : r' = r := Option.some.inj h
    obtain ⟨t, hafter, hname⟩ := Option.bind_eq_some_iff.1 hconst
    obtain ⟨between, behind, hs⟩ := afterConstEnum?_eq_some hafter
    exact ⟨.constEnum between behind, t, hs, hname, fun h => absurd h Bool.false_ne_true⟩
  | none =>
    rw [hconst] at h
    cases hgenerator : (afterGenerator? s).bind name with
    | some r' =>
      rw [hgenerator] at h
      obtain rfl : r' = r := Option.some.inj h
      obtain ⟨t, hafter, hname⟩ := Option.bind_eq_some_iff.1 hgenerator
      obtain ⟨before, behind, hs⟩ := afterGenerator?_eq_some hafter
      exact ⟨.generator before behind, t, hs, hname, fun h => absurd h Bool.false_ne_true⟩
    | none =>
      rw [hgenerator] at h
      obtain ⟨k, hk, hread⟩ := List.exists_of_findSome?_eq_some h
      obtain ⟨t, hspaced, hname⟩ := Option.bind_eq_some_iff.1 hread
      obtain ⟨w, rfl, ht⟩ := spaced?_eq_some_iff.1 hspaced
      refine ⟨.word ⟨k, hk⟩ w, t, (List.append_assoc ..).symm, hname, fun hisConst => ?_⟩
      -- Otherwise the two words together would have been read first.
      rwa [afterConstEnum?_word ⟨k, hk⟩ w ht, if_pos hisConst] at hconst

/-! ### The name that is declared -/

/-- **A text declares a name** if that is the whole word behind blanks, modifiers and a keyword.
Behind the keyword `const`, the word `enum` is a name only if no other word follows it. -/
inductive Declares (n : Text) : Text → Prop
  | intro (gap : Blanks) (ms : List Modifier) (k : Keyword) {rest : Text} : IsWhole n rest →
      (k.isConst = true → n = "enum".toList →
        ∀ (w : Space) (t : Text), rest = w.text ++ t → ¬ BeginsWord t) →
      Declares n (gap.text ++ (ms.flatMap Modifier.text ++ (k.text ++ (n ++ rest))))

/-- The name `enum` is no keyword exactly if no word follows it. -/
theorem bind_spaced?_enum_iff (h : IsWhole n rest) :
    (spaced? "enum".toList (n ++ rest)).bind word? = none ↔
      (n = "enum".toList → ∀ (w : Space) (t : Text), rest = w.text ++ t → ¬ BeginsWord t) := by
  have henum : ∀ c ∈ "enum".toList, isWord c = true := by decide
  constructor
  · rintro hnone rfl w t rfl hword
    have hblank : ∀ c ∈ t.head?, isBlank c = false := by
      obtain ⟨d, hd, hisWord⟩ := hword
      intro c hc
      obtain rfl := Option.some.inj (hd.symm.trans hc)
      exact isBlank_of_isWord hisWord
    rw [spaced?_append w.ne_nil w.blank hblank, Option.bind_some] at hnone
    exact word?_eq_none_iff.1 hnone hword
  · intro hno
    cases hspaced : spaced? "enum".toList (n ++ rest) with
    | none => rfl
    | some t =>
      obtain ⟨w, htext, -⟩ := spaced?_eq_some_iff.1 hspaced
      have hstops : ∀ c ∈ (w.text ++ t).head?, isWord c = false := fun c hc => by
        rw [List.head?_append_of_ne_nil _ w.ne_nil] at hc
        exact isWord_of_isBlank (w.blank c (List.mem_of_mem_head? hc))
      have hn := congrArg (List.takeWhile isWord) htext
      rw [takeWhile_run h.isWord h.stops, takeWhile_run henum hstops] at hn
      subst hn
      exact word?_eq_none_iff.2 (hno rfl w t (List.append_cancel_left htext))

/-- **The reader finds the name that a text declares, and no other.** -/
theorem declared?_eq_some_iff : declared? s = some n ↔ Declares n s := by
  constructor
  · intro h
    obtain ⟨r, hread, rfl⟩ := Option.map_eq_some_iff.1 h
    obtain ⟨gap, hgap⟩ := exists_blanks s
    obtain ⟨ms, hms⟩ := exists_modifiers (stripLeft s)
    obtain ⟨k, t, hk, hword, henum⟩ := exists_keyword hread
    obtain ⟨rfl, hwhole⟩ := word?_eq_some_iff.1 hword
    rw [hgap, hms, hk]
    exact .intro gap ms k hwhole fun hconst => (bind_spaced?_enum_iff hwhole).1 (henum hconst)
  · rintro ⟨gap, ms, k, hwhole, henum⟩
    rename_i rest
    have hname : ∀ c ∈ (n ++ rest).head?, isBlank c = false ∧ c ≠ '*' := by
      intro c hc
      rw [List.head?_append_of_ne_nil _ hwhole.ne_nil] at hc
      have hc := hwhole.isWord c (List.mem_of_mem_head? hc)
      exact ⟨isBlank_of_isWord hc, fun he => absurd (he ▸ hc) (by decide)⟩
    have hheads : ∀ c ∈ heads, isBlank c = false := by decide
    have hkeyword : ∀ c ∈ (k.text ++ (n ++ rest)).head?, isBlank c = false := fun c hc =>
      hheads c (k.head_text _ c hc)
    have hread : named? word? (k.text ++ (n ++ rest)) = some ⟨n, rest⟩ :=
      named?_keyword k hname (fun hconst => (bind_spaced?_enum_iff hwhole).2 (henum hconst))
        (word?_eq_some_iff.2 ⟨rfl, hwhole⟩)
    rw [declared?, stripLeft_append gap.blank, stripLeft_eq_self (isBlank_head_modifiers ms hkeyword),
      withoutModifiers_modifiers ms hkeyword, withoutModifiers_keyword, hread, Option.map_some]

theorem Declares.unique {m : Text} (h : Declares n s) (h' : Declares m s) : n = m :=
  Option.some.inj ((declared?_eq_some_iff.2 h).symm.trans (declared?_eq_some_iff.2 h'))

end Declaration

namespace Comment
open Declaration (Declares)

/-- **A comment belongs to the name that is declared behind it**, and to none where none is. -/
theorem Occurs.owner_of_declares {source before behind : Text} {c : Comment}
    (h : Occurs source c before behind) :
    (∀ n, Declares n behind → c.owner = n) ∧
      ((∀ n, ¬ Declares n behind) → c.owner = anonymous c.line) := by
  rw [h.owner]
  refine ⟨fun n hn => by rw [Declaration.declared?_eq_some_iff.2 hn, Option.getD_some], fun hno => ?_⟩
  have hnone : Declaration.declared? behind = none :=
    Option.eq_none_iff_forall_ne_some.2 fun n hn => hno n (Declaration.declared?_eq_some_iff.1 hn)
  rw [hnone, Option.getD_none]

-- Behind `const`, the word `enum` is a name where no other word follows.
example : Declaration.declared? "const enum Colour".toList = some "Colour".toList ∧
    Declaration.declared? "const enum = 1".toList = some "enum".toList ∧
    Declaration.declared? "async function*entries".toList = some "entries".toList := by
  decide +kernel

end Comment
end DocExamples
