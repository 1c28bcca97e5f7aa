/-
# Readers that stop at a character

A reader that takes nothing from some character on does not look at what follows that
character.  Readers made of such readers stop at it too.  A declaration is read by its
keyword, blanks and a name, so that it stops at every character that stands in none of
these.  One of them is a closing brace: what a text declares is settled by what stands before
the first one.
-/

import DocExamples.Declaration

namespace DocExamples

namespace Text

/-- A reader stops at a character if it takes nothing from there on and does not look at
what follows: what it makes of a text depends on what stands before the character. -/
def StopsAt (b : Char) (read : Text → Option Text) : Prop :=
  ∀ a, (∀ t, read (a ++ b :: t) = none) ∨ ∃ a', ∀ t, read (a ++ b :: t) = some (a' ++ b :: t)

variable {b : Char}

/-! ### Readers of texts -/

theorem dropWhile_append_stop {p : Char → Bool} (hb : p b = false) (a t : Text) :
    (a ++ b :: t).dropWhile p = a.dropWhile p ++ b :: t := by
  rw [List.dropWhile_append, List.dropWhile_cons_of_neg (by simp [hb])]
  split
  · next h => rw [List.isEmpty_iff.1 h, List.nil_append]
  · rfl

theorem takeWhile_append_stop {p : Char → Bool} (hb : p b = false) (a t : Text) :
    (a ++ b :: t).takeWhile p = a.takeWhile p := by
  rw [List.takeWhile_append, List.takeWhile_cons_of_neg (by simp [hb]), List.append_nil]
  split
  · next h => exact (List.takeWhile_prefix p).eq_of_length h |>.symm
  · rfl

theorem stopsAt_after? {mark : Text} (hb : b ∉ mark) : StopsAt b (after? mark) := by
  induction mark with
  | nil => exact fun a => .inr ⟨a, fun _ => rfl⟩
  | cons m mark ih =>
    rw [List.mem_cons, not_or] at hb
    intro a
    cases a with
    | nil => exact .inl fun t => by simp [after?, Ne.symm hb.1]
    | cons c a =>
      by_cases hc : m = c
      · simpa [after?, hc] using ih hb.2 a
      · exact .inl fun t => by simp [after?, hc]

theorem StopsAt.bind {first second : Text → Option Text} (h₁ : StopsAt b first)
    (h₂ : StopsAt b second) : StopsAt b fun s => (first s).bind second := by
  intro a
  rcases h₁ a with h | ⟨a', h⟩
  · exact .inl fun t => by simp [h t]
  · simpa [h] using h₂ a'

theorem StopsAt.findSome? {α : Type} {read : α → Text → Option Text} {xs : List α}
    (h : ∀ x ∈ xs, StopsAt b (read x)) : StopsAt b fun s => xs.findSome? (read · s) := by
  induction xs with
  | nil => exact fun _ => .inl fun _ => rfl
  | cons x xs ih =>
    intro a
    rcases h x List.mem_cons_self a with hx | ⟨a', hx⟩
    · simpa [hx] using ih (fun y hy => h y (List.mem_cons_of_mem _ hy)) a
    · exact .inr ⟨a', fun t => by simp [hx t]⟩

theorem StopsAt.or {first second : Text → Option Text} (h₁ : StopsAt b first)
    (h₂ : StopsAt b second) : StopsAt b fun s => (first s).or (second s) := by
  intro a
  rcases h₁ a with h | ⟨a', h⟩
  · simpa [h] using h₂ a
  · exact .inr ⟨a', fun t => by simp [h t]⟩

theorem stopsAt_spaced? {word : Text} (hb : b ∉ word) (hblank : isBlank b = false) :
    StopsAt b (spaced? word) := by
  intro a
  rcases stopsAt_after? hb a with h | ⟨a', h⟩
  · exact .inl fun t => by simp [spaced?, h t]
  · cases a' with
    | nil => exact .inl fun t => by simp [spaced?, h t, hblank]
    | cons c a' =>
      by_cases hc : isBlank c
      · refine .inr ⟨a'.dropWhile isBlank, fun t => ?_⟩
        simp [spaced?, h t, hc, dropWhile_append_stop hblank]
      · exact .inl fun t => by simp [spaced?, h t, hc]

/-- An identifier ends where no character of names follows. -/
theorem stopsAt_identifier? (hb : isIdentifierPart b = false)
    (hstart : isIdentifierStart b = false) : StopsAt b fun s => (identifier? s).map (·.rest) := by
  intro a
  cases a with
  | nil => exact .inl fun t => by simp [identifier?, hstart]
  | cons c a =>
    by_cases hc : isIdentifierStart c
    · refine .inr ⟨a.dropWhile isIdentifierPart, fun t => ?_⟩
      simp [identifier?, hc, dropWhile_append_stop hb]
    · exact .inl fun t => by simp [identifier?, hc]

end Text

namespace Declaration
open Text

/-! ### Readers of declarations -/

theorem stopsAt_afterModifier? : StopsAt '\x7d' afterModifier? :=
  StopsAt.findSome? fun m hm => stopsAt_spaced? (by revert m; decide) (by decide)

/-- The modifiers at the start of a text stand before any closing brace. -/
theorem withoutModifiers_append (a : Text) :
    ∃ a', ∀ t, withoutModifiers (a ++ '\x7d' :: t) = a' ++ '\x7d' :: t := by
  induction hn : a.length using Nat.strongRecOn generalizing a with
  | ind n ih =>
    rcases stopsAt_afterModifier? a with h | ⟨a', h⟩
    · exact ⟨a, fun t => by rw [withoutModifiers_eq, h t]; rfl⟩
    · have hlt : a'.length < n := by
        have := length_afterModifier?_lt (h [])
        simp only [List.length_append] at this
        omega
      obtain ⟨a'', ha''⟩ := ih _ hlt a' rfl
      exact ⟨a'', fun t => by rw [withoutModifiers_eq, h t, Option.map_some, Option.getD_some, ha'']⟩

section

variable {b : Char}

theorem stopsAt_word (hb : isIdentifierPart b = false) (hblank : isBlank b = false) {word : Text}
    (hword : word.all isIdentifierPart = true) : StopsAt b (spaced? word) := by
  refine stopsAt_spaced? (fun hmem => ?_) hblank
  exact Bool.false_ne_true (hb.symm.trans (List.all_eq_true.1 hword b hmem))

theorem stopsAt_afterConstEnum? (hb : isIdentifierPart b = false) (hblank : isBlank b = false) :
    StopsAt b afterConstEnum? :=
  (stopsAt_word hb hblank (by decide)).bind (stopsAt_word hb hblank (by decide))

theorem stopsAt_stripLeft (hblank : isBlank b = false) (a : Text) :
    ∃ a', ∀ t, stripLeft (a ++ b :: t) = a' ++ b :: t :=
  ⟨a.dropWhile isBlank, fun t => dropWhile_append_stop hblank a t⟩

theorem stopsAt_afterGenerator? (hb : isIdentifierPart b = false) (hblank : isBlank b = false)
    (hstar : b ≠ '*') : StopsAt b afterGenerator? := by
  have hstrip : StopsAt b fun s => some (stripLeft s) := fun a => by
    obtain ⟨a', h⟩ := stopsAt_stripLeft hblank a
    exact .inr ⟨a', fun t => congrArg some (h t)⟩
  have hfunction : b ∉ "function".toList := fun hmem =>
    Bool.false_ne_true (hb.symm.trans (List.all_eq_true.1 (by decide) b hmem))
  have hword : StopsAt b (after? "function".toList) := stopsAt_after? hfunction
  have hmark : StopsAt b (after? ['*']) := stopsAt_after? fun hmem =>
    hstar (List.mem_singleton.1 hmem)
  have h := hword.bind (hstrip.bind (hmark.bind hstrip))
  exact h

/-- What stands behind keywords is read no further than names are. -/
theorem stopsAt_named? (hb : isIdentifierPart b = false) (hblank : isBlank b = false)
    (hstar : b ≠ '*') {name : Text → Option (Reading Text)}
    (hname : StopsAt b fun s => (name s).map (·.rest)) :
    StopsAt b fun s => (named? name s).map (·.rest) := by
  have hwords : ∀ k ∈ keywords, k.all isIdentifierPart = true := by decide
  have hkeywords : StopsAt b fun s =>
      keywords.findSome? fun k => (spaced? k s).bind fun s => (name s).map (·.rest) :=
    StopsAt.findSome? fun k hk => (stopsAt_word hb hblank (hwords k hk)).bind hname
  have h := ((stopsAt_afterConstEnum? hb hblank).bind hname).or
    (((stopsAt_afterGenerator? hb hblank hstar).bind hname).or hkeywords)
  simp only [named?, Option.orElse_eq_orElse, Option.orElse_eq_or, Option.map_or, Option.map_bind,
    List.map_findSome?, Function.comp_def] at h ⊢
  exact h

end

/-- What is declared behind keywords does not depend on what follows a closing brace. -/
theorem value_named? (a t : Text) :
    (named? word? (a ++ '\x7d' :: t)).map (·.value) =
      (named? word? (a ++ ['\x7d'])).map (·.value) := by
  have hword {read : Text → Option Text} (h : StopsAt '\x7d' read) :
      ((read (a ++ '\x7d' :: t)).bind word?).map (·.value) =
        ((read (a ++ ['\x7d'])).bind word?).map (·.value) := by
    rcases h a with h | ⟨a', h⟩
    · rw [h t, h []]
    · rw [h t, h [], Option.bind_some, Option.bind_some]
      have hbrace : isWord '\x7d' = false := by decide
      simp only [word?, takeWhile_append_stop hbrace]
      split <;> rfl
  have hkeywords (ks : List Text) (hks : ∀ k ∈ ks, '\x7d' ∉ k) :
      (ks.findSome? fun k => (spaced? k (a ++ '\x7d' :: t)).bind word?).map (·.value) =
        (ks.findSome? fun k => (spaced? k (a ++ ['\x7d'])).bind word?).map (·.value) := by
    rw [List.map_findSome?, List.map_findSome?]
    induction ks with
    | nil => rfl
    | cons k ks ih =>
      have hk := hword (stopsAt_spaced? (hks k List.mem_cons_self) (by decide))
      have hmore := ih fun l hl => hks l (List.mem_cons_of_mem _ hl)
      simp only [List.findSome?_cons, Function.comp_apply, hk, hmore]
  simp only [named?, Option.orElse_eq_orElse, Option.orElse_eq_or, Option.map_or,
    hword (stopsAt_afterConstEnum? (by decide) (by decide)),
    hword (stopsAt_afterGenerator? (by decide) (by decide) (by decide)),
    hkeywords keywords (by decide)]

/-- **A declaration ends before a closing brace.** -/
theorem declared?_append (a t : Text) :
    declared? (a ++ '\x7d' :: t) = declared? (a ++ ['\x7d']) := by
  obtain ⟨a', h⟩ := stopsAt_stripLeft (by decide : isBlank '\x7d' = false) a
  obtain ⟨a'', h'⟩ := withoutModifiers_append a'
  simp only [declared?, h, h', value_named? a'' t]

end Declaration

end DocExamples
