/-
# Written declarations

Behind the word `export` and its modifiers, a keyword introduces the name of a declaration.

| written | introduces |
| --- | --- |
| `class Shape`, `let area` | one word, and blanks |
| `const enum Colour` | the two words together, and never the name `enum` |
| `function* entries`, `function*entries` | a star that may touch either neighbour |

No keyword of one word begins another one and ends there, so that each keyword is read in one way.
-/

import DocExamples.Proofs.Clauses

namespace DocExamples

namespace Text

/-- A text that begins with another character does not begin with the mark. -/
theorem after?_eq_none_of_head {mark s : Text} {m : Char} (hm : mark.head? = some m)
    (hs : ∀ c ∈ s.head?, m ≠ c) : after? mark s = none := by
  cases s with
  | nil =>
    obtain ⟨ms, rfl⟩ := List.head?_eq_some_iff.1 hm
    rfl
  | cons c s => exact after?_eq_none hm (hs c rfl) s

theorem spaced?_of_after? {word s : Text} (h : after? word s = none) : spaced? word s = none := by
  rw [spaced?, h]

end Text

/-- A search finds what is found for one element and for no other. -/
theorem findSome?_eq_some_of_unique {α β : Type} {f : α → Option β} {xs : List α} {a : α} {b : β}
    (ha : a ∈ xs) (hb : f a = some b) (hother : ∀ x ∈ xs, a ≠ x → f x = none) :
    xs.findSome? f = some b := by
  obtain ⟨front, behind, rfl, hfront⟩ := List.eq_append_cons_of_mem ha
  refine List.findSome?_eq_some_iff.2 ⟨front, a, behind, rfl, hb, fun x hx => ?_⟩
  refine hother x (List.mem_append_left _ hx) ?_
  rintro rfl
  exact hfront hx

namespace Declaration
open Text
open Import (Blanks Space)

/-! ### Keywords -/

/-- One of the words that introduce a name. -/
structure Introducer where
  /-- The word. -/
  text : Text
  /-- It is one of them. -/
  mem : text ∈ keywords

/-- A declaration keyword as it is written, up to the name. -/
inductive Keyword where
  /-- One word, and blanks. -/
  | word (k : Introducer) (space : Space)
  /-- The words `const enum`, and blanks. -/
  | constEnum (between behind : Space)
  /-- The word `function` and a star, which may touch either neighbour. -/
  | generator (before behind : Blanks)

/-- Two words, with blanks behind each. -/
def pair (first between second behind : Text) : Text := first ++ (between ++ (second ++ behind))

theorem pair_append (first between second behind s : Text) :
    pair first between second behind ++ s = first ++ (between ++ (second ++ (behind ++ s))) := by
  simp [pair]

/-- A word and a star, with blanks behind each. -/
def starred (word before behind : Text) : Text := word ++ (before ++ '*' :: behind)

theorem starred_append (word before behind s : Text) :
    starred word before behind ++ s = word ++ (before ++ '*' :: (behind ++ s)) := by
  simp [starred]

/-- A keyword as it is written. -/
def Keyword.text : Keyword → Text
  | .word k space => k.text ++ space.text
  | .constEnum between behind => pair "const".toList between.text "enum".toList behind.text
  | .generator before behind => starred "function".toList before.text behind.text

/-- Whether a keyword is the word `const` alone. -/
def Keyword.isConst : Keyword → Bool
  | .word k _ => k.text == "const".toList
  | _ => false

/-- The characters that keywords begin with. -/
def heads : List Char := "cefiltv".toList

theorem exists_cons_of_mem_keywords {k : Text} (hk : k ∈ keywords) :
    ∃ c s, k = c :: s ∧ c ∈ heads := by
  have hall : ∀ k ∈ keywords, k ≠ [] ∧ ∀ c ∈ k.head?, c ∈ heads := by decide
  obtain ⟨hne, hhead⟩ := hall k hk
  obtain ⟨c, s, rfl⟩ := List.exists_cons_of_ne_nil hne
  exact ⟨c, s, rfl, hhead c rfl⟩

theorem isIdentifierPart_of_mem_keyword :
    ∀ k ∈ keywords, ∀ c ∈ k, isIdentifierPart c = true := by decide

theorem Keyword.head_text (k : Keyword) (s : Text) : ∀ c ∈ (k.text ++ s).head?, c ∈ heads := by
  cases k with
  | word k space =>
    obtain ⟨d, t, htext, hd⟩ := exists_cons_of_mem_keywords k.mem
    rw [Keyword.text, htext]
    exact fun c hc => Option.some.inj hc ▸ hd
  | constEnum => exact fun c hc => Option.some.inj hc ▸ by decide
  | generator => exact fun c hc => Option.some.inj hc ▸ by decide

variable {name : Text → Option (Reading Text)} {s : Text}

/-- Nothing is named by a text that begins with no keyword. -/
theorem named?_eq_none (hs : ∀ c ∈ s.head?, c ∉ heads) : named? name s = none := by
  have hword {word : Text} {m : Char} (hm : word.head? = some m) (hmem : m ∈ heads) :
      after? word s = none :=
    after?_eq_none_of_head hm fun c hc he => hs c hc (he ▸ hmem)
  have hconst : after? "const".toList s = none := hword rfl (by decide)
  have hfunction : after? "function".toList s = none := hword rfl (by decide)
  have hnone : ∀ k ∈ keywords, (spaced? k s).bind name = none := by
    intro k hk
    obtain ⟨m, t, rfl, hm⟩ := exists_cons_of_mem_keywords hk
    rw [spaced?_of_after? (hword rfl hm), Option.bind_none]
  rw [named?, afterConstEnum?, afterGenerator?, spaced?_of_after? hconst, hfunction,
    List.findSome?_eq_none_iff.2 hnone]
  rfl

/-- A keyword is not read where another one stands. -/
theorem spaced?_other {word k : Text} (hword : word ∈ keywords) (hk : k ∈ keywords) (hne : k ≠ word)
    (w : Space) : spaced? word (k ++ (w.text ++ s)) = none := by
  refine spaced?_eq_none (isIdentifierPart_of_mem_keyword word hword)
    (isIdentifierPart_of_mem_keyword k hk) hne fun c hc => ?_
  rw [List.head?_append_of_ne_nil _ w.ne_nil] at hc
  exact isIdentifierPart_of_isBlank (w.blank c (List.mem_of_mem_head? hc))

/-- No star stands behind a keyword of one word. -/
theorem afterGenerator?_word {k : Text} (hk : k ∈ keywords) (w : Space)
    (hs : ∀ c ∈ s.head?, isBlank c = false ∧ c ≠ '*') :
    afterGenerator? (k ++ (w.text ++ s)) = none := by
  by_cases hfunction : k = "function".toList
  · have hstrip : stripLeft (w.text ++ s) = s := by
      rw [stripLeft_append w.blank, stripLeft_eq_self fun c hc => (hs c hc).1]
    have hstar : after? ['*'] s = none := after?_eq_none_of_head rfl fun c hc => (hs c hc).2.symm
    rw [hfunction, afterGenerator?, after?_append]
    simp only [Option.bind_eq_bind, Option.bind_some, hstrip, hstar, Option.bind_none]
  · have hnone : after? "function".toList (k ++ (w.text ++ s)) = none := by
      have hhead : ∀ k ∈ keywords, k ≠ "function".toList → ∀ c ∈ k.head?, 'f' ≠ c := by decide
      obtain ⟨m, t, rfl, -⟩ := exists_cons_of_mem_keywords hk
      exact after?_eq_none rfl (hhead _ hk hfunction m rfl) _
    rw [afterGenerator?, hnone]
    rfl

/-- The words `const enum` are read to their end. -/
theorem afterConstEnum?_constEnum (between behind : Space)
    (hs : ∀ c ∈ s.head?, isBlank c = false) :
    afterConstEnum? ((Keyword.constEnum between behind).text ++ s) = some s := by
  have henum : ∀ c ∈ ("enum".toList ++ (behind.text ++ s)).head?, isBlank c = false :=
    fun c hc => Option.some.inj hc ▸ by decide
  rw [Keyword.text, pair_append, afterConstEnum?,
    spaced?_append between.ne_nil between.blank henum, Option.bind_some,
    spaced?_append behind.ne_nil behind.blank hs]

/-- The word `function` and its star are read to their end. -/
theorem afterGenerator?_generator (before behind : Blanks)
    (hs : ∀ c ∈ s.head?, isBlank c = false) :
    afterGenerator? ((Keyword.generator before behind).text ++ s) = some s := by
  have hstar : stripLeft (before.text ++ ('*' :: (behind.text ++ s))) =
      '*' :: (behind.text ++ s) := by
    rw [stripLeft_append before.blank]
    exact stripLeft_eq_self fun c hc => Option.some.inj hc ▸ by decide
  have hmark : after? ['*'] ('*' :: (behind.text ++ s)) = some (behind.text ++ s) := rfl
  have hstrip : stripLeft (behind.text ++ s) = s := by
    rw [stripLeft_append behind.blank, stripLeft_eq_self hs]
  rw [Keyword.text, starred_append, afterGenerator?, after?_append]
  simp only [Option.bind_eq_bind, Option.bind_some, hstar, hmark, hstrip, Option.pure_def]

/-- Where a keyword of one word stands, the words `const enum` are read only if it is the first of
them and the second one follows. -/
theorem afterConstEnum?_word (k : Introducer) (w : Space) (hs : ∀ c ∈ s.head?, isBlank c = false) :
    afterConstEnum? (k.text ++ (w.text ++ s)) =
      if (Keyword.word k w).isConst then spaced? "enum".toList s else none := by
  rw [afterConstEnum?, Keyword.isConst]
  by_cases hk : k.text = "const".toList
  · rw [if_pos (beq_iff_eq.2 hk), hk, spaced?_append w.ne_nil w.blank hs, Option.bind_some]
  · have hmem : "const".toList ∈ keywords := by decide
    rw [if_neg (mt beq_iff_eq.1 hk), spaced?_other hmem k.mem hk, Option.bind_none]

/-- Nothing is named behind the words `const enum` where a keyword of one word stands. -/
theorem bind_afterConstEnum?_word (k : Introducer) (w : Space)
    (hs : ∀ c ∈ s.head?, isBlank c = false)
    (henum : (Keyword.word k w).isConst = true → (spaced? "enum".toList s).bind name = none) :
    (afterConstEnum? (k.text ++ (w.text ++ s))).bind name = none := by
  rw [afterConstEnum?_word k w hs]
  split
  · next hconst => exact henum hconst
  · rfl

/-- **A keyword is read up to the name behind it.** -/
theorem named?_keyword (k : Keyword) {r : Reading Text}
    (hs : ∀ c ∈ s.head?, isBlank c = false ∧ c ≠ '*')
    (henum : k.isConst = true → (spaced? "enum".toList s).bind name = none)
    (hname : name s = some r) : named? name (k.text ++ s) = some r := by
  have hblank : ∀ c ∈ s.head?, isBlank c = false := fun c hc => (hs c hc).1
  cases k with
  | word k space =>
    have hconst : (afterConstEnum? (k.text ++ (space.text ++ s))).bind name = none :=
      bind_afterConstEnum?_word k space hblank henum
    have hfind : (keywords.findSome? fun word =>
        (spaced? word (k.text ++ (space.text ++ s))).bind name) = some r := by
      refine findSome?_eq_some_of_unique k.mem ?_ fun word hword hne => ?_
      · rw [spaced?_append space.ne_nil space.blank hblank, Option.bind_some, hname]
      · rw [spaced?_other hword k.mem hne, Option.bind_none]
    rw [Keyword.text, List.append_assoc, named?, hconst, afterGenerator?_word k.mem space hs, hfind]
    rfl
  | constEnum between behind =>
    rw [named?, afterConstEnum?_constEnum between behind hblank, Option.bind_some, hname]
    rfl
  | generator before behind =>
    have hconst : afterConstEnum? ((Keyword.generator before behind).text ++ s) = none := rfl
    rw [named?, hconst, afterGenerator?_generator before behind hblank, Option.bind_some, hname]
    rfl

end Declaration

end DocExamples
