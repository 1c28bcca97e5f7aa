/-
# What replaces octets that stand for nothing

Lenient decoding keeps every code point and loses no place where there is none.  Octets fall
into the octets of code points and invalid parts.  An invalid part is as long as it could still
have become a code point, and one octet long if none begins with that.

| the octets begin with | the text begins with |
| --- | --- |
| the octets of a code point | this code point |
| an invalid part | U+FFFD |

This fixes the text: there is one for all octets, and only one.
-/

import DocExamples.Proofs.Decoding

namespace DocExamples
namespace Utf8

/-- Octets that the octets of some code point begin with. -/
def Begins (part : Octets) : Prop := ∃ c, part <+: encodeChar c

/-- An invalid part, with the octets that follow it. -/
structure IsInvalid (part rest : Octets) : Prop where
  ne_nil : part ≠ []
  /-- They do not begin with a code point. -/
  no_char : ∀ c more, part ++ rest ≠ encodeChar c ++ more
  /-- The part is one octet, or could have become a code point. -/
  begins : part.length = 1 ∨ Begins part
  /-- With the next octet, it could not. -/
  longest : ∀ b more, rest = b :: more → ¬ Begins (part ++ [b])

/-- The text that octets stand for, with U+FFFD in the place of each invalid part. -/
inductive Replaced : Octets → Text → Prop
  | nil : Replaced [] []
  | char {c : Char} {rest : Octets} {t : Text} :
      Replaced rest t → Replaced (encodeChar c ++ rest) (c :: t)
  | invalid {part rest : Octets} {t : Text} :
      IsInvalid part rest → Replaced rest t → Replaced (part ++ rest) ('\uFFFD' :: t)

variable {bits length following least greatest : Nat} {b : UInt8} {c : Char}
variable {part part' s rest rest' : Octets} {reason : Reason} {t : Text}

/-! ### Invalid parts -/

theorem Begins.mono (h : Begins part) (hpart : part' <+: part) : Begins part' := by
  obtain ⟨c, hc⟩ := h
  exact ⟨c, hpart.trans hc⟩

/-- Of two invalid parts at one place, neither is shorter. -/
theorem IsInvalid.length_le (h : IsInvalid part rest) (h' : IsInvalid part' rest')
    (hsame : part ++ rest = part' ++ rest') : part'.length ≤ part.length := by
  by_contra hlonger
  have hfront : part <+: part' := List.prefix_of_prefix_length_le
    (List.prefix_append part rest) (hsame ▸ List.prefix_append part' rest') (by omega)
  obtain ⟨more, rfl⟩ := hfront
  rw [List.append_assoc, List.append_cancel_left_eq] at hsame
  cases more with
  | nil => simp at hlonger
  | cons x more =>
    have hbegins : Begins (part ++ x :: more) := h'.begins.resolve_left fun hone => by
      have hpos := List.length_pos_iff.2 h.ne_nil
      rw [List.length_append, List.length_cons] at hone
      omega
    have hnext : part ++ [x] <+: part ++ x :: more :=
      (List.prefix_append_right_inj part).2 (List.prefix_append [x] more)
    exact h.longest x _ hsame (hbegins.mono hnext)

/-- There is one invalid part at a place at most. -/
theorem IsInvalid.unique (h : IsInvalid part rest) (h' : IsInvalid part' rest')
    (hsame : part ++ rest = part' ++ rest') : part = part' ∧ rest = rest' :=
  List.append_inj hsame (Nat.le_antisymm (h'.length_le h hsame.symm) (h.length_le h' hsame))

/-! ### The invalid part that is read -/

/-- Whatever is still to come of a code point, there are octets for it. -/
theorem exists_completion (bits length following : Nat) (hrange : least ≤ greatest)
    (hoctet : greatest ≤ 0xBF) :
    ∃ more c, continueChar bits length following least greatest more = ⟨.char c, []⟩ := by
  induction following generalizing bits length least greatest with
  | zero => exact ⟨[], _, rfl⟩
  | succ following ih =>
    obtain ⟨more, c, hmore⟩ := @ih 0x80 0xBF (bits * 0x40 + least % 0x40) (length + 1)
      (by decide) (by decide)
    refine ⟨UInt8.ofNat least :: more, c, ?_⟩
    rw [continueChar, toNat_ofNat (by omega), if_pos (by simp [hrange])]
    exact hmore

/-- A code point is broken off behind octets that could have become one, and cannot with the
next octet. -/
theorem exists_of_continueChar_invalid (hrange : least ≤ greatest) (hoctet : greatest ≤ 0xBF) {n : Nat}
    (h : continueChar bits length following least greatest s = ⟨.invalid n reason, rest⟩) :
    ∃ read, s = read ++ rest ∧
      (∃ more c, continueChar bits length following least greatest (read ++ more) =
        ⟨.char c, []⟩) ∧
      ∀ x behind, rest = x :: behind → ∀ more c rest',
        continueChar bits length following least greatest (read ++ x :: more) ≠
          ⟨.char c, rest'⟩ := by
  induction following generalizing bits length least greatest s with
  | zero => cases h
  | succ following ih =>
    have hcompletion := exists_completion bits length (following + 1) hrange hoctet
    cases s with
    | nil =>
      cases h
      refine ⟨[], rfl, hcompletion, fun x behind hx => ?_⟩
      cases hx
    | cons b s =>
      by_cases hb : (least ≤ b.toNat && b.toNat ≤ greatest) = true
      · rw [continueChar, if_pos hb] at h
        obtain ⟨read, rfl, ⟨more, c, hmore⟩, hstop⟩ := ih (by decide) (by decide) h
        refine ⟨b :: read, rfl, ⟨more, c, ?_⟩, fun x behind hx more c rest' => ?_⟩
        · rw [List.cons_append, continueChar, if_pos hb]
          exact hmore
        · rw [List.cons_append, continueChar, if_pos hb]
          exact hstop x behind hx more c rest'
      · rw [continueChar, if_neg hb] at h
        cases h
        refine ⟨[], rfl, hcompletion, fun x behind hx more c rest' => ?_⟩
        obtain ⟨rfl, -⟩ := List.cons.inj hx
        rw [List.nil_append, continueChar, if_neg hb]
        intro h
        cases h

theorem lead?_range {n : Nat} {l : Lead} (h : lead? n = some l) :
    l.least ≤ l.greatest ∧ l.greatest ≤ 0xBF := by
  rcases lead?_cases n with hone | ⟨hleast, hlt⟩ | ⟨hleast, hlt⟩ | ⟨hleast, hlt⟩ | hnone
  · rw [lead?_one hone] at h
    obtain rfl := Option.some.inj h
    exact ⟨by simp, by simp⟩
  · rw [lead?_two hleast hlt] at h
    obtain rfl := Option.some.inj h
    exact ⟨by simp, by simp⟩
  · rw [lead?_three hleast hlt] at h
    obtain rfl := Option.some.inj h
    constructor <;> dsimp only <;> split_ifs <;> omega
  · rw [lead?_four hleast hlt] at h
    obtain rfl := Option.some.inj h
    constructor <;> dsimp only <;> split_ifs <;> omega
  · rw [hnone] at h
    exact nomatch h

/-- Octets that are not read as a code point do not begin with one. -/
theorem ne_encodeChar_append_of_step {n : Nat} (h : step b s = ⟨.invalid n reason, rest⟩) (c : Char)
    (more : Octets) : b :: s ≠ encodeChar c ++ more := by
  intro hsame
  obtain ⟨b', octets, hoctets, hstep⟩ := step_encodeChar c more
  rw [hoctets, List.cons_append] at hsame
  obtain ⟨rfl, rfl⟩ := List.cons.inj hsame
  exact nomatch h.symm.trans hstep

/-- **What is read as an invalid part is one.** -/
theorem isInvalid_of_step {n : Nat} (h : step b s = ⟨.invalid n reason, rest⟩) :
    ∃ part, b :: s = part ++ rest ∧ IsInvalid part rest := by
  have hnone := ne_encodeChar_append_of_step h
  -- A part that begins a code point would be read on to its end.
  have hreads (part : Octets) {x : UInt8} (hbegins : Begins (b :: (part ++ [x]))) :
      ∃ more c, step b (part ++ x :: more) = ⟨.char c, []⟩ := by
    obtain ⟨c, more, hmore⟩ := hbegins
    obtain ⟨b', octets, hoctets, hstep⟩ := step_encodeChar c []
    rw [hoctets, List.cons_append] at hmore
    obtain ⟨rfl, rfl⟩ := List.cons.inj hmore
    refine ⟨more, c, ?_⟩
    rwa [List.append_nil, List.append_assoc] at hstep
  cases hlead : lead? b.toNat with
  | none =>
    have hinvalid (octets : Octets) : step b octets = ⟨.invalid 1 .invalidStart, octets⟩ := by
      rw [step, hlead]
    rw [hinvalid] at h
    cases h
    refine ⟨[b], rfl, List.cons_ne_nil _ _, hnone, .inl rfl, fun x more _ hbegins => ?_⟩
    obtain ⟨more, c, hstep⟩ := hreads [] hbegins
    cases (hinvalid _).symm.trans hstep
  | some l =>
    obtain ⟨hrange, hoctet⟩ := lead?_range hlead
    have hstep (octets : Octets) :
        step b octets = continueChar l.bits 1 l.following l.least l.greatest octets :=
      step_of_lead? hlead octets
    rw [hstep] at h
    obtain ⟨read, rfl, ⟨more, c, hmore⟩, hstop⟩ := exists_of_continueChar_invalid hrange hoctet h
    have hwhole := eq_encodeChar_of_step ((hstep _).trans hmore)
    rw [List.append_nil] at hwhole
    refine ⟨b :: read, rfl, List.cons_ne_nil _ _, hnone, .inr ⟨c, more, hwhole⟩,
      fun x behind hx hbegins => ?_⟩
    obtain ⟨more, c, hchar⟩ := hreads read hbegins
    exact hstop x behind hx more c [] ((hstep _).symm.trans hchar)

/-! ### Texts -/

theorem decodeLenient_cons (b : UInt8) (s : Octets) :
    decodeLenient (b :: s) = (step b s).item.lenient :: decodeLenient (step b s).rest := by
  rw [decodeLenient, items_cons, List.map_cons]
  rfl

theorem decodeLenient_encodeChar_append (c : Char) (rest : Octets) :
    decodeLenient (encodeChar c ++ rest) = c :: decodeLenient rest := by
  rw [decodeLenient, items_encodeChar_append, List.map_cons]
  rfl

/-- An invalid part is replaced as a whole. -/
theorem IsInvalid.decodeLenient_append (h : IsInvalid part rest) :
    decodeLenient (part ++ rest) = '\uFFFD' :: decodeLenient rest := by
  obtain ⟨b, more, rfl⟩ := List.exists_cons_of_ne_nil h.ne_nil
  rw [List.cons_append, decodeLenient_cons]
  cases hstep : step b (more ++ rest) with
  | mk item behind =>
    cases item with
    | char c => exact absurd (eq_encodeChar_of_step hstep) (h.no_char c behind)
    | invalid n reason =>
      obtain ⟨part', hsame, h'⟩ := isInvalid_of_step hstep
      obtain ⟨-, rfl⟩ := h.unique h' hsame
      rfl

theorem replaced_decodeLenient (s : Octets) : Replaced s (decodeLenient s) := by
  induction hn : s.length using Nat.strong_induction_on generalizing s with
  | _ n ih =>
    cases s with
    | nil =>
      rw [decodeLenient, items_nil]
      exact .nil
    | cons b s =>
      have hlength := length_step_le b s
      rw [List.length_cons] at hn
      rw [decodeLenient_cons]
      cases hstep : step b s with
      | mk item rest =>
        rw [hstep] at hlength
        have hrest := ih rest.length (Nat.lt_of_le_of_lt hlength (by omega)) rest rfl
        cases item with
        | char c =>
          rw [eq_encodeChar_of_step hstep]
          exact .char hrest
        | invalid n reason =>
          obtain ⟨part, hpart, hinvalid⟩ := isInvalid_of_step hstep
          rw [hpart]
          exact .invalid hinvalid hrest

/-- **Lenient decoding replaces the invalid parts and nothing else.** -/
theorem replaced_iff : Replaced s t ↔ decodeLenient s = t := by
  constructor
  · intro h
    induction h with
    | nil => rw [decodeLenient, items_nil, List.map_nil]
    | char _ ih => rw [decodeLenient_encodeChar_append, ih]
    | invalid hpart _ ih => rw [hpart.decodeLenient_append, ih]
  · rintro rfl
    exact replaced_decodeLenient s

/-- Octets that are decoded strictly are decoded leniently into the same text. -/
theorem decodeLenient_of_decode (h : decode s = .ok t) : decodeLenient s = t := by
  rw [decode_eq_ok_iff] at h
  rw [decodeLenient, items_eq_map_iff.2 h, List.map_map]
  exact List.map_id t

/-- A code point is broken off, and the letter behind it kept. -/
example : decodeLenient [0x61, 0xE2, 0x82, 0x62, 0xFF] = "a\uFFFDb\uFFFD".toList := by
  decide +kernel

end Utf8
end DocExamples
