/-
# Numerals

How numbers are written, as far as later modules rely on it: different numbers differ in their
digits, a written number holds digits and few other characters, and a number with room in a
width is no longer than that.

| numeral | holds |
| --- | --- |
| natural, decimal | digits |
| whole, decimal | digits, `-` |
| natural, hexadecimal | digits, `a` to `f` |
| decimal fraction | no line feed |
-/

import DocExamples.Decimal.Shortest
import Mathlib.Data.Nat.Digits.Defs

namespace DocExamples

namespace Text

/-! ### Whole numbers -/

theorem decimal_injective {m n : Nat} (h : decimal m = decimal n) : m = n := by
  have hread (k : Nat) : Nat.ofDigitChars 10 (decimal k) 0 = k :=
    Nat.ofDigitChars_toDigits (by decide) (Nat.le_refl 10)
  rw [← hread m, h, hread]

theorem notMem_decimal {c : Char} (h : c.isDigit = false) (n : Nat) : c ∉ decimal n := by
  intro hc
  have hdigit := Nat.isDigit_of_mem_toDigits (by decide) (by decide) hc
  exact absurd hdigit (by simp [h])

theorem notMem_integer {c : Char} (h : c.isDigit = false) (hminus : c ≠ '-') (n : Int) :
    c ∉ integer n := by
  cases n with
  | ofNat n => exact notMem_decimal h n
  | negSucc n =>
    rw [integer, List.mem_cons, not_or]
    exact ⟨hminus, notMem_decimal h _⟩

/-- A character that is none of the digits of a base is not in a number to that base. -/
theorem notMem_toDigits {c : Char} {b : Nat} (hb : 1 < b) (h : ∀ k < b, Nat.digitChar k ≠ c)
    (n : Nat) : c ∉ Nat.toDigits b n := by
  induction n using Nat.strongRecOn with
  | ind n ih =>
    rw [Nat.toDigits_eq_if hb]
    split
    · next hlt => exact fun hc => h n hlt (List.mem_singleton.1 hc).symm
    · next hle =>
      have hsmaller : n / b < n := Nat.div_lt_self (by omega) hb
      have hlast : Nat.digitChar (n % b) ≠ c := h _ (Nat.mod_lt _ (by omega))
      rw [List.mem_append, List.mem_singleton, not_or]
      exact ⟨ih _ hsmaller, hlast.symm⟩

theorem notMem_hexadecimal {c : Char} (h : ∀ k < 16, Nat.digitChar k ≠ c) (width n : Nat) :
    c ∉ hexadecimal width n := by
  have hzero : c ≠ '0' := (h 0 (by decide)).symm
  rw [hexadecimal, List.mem_append, not_or]
  exact ⟨fun hc => hzero (List.eq_of_mem_replicate hc), notMem_toDigits (by decide) h n⟩

/-- What holds of all digits holds of all characters of a number. -/
theorem forall_hexadecimal {P : Char → Prop} (h : ∀ k < 16, P (Nat.digitChar k)) (width n : Nat) :
    ∀ c ∈ hexadecimal width n, P c := by
  intro c hc
  by_contra hno
  refine notMem_hexadecimal (fun k hk => ?_) width n hc
  rintro rfl
  exact hno (h k hk)

theorem length_hexadecimal_le {width n : Nat} (hwidth : 0 < width) (h : n < 16 ^ width) :
    (hexadecimal width n).length ≤ width := by
  have hdigits := Nat.toDigits_length 16 n width hwidth h
  simp only [hexadecimal, List.length_append, List.length_replicate]
  omega

theorem mem_of_mem_withoutFinal {c d : Char} {s : Text} (h : c ∈ withoutFinal d s) : c ∈ s := by
  rw [withoutFinal, List.mem_reverse] at h
  exact List.mem_reverse.1 (List.dropWhile_subset _ h)

end Text

/-! ### Decimal fractions -/

namespace Decimal

theorem lineFeed_notMem_digits_shortest (m : Nat) (e : Int) : '\n' ∉ (shortest m e).digits := by
  simp only [shortest]
  split
  · next ds h =>
    obtain ⟨i, -, hi⟩ := List.exists_of_findSome?_eq_some h
    obtain ⟨d, -, rfl⟩ := Option.map_eq_some_iff.1 hi
    exact fun hc => Text.notMem_decimal (by decide) d (Text.mem_of_mem_withoutFinal hc)
  · decide

theorem lineFeed_notMem_shown_digits {ds : Digits} (h : '\n' ∉ ds.digits) : '\n' ∉ ds.shown := by
  have hdigits : '\n' ∉ Text.decimal ds.magnitude.natAbs := Text.notMem_decimal (by decide) _
  have htake (n : Nat) : '\n' ∉ ds.digits.take n := fun hc => h (List.mem_of_mem_take hc)
  have hdrop (n : Nat) : '\n' ∉ ds.digits.drop n := fun hc => h (List.mem_of_mem_drop hc)
  have hzeros (n : Nat) : '\n' ∉ List.replicate n '0' := fun hc =>
    absurd (List.eq_of_mem_replicate hc) (by decide)
  simp only [Digits.shown]
  split
  · have hfraction : '\n' ∉ if (ds.digits.drop 1).isEmpty then [] else '.' :: ds.digits.drop 1 := by
      split
      · exact List.not_mem_nil
      · exact List.not_mem_cons_of_ne_of_not_mem (by decide) (hdrop 1)
    have hletter : '\n' ∉ if ds.magnitude < 0 then "e-".toList else "e+".toList := by
      split <;> decide
    simp only [List.mem_append, not_or]
    exact ⟨⟨⟨⟨htake 1, hfraction⟩, hletter⟩, hzeros _⟩, hdigits⟩
  · split
    · simp only [List.mem_append, not_or]
      exact ⟨⟨by decide, hzeros _⟩, h⟩
    · have hfraction : '\n' ∉ if (ds.digits.drop (ds.magnitude.toNat + 1)).isEmpty then ['0']
          else ds.digits.drop (ds.magnitude.toNat + 1) := by
        split
        · decide
        · exact hdrop _
      simp only [List.mem_append, List.mem_cons, not_or]
      exact ⟨⟨htake _, hzeros _⟩, by decide, hfraction⟩

theorem lineFeed_notMem_shown (d : Decimal) : '\n' ∉ d.shown := by
  have hsign : '\n' ∉ if d.negative then ['-'] else [] := by split <;> decide
  rw [shown, List.mem_append, not_or]
  refine ⟨hsign, ?_⟩
  split
  · decide
  · decide
  · exact lineFeed_notMem_shown_digits (lineFeed_notMem_digits_shortest _ _)

end Decimal

end DocExamples
