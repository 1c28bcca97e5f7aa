/-
# Written texts and numbers are read back

A character between quotes is written in one of four ways, and each of them is read as this
one character whatever follows it:

| character | is written as |
| --- | --- |
| quotation mark, backslash, five controls | backslash and a letter |
| other printable ASCII | itself |
| up to U+FFFF | `\u` and four digits |
| beyond | two such escapes, the halves of a surrogate pair |

An escape of four digits could be misread only as the first half of a pair.  It never is,
since no character has the number of a half.
-/

import Mathlib.Data.List.TakeWhile
import DocExamples.Json.Reader
import DocExamples.Json.Writer
import DocExamples.Proofs.Numerals

namespace DocExamples

namespace Text

/-! ### Digits -/

theorem hexadecimal_one {n : Nat} (h : n < 16) : hexadecimal 1 n = [Nat.digitChar n] := by
  rw [hexadecimal, Nat.toDigits_of_lt_base h]
  rfl

/-- The last digit of a number in hexadecimal digits. -/
theorem hexadecimal_succ {width : Nat} (hwidth : 0 < width) (n : Nat) :
    hexadecimal (width + 1) n = hexadecimal width (n / 16) ++ [Nat.digitChar (n % 16)] := by
  rw [hexadecimal, hexadecimal, Nat.toDigits_eq_if (n := n) (by decide)]
  split
  · next hlt =>
    obtain ⟨w, rfl⟩ := Nat.exists_eq_add_of_le' hwidth
    have hzero : n / 16 = 0 := Nat.div_eq_of_lt hlt
    have hdigits : Nat.toDigits 16 0 = ['0'] := Nat.toDigits_of_lt_base (by decide)
    rw [hzero, hdigits, Nat.mod_eq_of_lt hlt]
    simp only [List.length_singleton, Nat.add_sub_cancel]
    rw [List.replicate_succ', List.append_assoc]
  · next hle =>
    simp only [List.length_append, List.length_singleton, Nat.add_sub_add_right,
      List.append_assoc]

theorem head?_decimal_ne {n : Nat} (h : 0 < n) : (decimal n).head? ≠ some '0' := by
  induction n using Nat.strongRecOn with
  | ind n ih =>
    rw [decimal, Nat.toDigits_eq_if (by decide)]
    split
    · next hlt =>
      have hdigit : ∀ k < 10, 0 < k → some (Nat.digitChar k) ≠ some '0' := by decide
      exact hdigit n hlt h
    · next hle =>
      have hsmaller : n / 10 < n := Nat.div_lt_self h (by decide)
      have hpos : 0 < n / 10 := Nat.div_pos (Nat.le_of_not_lt hle) (by decide)
      rw [List.head?_append, Option.or_of_isSome (by simp [Nat.toDigits_ne_nil])]
      exact ih _ hsmaller hpos

theorem decimal_ne_nil (n : Nat) : decimal n ≠ [] := Nat.toDigits_ne_nil

theorem isDigit_of_mem_decimal {c : Char} {n : Nat} (h : c ∈ decimal n) : c.isDigit = true :=
  Nat.isDigit_of_mem_toDigits (by decide) (by decide) h

end Text

namespace Json
namespace Token
open Text

/-! ### Written characters -/

theorem toNat_lt (c : Char) : c.toNat < 0x110000 := by
  rcases c.valid with hlt | ⟨-, hlt⟩
  · exact Nat.lt_trans hlt (by decide)
  · exact hlt

/-- Printable ASCII. -/
def IsPrintable (c : Char) : Prop := 0x20 ≤ c.toNat ∧ c.toNat ≤ 0x7E

instance (c : Char) : Decidable (IsPrintable c) := inferInstanceAs (Decidable (_ ∧ _))

/-- The ways in which a character is written. -/
inductive Spelling (c : Char) : Text → Prop
  /-- As a letter behind a backslash. -/
  | letter (x : Char) (read : escaped? x = some c) : Spelling c ['\\', x]
  /-- As it is. -/
  | plain (quote : c ≠ '"') (slash : c ≠ '\\') (printable : IsPrintable c) : Spelling c [c]
  /-- As the escape of its number. -/
  | short (small : c.toNat < 0x10000) : Spelling c (unitEscape c.toNat)
  /-- As the escapes of both halves of a pair. -/
  | long (large : ¬ c.toNat < 0x10000) :
      Spelling c (unitEscape (0xD800 + (c.toNat - 0x10000) / 0x400) ++
        unitEscape (0xDC00 + (c.toNat - 0x10000) % 0x400))

theorem spelling_escape (c : Char) : Spelling c (escape c) := by
  unfold escape
  split_ifs with hquoted hfeed hreturn htab hback hform hprintable hshort
  · rcases hquoted with rfl | rfl
    · exact .letter '"' rfl
    · exact .letter '\\' rfl
  · exact .letter 'n' (hfeed ▸ rfl)
  · exact .letter 'r' (hreturn ▸ rfl)
  · exact .letter 't' (htab ▸ rfl)
  · exact .letter 'b' (hback ▸ rfl)
  · exact .letter 'f' (hform ▸ rfl)
  · rw [not_or] at hquoted
    exact .plain hquoted.1 hquoted.2 ⟨hprintable.1, Nat.le_of_lt_succ hprintable.2⟩
  · exact .short hshort
  · exact .long hshort

theorem isPrintable_unitEscape (n : Nat) : ∀ d ∈ unitEscape n, IsPrintable d := by
  have hdigit : ∀ k < 16, IsPrintable (Nat.digitChar k) := by decide
  exact List.forall_mem_cons.2 ⟨by decide, List.forall_mem_cons.2
    ⟨by decide, Text.forall_hexadecimal hdigit 4 n⟩⟩

theorem isPrintable_of_escaped? {c x : Char} (h : escaped? x = some c) : IsPrintable x := by
  unfold escaped? at h
  split at h
  all_goals first | decide | exact nomatch h

/-- **A character is written in printable ASCII.** -/
theorem Spelling.isPrintable {c : Char} {text : Text} (h : Spelling c text) :
    ∀ d ∈ text, IsPrintable d := by
  cases h with
  | letter x read =>
    exact List.forall_mem_cons.2
      ⟨by decide, List.forall_mem_singleton.2 (isPrintable_of_escaped? read)⟩
  | plain _ _ printable => exact List.forall_mem_singleton.2 printable
  | short => exact isPrintable_unitEscape _
  | long => exact List.forall_mem_append.2 ⟨isPrintable_unitEscape _, isPrintable_unitEscape _⟩

/-! ### Escapes -/

theorem hexValue?_digitChar : ∀ k < 16, hexValue? (Nat.digitChar k) = some k := by decide

/-- The four digits of an escape are read as its number. -/
theorem exists_unit?_eq {n : Nat} (h : n < 0x10000) :
    ∃ a b c d, unitEscape n = ['\\', 'u', a, b, c, d] ∧ unit? a b c d = some n := by
  refine ⟨Nat.digitChar (n / 16 / 16 / 16), Nat.digitChar (n / 16 / 16 % 16),
    Nat.digitChar (n / 16 % 16), Nat.digitChar (n % 16), ?_, ?_⟩
  · rw [unitEscape, hexadecimal_succ (by decide), hexadecimal_succ (by decide),
      hexadecimal_succ (by decide), hexadecimal_one (by omega)]
    rfl
  · have hdigit {k : Nat} (hk : k < 16) := hexValue?_digitChar k hk
    rw [unit?, hdigit (by omega), hdigit (by omega), hdigit (by omega), hdigit (by omega)]
    refine congrArg some ?_
    omega

/-- Half of a surrogate pair. -/
def IsHalf (n : Nat) : Prop := 0xD800 ≤ n ∧ n < 0xE000

theorem scalar?_eq_some {n : Nat} (h : ¬ IsHalf n) : scalar? n = some (Char.ofNat n) := by
  rw [scalar?, if_neg (by simpa [IsHalf] using h)]

/-- An escape that is no half of a pair is read by itself. -/
theorem readText_unitEscape {n : Nat} (h : n < 0x10000) (hhalf : ¬ IsHalf n) (done rest : Text) :
    readText done (unitEscape n ++ rest) = readText (Char.ofNat n :: done) rest := by
  obtain ⟨a, b, c, d, hescape, hunit⟩ := exists_unit?_eq h
  rw [hescape]
  by_cases hrest : ∃ e f g h s, rest = '\\' :: 'u' :: e :: f :: g :: h :: s
  · obtain ⟨e, f, g, h, s, rfl⟩ := hrest
    simp only [List.cons_append, List.nil_append]
    rw [readText.eq_3, hunit]
    cases unit? e f g h with
    | none => simp only [scalar?_eq_some hhalf]
    | some low =>
      have hsingle : ¬ (0xD800 ≤ n && n < 0xDC00 && 0xDC00 ≤ low && low < 0xE000) = true := by
        intro hpair
        simp only [Bool.and_eq_true, decide_eq_true_eq] at hpair
        exact hhalf ⟨hpair.1.1.1, by omega⟩
      simp only [if_neg hsingle, scalar?_eq_some hhalf]
  · simp only [List.cons_append, List.nil_append]
    rw [readText.eq_4 _ _ _ _ _ _ fun e f g h s hs => hrest ⟨e, f, g, h, s, hs⟩, hunit,
      Option.bind_some, scalar?_eq_some hhalf]

/-- The escapes of both halves of a pair are read as one character. -/
theorem readText_pair {n : Nat} (h : n < 0x100000) (done rest : Text) :
    readText done (unitEscape (0xD800 + n / 0x400) ++ (unitEscape (0xDC00 + n % 0x400) ++ rest)) =
      readText (Char.ofNat (0x10000 + n) :: done) rest := by
  obtain ⟨a, b, c, d, hhigh, hunit⟩ := exists_unit?_eq (n := 0xD800 + n / 0x400) (by omega)
  obtain ⟨e, f, g, k, hlow, hunit'⟩ := exists_unit?_eq (n := 0xDC00 + n % 0x400) (by omega)
  have hpair : (0xD800 ≤ 0xD800 + n / 0x400 && 0xD800 + n / 0x400 < 0xDC00 &&
      0xDC00 ≤ 0xDC00 + n % 0x400 && 0xDC00 + n % 0x400 < 0xE000) = true := by
    simp only [Bool.and_eq_true, decide_eq_true_eq]
    omega
  have hnumber : 0x10000 + (0xD800 + n / 0x400 - 0xD800) * 0x400 + (0xDC00 + n % 0x400 - 0xDC00) =
      0x10000 + n := by omega
  rw [hhigh, hlow]
  simp only [List.cons_append, List.nil_append]
  rw [readText.eq_3, hunit, hunit']
  simp only [hpair, if_true, hnumber]

/-- A letter behind a backslash is read as what it stands for. -/
theorem readText_letter {c x : Char} (hc : c ≠ 'u') (hx : escaped? c = some x) (done rest : Text) :
    readText done ('\\' :: c :: rest) = readText (x :: done) rest := by
  rw [readText.eq_5 _ _ _ (fun _ _ _ _ _ _ _ _ _ h _ => hc h) (fun _ _ _ _ _ h _ => hc h), hx]

/-- A printable character other than a quotation mark or a backslash is read as itself. -/
theorem readText_printable {c : Char} (hquote : c ≠ '"') (hslash : c ≠ '\\') (hc : 0x20 ≤ c.toNat)
    (done rest : Text) : readText done (c :: rest) = readText (c :: done) rest := by
  have hallowed : ¬ (decide (c.toNat < 0x20) || decide (c = '\\')) = true := by
    simp only [Bool.or_eq_true, decide_eq_true_eq, not_or]
    exact ⟨Nat.not_lt.2 hc, hslash⟩
  rw [readText.eq_6 _ _ _ hquote (fun _ _ _ _ _ _ _ _ _ h _ => hslash h)
    (fun _ _ _ _ _ h _ => hslash h) (fun _ _ h _ => hslash h), if_neg hallowed]

/-- The number of a character is that of no half of a pair. -/
theorem not_isHalf_toNat (c : Char) : ¬ IsHalf c.toNat := by
  rintro ⟨hlow, hhigh⟩
  rcases c.valid with hlt | ⟨hlt, -⟩
  · exact absurd hlow (Nat.not_le.2 hlt)
  · exact absurd hlt (Nat.not_lt.2 (Nat.le_of_lt_succ hhigh))

/-- **A written character is read as this character**, whatever follows it. -/
theorem readText_escape (c : Char) (done rest : Text) :
    readText done (escape c ++ rest) = readText (c :: done) rest := by
  have hspelling := spelling_escape c
  generalize escape c = text at hspelling
  cases hspelling with
  | letter x read =>
    have hx : x ≠ 'u' := by
      rintro rfl
      exact nomatch read
    exact readText_letter hx read done rest
  | plain quote slash printable => exact readText_printable quote slash printable.1 done rest
  | short small => rw [readText_unitEscape small (not_isHalf_toNat c), Char.ofNat_toNat]
  | long large =>
    have hlt := toNat_lt c
    rw [List.append_assoc, readText_pair (by omega), Nat.add_sub_cancel' (Nat.le_of_not_lt large),
      Char.ofNat_toNat]

/-- A character beyond U+FFFF is written as two escapes. -/
example : escape (Char.ofNat 0x1F600) = "\\ud83d\\ude00".toList := by decide

/-- A text is read up to the quotation mark behind it. -/
theorem readText_flatMap_escape (s done rest : Text) :
    readText done (s.flatMap escape ++ '"' :: rest) = some ⟨done.reverse ++ s, rest⟩ := by
  induction s generalizing done with
  | nil => rw [List.flatMap_nil, List.nil_append, readText.eq_2, List.append_nil]
  | cons c s ih =>
    rw [List.flatMap_cons, List.append_assoc, readText_escape, ih, List.reverse_cons,
      List.append_assoc, List.singleton_append]

/-! ### Whole numbers -/

theorem digitsValue_decimal (n : Nat) : digitsValue (Text.decimal n) = n :=
  Nat.ofDigitChars_toDigits (by decide) (Nat.le_refl 10)

theorem number?_decimal (negative : Bool) (n : Nat) :
    number? negative (Text.decimal n) = some (.int (if negative then -n else n)) := by
  have hall : ∀ c ∈ Text.decimal n, c.isDigit = true := fun c hc => isDigit_of_mem_decimal hc
  have hwhole : (Text.decimal n).takeWhile Char.isDigit = Text.decimal n :=
    List.takeWhile_eq_self_iff.2 hall
  have hrest : (Text.decimal n).dropWhile Char.isDigit = [] := List.dropWhile_eq_nil_iff.2 hall
  have hplain : ¬ ((Text.decimal n).isEmpty || (decide ((Text.decimal n).head? = some '0') &&
      decide ((Text.decimal n).length > 1))) = true := by
    simp only [Bool.or_eq_true, Bool.and_eq_true, List.isEmpty_iff, decide_eq_true_eq, not_or]
    refine ⟨decimal_ne_nil n, ?_⟩
    rintro ⟨hhead, hlong⟩
    rcases Nat.eq_zero_or_pos n with rfl | hpos
    · exact absurd hlong (by decide)
    · exact head?_decimal_ne hpos hhead
  simp only [number?, hwhole, hrest, if_neg hplain, digitsValue_decimal]

theorem scalarValue?_integer (n : Int) : scalarValue? (integer n) = some (.int n) := by
  have hword {w : Text} (c : Char) (hc : c ∈ w) (hdigit : c.isDigit = false) (hminus : c ≠ '-') :
      integer n ≠ w := fun h => notMem_integer hdigit hminus n (h ▸ hc)
  unfold scalarValue?
  rw [if_neg (hword 'n' (by decide) rfl (by decide)),
    if_neg (hword 't' (by decide) rfl (by decide)), if_neg (hword 'f' (by decide) rfl (by decide))]
  cases n with
  | ofNat n =>
    have hminus : '-' ∉ Text.decimal n := notMem_decimal rfl n
    rw [Text.integer]
    split
    · next s hs => exact absurd (hs ▸ List.mem_cons_self) hminus
    · rw [number?_decimal]
      rfl
  | negSucc n =>
    rw [Text.integer]
    simp only [number?_decimal, if_true]
    rfl

/-- A number can be read off its numeral. -/
theorem integer_injective {m n : Int} (h : integer m = integer n) : m = n := by
  have hread := congrArg scalarValue? h
  rw [scalarValue?_integer, scalarValue?_integer] at hread
  exact Json.int.inj (Option.some.inj hread)

theorem isScalarPart_of_mem_integer {n : Int} {c : Char} (h : c ∈ integer n) :
    isScalarPart c = true := by
  have hdigit {k : Nat} (hc : c ∈ Text.decimal k) : isScalarPart c = true := by
    simp [isScalarPart, Char.isAlphanum, isDigit_of_mem_decimal hc]
  cases n with
  | ofNat n => exact hdigit h
  | negSucc n =>
    rcases List.mem_cons.1 h with rfl | hc
    · rfl
    · exact hdigit hc

end Token
end Json
end DocExamples
