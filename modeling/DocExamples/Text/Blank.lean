/-
# Blanks

The white space of the Unicode standard, together with the four separators
U+001C to U+001F: these are the characters that separate words, that stand
around a stripped text, and that make up a blank line.
-/

import DocExamples.Text.Basic

namespace DocExamples
namespace Text

/-- White space: the ASCII controls from tab to carriage return and from file
separator to unit separator, the space, and the white space beyond ASCII. -/
def isBlank (c : Char) : Bool :=
  let n := c.toNat
  (9 ≤ n && n ≤ 13) || (0x1C ≤ n && n ≤ 0x20) || n == 0x85 || n == 0xA0 || n == 0x1680 ||
    (0x2000 ≤ n && n ≤ 0x200A) || n == 0x2028 || n == 0x2029 || n == 0x202F || n == 0x205F ||
    n == 0x3000

/-- A space or a tab. -/
def isGap (c : Char) : Bool := c == ' ' || c == '\t'

theorem isBlank_of_isGap {c : Char} (h : isGap c) : isBlank c := by
  simp only [isGap, Bool.or_eq_true, beq_iff_eq] at h
  rcases h with rfl | rfl <;> rfl

/-- A text without the blanks at its start. -/
def stripLeft (s : Text) : Text := s.dropWhile isBlank

/-- A text without the blanks at its end. -/
def stripRight (s : Text) : Text := (s.reverse.dropWhile isBlank).reverse

/-- A text without the blanks around it. -/
def strip (s : Text) : Text := stripRight (stripLeft s)

/-- Whether a text consists of blanks only. -/
def isBlankLine (s : Text) : Bool := s.all isBlank

theorem stripLeft_eq_nil_iff {s : Text} : stripLeft s = [] ↔ isBlankLine s := by
  induction s with
  | nil => simp [stripLeft, isBlankLine]
  | cons c s ih =>
    simp only [stripLeft, isBlankLine, List.dropWhile_cons, List.all_cons] at ih ⊢
    cases isBlank c <;> simp [ih]

theorem stripRight_eq_nil_iff {s : Text} : stripRight s = [] ↔ isBlankLine s := by
  rw [stripRight, List.reverse_eq_nil_iff, ← stripLeft, stripLeft_eq_nil_iff, isBlankLine,
    List.all_reverse, isBlankLine]

/-- A text is blank exactly if stripping leaves nothing of it. -/
theorem strip_eq_nil_iff {s : Text} : strip s = [] ↔ isBlankLine s := by
  rw [strip, stripRight_eq_nil_iff, ← stripLeft_eq_nil_iff (s := s)]
  cases ht : stripLeft s with
  | nil => simp [isBlankLine]
  | cons c t =>
    have hc := List.head?_dropWhile_not isBlank s
    rw [show s.dropWhile isBlank = c :: t from ht] at hc
    simp_all [isBlankLine]

end Text
end DocExamples
