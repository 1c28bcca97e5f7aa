/-
# Decimals with a given number of places

A number `num / den` is shown with as many digits as are asked for, rounded to the
nearest and a half to the even digit.  All arithmetic is exact.

| form | digits behind the point | written as |
| --- | --- | --- |
| fixed | `p` | `123.46` |
| scientific | `p`, behind one digit that is not zero | `1.23e+02` |
| general | at most `p` digits in all, zeros at the end dropped | the shorter of the two |
| binary | as many hexadecimal digits as needed, or `p` | `0x1.8p+1` |
-/

import DocExamples.Decimal.Binary64
import DocExamples.Text.Numeral

namespace DocExamples
namespace Decimal

/-- A number that is not negative, as a quotient. -/
structure Quotient where
  /-- What is divided. -/
  num : Nat
  /-- What it is divided by. -/
  den : Nat

namespace Quotient

/-- The number `m · 2^e`. -/
def ofBinary (m : Nat) (e : Int) : Quotient :=
  ⟨m * Nat.pow 2 e.toNat, Nat.pow 2 (-e).toNat⟩

/-- The nearest multiple of `10^y`, in that unit. -/
def rounded (q : Quotient) (y : Int) : Nat :=
  Binary64.roundDiv (q.num * Nat.pow 10 (-y).toNat) (q.den * Nat.pow 10 y.toNat)

/-- The power of ten of the first digit; zero for zero. -/
def magnitude (q : Quotient) : Int :=
  let atLeast (y : Int) : Bool :=
    decide (q.den * Nat.pow 10 y.toNat ≤ q.num * Nat.pow 10 (-y).toNat)
  let size (n : Nat) : Int := (Nat.toDigits 10 n).length
  let guess := size q.num - size q.den
  if q.num = 0 then 0 else if atLeast guess then guess else guess - 1

/-- The first digits, so many behind the first one, and the power of ten of the first. -/
def leading (q : Quotient) (places : Nat) : Text × Int :=
  let x := q.magnitude
  let digits := Text.decimal (q.rounded (x - places))
  if places + 1 < digits.length then (digits.dropLast, x + 1)
  else (digits ++ List.replicate (places + 1 - digits.length) '0', x)

end Quotient

/-- How a number with a given number of digits is written. -/
structure Layout where
  /-- Whether a point is written even if no digit follows, and zeros at the end are kept. -/
  full : Bool
  /-- Whether letters are capitals. -/
  capital : Bool

namespace Layout

/-- A part behind the point, with the point. -/
def fraction (l : Layout) (digits : Text) : Text :=
  if digits.isEmpty && !l.full then [] else '.' :: digits

/-- Text with capitals if the layout asks for them. -/
def cased (l : Layout) (s : Text) : Text := if l.capital then s.map Char.toUpper else s

/-- An exponent behind its letter, with a sign and at least so many digits. -/
def power (l : Layout) (letter : Char) (least : Nat) (x : Int) : Text :=
  let size := Text.decimal x.natAbs
  l.cased [letter] ++ (if x < 0 then ['-'] else ['+']) ++
    List.replicate (least - size.length) '0' ++ size

/-- A number with so many digits behind the point. -/
def fixed (l : Layout) (places : Nat) (q : Quotient) : Text :=
  let digits := Text.decimal (q.rounded (-(places : Int)))
  let digits := List.replicate (places + 1 - digits.length) '0' ++ digits
  let whole := digits.length - places
  digits.take whole ++ l.fraction (digits.drop whole)

/-- A number with so many digits behind its first one, and an exponent. -/
def scientific (l : Layout) (places : Nat) (q : Quotient) : Text :=
  let (digits, x) := q.leading places
  digits.take 1 ++ l.fraction (digits.drop 1) ++ l.power 'e' 2 x

/-- A number with so many digits in all: written out from `0.0001` up to where the digits
end, and with an exponent otherwise. -/
def general (l : Layout) (count : Nat) (q : Quotient) : Text :=
  let count := max count 1
  let (digits, x) := q.leading (count - 1)
  let kept (s : Text) : Text := if l.full then s else Text.withoutFinal '0' s
  if x < -4 ∨ (count : Int) ≤ x then
    digits.take 1 ++ l.fraction (kept (digits.drop 1)) ++ l.power 'e' 2 x
  else if x < 0 then
    '0' :: l.fraction (kept (List.replicate (x.natAbs - 1) '0' ++ digits))
  else
    let whole := x.toNat + 1
    digits.take whole ++ l.fraction (kept (digits.drop whole))

/-- The number `m · 2^e` in hexadecimal digits and with a power of two: one binary digit
before the point and thirteen digits behind it, or as many as are asked for. -/
def binary (l : Layout) (places : Option Nat) (m : Nat) (e : Int) : Text :=
  let width := 13
  let x := if m = 0 then 0 else e + 52
  let n := match places with
    | some p =>
      if p < width then Binary64.roundDiv m (Nat.pow 16 (width - p))
      else m * Nat.pow 16 (p - width)
    | none => m
  let digits := Text.hexadecimal (places.getD width + 1) n
  let behind := digits.drop 1
  let behind := if places.isNone then Text.withoutFinal '0' behind else behind
  l.cased ("0x".toList ++ digits.take 1 ++ l.fraction behind) ++ l.power 'p' 1 x

end Layout

example : Layout.fixed ⟨false, false⟩ 2 ⟨314159, 100000⟩ = "3.14".toList := by decide +kernel

example : Layout.scientific ⟨false, false⟩ 1 ⟨999, 10⟩ = "1.0e+02".toList := by decide +kernel

example : Layout.general ⟨false, false⟩ 6 ⟨1, 10000⟩ = "0.0001".toList := by decide +kernel

example : Layout.binary ⟨false, false⟩ none (3 * Nat.pow 2 51) (-51) = "0x1.8p+1".toList := by
  decide +kernel

end Decimal
end DocExamples
