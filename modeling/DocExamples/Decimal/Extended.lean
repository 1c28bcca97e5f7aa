/-
# Numbers with 64 binary digits

A finite number is `m · 2^e` with `m < 2^64` and `-16445 ≤ e ≤ 16320`; a fraction
stands for the nearest of them, the one with even `m` on a tie.  All arithmetic is
exact.
-/

import DocExamples.Decimal.Places

namespace DocExamples

/-- The size of a number with 64 binary digits. -/
inductive Extended where
  /-- `mantissa · 2 ^ exponent`. -/
  | finite (mantissa : Nat) (exponent : Int)
  /-- Beyond the greatest finite number. -/
  | infinite
deriving DecidableEq, Repr

namespace Extended

/-- The least mantissa of a normal number. -/
def leastNormal : Nat := Nat.pow 2 63

/-- A fraction, rounded. -/
def ofRatio (num den : Nat) : Extended :=
  let guess : Int := (num.log2 : Int) - den.log2
  let atLeast (e : Int) : Bool :=
    if e < 0 then den ≤ num * Nat.pow 2 (-e).toNat else den * Nat.pow 2 e.toNat ≤ num
  let magnitude := if atLeast guess then guess else guess - 1
  let e : Int := if magnitude - 63 < -16445 then -16445 else magnitude - 63
  let m := if e < 0 then Binary64.roundDiv (num * Nat.pow 2 (-e).toNat) den
    else Binary64.roundDiv num (den * Nat.pow 2 e.toNat)
  let isOver := m = 2 * leastNormal
  let e' := if isOver then e + 1 else e
  if num = 0 then .finite 0 0
  else if e' > 16320 then .infinite
  else .finite (if isOver then leastNormal else m) e'

/-- The number `m · 2^e` in hexadecimal digits and with a power of two: four binary digits
before the point and fifteen hexadecimal digits behind it, or as many as are asked for. -/
def binary (l : Decimal.Layout) (places : Option Nat) (m : Nat) (e : Int) : Text :=
  let width := 15
  let x := if m = 0 then 0 else e + 60
  let n := match places with
    | some p =>
      if p < width then Binary64.roundDiv m (Nat.pow 16 (width - p))
      else m * Nat.pow 16 (p - width)
    | none => m
  let digits := Text.hexadecimal (places.getD width + 1) n
  let behind := digits.drop 1
  let behind := if places.isNone then Text.withoutFinal '0' behind else behind
  l.cased ("0x".toList ++ digits.take 1 ++ l.fraction behind) ++ l.power 'p' 1 x

example : ofRatio 1 10 = .finite 0xCCCCCCCCCCCCCCCD (-67) := by decide +kernel

example :
    binary ⟨false, false⟩ none 0xCCCCCCCCCCCCCCCD (-67) = "0xc.ccccccccccccccdp-7".toList := by
  decide +kernel

end Extended
end DocExamples
