/-
# Binary64 numbers

A finite number is `m · 2^e` with `m < 2^53` and `-1074 ≤ e ≤ 971`; a decimal
`c · 10^x` stands for the nearest of them, the one with even `m` on a tie, and for
infinity from half a unit above the greatest on.  All arithmetic is exact.
-/

namespace DocExamples

/-- A decimal number `± coefficient · 10 ^ exponent`. -/
structure Decimal where
  /-- Whether the number has a minus sign. -/
  negative : Bool
  /-- The digits as a whole number. -/
  coefficient : Nat
  /-- The power of ten. -/
  exponent : Int
deriving DecidableEq, Repr

/-- The size of a binary64 number. -/
inductive Binary64 where
  /-- `mantissa · 2 ^ exponent`. -/
  | finite (mantissa : Nat) (exponent : Int)
  /-- Beyond the greatest finite number. -/
  | infinite
deriving DecidableEq, Repr

namespace Binary64

/-- A quotient rounded to the nearest whole number, a half to the even one. -/
def roundDiv (num den : Nat) : Nat :=
  let q := num / den
  let twice := 2 * (num % den)
  if twice < den || (twice == den && q % 2 == 0) then q else q + 1

/-- The least mantissa of a normal number. -/
def leastNormal : Nat := Nat.pow 2 52

/-- A fraction of positive numbers, rounded. -/
def ofRatio (num den : Nat) : Binary64 :=
  let guess : Int := (num.log2 : Int) - den.log2
  let atLeast (e : Int) : Bool :=
    if e < 0 then den ≤ num * Nat.pow 2 (-e).toNat else den * Nat.pow 2 e.toNat ≤ num
  let magnitude := if atLeast guess then guess else guess - 1
  let e := max (-1074) (magnitude - 52)
  let m := if e < 0 then roundDiv (num * Nat.pow 2 (-e).toNat) den
    else roundDiv num (den * Nat.pow 2 e.toNat)
  let m' := if m = 2 * leastNormal then leastNormal else m
  let e' := if m = 2 * leastNormal then e + 1 else e
  if e' > 971 then .infinite else .finite m' e'

/-- The size of the number that a decimal stands for. -/
def ofDecimal (d : Decimal) : Binary64 :=
  let digits : Int := (Nat.toDigits 10 d.coefficient).length
  if d.coefficient = 0 || digits + d.exponent < -330 then .finite 0 0
  else if digits + d.exponent > 310 then .infinite
  else if d.exponent < 0 then ofRatio d.coefficient (Nat.pow 10 (-d.exponent).toNat)
  else ofRatio (d.coefficient * Nat.pow 10 d.exponent.toNat) 1

end Binary64
end DocExamples
