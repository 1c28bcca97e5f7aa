/-
# The shortest decimal that reads back

A finite number `v` is shown with the fewest digits for which some decimal still
rounds to `v`, and among those with the decimal nearest to `v`.  The reals that
round to `v = m · 2^e` lie within half a unit of `m` (a quarter below, where `m`
is the least mantissa of its exponent), the ends included exactly if `m` is even.
On the grid of the decimals with `n` digits only the two neighbours of `v` need
to be tried.

The digits are written positionally from `0.0001` up to `10^16`, and with an
exponent of at least two digits otherwise.
-/

import DocExamples.Decimal.Binary64
import DocExamples.Text.Numeral

namespace DocExamples
namespace Decimal

/-- A number in units of `10 ^ -400`, which is finer than any digit shown. -/
def scale : Nat := Nat.pow 10 400

/-- The real numbers that round to a binary64 number, all in units of
`2 ^ (exponent - 2)`. -/
structure Rounding where
  /-- The least number. -/
  low : Nat
  /-- The number itself. -/
  value : Nat
  /-- The greatest number. -/
  high : Nat
  /-- The power of two of the unit. -/
  exponent : Int
  /-- Whether the ends round to the number too. -/
  closed : Bool

/-- The numbers that round to `m · 2^e`. -/
def rounding (m : Nat) (e : Int) : Rounding where
  low := if m = Binary64.leastNormal ∧ e > -1074 then 4 * m - 1 else 4 * m - 2
  value := 4 * m
  high := 4 * m + 2
  exponent := e - 2
  closed := m % 2 = 0

/-- `n · 2^x` and `d · 10^y` brought to a common unit, left side first. -/
structure Compared where
  /-- The binary side. -/
  binary : Nat
  /-- The decimal side. -/
  decimal : Nat

/-- Both sides as whole numbers of one unit. -/
def compared (n : Nat) (x : Int) (d : Nat) (y : Int) : Compared where
  binary := n * Nat.pow 2 x.toNat * Nat.pow 10 (-y).toNat
  decimal := d * Nat.pow 10 y.toNat * Nat.pow 2 (-x).toNat

/-- Whether `d · 10^y` rounds to the number. -/
def Rounding.holds (r : Rounding) (d : Nat) (y : Int) : Bool :=
  let low := compared r.low r.exponent d y
  let high := compared r.high r.exponent d y
  if r.closed then low.binary ≤ low.decimal && high.decimal ≤ high.binary
  else low.binary < low.decimal && high.decimal < high.binary

/-- The decimal with last place `y` that the number rounds to, if it reads back. -/
def Rounding.atPlace? (r : Rounding) (y : Int) : Option Nat :=
  let c := compared r.value r.exponent 1 y
  let below := c.binary / c.decimal
  let gap := 2 * (c.binary % c.decimal)
  let near := if gap < c.decimal || (gap == c.decimal && below % 2 == 0) then below else below + 1
  let far := if near = below then below + 1 else below
  [near, far].find? (r.holds · y)

/-- How many digits the number has before the point, less one; negative for the
zeros behind it. -/
def Rounding.magnitude (r : Rounding) : Int :=
  let c := compared (r.value * scale) r.exponent 1 0
  ((Nat.toDigits 10 (c.binary / c.decimal)).length : Int) - 401

/-- Digits without the zeros at their end. -/
def significant (n : Nat) : Text := Text.withoutFinal '0' (Text.decimal n)

/-- The digits that show `m · 2^e`, and the place of the first of them. -/
structure Digits where
  /-- The digits, without zeros at either end. -/
  digits : Text
  /-- The power of ten of the first digit. -/
  magnitude : Int

/-- The shortest digits of a positive number. -/
def shortest (m : Nat) (e : Int) : Digits :=
  let r := rounding m e
  match (List.range 17).findSome? fun (i : Nat) =>
      (r.atPlace? (r.magnitude - i)).map fun d => Digits.mk (significant d)
        (r.magnitude - (i : Int) + (Text.decimal d).length - 1) with
  | some ds => ds
  | none => ⟨['0'], 0⟩

/-- Digits written out: positionally where the first digit is not far from the
point, otherwise with an exponent. -/
def Digits.shown (ds : Digits) : Text :=
  if ds.magnitude < -4 ∨ 16 ≤ ds.magnitude then
    let size := Text.decimal ds.magnitude.natAbs
    let fraction := ds.digits.drop 1
    ds.digits.take 1 ++ (if fraction.isEmpty then [] else '.' :: fraction) ++
      (if ds.magnitude < 0 then "e-".toList else "e+".toList) ++
      List.replicate (2 - size.length) '0' ++ size
  else if ds.magnitude < 0 then
    "0.".toList ++ List.replicate (ds.magnitude.natAbs - 1) '0' ++ ds.digits
  else
    let whole := ds.magnitude.toNat + 1
    let fraction := ds.digits.drop whole
    ds.digits.take whole ++ List.replicate (whole - ds.digits.length) '0' ++ '.' ::
      (if fraction.isEmpty then ['0'] else fraction)

/-- The number that a decimal stands for, shown with the fewest digits. -/
def shown (d : Decimal) : Text :=
  (if d.negative then ['-'] else []) ++
    match Binary64.ofDecimal d with
    | .infinite => "inf".toList
    | .finite 0 _ => "0.0".toList
    | .finite m e => (shortest m e).shown

/-- Whether the number that a decimal stands for is zero. -/
def isZero (d : Decimal) : Bool :=
  match Binary64.ofDecimal d with
  | .finite 0 _ => true
  | _ => false

end Decimal
end DocExamples
