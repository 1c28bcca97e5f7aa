/-
# Numerals

Whole numbers are written with the ASCII digits and without leading zeros.  A
numeral is read more freely, in one of two ways:

| | a whole number of a script | a count |
| --- | --- | --- |
| blanks around it | yes | yes |
| sign | plus or minus | plus |
| digits | of every script | ASCII |
| an underscore between two digits | yes | yes |
| a point and at least one zero behind it | no | yes |
| zero | yes | no |
| digits at most | 4300 | 4300, leading zeros not counted |
-/

import DocExamples.Text.Blank

namespace DocExamples
namespace Text

/-- A number in decimal digits. -/
def decimal (n : Nat) : Text := Nat.toDigits 10 n

/-- A whole number in decimal digits, with a minus sign if it is negative. -/
def integer : Int → Text
  | .ofNat n => decimal n
  | .negSucc n => '-' :: decimal (n + 1)

/-- The number in hexadecimal digits, filled with zeros to a width. -/
def hexadecimal (width n : Nat) : Text :=
  let digits := Nat.toDigits 16 n
  List.replicate (width - digits.length) '0' ++ digits

/-- The number in octal digits, filled with zeros to a width. -/
def octal (width n : Nat) : Text :=
  let digits := Nat.toDigits 8 n
  List.replicate (width - digits.length) '0' ++ digits

/-- The zeros of the decimal digits beyond ASCII; nine more digits follow each. -/
def zeros : List Nat := [
  0x660, 0x6F0, 0x7C0, 0x966, 0x9E6, 0xA66, 0xAE6, 0xB66, 0xBE6, 0xC66, 0xCE6, 0xD66, 0xDE6,
  0xE50, 0xED0, 0xF20, 0x1040, 0x1090, 0x17E0, 0x1810, 0x1946, 0x19D0, 0x1A80, 0x1A90, 0x1B50,
  0x1BB0, 0x1C40, 0x1C50, 0xA620, 0xA8D0, 0xA900, 0xA9D0, 0xA9F0, 0xAA50, 0xABF0, 0xFF10,
  0x104A0, 0x10D30, 0x11066, 0x110F0, 0x11136, 0x111D0, 0x112F0, 0x11450, 0x114D0, 0x11650,
  0x116C0, 0x11730, 0x118E0, 0x11950, 0x11C50, 0x11D50, 0x11DA0, 0x16A60, 0x16AC0, 0x16B50,
  0x1D7CE, 0x1D7D8, 0x1D7E2, 0x1D7EC, 0x1D7F6, 0x1E140, 0x1E2F0, 0x1E950, 0x1FBF0
]

/-- The value of a decimal digit of any script. -/
def digitValue? (c : Char) : Option Nat :=
  if c.isDigit then some (c.toNat - '0'.toNat)
  else (zeros.find? fun z => z ≤ c.toNat && c.toNat < z + 10).map (c.toNat - ·)

/-- The digits of a numeral in which an underscore may stand between two digits. -/
def digitValues? : Text → Option (List Nat)
  | [] => none
  | [c] => (digitValue? c).map ([·])
  | c :: '_' :: s => do
    let d ← digitValue? c
    let ds ← digitValues? s
    return d :: ds
  | c :: s => do
    let d ← digitValue? c
    let ds ← digitValues? s
    return d :: ds

/-- The number that decimal digits stand for. -/
def ofDigitValues (ds : List Nat) : Nat := ds.foldl (fun n d => 10 * n + d) 0

/-- The greatest number of digits that a numeral may have. -/
def digitLimit : Nat := 4300

/-- Blanks that may surround a numeral: all but the four ASCII separators. -/
def isNumeralBlank (c : Char) : Bool := isBlank c && !(0x1C ≤ c.toNat && c.toNat ≤ 0x1F)

/-- The number without its sign, unless it has too many digits. -/
def natural? (s : Text) : Option Nat := do
  let ds ← digitValues? s
  if ds.length ≤ digitLimit then some (ofDigitValues ds) else none

/-- A numeral without the blanks around it. -/
def withoutNumeralBlanks (s : Text) : Text :=
  ((s.dropWhile isNumeralBlank).reverse.dropWhile isNumeralBlank).reverse

/-- The whole number that a numeral stands for. -/
def integer? (s : Text) : Option Int :=
  match withoutNumeralBlanks s with
  | '-' :: ds => (natural? ds).map fun n => -(n : Int)
  | '+' :: ds => (natural? ds).map Int.ofNat
  | ds => (natural? ds).map Int.ofNat

/-- Whether digits with underscores between them have an underscore only between two
digits. -/
def areGrouped (s : Text) : Bool := (pieces '_' s).all fun p => !p.isEmpty && p.all Char.isDigit

/-- The numeral behind its leading zeros, which begins with another digit; underscores
between zeros are passed over. -/
def withoutZeros? : Text → Option Text
  | '0' :: s =>
    match s.dropWhile fun c => c == '0' || c == '_' with
    | c :: rest => if c.isDigit then some (c :: rest) else none
    | [] => none
  | c :: s => if c.isDigit then some (c :: s) else none
  | [] => none

/-- The positive number that a count stands for. -/
def count? (s : Text) : Option Nat := do
  let body := withoutNumeralBlanks s
  let digits ← withoutZeros? ((after? ['+'] body).getD body)
  let whole := digits.takeWhile (· != '.')
  let fraction := digits.drop whole.length
  let isWhole := fraction.isEmpty || (fraction.drop 1 != [] && (fraction.drop 1).all (· == '0'))
  if areGrouped whole && isWhole then natural? whole else none

example : count? " +0_07_0.00".toList = some 70 := by decide +kernel

example : count? "5.".toList = none := by decide +kernel

end Text
end DocExamples
