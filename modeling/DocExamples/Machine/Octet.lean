/-
# Octet texts

Processes exchange octets, not characters.  An octet text is a text each of whose
characters stands for one octet, so that pieces of it can be compared with ASCII
words and cut anywhere.
-/

import DocExamples.Text.Utf8

namespace DocExamples
namespace Octet

/-- The octet text of octets. -/
def ofOctets (o : Octets) : Text := o.map fun b => Char.ofNat b.toNat

/-- The octets of an octet text. -/
def toOctets (s : Text) : Octets := s.map fun c => UInt8.ofNat c.toNat

/-- The octet text of a text in UTF-8. -/
def ofText (s : Text) : Text := ofOctets (Utf8.encode s)

/-- The text that an octet text spells in UTF-8. -/
def toText (s : Text) : Text := Utf8.decodeLenient (toOctets s)

/-- The lines of an octet text, a line feed at the end of each but perhaps the last. -/
def fullLines (s : Text) : List Text :=
  let pieces := Text.lines s
  let whole := pieces.dropLast.map (· ++ ['\n'])
  match pieces.getLast? with
  | some (c :: rest) => whole ++ [c :: rest]
  | _ => whole

/-- The lines of an octet text without their line feeds; what follows the last line
feed is a line only if it is not empty. -/
def bareLines (s : Text) : List Text :=
  let pieces := Text.lines s
  match pieces.getLast? with
  | some [] => pieces.dropLast
  | _ => pieces

/-- The value of a digit in a base up to sixteen. -/
def digit? (base : Nat) (c : Char) : Option Nat :=
  let n := if c.isDigit then c.toNat - 48
    else if 'a' ≤ c ∧ c ≤ 'f' then c.toNat - 87
    else if 'A' ≤ c ∧ c ≤ 'F' then c.toNat - 55
    else base
  if n < base then some n else none

/-- The number that digits in a base spell. -/
def ofDigits (base : Nat) (s : Text) : Nat :=
  s.foldl (fun n c => base * n + (digit? base c).getD 0) 0

/-- A number in octal digits. -/
def ofOctal (s : Text) : Nat := ofDigits 8 s

/-- Whether a character is an octal digit. -/
def isOctal (c : Char) : Bool := '0' ≤ c && c ≤ '7'

/-- The number that ASCII digits spell. -/
def number? (s : Text) : Option Nat :=
  if s.isEmpty || !s.all Char.isDigit then none
  else some (s.foldl (fun n c => 10 * n + (c.toNat - 48)) 0)

/-- The whole number that ASCII digits and a sign spell. -/
def integer? : Text → Option Int
  | '-' :: s => (number? s).map fun n => -(n : Int)
  | '+' :: s => (number? s).map Int.ofNat
  | s => (number? s).map Int.ofNat

/-- Whether an octet is white space. -/
def isSpace (c : Char) : Bool := c == ' ' || ('\t' ≤ c && c ≤ '\r')

/-- A text without white space at its ends. -/
def trimmed (s : Text) : Text := ((s.dropWhile isSpace).reverse.dropWhile isSpace).reverse

end Octet
end DocExamples
