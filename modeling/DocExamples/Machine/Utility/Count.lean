/-
# Counts

Many options take a count: a number in digits, perhaps with a letter behind it that
multiplies it by a power of 1024, or by one of 1000 if a `B` follows.  A letter that
stands alone counts one of its kind.
-/

import DocExamples.Machine.Utility.Call

namespace DocExamples
namespace Utility

/-- Why a text gives no count. -/
inductive CountFault where
  /-- It is not written like a count. -/
  | malformed
  /-- The number is out of the range of the option. -/
  | outOfRange
  /-- The number does not fit in 64 binary digits. -/
  | tooLarge
deriving DecidableEq, Repr

/-- What is remarked on a fault behind the text that has it. -/
def CountFault.remark : CountFault → Text
  | .malformed => []
  | .outOfRange => ": Numerical result out of range".toList
  | .tooLarge => ": Value too large for defined data type".toList

namespace Count

/-- The factor that a suffix stands for, if its letter is among those known. -/
def factor? (letters : Text) : Text → Option Nat
  | [] => some 1
  | c :: s =>
    if !letters.contains c then none
    else if c = 'b' then if s.isEmpty then some 512 else none
    else
      let base : Option Nat := match s with
        | [] => some 1024
        | ['i', 'B'] => some 1024
        | ['B'] => some 1000
        | _ => none
      match base, "KMGTPEZYRQ".toList.findIdx? (· == c.toUpper) with
      | some b, some i => some (Nat.pow b (i + 1))
      | _, _ => none

/-- Digits behind blanks and a plus sign, and the text behind them. -/
def readDigits (s : Text) : Text.Reading Text :=
  let body := s.dropWhile Octet.isSpace
  let body := if body.head? = some '+' then body.drop 1 else body
  let digits := body.takeWhile Char.isDigit
  ⟨digits, body.drop digits.length⟩

/-- The count that a text spells with one of some suffix letters. -/
def read (letters : String) (s : Text) : Except CountFault Nat :=
  let r := readDigits s
  let isAlone := r.value.isEmpty && s.head?.any letters.toList.contains
  let number := if isAlone then some 1 else Octet.number? r.value
  match number, factor? letters.toList (if isAlone then s else r.rest) with
  | some n, some k => if n * k < Nat.pow 2 64 then .ok (n * k) else .error .tooLarge
  | _, _ => .error .malformed

end Count

end Utility
end DocExamples
