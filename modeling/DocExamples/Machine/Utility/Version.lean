/-
# The order of versions

Names with numbers in them are compared piece by piece: what is no digit octet by octet,
with letters before all other signs and a tilde before everything, even the end; and
digits as a number.  Endings behind periods count only where the names are equal without
them.
-/

import DocExamples.Machine.Octet

namespace DocExamples
namespace Version

/-- The rank of an octet outside a number, or of the end. -/
def rank : Option Char → Int
  | none => -1
  | some c =>
    if c.isDigit then 0
    else if c.isAlpha then c.toNat
    else if c = '~' then -2
    else c.toNat + 256

/-- The order of two lists of octets. -/
def order (a b : Text) : Ordering := if a = b then .eq else if a < b then .lt else .gt

/-- The order of two names as wholes. -/
def compareWhole : (fuel : Nat) → Text → Text → Ordering
  | 0, _, _ => .eq
  | _, [], [] => .eq
  | fuel + 1, a, b =>
    if (a.head?.toList ++ b.head?.toList).any (!·.isDigit) then
      (compare (rank a.head?) (rank b.head?)).then (compareWhole fuel (a.drop 1) (b.drop 1))
    else
      let digits (s : Text) : Text := s.takeWhile Char.isDigit
      let number (s : Text) : Text := (digits s).dropWhile (· == '0')
      ((compare (number a).length (number b).length).then (order (number a) (number b))).then
        (compareWhole fuel (a.drop (digits a).length) (b.drop (digits b).length))

/-- What follows endings: periods, each with a letter or a tilde behind it, and letters, digits
and tildes behind that. -/
def behindEndings : (fuel : Nat) → Text → Text
  | 0, s => s
  | fuel + 1, s =>
    match s with
    | '.' :: c :: rest =>
      if c.isAlpha || c == '~' then
        behindEndings fuel (rest.dropWhile fun x => x.isAlphanum || x == '~')
      else s
    | _ => s

/-- The length of a name without the endings that it ends with; `left` is what follows the first
`seen` octets, and the endings in question begin behind `stem`. -/
def stemLength : (fuel : Nat) → (stem seen : Nat) → (left : Text) → Nat
  | 0, stem, _, _ => stem
  | _, stem, _, [] => stem
  | fuel + 1, _, seen, _ :: s =>
    let left := behindEndings s.length s
    stemLength fuel (seen + 1) (seen + 1 + (s.length - left.length)) left

/-- A name without the endings that it ends with. -/
def stem (s : Text) : Text := s.take (stemLength s.length 0 0 s)

/-- How early a name comes for the periods that it begins with. -/
def dotRank (s : Text) : Nat :=
  match s with
  | [] => 0
  | ['.'] => 1
  | ['.', '.'] => 2
  | '.' :: _ => 3
  | _ => 4

/-- The order of two names. -/
def compareNames (a b : Text) : Ordering :=
  let whole (a b : Text) : Ordering := compareWhole (a.length + b.length + 1) a b
  let ranks := compare (dotRank a) (dotRank b)
  if ranks != .eq || dotRank a < 3 then ranks else (whole (stem a) (stem b)).then (whole a b)

example : compareNames "a2.txt".toList "a10.txt".toList = .lt := by decide

example : compareNames "a.b".toList "a1".toList = .lt := by decide

end Version
end DocExamples
