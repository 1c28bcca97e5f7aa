/-
# Keys of lines

A key is a part of each line, and a manner in which these parts are compared.  It begins
in one field and ends in another.  A field ends where a separator stands, or, where none
is given, before blanks, which belong to the next field.

| letter | manner |
| --- | --- |
| `b` | blanks at the start are passed over |
| `d` `i` | only letters, digits and blanks, or only octets that can be shown, count |
| `f` | small letters are the same as capital ones |
| `n` `g` `h` | as numbers: plain, with a power of ten, or with a letter for multiples |
| `M` `V` | as months, or as versions |
| `r` | the other way round |
-/

import DocExamples.Machine.Utility.Count
import DocExamples.Machine.Utility.Printing
import DocExamples.Machine.Utility.Version

namespace DocExamples
namespace Utility

/-! ## Manners -/

/-- What texts are compared as. -/
inductive Standard where
  /-- As octets. -/
  | octets
  /-- As plain numbers. -/
  | numbers
  /-- As numbers with a power of ten. -/
  | general
  /-- As numbers with a letter for multiples. -/
  | human
  /-- As names of months. -/
  | months
  /-- As versions. -/
  | versions
deriving DecidableEq, Repr

/-- Which octets of a text count. -/
inductive Filter where
  /-- All. -/
  | all
  /-- Letters, digits and blanks. -/
  | dictionary
  /-- Those that can be shown. -/
  | shown
deriving DecidableEq, Repr

/-- How texts are compared. -/
structure Manner where
  /-- What texts are asked to be compared as. -/
  standards : List Standard
  /-- Which octets count. -/
  filter : Filter
  /-- Whether capital letters are the same as small ones. -/
  folds : Bool
  /-- Whether blanks at the start of the part are passed over. -/
  skipsFirst : Bool
  /-- Whether blanks at the start of the last field are passed over. -/
  skipsLast : Bool
  /-- Whether the order is turned around. -/
  reversed : Bool
deriving DecidableEq, Repr

namespace Manner

/-- The plain order of octets. -/
def plain : Manner := ⟨[], .all, false, false, false, false⟩

/-- The letters of what texts are compared as, in the order in which they count. -/
def standardLetters : List (Char × Standard) :=
  [('n', .numbers), ('g', .general), ('h', .human), ('M', .months), ('V', .versions)]

/-- The manner with what a letter adds that has nothing to do with blanks. -/
def with? (m : Manner) (letter : Char) : Option Manner :=
  match standardLetters.lookup letter with
  | some s => some { m with standards := s :: m.standards }
  | none =>
    match letter with
    | 'f' => some { m with folds := true }
    | 'd' => some { m with filter := .dictionary }
    | 'i' => some { m with filter := if m.filter = .all then .shown else m.filter }
    | 'r' => some { m with reversed := true }
    | 'R' => some m
    | _ => none

/-- The manner with what letters add, and the text behind them; `b` is for the start of a part, for
its end, or for both. -/
def readLetters (forFirst forLast : Bool) (m : Manner) : Text → Text.Reading Manner
  | [] => ⟨m, []⟩
  | c :: s =>
    if c = 'b' then
      readLetters forFirst forLast { m with
        skipsFirst := m.skipsFirst || forFirst
        skipsLast := m.skipsLast || forLast } s
    else
      match m.with? c with
      | some m => readLetters forFirst forLast m s
      | none => ⟨m, c :: s⟩

/-- What texts are compared as. -/
def standard (m : Manner) : Standard :=
  ((standardLetters.find? fun s => m.standards.contains s.2).map (·.2)).getD .octets

/-- The letters of a manner that cannot be combined, if there are several. -/
def conflict? (m : Manner) : Option Text :=
  let has (s : Standard) : Bool := m.standards.contains s
  let filters := m.filter != .all || has .versions
  let count := ([has .numbers, has .general, has .human, has .months, filters].filter id).length
  let shown (p : Bool) (c : Char) : Text := if p then [c] else []
  if count < 2 then none
  else
    some (shown (m.filter = .dictionary) 'd' ++ shown m.folds 'f' ++ shown (has .general) 'g' ++
      shown (has .human) 'h' ++ shown (m.filter = .shown) 'i' ++ shown (has .months) 'M' ++
      shown (has .numbers) 'n' ++ shown (has .versions) 'V')

end Manner

/-! ## Parts -/

/-- A place in a line: a field, and a character of it. -/
structure Place where
  /-- The field, counted from 1. -/
  field : Nat
  /-- The character, counted from 1; 0 for the end of the field. -/
  char : Nat

/-- A part of each line that is compared. -/
structure Key where
  /-- Where it begins. -/
  first : Place
  /-- Where it ends, if not at the end of the line. -/
  last : Option Place
  /-- How it is compared; plain if as all others are. -/
  manner : Manner

namespace Key

/-- Reads a number, or says where it is missing. -/
def readNumber (whereabouts : String) (s : Text) : Except Text (Text.Reading Nat) :=
  let r := Count.readDigits s
  match Octet.number? r.value with
  | some n => .ok ⟨n, r.rest⟩
  | none =>
    .error ("invalid number ".toList ++ whereabouts.toList ++
      ": invalid count at start of ".toList ++ Call.inQuotes s)

/-- Reads a place: a number, and another one behind a period. -/
def readPlace (whereabouts : String) (byDefault : Nat) (s : Text) :
    Except Text (Text.Reading (Place × Bool)) := do
  let field ← readNumber whereabouts s
  match field.rest with
  | '.' :: rest =>
    let char ← readNumber "after '.'" rest
    return ⟨(⟨field.value, char.value⟩, true), char.rest⟩
  | rest => return ⟨(⟨field.value, byDefault⟩, false), rest⟩

/-- The key that an option names. -/
def read (s : Text) : Except Text Key := do
  let wrong (what : String) : Text :=
    what.toList ++ ": invalid field specification ".toList ++ Call.inQuotes s
  let field ← readNumber "at field start" s
  if field.value = 0 then throw (wrong "field number is zero")
  let first ← readPlace "at field start" 1 s
  if first.value.2 && first.value.1.char = 0 then throw (wrong "character offset is zero")
  let letters := Manner.plain.readLetters true false first.rest
  match letters.rest with
  | [] => return ⟨first.value.1, none, letters.value⟩
  | ',' :: rest =>
    let field ← readNumber "after ','" rest
    if field.value = 0 then throw (wrong "field number is zero")
    let last ← readPlace "after ','" 0 rest
    let letters := letters.value.readLetters false true last.rest
    if !letters.rest.isEmpty then throw (wrong "stray character in field spec")
    return ⟨first.value.1, some last.value.1, letters.value⟩
  | _ => throw (wrong "stray character in field spec")

end Key

/-- Whether an octet is a blank between fields. -/
def Key.isBlank (c : Char) : Bool := c == ' ' || c == '\t'

/-- A text without blanks at its start. -/
def withoutBlanks (s : Text) : Text := s.dropWhile Key.isBlank

/-- What is left of a line behind so many fields and the separator of the last. -/
def behindFields (separator : Option Char) : (fields : Nat) → Text → Text
  | 0, s => s
  | _, [] => []
  | n + 1, s =>
    match separator with
    | some c => behindFields separator n ((s.dropWhile (· != c)).drop 1)
    | none => behindFields separator n ((withoutBlanks s).dropWhile (!Key.isBlank ·))

/-- What follows the end of a field that so many fields stand before. -/
def behindField (separator : Option Char) (before : Nat) (s : Text) : Text :=
  match separator with
  | some c => (behindFields separator before s).dropWhile (· != c)
  | none => behindFields separator (before + 1) s

/-- The part of a line that a key names. -/
def Key.part (k : Key) (separator : Option Char) (line : Text) : Text :=
  let start := behindFields separator (k.first.field - 1) line
  let start := if k.manner.skipsFirst then withoutBlanks start else start
  let start := start.drop (k.first.char - 1)
  let rest := match k.last with
    | none => []
    | some p =>
      if p.char = 0 then behindField separator (p.field - 1) line
      else
        let field := behindFields separator (p.field - 1) line
        (if k.manner.skipsLast then withoutBlanks field else field).drop p.char
  start.take (start.length - rest.length)

/-! ## Numbers -/

/-- A plain number: a sign, digits, and digits behind a point. -/
structure Plain where
  /-- Whether it has a minus sign. -/
  negative : Bool
  /-- The digits before the point. -/
  whole : Text
  /-- The digits behind it. -/
  fraction : Text
  /-- What follows. -/
  rest : Text

namespace Plain

/-- The number at the start of a text; zero if there is none. -/
def read (s : Text) : Plain :=
  let s := withoutBlanks s
  let negative : Bool := s.head? = some '-'
  let body := if negative then s.drop 1 else s
  let whole := body.takeWhile Char.isDigit
  match body.drop whole.length with
  | '.' :: r => ⟨negative, whole, r.takeWhile Char.isDigit, r.dropWhile Char.isDigit⟩
  | r => ⟨negative, whole, [], r⟩

/-- The number in units of the last of so many places. -/
def units (p : Plain) (places : Nat) : Int :=
  let n := Octet.ofDigits 10 (p.whole ++ p.fraction) * Nat.pow 10 (places - p.fraction.length)
  if p.negative then -(n : Int) else n

/-- The order of two numbers. -/
def order (a b : Plain) : Ordering :=
  let places := max a.fraction.length b.fraction.length
  compare (a.units places) (b.units places)

/-- How great the multiple is that a letter behind a number says; with the sign of the number. -/
def multiple (p : Plain) : Int :=
  let size : Nat := match p.rest.head? with
    | some 'k' => 1
    | some c => (" KMGTPEZYRQ".toList.idxOf? c).getD 0
    | none => 0
  if (p.whole ++ p.fraction).all (· == '0') then 0
  else if p.negative then -(size : Int) else size

end Plain

/-- The place of a text among numbers with a power of ten: what is none comes first, then what is
spelled as none. -/
structure General where
  /-- 0 for what is no number, 1 for what is spelled so, 2 for a number below zero that has no
  bound, 3 for a finite number, and 4 for one above zero that has no bound. -/
  kind : Nat
  /-- The number, in units of `2 ^ exponent`. -/
  mantissa : Int
  /-- The power of two of its unit. -/
  exponent : Int

namespace General

/-- The number at the start of a text. -/
def read (s : Text) : General :=
  let sign := readSign (s.dropWhile Octet.isSpace)
  match (Spelling.read sign.rest).map fun r => (Printing.rounded r.value).1 with
  | none => ⟨0, 0, 0⟩
  | some none => ⟨1, 0, 0⟩
  | some (some .infinite) => ⟨if sign.value then 2 else 4, 0, 0⟩
  | some (some (.finite m e)) => ⟨3, if sign.value then -(m : Int) else m, e⟩

/-- The order of two texts. -/
def order (a b : General) : Ordering :=
  let unit := min a.exponent b.exponent
  let units (x : General) : Int := x.mantissa * Nat.pow 2 (x.exponent - unit).toNat
  (compare a.kind b.kind).then (compare (units a) (units b))

end General

/-- The number of the month that a text begins with; zero if there is none. -/
def monthNumber (s : Text) : Nat :=
  let name := ((withoutBlanks s).take 3).map Char.toUpper
  let months := ["JAN", "FEB", "MAR", "APR", "MAY", "JUN", "JUL", "AUG", "SEP", "OCT", "NOV", "DEC"]
  match months.findIdx? (·.toList == name) with
  | some i => i + 1
  | none => 0

/-! ## Comparison -/

/-- A text as it counts in a comparison. -/
def Manner.counted (m : Manner) (s : Text) : Text :=
  let s := match m.filter with
    | .all => s
    | .dictionary => s.filter fun c => c.isAlphanum || Key.isBlank c
    | .shown => s.filter fun c => ' ' ≤ c && c ≤ '~'
  if m.folds then s.map Char.toUpper else s

/-- The order of two texts. -/
def Manner.compare (m : Manner) (a b : Text) : Ordering :=
  let a := m.counted a
  let b := m.counted b
  let order :=
    match m.standard with
    | .octets => Version.order a b
    | .numbers => (Plain.read a).order (Plain.read b)
    | .general => (General.read a).order (General.read b)
    | .human =>
      let a := Plain.read a
      let b := Plain.read b
      (Ord.compare a.multiple b.multiple).then (a.order b)
    | .months => Ord.compare (monthNumber a) (monthNumber b)
    | .versions => Version.compareNames a b
  if m.reversed then order.swap else order

/-- The order of two lines by a key. -/
def Key.compare (k : Key) (separator : Option Char) (a b : Text) : Ordering :=
  k.manner.compare (k.part separator a) (k.part separator b)

end Utility
end DocExamples
