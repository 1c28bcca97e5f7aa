/-
# Formats

A format is a text with places for arguments.  Each place says how its argument is
shown: as a text, as a whole number or as a number with a fraction.

| letter | argument | shown |
| --- | --- | --- |
| `s`, `b`, `c` | text | whole, with escapes replaced, its first octet |
| `d`, `i`, `u`, `o`, `x`, `X` | whole number of 64 bits | in base ten, eight or sixteen |
| `e`, `f`, `g`, `a` and capitals | binary64 number | scientific, fixed, general, binary |
-/

import DocExamples.Decimal.Places
import DocExamples.Machine.Utility.Escape

namespace DocExamples
namespace Utility

/-! ## Pieces -/

/-- A place in a format where an argument goes. -/
structure Directive where
  /-- The place as it is written. -/
  text : Text
  /-- The flags. -/
  flags : Text
  /-- The least width. -/
  width : Option Text
  /-- The precision. -/
  precision : Option Text
  /-- The letter that says how the argument is shown. -/
  letter : Char

/-- A piece of a format. -/
inductive Piece where
  /-- An octet. -/
  | octet (c : Char)
  /-- A place for an argument. -/
  | directive (d : Directive)
  /-- A place without a letter, at the end of the format. -/
  | unfinished

/-- A width or a precision: digits, or a star. -/
def readCount : Text → Text × Text
  | '*' :: s => (['*'], s)
  | s => (s.takeWhile Char.isDigit, s.dropWhile Char.isDigit)

/-- The place at the start of a text, behind its percent sign. -/
def readDirective (s : Text) : Option (Text.Reading Directive) :=
  let isFlag (c : Char) : Bool := c == '-' || c == '+' || c == ' ' || c == '0' || c == '#'
  let flags := s.takeWhile isFlag
  let (width, rest) := readCount (s.dropWhile isFlag)
  let (precision, rest) := match rest with
    | '.' :: r =>
      let (p, r) := readCount r
      (some p, r)
    | r => (none, r)
  match rest with
  | c :: rest =>
    let text := '%' :: s.take (s.length - rest.length)
    some ⟨⟨text, flags, if width.isEmpty then none else some width, precision, c⟩, rest⟩
  | [] => none

/-- The pieces of a format. -/
def pieces : (fuel : Nat) → Text → List Piece
  | 0, _ => []
  | _, [] => []
  | fuel + 1, '%' :: '%' :: s => .octet '%' :: pieces fuel s
  | fuel + 1, '%' :: s =>
    match readDirective s with
    | some r => .directive r.value :: pieces fuel r.rest
    | none => [.unfinished]
  | fuel + 1, '\\' :: c :: s =>
    if Octet.isOctal c then
      let r := octal 3 (c :: s)
      .octet r.value :: pieces fuel r.rest
    else
      match escapeLetter? c with
      | some x => .octet x :: pieces fuel s
      | none => .octet '\\' :: pieces fuel (c :: s)
  | fuel + 1, c :: s => .octet c :: pieces fuel s

/-- A text filled with spaces to a width. -/
def padded (left : Bool) (width : Nat) (s : Text) : Text :=
  let fill := List.replicate (width - s.length) ' '
  if left then s ++ fill else fill ++ s

/-! ## Numbers from arguments -/

/-- What is wrong with an argument that should be a number. -/
inductive Flaw where
  /-- It does not begin with a number. -/
  | absent
  /-- Something follows the number. -/
  | continued
  /-- The number is too great or too small. -/
  | outOfRange
deriving DecidableEq, Repr

/-- The wording of a flaw. -/
def Flaw.message : Flaw → Text
  | .absent => "expected numeric value".toList
  | .continued => "not completely converted".toList
  | .outOfRange => "Numerical result out of range".toList

/-- A number read from an argument. -/
structure Numeric (α : Type) where
  /-- The number. -/
  value : α
  /-- What is wrong with the argument. -/
  flaw : Option Flaw

/-- The flaw of an argument of which some text is left behind its number. -/
def flawOf (rest : Text) (inRange : Bool) : Option Flaw :=
  if !rest.isEmpty then some .continued else if inRange then none else some .outOfRange

/-- A text behind a sign, and whether the sign is a minus. -/
def readSign : Text → Text.Reading Bool
  | '-' :: s => ⟨true, s⟩
  | '+' :: s => ⟨false, s⟩
  | s => ⟨false, s⟩

/-- The digits at the start of a text in a base. -/
def digitsOf (base : Nat) (s : Text) : Text := s.takeWhile fun c => (Octet.digit? base c).isSome

/-- A number without a sign, in the base that its first digits tell. -/
def readNatural (s : Text) : Option (Text.Reading Nat) :=
  let inBase (base : Nat) (digits : Text) : Option (Text.Reading Nat) :=
    let used := digitsOf base digits
    if used.isEmpty then none else some ⟨Octet.ofDigits base used, digits.drop used.length⟩
  match s with
  | '0' :: x :: r =>
    if (x = 'x' ∨ x = 'X') ∧ !(digitsOf 16 r).isEmpty then inBase 16 r else inBase 8 s
  | ['0'] => inBase 8 s
  | s => inBase 10 s

/-- A value that is no number, and the flaw of a text that begins with none. -/
def noNumber {α : Type} (zero : α) (s : Text) : Numeric α :=
  ⟨zero, if s.isEmpty then none else some .absent⟩

/-- The code of the character behind a quote. -/
def quoted? : Text → Option Nat
  | '\'' :: s => some (s.headD '\x00').toNat
  | '"' :: s => some (s.headD '\x00').toNat
  | _ => none

/-- The whole number that an argument spells, with a sign or without one in 64 bits. -/
def readInteger (hasSign : Bool) (s : Text) : Numeric Int :=
  match quoted? s with
  | some n => ⟨n, none⟩
  | none =>
    let sign := readSign (s.dropWhile Octet.isSpace)
    match readNatural sign.rest with
    | none => noNumber 0 s
    | some r =>
      let half := Nat.pow 2 63
      let n : Int := if sign.value then -(r.value : Int) else r.value
      if hasSign then
        let within := max (-(half : Int)) (min n (half - 1))
        ⟨within, flawOf r.rest (within == n)⟩
      else if r.value < 2 * half then ⟨n, flawOf r.rest true⟩
      else ⟨2 * half - 1, flawOf r.rest false⟩

/-- A binary64 number with a sign; `none` is no number. -/
structure Signed where
  /-- Whether it has a minus sign. -/
  negative : Bool
  /-- Its size. -/
  size : Option Binary64

/-- The number that digits around a point spell in a base, in units of the last digit, and
how many digits stand behind the point. -/
structure Digits where
  /-- The digits as a whole number. -/
  coefficient : Nat
  /-- How many of them stand behind the point. -/
  places : Nat
  /-- What follows. -/
  rest : Text

/-- Reads digits around a point. -/
def readDigits (base : Nat) (s : Text) : Option Digits :=
  let whole := digitsOf base s
  let rest := s.drop whole.length
  let (fraction, rest) := match rest with
    | '.' :: r =>
      let f := digitsOf base r
      if whole.isEmpty && f.isEmpty then ([], rest) else (f, r.drop f.length)
    | r => ([], r)
  if whole.isEmpty && fraction.isEmpty then none
  else some ⟨Octet.ofDigits base (whole ++ fraction), fraction.length, rest⟩

/-- An exponent behind its letter. -/
def readPower (letter : Char) (s : Text) : Text.Reading Int :=
  match s with
  | c :: r =>
    let sign := readSign r
    let ds := digitsOf 10 sign.rest
    if c.toLower = letter && !ds.isEmpty then
      let n : Int := Octet.ofDigits 10 ds
      ⟨if sign.value then -n else n, sign.rest.drop ds.length⟩
    else ⟨0, s⟩
  | [] => ⟨0, []⟩

/-- What follows a word at the start of a text, in letters of any case. -/
def behindWord (word : String) (s : Text) : Option Text :=
  if (s.take word.length).map Char.toLower = word.toList then some (s.drop word.length) else none

/-- The nearest binary64 number to `num / den`, and whether it is in range: neither too
great nor so small that digits are lost. -/
def nearest (num den : Nat) : Binary64 × Bool :=
  match Binary64.ofRatio num den with
  | .infinite => (.infinite, false)
  | .finite m e =>
    let q := Decimal.Quotient.ofBinary m e
    (.finite m e, Binary64.leastNormal ≤ m || q.num * den == num * q.den)

/-- The number `c · base^x`, and whether it is in range; `size` bounds its digits. -/
def scaled (base limit : Nat) (c : Nat) (x : Int) : Binary64 × Bool :=
  let size : Int := (Nat.toDigits base c).length
  if c = 0 then (.finite 0 0, true)
  else if size + x < -(limit : Int) then (.finite 0 0, false)
  else if (limit : Int) < size + x then (.infinite, false)
  else nearest (c * Nat.pow base x.toNat) (Nat.pow base (-x).toNat)

/-- A number without a sign as a text spells it. -/
inductive Spelling where
  /-- The word for infinity. -/
  | infinite
  /-- The word for what is no number. -/
  | noNumber
  /-- The number `coefficient · 2 ^ power`. -/
  | binary (coefficient : Nat) (power : Int)
  /-- The number `coefficient · 10 ^ power`. -/
  | decimal (coefficient : Nat) (power : Int)

/-- Reads a number without a sign: digits, or one of the words for what is no finite number. -/
def Spelling.read (s : Text) : Option (Text.Reading Spelling) :=
  match behindWord "infinity" s <|> behindWord "inf" s with
  | some r => some ⟨.infinite, r⟩
  | none =>
    match behindWord "nan" s with
    | some r => some ⟨.noNumber, behindNote r⟩
    | none =>
      let hex := (behindWord "0x" s).bind fun r => readDigits 16 r
      match hex with
      | some d =>
        let p := readPower 'p' d.rest
        some ⟨.binary d.coefficient (p.value - 4 * d.places), p.rest⟩
      | none =>
        (readDigits 10 s).map fun d =>
          let p := readPower 'e' d.rest
          ⟨.decimal d.coefficient (p.value - d.places), p.rest⟩
where
  /-- What follows a note in brackets. -/
  behindNote (r : Text) : Text :=
    match r with
    | '(' :: note =>
      match note.dropWhile fun c => c.isAlphanum || c == '_' with
      | ')' :: rest => rest
      | _ => r
    | r => r

/-- The nearest binary64 number to what a text spells, and whether it is in range. -/
def Spelling.rounded : Spelling → Option Binary64 × Bool
  | .infinite => (some .infinite, true)
  | .noNumber => (none, true)
  | .binary c x =>
    let (size, inRange) := scaled 2 1100 c x
    (some size, inRange)
  | .decimal c x =>
    let (size, inRange) := scaled 10 330 c x
    (some size, inRange)

/-- A number without a sign, and whether it is in range. -/
def readSize (s : Text) : Option (Text.Reading (Option Binary64 × Bool)) :=
  (Spelling.read s).map fun r => ⟨r.value.rounded, r.rest⟩

/-- The number that an argument spells. -/
def readSigned (s : Text) : Numeric Signed :=
  match quoted? s with
  | some n => ⟨⟨false, some (Binary64.ofRatio n 1)⟩, none⟩
  | none =>
    let sign := readSign (s.dropWhile Octet.isSpace)
    match readSize sign.rest with
    | none => noNumber ⟨false, some (.finite 0 0)⟩ s
    | some r => ⟨⟨sign.value, r.value.1⟩, flawOf r.rest r.value.2⟩

/-! ## Numbers in their places -/

/-- What stands before a number without a minus sign. -/
def plusOf (flags : Text) : Text :=
  if flags.contains '+' then ['+'] else if flags.contains ' ' then [' '] else []

/-- A number filled to a width: with zeros behind what leads it, or with spaces. -/
def filled (flags : Text) (width : Nat) (zeros : Bool) (lead digits : Text) : Text :=
  if zeros && !flags.contains '-' then
    lead ++ List.replicate (width - lead.length - digits.length) '0' ++ digits
  else padded (flags.contains '-') width (lead ++ digits)

/-- A whole number as a directive shows it. -/
def shownInteger (d : Directive) (width : Nat) (precision : Option Nat) (n : Int) : Text :=
  let hasSign : Bool := d.letter == 'd' || d.letter == 'i'
  let size := if hasSign then n.natAbs else (n % (Nat.pow 2 64 : Nat)).toNat
  let base := if d.letter = 'o' then 8 else if d.letter = 'x' ∨ d.letter = 'X' then 16 else 10
  let digits := if precision = some 0 ∧ size = 0 then [] else Nat.toDigits base size
  let digits := if d.letter = 'X' then digits.map Char.toUpper else digits
  let digits := match precision with
    | some p => List.replicate (p - digits.length) '0' ++ digits
    | none => digits
  let digits :=
    if d.flags.contains '#' ∧ base = 8 ∧ digits.head? ≠ some '0' then '0' :: digits else digits
  let lead : Text :=
    if hasSign then if n < 0 then ['-'] else plusOf d.flags
    else if d.flags.contains '#' ∧ size ≠ 0 ∧ base = 16 then ['0', d.letter]
    else []
  filled d.flags width (d.flags.contains '0' && precision.isNone) lead digits

/-- How a directive writes digits. -/
def Directive.layout (d : Directive) : Decimal.Layout := ⟨d.flags.contains '#', d.letter.isUpper⟩

/-- What stands before a number with a fraction. -/
def Directive.sign (d : Directive) (negative : Bool) : Text :=
  if negative then ['-'] else plusOf d.flags

/-- A word for what is no finite number as a directive shows it. -/
def shownWord (d : Directive) (width : Nat) (negative : Bool) (word : String) : Text :=
  filled d.flags width false (d.sign negative) (d.layout.cased word.toList)

/-- A finite number as a directive shows it; `binary` is how it is written with a power of two. -/
def shownFinite (d : Directive) (width : Nat) (precision : Option Nat) (negative : Bool)
    (q : Decimal.Quotient) (binary : Text) : Text :=
  let sign := d.sign negative
  let zeros := d.flags.contains '0'
  match d.letter.toLower with
  | 'f' => filled d.flags width zeros sign (d.layout.fixed (precision.getD 6) q)
  | 'e' => filled d.flags width zeros sign (d.layout.scientific (precision.getD 6) q)
  | 'g' => filled d.flags width zeros sign (d.layout.general (precision.getD 6) q)
  | _ => filled d.flags width zeros (sign ++ binary.take 2) (binary.drop 2)

/-- A number with a fraction as a directive shows it. -/
def shownSigned (d : Directive) (width : Nat) (precision : Option Nat) (r : Signed) : Text :=
  match r.size with
  | none => shownWord d width r.negative "nan"
  | some .infinite => shownWord d width r.negative "inf"
  | some (.finite m e) =>
    shownFinite d width precision r.negative (.ofBinary m e) (d.layout.binary precision m e)

/-! ## Output -/

/-- Output in progress. -/
structure Formatted where
  /-- The octets so far, reversed. -/
  text : Text
  /-- The arguments left. -/
  arguments : List Text
  /-- The complaints so far. -/
  complaints : List Text
  /-- Whether the output has ended. -/
  stopped : Bool
  /-- Whether an argument was used. -/
  used : Bool
  /-- The exit code. -/
  status : Nat

namespace Formatted

/-- One more octet text. -/
def add (f : Formatted) (s : Text) : Formatted := { f with text := s.reverse ++ f.text }

/-- The next argument; an empty one when none is left. -/
def next (f : Formatted) : Text × Formatted :=
  match f.arguments with
  | a :: as => (a, { f with arguments := as, used := true })
  | [] => ([], { f with used := true })

/-- One more complaint, and the exit code 1. -/
def warn (f : Formatted) (message : Text) : Formatted :=
  { f with complaints := f.complaints ++ [message], status := 1 }

/-- The next argument as a number, with a complaint about its flaw. -/
def number {α : Type} (read : Text → Numeric α) (f : Formatted) : α × Formatted :=
  let (a, f) := f.next
  let n := read a
  match n.flaw with
  | none => (n.value, f)
  | some flaw => (n.value, f.warn (a ++ ": ".toList ++ flaw.message))

/-- A width or a precision, taken from the arguments where it is a star. -/
def count (f : Formatted) : Option Text → Option Int × Formatted
  | none => (none, f)
  | some ['*'] =>
    let (n, f) := f.number (readInteger true)
    (some n, f)
  | some ds => (some ((Octet.number? ds).getD 0 : Nat), f)

/-- The end of the output at a fault in the format. -/
def refused (f : Formatted) (message : Text) : Formatted :=
  { f with complaints := f.complaints ++ [message], stopped := true, status := 2 }

/-- Puts an argument in its place. -/
def directive (f : Formatted) (d : Directive) : Formatted :=
  let (width, f) := f.count d.width
  let (precision, f) := f.count d.precision
  let d := if width.any (· < 0) then { d with flags := '-' :: d.flags } else d
  let w := (width.getD 0).natAbs
  let p := precision.bind fun n => if n < 0 then none else some n.toNat
  let cutTo (s : Text) : Text := match p with
    | some n => s.take n
    | none => s
  let left := d.flags.contains '-'
  if d.letter = 's' then
    let (a, f) := f.next
    f.add (padded left w (cutTo a))
  else if d.letter = 'b' then
    let (a, f) := f.next
    let u := unescape (a.length + 1) a
    let f := f.add (padded left w (cutTo u.text))
    if u.stopped then { f with stopped := true } else f
  else if d.letter = 'c' then
    let (a, f) := f.next
    f.add (padded left w (if a.isEmpty then ['\x00'] else a.take 1))
  else if "diouxX".toList.contains d.letter then
    let (n, f) := f.number (readInteger (d.letter == 'd' || d.letter == 'i'))
    f.add (shownInteger d w p n)
  else if "aAeEfFgG".toList.contains d.letter then
    let (r, f) := f.number readSigned
    f.add (shownSigned d w p r)
  else f.refused (d.text ++ ": invalid directive".toList)

/-- Puts arguments into the pieces of a format once. -/
def once (ps : List Piece) (f : Formatted) : Formatted :=
  ps.foldl
    (fun f p =>
      if f.stopped then f
      else
        match p with
        | .octet c => { f with text := c :: f.text }
        | .directive d => f.directive d
        | .unfinished => f.refused "missing format character".toList)
    f

/-- Puts arguments into a format until none is left. -/
def all (ps : List Piece) : (fuel : Nat) → Formatted → Formatted
  | 0, f => f
  | fuel + 1, f =>
    let g := once ps { f with used := false }
    if g.stopped || g.arguments.isEmpty || !g.used then g else all ps fuel g

end Formatted

/-- Shows arguments as a format says. -/
def printf (c : Call) : Effect :=
  let usage := c.refuse 2 "usage: printf format [arg ...]".toList
  let shown (format : Text) (words : List Text) : Effect :=
    let done := Formatted.all (pieces (format.length + 1) format) (words.length + 1)
      ⟨[], words, [], false, false, 0⟩
    ⟨done.complaints.map c.complaint ++ [⟨1, done.text.reverse⟩], done.status, c.disk, 0⟩
  match c.arguments with
  | [] => usage
  | ('-' :: l :: ls) :: words =>
    if l = '-' ∧ ls = [] then
      match words with
      | [] => usage
      | format :: words => shown format words
    else c.refuse 2 ("Illegal option -".toList ++ [l])
  | format :: words => shown format words

end Utility
end DocExamples
