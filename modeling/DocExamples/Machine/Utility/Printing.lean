/-
# Formats of a program of its own

The program `printf` knows more than the command of the same name in a shell: numbers
with a fraction have 64 binary digits, arguments can be shown as words of a shell, and
characters can be named by their numbers.  It is also stricter about a place in a
format, and says so when arguments are left over.

| escape | stands for |
| --- | --- |
| `\a` `\b` `\e` `\f` `\n` `\r` `\t` `\v` `\"` `\\` | an octet |
| `\` and up to three octal digits | an octet |
| `\x` and one or two hexadecimal digits | an octet |
| `\u` and four, `\U` and eight hexadecimal digits | a character |
| `\c` | the end of all output |
-/

import DocExamples.Decimal.Extended
import DocExamples.Machine.Utility.Format

namespace DocExamples
namespace Utility
namespace Printing

/-! ## Escapes -/

/-- What a backslash and the text behind it come to. -/
inductive Escaped where
  /-- Octets. -/
  | octets (s : Text)
  /-- The end of all output. -/
  | ending
  /-- An escape that stands for nothing. -/
  | fault (message : Text)

/-- The character with a number, where it may be named so. -/
def character (letter : Char) (digits : Text) : Escaped :=
  let n := Octet.ofDigits 16 digits
  if 0xD800 ≤ n ∧ n ≤ 0xDFFF then
    .fault ("invalid universal character name \\".toList ++ letter ::
      Text.hexadecimal digits.length n)
  else if 0x10FFFF < n then .octets ('\\' :: letter :: digits.map Char.toUpper)
  else .octets (Octet.ofText [Char.ofNat n])

/-- Reads an escape behind its backslash; `zeroLeads` says that octal digits may have a zero
before them. -/
def readEscape (zeroLeads : Bool) : Text → Text.Reading Escaped
  | [] => ⟨.octets ['\\'], []⟩
  | c :: s =>
    let missing : Text := "missing hexadecimal number in escape".toList
    if c = 'x' then
      let digits := (digitsOf 16 s).take 2
      if digits.isEmpty then ⟨.fault missing, s⟩
      else ⟨.octets [Char.ofNat (Octet.ofDigits 16 digits)], s.drop digits.length⟩
    else if Octet.isOctal c then
      let r := octal 3 (if zeroLeads && c == '0' then s else c :: s)
      ⟨.octets [r.value], r.rest⟩
    else if c = 'c' then ⟨.ending, s⟩
    else if c = '"' then ⟨.octets ['"'], s⟩
    else if c = 'u' ∨ c = 'U' then
      let count := if c = 'u' then 4 else 8
      let digits := (digitsOf 16 s).take count
      if digits.length < count then ⟨.fault missing, s⟩
      else ⟨character c digits, s.drop count⟩
    else
      match escapeLetter? c with
      | some x => ⟨.octets [x], s⟩
      | none => ⟨.octets ['\\', c], s⟩

end Printing

namespace Formatted

/-- The end of all output. -/
def ended (f : Formatted) (status : Nat) : Formatted := { f with stopped := true, status }

/-- Puts what an escape comes to. -/
def putEscaped (f : Formatted) : Printing.Escaped → Formatted
  | .octets s => f.add s
  | .ending => f.ended 0
  | .fault m => (f.warn m).ended 1

/-- Puts a text, escapes replaced. -/
def putUnescaped : (fuel : Nat) → Text → Formatted → Formatted
  | 0, _, f => f
  | _, [], f => f
  | fuel + 1, '\\' :: s, f =>
    let r := Printing.readEscape true s
    let f := f.putEscaped r.value
    if f.stopped then f else putUnescaped fuel r.rest f
  | fuel + 1, c :: s, f => putUnescaped fuel s { f with text := c :: f.text }

end Formatted

namespace Printing

/-! ## Numbers from arguments -/

/-- A number from an argument: its value, what is wrong with it, and what is said about a
character that stands for its number. -/
structure Spelled (α : Type) where
  /-- The number. -/
  numeric : Numeric α
  /-- The text behind the character. -/
  behind : Text

/-- The number that an argument spells, be it the number of the character behind a quote. -/
def spelled {α : Type} (ofCode : Nat → α) (read : Text → Numeric α) (s : Text) : Spelled α :=
  match s with
  | q :: c :: cs =>
    if q = '\'' ∨ q = '"' then
      match Octet.chars (c :: cs) with
      | x :: xs =>
        if Octet.isStray x then ⟨⟨ofCode c.toNat, none⟩, cs⟩
        else ⟨⟨ofCode x.toNat, none⟩, Octet.ofChars xs⟩
      | [] => ⟨read s, []⟩
    else ⟨read s, []⟩
  | [_] => if s = ['\''] ∨ s = ['"'] then ⟨⟨ofCode 0, some .absent⟩, []⟩ else ⟨read s, []⟩
  | [] => ⟨read s, []⟩

/-- The wording of a flaw. -/
def flawMessage : Flaw → Text
  | .absent => "expected a numeric value".toList
  | .continued => "value not completely converted".toList
  | .outOfRange => "Numerical result out of range".toList

/-- A number with a sign and 64 binary digits; `none` is no number. -/
structure Signed where
  /-- Whether it has a minus sign. -/
  negative : Bool
  /-- Its size. -/
  size : Option Extended

/-- The number `c · base^x`, and whether it is in range; `limit` bounds the power of its first
digit. -/
def scaled (base limit : Nat) (c : Nat) (x : Int) : Extended × Bool :=
  let size : Int := (Nat.toDigits base c).length
  if c = 0 then (.finite 0 0, true)
  else if size + x < -(limit : Int) then (.finite 0 0, false)
  else if (limit : Int) < size + x then (.infinite, false)
  else
    match Extended.ofRatio (c * Nat.pow base x.toNat) (Nat.pow base (-x).toNat) with
    | .infinite => (.infinite, false)
    | .finite m e => (.finite m e, Extended.leastNormal ≤ m)

/-- The nearest number to what a text spells, and whether it is in range. -/
def rounded : Spelling → Option Extended × Bool
  | .infinite => (some .infinite, true)
  | .noNumber => (none, true)
  | .binary c x =>
    let (size, inRange) := scaled 2 16500 c x
    (some size, inRange)
  | .decimal c x =>
    let (size, inRange) := scaled 10 4970 c x
    (some size, inRange)

/-- The number that an argument spells. -/
def readSigned (s : Text) : Numeric Signed :=
  let sign := readSign (s.dropWhile Octet.isSpace)
  match Spelling.read sign.rest with
  | none => noNumber ⟨false, some (.finite 0 0)⟩ s
  | some r =>
    let (size, inRange) := rounded r.value
    ⟨⟨sign.value, size⟩, flawOf r.rest inRange⟩

/-- A number with a fraction as a directive shows it. -/
def shownSigned (d : Directive) (width : Nat) (precision : Option Nat) (r : Signed) : Text :=
  match r.size with
  | none => shownWord d width r.negative "nan"
  | some .infinite => shownWord d width r.negative "inf"
  | some (.finite m e) =>
    shownFinite d width precision r.negative (.ofBinary m e)
      (Extended.binary d.layout precision m e)

/-! ## Places -/

/-- The letters that flags and a precision leave for a place. -/
def lettersFor (flags : Text) (hasPrecision : Bool) : Text :=
  let refused (flag : Char) : Text :=
    if flag = '\'' ∨ flag = 'I' then "aAceEosxX".toList
    else if flag = '#' then "cdisu".toList
    else if flag = '0' then "cs".toList
    else []
  let out := flags.flatMap refused ++ if hasPrecision then ['c'] else []
  "aAcdeEfFgGiosuxX".toList.filter fun c => !out.contains c

/-- A place for an argument as it is written, or the text of one that cannot be understood. -/
def readPlace (s : Text) : Except Text (Text.Reading Directive) :=
  let isFlag (c : Char) : Bool := "-+ #0'I".toList.contains c
  let flags := s.takeWhile isFlag
  let (width, rest) := readCount (s.dropWhile isFlag)
  let (precision, rest) := match rest with
    | '.' :: r =>
      let (p, r) := readCount r
      (some p, r)
    | r => (none, r)
  let rest := rest.dropWhile fun c => "lLhjtz".toList.contains c
  let textTo (rest : Text) : Text := '%' :: s.take (s.length - rest.length)
  match rest with
  | c :: rest =>
    if (lettersFor flags precision.isSome).contains c then
      .ok ⟨⟨textTo rest, flags, if width.isEmpty then none else some width, precision, c⟩, rest⟩
    else .error (textTo rest)
  | [] => .error (textTo [])

end Printing

namespace Formatted

/-- The next argument as a number, with complaints about its flaws. -/
def spelledNumber {α : Type} (ofCode : Nat → α) (read : Text → Numeric α) (f : Formatted) :
    α × Formatted :=
  let (a, f) := f.next
  let n := Printing.spelled ofCode read a
  let f := if n.behind.isEmpty then f
    else { f with
      complaints := f.complaints ++ ["warning: ".toList ++ n.behind ++
        (": character(s) following character constant have been ignored").toList] }
  match n.numeric.flaw with
  | none => (n.numeric.value, f)
  | some flaw =>
    (n.numeric.value, f.warn (Quoting.curly a ++ ": ".toList ++ Printing.flawMessage flaw))

/-- A width or a precision, taken from the arguments where it is a star. -/
def spelledCount (f : Formatted) (what : String) (isWidth : Bool) :
    Option Text → Option Int × Formatted
  | none => (none, f)
  | some ['*'] =>
    let a := f.arguments.headD []
    let (n, f) := f.spelledNumber (fun c => (c : Int)) (readInteger true)
    let limit : Int := Nat.pow 2 31
    if limit ≤ n || (isWidth && n < -limit) then
      (some 0, (f.warn ("invalid ".toList ++ what.toList ++ ": ".toList ++
        Quoting.curly a)).ended 1)
    else (some n, f)
  | some ds => (some ((Octet.number? ds).getD 0 : Nat), f)

/-- Puts an argument in its place. -/
def place (f : Formatted) (d : Directive) : Formatted :=
  let (width, f) := f.spelledCount "field width" true d.width
  let (precision, f) :=
    if f.stopped then (none, f) else f.spelledCount "precision" false d.precision
  let d := if width.any (· < 0) then { d with flags := '-' :: d.flags } else d
  let w := (width.getD 0).natAbs
  let p := precision.bind fun n => if n < 0 then none else some n.toNat
  let left := d.flags.contains '-'
  if f.stopped then f
  else if d.letter = 's' then
    let (a, f) := f.next
    f.add (padded left w (match p with
      | some n => a.take n
      | none => a))
  else if d.letter = 'c' then
    let (a, f) := f.next
    f.add (padded left w (if a.isEmpty then ['\x00'] else a.take 1))
  else if "diouxX".toList.contains d.letter then
    let (n, f) := f.spelledNumber (fun c => (c : Int))
      (readInteger (d.letter == 'd' || d.letter == 'i'))
    f.add (shownInteger d w p n)
  else
    let (r, f) := f.spelledNumber (fun c => ⟨false, some (Extended.ofRatio c 1)⟩)
      Printing.readSigned
    f.add (Printing.shownSigned d w p r)

/-- Puts arguments into a format once. -/
def filledOnce : (fuel : Nat) → Text → Formatted → Formatted
  | 0, _, f => f
  | _, [], f => f
  | fuel + 1, '%' :: s, f =>
    match s with
    | '%' :: s => filledOnce fuel s { f with text := '%' :: f.text }
    | 'b' :: s =>
      let (a, f) := f.next
      let f := f.putUnescaped (a.length + 1) a
      if f.stopped then f else filledOnce fuel s f
    | 'q' :: s =>
      let isThere : Bool := !f.arguments.isEmpty
      let (a, f) := f.next
      filledOnce fuel s (f.add (if isThere then Quoting.shellUnlessPlain [] a else []))
    | s =>
      match Printing.readPlace s with
      | .error t => (f.warn (t ++ ": invalid conversion specification".toList)).ended 1
      | .ok r =>
        let f := f.place r.value
        if f.stopped then f else filledOnce fuel r.rest f
  | fuel + 1, '\\' :: s, f =>
    let r := Printing.readEscape false s
    let f := f.putEscaped r.value
    if f.stopped then f else filledOnce fuel r.rest f
  | fuel + 1, c :: s, f => filledOnce fuel s { f with text := c :: f.text }

/-- Puts arguments into a format until none is left, or until it takes none. -/
def filledAll (format : Text) : (fuel : Nat) → Formatted → Formatted
  | 0, f => f
  | fuel + 1, f =>
    let g := filledOnce (format.length + 1) format f
    if g.stopped || g.arguments.isEmpty || g.arguments.length == f.arguments.length then g
    else filledAll format fuel g

end Formatted

/-- Shows arguments as a format says, as a program of its own. -/
def printfProgram (c : Call) : Effect :=
  let words := if c.arguments.head? = some ['-', '-'] then c.arguments.drop 1 else c.arguments
  match words with
  | [] => c.refuseWithHint 1 "missing operand".toList
  | format :: words =>
    let done := Formatted.filledAll format (words.length + 1) ⟨[], words, [], false, false, 0⟩
    let surplus := match done.stopped, done.arguments with
      | false, a :: _ =>
        ["warning: ignoring excess arguments, starting with ".toList ++ Quoting.curly a]
      | _, _ => []
    ⟨(done.complaints ++ surplus).map c.complaint ++ [⟨1, done.text.reverse⟩], done.status, c.disk, 0⟩

end Utility
end DocExamples
