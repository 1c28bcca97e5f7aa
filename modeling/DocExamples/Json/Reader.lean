/-
# Reading JSON text

A text is first cut into tokens, and the tokens then drive a machine whose state
says what may come next.  The machine keeps the containers that are open in a list
of frames, so that nesting of any depth is read.
-/

import DocExamples.Json.Value
import DocExamples.Text.Blank

namespace DocExamples
namespace Json

/-- A token of JSON text. -/
inductive Token where
  /-- An opening square bracket. -/
  | openArray
  /-- A closing square bracket. -/
  | closeArray
  /-- An opening brace. -/
  | openObject
  /-- A closing brace. -/
  | closeObject
  /-- A comma. -/
  | comma
  /-- A colon. -/
  | colon
  /-- A text; as a field's name or as a value. -/
  | text (s : Text)
  /-- Any other value without parts. -/
  | scalar (v : Json)

namespace Token

/-- The value of a hexadecimal digit. -/
def hexValue? (c : Char) : Option Nat :=
  if c.isDigit then some (c.toNat - 48)
  else if 'a' ≤ c ∧ c ≤ 'f' then some (c.toNat - 87)
  else if 'A' ≤ c ∧ c ≤ 'F' then some (c.toNat - 55)
  else none

/-- The number of four hexadecimal digits. -/
def unit? (a b c d : Char) : Option Nat := do
  let a ← hexValue? a
  let b ← hexValue? b
  let c ← hexValue? c
  let d ← hexValue? d
  return ((a * 16 + b) * 16 + c) * 16 + d

/-- What a one-letter escape stands for. -/
def escaped? : Char → Option Char
  | '"' => some '"'
  | '\\' => some '\\'
  | '/' => some '/'
  | 'b' => some '\x08'
  | 'f' => some '\x0c'
  | 'n' => some '\n'
  | 'r' => some '\r'
  | 't' => some '\t'
  | _ => none

/-- A code point that is no half of a surrogate pair. -/
def scalar? (n : Nat) : Option Char :=
  if 0xD800 ≤ n && n < 0xE000 then none else some (Char.ofNat n)

/-- Reads a text up to its closing quote, with `done` (reversed) before it. -/
def readText (done : Text) : Text → Option (Text.Reading Text)
  | [] => none
  | '"' :: s => some ⟨done.reverse, s⟩
  | '\\' :: 'u' :: a :: b :: c :: d :: '\\' :: 'u' :: e :: f :: g :: h :: s =>
    match unit? a b c d, unit? e f g h with
    | some high, some low =>
      if 0xD800 ≤ high && high < 0xDC00 && 0xDC00 ≤ low && low < 0xE000 then
        readText (Char.ofNat (0x10000 + (high - 0xD800) * 0x400 + (low - 0xDC00)) :: done) s
      else
        match scalar? high with
        | some x => readText (x :: done) ('\\' :: 'u' :: e :: f :: g :: h :: s)
        | none => none
    | some high, none =>
      match scalar? high with
      | some x => readText (x :: done) ('\\' :: 'u' :: e :: f :: g :: h :: s)
      | none => none
    | none, _ => none
  | '\\' :: 'u' :: a :: b :: c :: d :: s =>
    match (unit? a b c d).bind scalar? with
    | some x => readText (x :: done) s
    | none => none
  | '\\' :: c :: s =>
    match escaped? c with
    | some x => readText (x :: done) s
    | none => none
  | c :: s => if c.toNat < 0x20 || c = '\\' then none else readText (c :: done) s
termination_by s => s.length

/-- Whether a character may be part of a number or a constant. -/
def isScalarPart (c : Char) : Bool := c.isAlphanum || c == '-' || c == '+' || c == '.'

/-- The number of ASCII digits. -/
def digitsValue (s : Text) : Nat := s.foldl (fun n c => 10 * n + (c.toNat - 48)) 0

/-- An exponent: the letter, perhaps a sign, and digits. -/
def exponent? : Text → Option Int
  | [] => some 0
  | c :: s =>
    if c != 'e' && c != 'E' then none
    else
      let digits := match s with
        | '+' :: ds => ds
        | '-' :: ds => ds
        | ds => ds
      if digits.isEmpty || !digits.all Char.isDigit then none
      else if s.head? = some '-' then some (-(digitsValue digits : Int))
      else some (digitsValue digits)

/-- A number without its sign. -/
def number? (negative : Bool) (s : Text) : Option Json :=
  let whole := s.takeWhile Char.isDigit
  let rest := s.dropWhile Char.isDigit
  if whole.isEmpty || (whole.head? = some '0' && whole.length > 1) then none
  else
    match rest with
    | [] =>
      let n : Int := digitsValue whole
      some (.int (if negative then -n else n))
    | '.' :: s =>
      let fraction := s.takeWhile Char.isDigit
      if fraction.isEmpty then none
      else (exponent? (s.dropWhile Char.isDigit)).map fun x =>
        .decimal ⟨negative, digitsValue (whole ++ fraction), x - fraction.length⟩
    | s => (exponent? s).map fun x => .decimal ⟨negative, digitsValue whole, x⟩

/-- The constant or number that a run of characters spells. -/
def scalarValue? (s : Text) : Option Json :=
  if s = "null".toList then some .null
  else if s = "true".toList then some (.bool true)
  else if s = "false".toList then some (.bool false)
  else
    match s with
    | '-' :: s => number? true s
    | s => number? false s

/-- The punctuation that a character stands for. -/
def punctuation? : Char → Option Token
  | '[' => some .openArray
  | ']' => some .closeArray
  | '\x7b' => some .openObject
  | '\x7d' => some .closeObject
  | ',' => some .comma
  | ':' => some .colon
  | _ => none

/-- The token that begins with `c`. -/
def read? (c : Char) (s : Text) : Option (Text.Reading Token) :=
  match punctuation? c with
  | some t => some ⟨t, s⟩
  | none =>
    if c = '"' then (readText [] s).map fun r => ⟨.text r.value, r.rest⟩
    else (scalarValue? (c :: s.takeWhile isScalarPart)).map fun v =>
      ⟨.scalar v, s.dropWhile isScalarPart⟩

/-- Cuts a text into tokens, with `done` (reversed) before them. -/
def readAll (done : List Token) (s : Text) : Option (List Token) :=
  match s with
  | [] => some done.reverse
  | c :: s =>
    if c = ' ' || c = '\t' || c = '\n' || c = '\r' then readAll done s
    else
      match read? c s with
      | some r => if r.rest.length ≤ s.length then readAll (r.value :: done) r.rest else none
      | none => none
termination_by s.length

end Token

/-- A container that is still open. -/
inductive Frame where
  /-- A list with the items read so far, the last one first. -/
  | array (items : List Json)
  /-- An object with the fields read so far, the last one first, and the name of
  the field that is being read. -/
  | object (fields : List Field) (name : Text)

/-- What the reader expects. -/
inductive Expecting where
  /-- A value. -/
  | value
  /-- The first item of a list, or its end. -/
  | itemOrEnd
  /-- The first field of an object, or its end. -/
  | fieldOrEnd
  /-- The name of a field, after fields read so far. -/
  | name (fields : List Field)
  /-- The colon after a field's name. -/
  | colon (fields : List Field) (name : Text)
  /-- A comma, or the end of the innermost container. -/
  | more
  /-- The end of the text. -/
  | nothing (v : Json)

/-- What the reader expects, and the containers around it. -/
structure Reader where
  /-- The innermost container comes first. -/
  frames : List Frame
  /-- What may come next. -/
  expecting : Expecting

/-- Fields with one more, which takes the place of an earlier one of its name. -/
def putField (name : Text) (v : Json) (fields : List Field) : List Field :=
  if fields.any (·.1 == name) then fields.map fun f => if f.1 == name then (name, v) else f
  else (name, v) :: fields

namespace Reader

/-- The reader after a whole value. -/
def complete (v : Json) : List Frame → Reader
  | [] => ⟨[], .nothing v⟩
  | .array items :: fs => ⟨.array (v :: items) :: fs, .more⟩
  | .object fields name :: fs => ⟨.object (putField name v fields) name :: fs, .more⟩

/-- The reader after the first token of a value. -/
def begin (frames : List Frame) : Token → Option Reader
  | .scalar v => some (complete v frames)
  | .text s => some (complete (.string s) frames)
  | .openArray => some ⟨.array [] :: frames, .itemOrEnd⟩
  | .openObject => some ⟨frames, .fieldOrEnd⟩
  | _ => none

/-- The reader after one more token. -/
def step (r : Reader) (t : Token) : Option Reader :=
  match r.expecting, t, r.frames with
  | .value, t, fs => begin fs t
  | .itemOrEnd, .closeArray, .array _ :: fs => some (complete (.array []) fs)
  | .itemOrEnd, t, fs => begin fs t
  | .fieldOrEnd, .closeObject, fs => some (complete (.object []) fs)
  | .fieldOrEnd, .text s, fs => some ⟨fs, .colon [] s⟩
  | .name fields, .text s, fs => some ⟨fs, .colon fields s⟩
  | .colon fields s, .colon, fs => some ⟨.object fields s :: fs, .value⟩
  | .more, .comma, .array items :: fs => some ⟨.array items :: fs, .value⟩
  | .more, .closeArray, .array items :: fs => some (complete (.array items.reverse) fs)
  | .more, .comma, .object fields _ :: fs => some ⟨fs, .name fields⟩
  | .more, .closeObject, .object fields _ :: fs => some (complete (.object fields.reverse) fs)
  | _, _, _ => none

end Reader

/-- The value that tokens spell. -/
def ofTokens? (ts : List Token) : Option Json :=
  match ts.foldlM Reader.step ⟨[], .value⟩ with
  | some ⟨_, .nothing v⟩ => some v
  | _ => none

/-- The value that a text spells. -/
def read? (s : Text) : Option Json := (Token.readAll [] s).bind ofTokens?

end Json
end DocExamples
