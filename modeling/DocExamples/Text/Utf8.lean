/-
# UTF-8

A code point is written in one to four octets:

| code points | octets |
| --- | --- |
| below U+0080 | `0xxxxxxx` |
| below U+0800 | `110xxxxx 10xxxxxx` |
| below U+10000 | `1110xxxx 10xxxxxx 10xxxxxx` |
| above | `11110xxx 10xxxxxx 10xxxxxx 10xxxxxx` |

Only the shortest form is valid and surrogates have none, which narrows the
octet after a lead octet `E0`, `ED`, `F0` or `F4`.  An invalid part is as long as
it could still have become a code point: the octets up to the first one that
cannot follow.  Strict decoding names the first invalid part, lenient decoding
puts U+FFFD in place of each.
-/

import DocExamples.Text.Numeral

namespace DocExamples

/-- Octets as they are stored. -/
abbrev Octets := List UInt8

namespace Utf8

/-- A continuation octet that carries the low six bits of `n`. -/
def continuation (n : Nat) : UInt8 := .ofNat (0x80 + n % 0x40)

/-- The octets of one code point. -/
def encodeChar (c : Char) : Octets :=
  let n := c.toNat
  if n < 0x80 then [.ofNat n]
  else if n < 0x800 then [.ofNat (0xC0 + n / 0x40), continuation n]
  else if n < 0x10000 then
    [.ofNat (0xE0 + n / 0x1000), continuation (n / 0x40), continuation n]
  else
    [.ofNat (0xF0 + n / 0x40000), continuation (n / 0x1000), continuation (n / 0x40),
      continuation n]

/-- The octets of a text. -/
def encode (s : Text) : Octets := s.flatMap encodeChar

/-- What a lead octet announces. -/
structure Lead where
  /-- The bits of the code point that the lead octet carries. -/
  bits : Nat
  /-- How many octets follow. -/
  following : Nat
  /-- The least octet that may come next. -/
  least : Nat
  /-- The greatest octet that may come next. -/
  greatest : Nat
deriving DecidableEq, Repr

/-- What an octet announces as the first of a code point. -/
def lead? (b : Nat) : Option Lead :=
  if b < 0x80 then some ⟨b, 0, 0x80, 0xBF⟩
  else if b < 0xC2 then none
  else if b < 0xE0 then some ⟨b - 0xC0, 1, 0x80, 0xBF⟩
  else if b < 0xF0 then
    some ⟨b - 0xE0, 2, if b = 0xE0 then 0xA0 else 0x80, if b = 0xED then 0x9F else 0xBF⟩
  else if b < 0xF5 then
    some ⟨b - 0xF0, 3, if b = 0xF0 then 0x90 else 0x80, if b = 0xF4 then 0x8F else 0xBF⟩
  else none

/-- Why octets are no code point. -/
inductive Reason where
  /-- No code point begins with this octet. -/
  | invalidStart
  /-- The octet after the part cannot continue it. -/
  | invalidContinuation
  /-- The octets end within a code point. -/
  | unexpectedEnd
deriving DecidableEq, Repr

/-- The wording of a reason. -/
def Reason.message : Reason → Text
  | .invalidStart => "invalid start byte".toList
  | .invalidContinuation => "invalid continuation byte".toList
  | .unexpectedEnd => "unexpected end of data".toList

/-- The start of an octet sequence: a code point, or an invalid part of some
length (at least one). -/
inductive Item where
  /-- A code point. -/
  | char (c : Char)
  /-- An invalid part. -/
  | invalid (length : Nat) (reason : Reason)
deriving DecidableEq, Repr

/-- An item and the octets behind it. -/
structure Step where
  /-- The item. -/
  item : Item
  /-- The octets behind it. -/
  rest : Octets

/-- Goes on with a code point of which `length` octets with the value `bits` are
read, `following` are still to come, and the next has to lie in a range. -/
def continueChar (bits length : Nat) : (following least greatest : Nat) → Octets → Step
  | 0, _, _, rest => ⟨.char (Char.ofNat bits), rest⟩
  | _ + 1, _, _, [] => ⟨.invalid length .unexpectedEnd, []⟩
  | n + 1, least, greatest, b :: rest =>
    if least ≤ b.toNat && b.toNat ≤ greatest then
      continueChar (bits * 0x40 + b.toNat % 0x40) (length + 1) n 0x80 0xBF rest
    else ⟨.invalid length .invalidContinuation, b :: rest⟩

/-- The item that begins with octet `b`. -/
def step (b : UInt8) (rest : Octets) : Step :=
  match lead? b.toNat with
  | some l => continueChar l.bits 1 l.following l.least l.greatest rest
  | none => ⟨.invalid 1 .invalidStart, rest⟩

theorem length_continueChar_le (bits length following least greatest : Nat) (s : Octets) :
    (continueChar bits length following least greatest s).rest.length ≤ s.length := by
  fun_induction continueChar bits length following least greatest s with
  | case1 => simp
  | case2 => simp
  | case3 _ _ _ _ _ _ _ _ ih => exact Nat.le_succ_of_le ih
  | case4 => simp

theorem length_step_le (b : UInt8) (s : Octets) : (step b s).rest.length ≤ s.length := by
  unfold step
  split
  · exact length_continueChar_le ..
  · simp

/-- The items of an octet sequence, put in front of `done` (reversed). -/
def itemsFrom (done : List Item) (s : Octets) : List Item :=
  match s with
  | [] => done.reverse
  | b :: rest => itemsFrom ((step b rest).item :: done) (step b rest).rest
termination_by s.length
decreasing_by exact Nat.lt_succ_of_le (length_step_le b rest)

/-- The code points and invalid parts that an octet sequence consists of. -/
def items (s : Octets) : List Item := itemsFrom [] s

/-- The first invalid part of an octet sequence. -/
structure Fault where
  /-- The offset of its first octet. -/
  start : Nat
  /-- How many octets it has. -/
  length : Nat
  /-- The value of its first octet. -/
  octet : Nat
  /-- Why it is invalid. -/
  reason : Reason
deriving DecidableEq, Repr

/-- The wording of a fault. -/
def Fault.message (f : Fault) : Text :=
  "'utf-8' codec can't decode byte".toList ++
    (if f.length = 1 then
      " 0x".toList ++ Text.hexadecimal 2 f.octet ++ " in position ".toList ++ Text.decimal f.start
    else
      "s in position ".toList ++ Text.decimal f.start ++ "-".toList ++
        Text.decimal (f.start + f.length - 1)) ++
    ": ".toList ++ f.reason.message

/-- Decodes items that begin at an offset, up to the first invalid one. -/
def decodeItems (octets : Octets) : (offset : Nat) → (done : Text) → List Item → Except Fault Text
  | _, done, [] => .ok done.reverse
  | offset, done, .char c :: items =>
    decodeItems octets (offset + (encodeChar c).length) (c :: done) items
  | offset, _, .invalid length reason :: _ =>
    .error ⟨offset, length, (octets[offset]?.map UInt8.toNat).getD 0, reason⟩

/-- The text that octets stand for, or the first part of them that stands for
nothing. -/
def decode (s : Octets) : Except Fault Text := decodeItems s 0 [] (items s)

/-- The text of one item, U+FFFD in place of an invalid part. -/
def Item.lenient : Item → Char
  | .char c => c
  | .invalid .. => '\uFFFD'

/-- The text that octets stand for, with U+FFFD in place of every invalid part. -/
def decodeLenient (s : Octets) : Text := (items s).map Item.lenient

end Utf8
end DocExamples
