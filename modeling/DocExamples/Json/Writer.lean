/-
# JSON text

A value is written with ASCII characters only: every other code point, and every
control character, becomes a `\u` escape of four hexadecimal digits, or two of
them (a surrogate pair) beyond U+FFFF.  A layout says where lines break.
-/

import DocExamples.Json.Value

namespace DocExamples
namespace Json

/-- Where the text of a value breaks its lines. -/
inductive Layout where
  /-- All on one line. -/
  | oneLine
  /-- Every item and field on a line of its own, two spaces further in. -/
  | indented
deriving DecidableEq, Repr

/-- The line break before an item at some depth. -/
def Layout.lineBreak : Layout → (depth : Nat) → Text
  | .oneLine, _ => []
  | .indented, depth => '\n' :: List.replicate (2 * depth) ' '

/-- What stands between two items. -/
def Layout.comma : Layout → Text
  | .oneLine => ", ".toList
  | .indented => [',']

/-- A UTF-16 unit as an escape. -/
def unitEscape (n : Nat) : Text := '\\' :: 'u' :: Text.hexadecimal 4 n

/-- A character as it is written between quotes. -/
def escape (c : Char) : Text :=
  if c = '"' ∨ c = '\\' then ['\\', c]
  else if c = '\n' then ['\\', 'n']
  else if c = '\r' then ['\\', 'r']
  else if c = '\t' then ['\\', 't']
  else if c = '\x08' then ['\\', 'b']
  else if c = '\x0c' then ['\\', 'f']
  else if 0x20 ≤ c.toNat ∧ c.toNat < 0x7F then [c]
  else if c.toNat < 0x10000 then unitEscape c.toNat
  else
    unitEscape (0xD800 + (c.toNat - 0x10000) / 0x400) ++
      unitEscape (0xDC00 + (c.toNat - 0x10000) % 0x400)

/-- A text in double quotes. -/
def writeText (s : Text) : Text := '"' :: s.flatMap escape ++ ['"']

/-- Texts between brackets, at some depth. -/
def enclosed (layout : Layout) (depth : Nat) (opening closing : Char) (items : List Text) : Text :=
  if items.isEmpty then [opening, closing]
  else
    opening :: layout.lineBreak (depth + 1) ++
      Text.joined (layout.comma ++ layout.lineBreak (depth + 1)) items ++
      layout.lineBreak depth ++ [closing]

mutual

/-- The text of a value at some depth. -/
def writeAt (layout : Layout) (depth : Nat) : Json → Text
  | .null => "null".toList
  | .bool true => "true".toList
  | .bool false => "false".toList
  | .int n => Text.integer n
  | .decimal d => d.shown
  | .string s => writeText s
  | .array items => enclosed layout depth '[' ']' (writeItems layout (depth + 1) items)
  | .object fields => enclosed layout depth '\x7b' '\x7d' (writeFields layout (depth + 1) fields)

/-- The texts of the items of a list. -/
def writeItems (layout : Layout) (depth : Nat) : List Json → List Text
  | [] => []
  | v :: vs => writeAt layout depth v :: writeItems layout depth vs

/-- The texts of the fields of an object. -/
def writeFields (layout : Layout) (depth : Nat) : List (Text × Json) → List Text
  | [] => []
  | (k, v) :: fs =>
    (writeText k ++ ": ".toList ++ writeAt layout depth v) :: writeFields layout depth fs

end

/-- The text of a value. -/
def write (layout : Layout) (v : Json) : Text := writeAt layout 0 v

end Json
end DocExamples
