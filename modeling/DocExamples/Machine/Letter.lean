/-
# Characters in octet texts

Some utilities look at characters, not at octets.  The octets of a character in UTF-8
make one character; an octet that belongs to none is kept as a stray octet, so that
nothing is lost on the way back.
-/

import DocExamples.Machine.Glob
import DocExamples.Machine.Octet

namespace DocExamples
namespace Octet

/-- The number of the first character that stands for a stray octet. -/
def firstStray : Nat := 0x10FF00

/-- The character that stands for a stray octet. -/
def stray (b : UInt8) : Char := Char.ofNat (firstStray + b.toNat)

/-- Whether a character stands for a stray octet. -/
def isStray (c : Char) : Bool := firstStray ≤ c.toNat

/-- The characters of items, whose octets are given. -/
def charsOf : List Utf8.Item → Octets → Text
  | [], _ => []
  | .char c :: is, o => c :: charsOf is (o.drop (Utf8.encodeChar c).length)
  | .invalid n _ :: is, o => (o.take n).map stray ++ charsOf is (o.drop n)

/-- The characters of an octet text. -/
def chars (s : Text) : Text :=
  if s.all fun c => c.toNat < 0x80 then s
  else charsOf (Utf8.items (toOctets s)) (toOctets s)

/-- The octet text of characters. -/
def ofChars (s : Text) : Text :=
  s.flatMap fun c =>
    if isStray c then [Char.ofNat (c.toNat - firstStray)] else ofOctets (Utf8.encodeChar c)

end Octet

namespace Letter

/-- Small letters whose capital letters lie a fixed number of places before them. -/
def shifted : List (CharRange × Nat) :=
  [(⟨'a', 'z'⟩, 32), (⟨'à', 'ö'⟩, 32), (⟨'ø', 'þ'⟩, 32), (⟨'α', 'ρ'⟩, 32), (⟨'σ', 'ϋ'⟩, 32),
    (⟨'а', 'я'⟩, 32), (⟨'ѐ', 'џ'⟩, 80), (⟨'ա', 'ֆ'⟩, 48)]

/-- Letters that are capital and small in turns, beginning with a capital one. -/
def paired : List CharRange :=
  [⟨'Ā', 'į'⟩, ⟨'Ĳ', 'ķ'⟩, ⟨'Ĺ', 'ň'⟩, ⟨'Ŋ', 'ŷ'⟩, ⟨'Ź', 'ž'⟩, ⟨'Ѡ', 'ҁ'⟩, ⟨'Ҋ', 'ҿ'⟩, ⟨'Ӑ', 'ԯ'⟩,
    ⟨'Ḁ', 'ẕ'⟩, ⟨'Ạ', 'ỹ'⟩]

/-- Whether a range holds a character. -/
def within (r : CharRange) (c : Char) : Bool := r.first ≤ c && c ≤ r.last

/-- The capital letter for a small one. -/
def upper (c : Char) : Char :=
  match shifted.find? fun s => within s.1 c with
  | some s => Char.ofNat (c.toNat - s.2)
  | none =>
    match paired.find? (within · c) with
    | some r => if (c.toNat - r.first.toNat) % 2 = 1 then Char.ofNat (c.toNat - 1) else c
    | none => if c = 'ÿ' then 'Ÿ' else c

/-- The small letter for a capital one. -/
def lower (c : Char) : Char :=
  match shifted.find? fun s => within s.1 (Char.ofNat (c.toNat + s.2)) with
  | some s => Char.ofNat (c.toNat + s.2)
  | none =>
    match paired.find? (within · c) with
    | some r => if (c.toNat - r.first.toNat) % 2 = 0 then Char.ofNat (c.toNat + 1) else c
    | none => if c = 'Ÿ' then 'ÿ' else c

/-- Small letters outside ASCII. -/
def otherSmall : List CharRange :=
  [⟨'ß', 'ö'⟩, ⟨'ø', 'ÿ'⟩, ⟨'ά', 'ώ'⟩, ⟨'а', 'џ'⟩, ⟨'ա', 'ֆ'⟩] ++
    paired.flatMap fun r =>
      (List.range ((r.last.toNat - r.first.toNat + 1) / 2)).map fun n =>
        let c := Char.ofNat (r.first.toNat + 2 * n + 1)
        ⟨c, c⟩

/-- Capital letters outside ASCII. -/
def otherCapital : List CharRange :=
  [⟨'À', 'Ö'⟩, ⟨'Ø', 'Þ'⟩, ⟨'Ÿ', 'Ÿ'⟩, ⟨'Ά', 'Ά'⟩, ⟨'Έ', 'Ϋ'⟩, ⟨'Ѐ', 'Я'⟩, ⟨'Ա', 'Ֆ'⟩] ++
    paired.flatMap fun r =>
      (List.range ((r.last.toNat - r.first.toNat + 1) / 2)).map fun n =>
        let c := Char.ofNat (r.first.toNat + 2 * n)
        ⟨c, c⟩

/-- Letters outside ASCII. -/
def others : List CharRange :=
  [⟨'ª', 'ª'⟩, ⟨'µ', 'µ'⟩, ⟨'º', 'º'⟩, ⟨'À', 'Ö'⟩, ⟨'Ø', 'ö'⟩, ⟨'ø', 'ˁ'⟩, ⟨'Ͱ', 'ʹ'⟩, ⟨'Ά', 'Ά'⟩,
    ⟨'Έ', 'ҁ'⟩, ⟨'Ҋ', 'Ֆ'⟩, ⟨'ա', 'և'⟩, ⟨'א', 'ת'⟩, ⟨'ؠ', 'ي'⟩, ⟨'ऄ', 'ह'⟩, ⟨'ก', 'ะ'⟩, ⟨'Ა', 'Ჿ'⟩,
    ⟨'Ḁ', 'ᾼ'⟩, ⟨'ぁ', 'ゖ'⟩, ⟨'ァ', 'ヺ'⟩, ⟨'㐀', '䶿'⟩, ⟨'一', '鿿'⟩, ⟨'가', '힣'⟩, ⟨'Ａ', 'Ｚ'⟩,
    ⟨'ａ', 'ｚ'⟩]

/-- Marks and symbols outside ASCII. -/
def otherMarks : List CharRange :=
  [⟨'¡', '©'⟩, ⟨'«', '´'⟩, ⟨'¶', '¹'⟩, ⟨'»', '¿'⟩, ⟨'×', '×'⟩, ⟨'÷', '÷'⟩, ⟨'‐', '‧'⟩, ⟨'‰', '⁞'⟩,
    ⟨'⁰', '⯿'⟩, ⟨'、', '〿'⟩, ⟨'！', '／'⟩, ⟨'\uE000', '\uF8FF'⟩, ⟨'\uFFFD', '\uFFFD'⟩, ⟨'🀀', '🫿'⟩]

/-- Spaces outside ASCII. -/
def otherSpaces : List CharRange :=
  [⟨'\u1680', '\u1680'⟩, ⟨'\u2000', '\u2006'⟩, ⟨'\u2008', '\u200A'⟩, ⟨'\u2028', '\u2029'⟩,
    ⟨'\u205F', '\u205F'⟩, ⟨'\u3000', '\u3000'⟩]

/-- The characters outside ASCII of a class with a name. -/
def othersOf (name : Text) : List CharRange :=
  match String.ofList name with
  | "alpha" => others
  | "alnum" => others
  | "upper" => otherCapital
  | "lower" => otherSmall
  | "punct" => otherMarks
  | "space" => otherSpaces
  | "blank" => otherSpaces
  | "graph" => others ++ otherMarks
  | "print" => others ++ otherMarks ++ otherSpaces ++ [⟨'\u00A0', '\u00A0'⟩]
  | "cntrl" => [⟨'\u0080', '\u009F'⟩]
  | _ => []

/-- Characters that take two columns. -/
def wide : List CharRange :=
  [⟨'ᄀ', 'ᅟ'⟩, ⟨'⺀', '〾'⟩, ⟨'ぁ', '㏿'⟩, ⟨'㐀', '䶿'⟩, ⟨'一', '꓏'⟩, ⟨'가', '힣'⟩, ⟨'豈', '\uFAFF'⟩,
    ⟨'︰', '\uFE6F'⟩, ⟨'！', '｠'⟩, ⟨'￠', '￦'⟩, ⟨'🌀', '🙏'⟩, ⟨'🤀', '🧿'⟩]

/-- How many columns a character takes; one that cannot be shown takes none. -/
def columns (c : Char) : Nat :=
  if c < ' ' || c == '\x7f' || Octet.isStray c then 0
  else if within ⟨'\u0080', '\u009F'⟩ c || within ⟨'\u0300', '\u036F'⟩ c then 0
  else if wide.any (within · c) then 2
  else 1

/-- Whether a character is a letter outside ASCII. -/
def isOther (c : Char) : Bool := others.any (within · c)

end Letter
end DocExamples
