/-
# Texts in quotes

A complaint puts the text that it is about in quotes, in which a character that cannot
be seen is written as an escape, and so is an octet that belongs to no character.

| form | plain text | with a blank | with a quote | with a line feed |
| --- | --- | --- | --- | --- |
| curly | `‘a’` | `‘a b’` | `‘a'b’` | `‘a\nb’` |
| shell | `'a'` | `'a b'` | `"a'b"` | `'a'$'\n''b'` |
| where needed | `a` | `'a b'` | `"a'b"` | `'a'$'\n''b'` |

The last two forms are words of a shell that stand for the text.
-/

import DocExamples.Machine.Letter
import DocExamples.Text.Blank
import DocExamples.Text.Printable

namespace DocExamples
namespace Quoting

/-- Whether a character can be seen. -/
def isSeen (c : Char) : Bool :=
  !Octet.isStray c && (Text.isPrintable c || (0x80 < c.toNat && Text.isBlank c && c != '\u0085'))

/-- The letter that stands for a character behind a backslash. -/
def letter? (c : Char) : Option Char :=
  [('\x07', 'a'), ('\x08', 'b'), ('\x0c', 'f'), ('\n', 'n'), ('\r', 'r'), ('\t', 't'),
    ('\x0b', 'v')].lookup c

/-- The escape of a character that cannot be seen. -/
def escape (c : Char) : Text :=
  match letter? c with
  | some l => ['\\', l]
  | none => (Octet.ofChars [c]).flatMap fun o => '\\' :: Text.octal 3 o.toNat

/-- A text between curly quotes. -/
def curly (s : Text) : Text :=
  let shown (c : Char) : Text :=
    if c = '\\' ∨ c = '’' then '\\' :: Octet.ofChars [c]
    else if isSeen c then Octet.ofChars [c]
    else escape c
  Octet.ofText ['‘'] ++ (Octet.chars s).flatMap shown ++ Octet.ofText ['’']

/-- Whether a shell may take a character of a word for something else: always, at the start of the
word, or if it is the whole word. -/
def isSpecial (atStart alone : Bool) (c : Char) : Bool :=
  "\\?!\"$&()*;<=>[^\x60|".toList.contains c || (atStart && (c == '#' || c == '~')) ||
    (alone && (c == '\x7b' || c == '\x7d'))

/-- Whether every character stands for itself between double quotes too. -/
def isDoubleSafe (cs : Text) : Bool :=
  let isSafe (atStart : Bool) (c : Char) : Bool :=
    isSeen c && !isSpecial false false c && (atStart || (c != '#' && c != '~')) &&
      (cs.length = 1 || (c != '\x7b' && c != '\x7d'))
  isSafe true (cs.headD 'a') && (cs.drop 1).all (isSafe false)

/-- The characters of a word behind a quote that is open; `escaping` says that it is one in which
escapes are replaced. -/
def word : (escaping : Bool) → Text → Text
  | _, [] => ['\'']
  | escaping, c :: cs =>
    if c = '\'' then "'\\''".toList ++ word false cs
    else if isSeen c then
      (if escaping then "''".toList else []) ++ Octet.ofChars [c] ++ word false cs
    else (if escaping then [] else "'$'".toList) ++ escape c ++ word true cs

/-- A text as a word of a shell, always in quotes. -/
def shell (s : Text) : Text :=
  let cs := Octet.chars s
  if cs.contains '\'' && isDoubleSafe cs then '"' :: s ++ ['"'] else '\'' :: word false cs

/-- A text as a word of a shell, in quotes where it has to be; some characters ask for quotes
besides those that a shell may take for something else. -/
def shellUnlessPlain (also : Text) (s : Text) : Text :=
  let cs := Octet.chars s
  let isPlain (atStart : Bool) (c : Char) : Bool :=
    isSeen c && !isSpecial atStart (cs.length = 1) c && c != ' ' && c != '\'' && !also.contains c
  if !cs.isEmpty && isPlain true (cs.headD 'a') && (cs.drop 1).all (isPlain false) then s
  else shell s

/-- The name of a file before a colon. -/
def name (s : Text) : Text := shellUnlessPlain [':'] s

end Quoting
end DocExamples
