/-
# Quoted texts

Messages show a text in quotes, with every character that could not be seen
written as an escape:

| character | shown as |
| --- | --- |
| backslash, the quote in use | itself after a backslash |
| tab, line feed, carriage return | `\t`, `\n`, `\r` |
| not printable, below U+0100 | `\xhh` |
| not printable, below U+10000 | `\uhhhh` |
| not printable, above | `\Uhhhhhhhh` |

The quotes are single, unless the text holds single quotes and no double one.
-/

import DocExamples.Text.Numeral
import DocExamples.Text.Printable

namespace DocExamples
namespace Text

/-- The quote that a text is shown in. -/
def quoteFor (s : Text) : Char :=
  if s.contains '\'' && !s.contains '"' then '"' else '\''

/-- One character as it is shown between quotes. -/
def shown (quote c : Char) : Text :=
  if c = quote ∨ c = '\\' then ['\\', c]
  else if c = '\t' then ['\\', 't']
  else if c = '\n' then ['\\', 'n']
  else if c = '\r' then ['\\', 'r']
  else if isPrintable c then [c]
  else if c.toNat < 0x100 then '\\' :: 'x' :: hexadecimal 2 c.toNat
  else if c.toNat < 0x10000 then '\\' :: 'u' :: hexadecimal 4 c.toNat
  else '\\' :: 'U' :: hexadecimal 8 c.toNat

/-- A text in quotes, as messages show it. -/
def quoted (s : Text) : Text :=
  quoteFor s :: s.flatMap (shown (quoteFor s)) ++ [quoteFor s]

end Text
end DocExamples
