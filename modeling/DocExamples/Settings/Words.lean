/-
# Words of a command line

A command line is cut at spaces, tabs and line ends.  A quote takes everything up
to the next quote of its kind into the word, a backslash the character behind it;
between double quotes a backslash escapes only a double quote or itself.  Quotes
with nothing between them are an empty word.
-/

import DocExamples.Disk.Fault

namespace DocExamples
namespace Words

/-- Where in a word the reader is. -/
inductive Mode where
  /-- Outside quotes. -/
  | plain
  /-- Between two quotes. -/
  | quoted (quote : Char)
  /-- Behind a backslash outside quotes. -/
  | escaped
  /-- Behind a backslash between double quotes. -/
  | quotedEscape
deriving DecidableEq, Repr

/-- Whether a character separates words. -/
def separates (c : Char) : Bool := c == ' ' || c == '\t' || c == '\r' || c == '\n'

/-- The words before `rest` and the word being read, reversed; `begun` says whether
that word stands even if it is empty. -/
def finish (word : Text) (begun : Bool) (rest : List Text) : List Text :=
  if word.isEmpty && !begun then rest else word.reverse :: rest

/-- The words of a text, while a word (reversed) is being read. -/
def readFrom : Mode → (word : Text) → (begun : Bool) → Text → Except Failure (List Text)
  | .plain, word, begun, [] => .ok (finish word begun [])
  | .plain, word, begun, c :: s =>
    if separates c then (readFrom .plain [] false s).map (finish word begun)
    else if c = '\\' then readFrom .escaped word begun s
    else if c = '\'' ∨ c = '"' then readFrom (.quoted c) word true s
    else readFrom .plain (c :: word) begun s
  | .quoted _, _, _, [] => .error .unclosedQuote
  | .quoted q, word, begun, c :: s =>
    if c = q then readFrom .plain word begun s
    else if c = '\\' ∧ q = '"' then readFrom .quotedEscape word begun s
    else readFrom (.quoted q) (c :: word) begun s
  | .escaped, _, _, [] => .error .danglingEscape
  | .escaped, word, begun, c :: s => readFrom .plain (c :: word) begun s
  | .quotedEscape, _, _, [] => .error .danglingEscape
  | .quotedEscape, word, begun, c :: s =>
    if c = '"' ∨ c = '\\' then readFrom (.quoted '"') (c :: word) begun s
    else readFrom (.quoted '"') (c :: '\\' :: word) begun s

/-- The words of a command line. -/
def read (s : Text) : Except Failure (List Text) := readFrom .plain [] false s

end Words
end DocExamples
