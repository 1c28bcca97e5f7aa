/-
# Globs

A glob is a pattern for whole words: `?` stands for any character, `*` for any
text, a set in square brackets for one of its characters.  A quoted character
stands for itself.
-/

import DocExamples.Text.Basic

namespace DocExamples

/-- A character that may have been quoted. -/
structure Mark where
  /-- The character. -/
  char : Char
  /-- Whether it was quoted. -/
  quoted : Bool
deriving DecidableEq, Repr

/-- The characters from one to another. -/
structure CharRange where
  /-- The least character. -/
  first : Char
  /-- The greatest character. -/
  last : Char
deriving DecidableEq, Repr

/-- A set of characters. -/
structure CharSet where
  /-- Whether the set holds all characters but those given. -/
  negated : Bool
  /-- The ranges given. -/
  ranges : List CharRange
deriving DecidableEq, Repr

namespace CharSet

/-- Whether a set holds a character. -/
def holds (s : CharSet) (c : Char) : Bool :=
  s.negated != s.ranges.any fun r => r.first ≤ c && c ≤ r.last

/-- The ranges of a named class. -/
def classRanges (name : Text) : List CharRange :=
  if name = "digit".toList then [⟨'0', '9'⟩]
  else if name = "upper".toList then [⟨'A', 'Z'⟩]
  else if name = "lower".toList then [⟨'a', 'z'⟩]
  else if name = "alpha".toList then [⟨'A', 'Z'⟩, ⟨'a', 'z'⟩]
  else if name = "alnum".toList then [⟨'0', '9'⟩, ⟨'A', 'Z'⟩, ⟨'a', 'z'⟩]
  else if name = "space".toList then [⟨'\t', '\r'⟩, ⟨' ', ' '⟩]
  else if name = "blank".toList then [⟨'\t', '\t'⟩, ⟨' ', ' '⟩]
  else if name = "punct".toList then [⟨'!', '/'⟩, ⟨':', '@'⟩, ⟨'[', '\x60'⟩, ⟨'\x7b', '~'⟩]
  else if name = "xdigit".toList then [⟨'0', '9'⟩, ⟨'A', 'F'⟩, ⟨'a', 'f'⟩]
  else if name = "print".toList then [⟨' ', '~'⟩]
  else if name = "graph".toList then [⟨'!', '~'⟩]
  else if name = "cntrl".toList then [⟨'\x00', '\x1f'⟩, ⟨'\x7f', '\x7f'⟩]
  else []

/-- A set and the text behind its closing bracket. -/
structure Read where
  /-- The set. -/
  set : CharSet
  /-- What follows it. -/
  rest : Text

/-- Reads the members of a set up to its closing bracket, after `done` (reversed);
`first` says that a closing bracket is still a member. -/
def readMembers (negated : Bool) : (fuel : Nat) → (first : Bool) → List CharRange → Text →
    Option Read
  | 0, _, _, _ => none
  | _, _, _, [] => none
  | fuel + 1, first, done, ']' :: s =>
    if first then readMembers negated fuel false (⟨']', ']'⟩ :: done) s
    else some ⟨⟨negated, done.reverse⟩, s⟩
  | fuel + 1, _, done, '[' :: ':' :: s =>
    match Text.cut? ":]".toList s with
    | some k => readMembers negated fuel false (classRanges k.before ++ done) k.after
    | none => readMembers negated fuel false (⟨'[', '['⟩ :: done) (':' :: s)
  | fuel + 1, _, done, c :: '-' :: d :: s =>
    if d = ']' then readMembers negated fuel false (⟨c, c⟩ :: done) ('-' :: d :: s)
    else readMembers negated fuel false (⟨c, d⟩ :: done) s
  | fuel + 1, _, done, c :: s => readMembers negated fuel false (⟨c, c⟩ :: done) s

/-- Reads a set from behind its opening bracket. -/
def read (s : Text) : Option Read :=
  match s with
  | '^' :: rest => readMembers true (s.length + 1) true [] rest
  | '!' :: rest => readMembers true (s.length + 1) true [] rest
  | _ => readMembers false (s.length + 1) true [] s

end CharSet

/-- One element of a glob. -/
inductive GlobItem where
  /-- This character. -/
  | char (c : Char)
  /-- Any character. -/
  | any
  /-- Any text. -/
  | star
  /-- A character of a set. -/
  | set (s : CharSet)
deriving DecidableEq, Repr

/-- A pattern for whole words. -/
abbrev Glob := List GlobItem

namespace Glob

/-- The glob that marked characters spell. -/
def ofMarks : (fuel : Nat) → List Mark → Glob
  | 0, _ => []
  | _, [] => []
  | fuel + 1, m :: ms =>
    if m.quoted then .char m.char :: ofMarks fuel ms
    else if m.char = '*' then .star :: ofMarks fuel ms
    else if m.char = '?' then .any :: ofMarks fuel ms
    else if m.char = '[' then
      match CharSet.read (ms.map (·.char)) with
      | some r => .set r.set :: ofMarks fuel (ms.drop (ms.length - r.rest.length))
      | none => .char '[' :: ofMarks fuel ms
    else .char m.char :: ofMarks fuel ms

/-- The glob of marked characters. -/
def read (ms : List Mark) : Glob := ofMarks (ms.length + 1) ms

/-- Whether a glob stands for more than itself. -/
def isPattern (g : Glob) : Bool := g.any fun
  | .char _ => false
  | _ => true

/-- Whether a glob matches a whole text. -/
def accepts : Glob → Text → Bool
  | [], s => s.isEmpty
  | .star :: g, [] => accepts g []
  | .star :: g, c :: s => accepts g (c :: s) || accepts (.star :: g) s
  | _ :: _, [] => false
  | .char d :: g, c :: s => c == d && accepts g s
  | .any :: g, _ :: s => accepts g s
  | .set t :: g, c :: s => t.holds c && accepts g s
termination_by g s => g.length + s.length

end Glob
end DocExamples
