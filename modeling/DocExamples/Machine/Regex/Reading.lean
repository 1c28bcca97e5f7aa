/-
# Reading regular expressions

Programs agree on what a regular expression is made of, but not on how it is written:
an operator may need a backslash, or be an operator only without one, and programs
differ in what they make of an operator with nothing to repeat before it.
-/

import DocExamples.Machine.Regex

namespace DocExamples

namespace CharSet

/-- The ranges of a named class, if there is one of that name. -/
def namedRanges? (name : Text) : Option (List CharRange) :=
  let names := ["alnum", "alpha", "blank", "cntrl", "digit", "graph", "lower", "print", "punct",
    "space", "upper", "xdigit"]
  if names.any (·.toList == name) then some (classRanges name) else none

/-- The characters of words. -/
def wordPart : List CharRange := classRanges "alnum".toList ++ [⟨'_', '_'⟩] ++ Letter.others

/-- White space. -/
def blank : List CharRange := classRanges "space".toList ++ Letter.otherSpaces

end CharSet

namespace Regex

/-- What is wrong with a text that spells no expression. -/
inductive Fault where
  /-- It is not made like an expression. -/
  | invalid
  /-- A name of more than one character stands for a character. -/
  | badCharacter
  /-- No class of characters has this name. -/
  | badClass
  /-- It ends in a backslash. -/
  | trailingBackslash
  /-- The text of a group is asked for that is not closed before. -/
  | badReference
  /-- A set is not closed. -/
  | openSet
  /-- A group is not closed. -/
  | openGroup
  /-- Bounds on repetition are not closed. -/
  | openBounds
  /-- Bounds on repetition are not numbers, or in the wrong order. -/
  | badBounds
  /-- A range ends before it starts. -/
  | badRange
  /-- There is nothing to repeat. -/
  | nothingToRepeat
  /-- A repetition is too often. -/
  | tooBig
  /-- A group is closed that is not open. -/
  | strayClose
deriving DecidableEq, Repr

namespace Fault

/-- The words for a fault. -/
def message (f : Fault) : Text :=
  String.toList <|
    match f with
    | invalid => "Invalid regular expression"
    | badCharacter => "Invalid collation character"
    | badClass => "Invalid character class name"
    | trailingBackslash => "Trailing backslash"
    | badReference => "Invalid back reference"
    | openSet => "Unmatched [, [^, [:, [., or [="
    | openGroup => "Unmatched ( or \\("
    | openBounds => "Unmatched \\\x7b"
    | badBounds => "Invalid content of \\\x7b\\\x7d"
    | badRange => "Invalid range end"
    | nothingToRepeat => "Invalid preceding regular expression"
    | tooBig => "Regular expression too big"
    | strayClose => "Unmatched ) or \\)"

end Fault

/-- What an operator means that has nothing to repeat before it. -/
inductive LoneOperator where
  /-- It stands for itself. -/
  | literal
  /-- It stands for nothing. -/
  | skipped
  /-- It is a mistake. -/
  | refused
deriving DecidableEq, Repr

/-- A way to write expressions. -/
structure Dialect where
  /-- Whether operators other than `*` need a backslash. -/
  basic : Bool
  /-- What an operator means that has nothing to repeat before it. -/
  lone : LoneOperator
  /-- What bounds mean that have nothing to repeat before them. -/
  loneBounds : LoneOperator
  /-- Whether a closing parenthesis without an opening one stands for itself. -/
  keepsStrayClose : Bool
  /-- Whether bounds that are no numbers stand for themselves. -/
  keepsBadBounds : Bool
  /-- Whether a repetition may not follow another one. -/
  repeatsOnce : Bool
  /-- Whether a place may be repeated. -/
  repeatsPlaces : Bool
  /-- Whether lines in the text have places of their own. -/
  byLine : Bool
deriving DecidableEq, Repr

namespace Dialect

/-- The dialect of programs that edit lines. -/
def editing (extended : Bool) : Dialect where
  basic := !extended
  lone := if extended then .refused else .literal
  loneBounds := .refused
  keepsStrayClose := false
  keepsBadBounds := false
  repeatsOnce := !extended
  repeatsPlaces := false
  byLine := false

/-- The dialect of programs that search lines. -/
def searching (extended : Bool) : Dialect where
  basic := !extended
  lone := if extended then .skipped else .literal
  loneBounds := if extended then .skipped else .literal
  keepsStrayClose := extended
  keepsBadBounds := extended
  repeatsOnce := false
  repeatsPlaces := false
  byLine := false

/-- The dialect of programs that search lines, where only whether a line matches is asked:
a place may be repeated, and a brace without numbers behind it stands for itself. -/
def selecting (extended : Bool) : Dialect :=
  { searching extended with
    repeatsPlaces := extended
    loneBounds := if extended then .literal else (searching extended).loneBounds }

end Dialect

/-! ## Tokens -/

/-- An element of an expression. -/
inductive Token where
  /-- This character. -/
  | char (c : Char)
  /-- Any character. -/
  | any
  /-- The start of a set. -/
  | openSet
  /-- A character of a set that has a letter of its own. -/
  | kind (s : CharSet)
  /-- The text of a group once more. -/
  | again (n : Nat)
  /-- A place. -/
  | place (p : Place)
  /-- An operator that repeats: so many times at least, and so many at most. -/
  | repeats (c : Char) (least : Nat) (most : Option Nat)
  /-- The start of bounds on repetition. -/
  | openBounds
  /-- The end of bounds on repetition. -/
  | closeBounds
  /-- The start of a group. -/
  | openGroup
  /-- The end of a group. -/
  | closeGroup
  /-- Another alternative follows. -/
  | alt
  /-- A backslash with nothing behind it. -/
  | loneBackslash
  /-- The end of the expression. -/
  | finish

/-- What a character stands for that a backslash is needed or not needed for. -/
def operator? : Char → Option Token
  | '(' => some .openGroup
  | ')' => some .closeGroup
  | '\x7b' => some .openBounds
  | '\x7d' => some .closeBounds
  | '|' => some .alt
  | '+' => some (.repeats '+' 1 none)
  | '?' => some (.repeats '?' 0 (some 1))
  | _ => none

/-- What a character stands for behind a backslash in all dialects. -/
def escaped? (c : Char) : Option Token :=
  match c with
  | 'w' => some (.kind ⟨false, CharSet.wordPart⟩)
  | 'W' => some (.kind ⟨true, CharSet.wordPart⟩)
  | 's' => some (.kind ⟨false, CharSet.blank⟩)
  | 'S' => some (.kind ⟨true, CharSet.blank⟩)
  | '<' => some (.place .wordStart)
  | '>' => some (.place .wordEnd)
  | 'b' => some (.place .wordEdge)
  | 'B' => some (.place .noWordEdge)
  | '\x60' => some (.place .textStart)
  | '\'' => some (.place .textEnd)
  | _ => if c.isDigit ∧ c ≠ '0' then some (.again (c.toNat - 48)) else none

/-- Whether an expression or a group or an alternative ends here. -/
def endsHere (d : Dialect) : Text → Bool
  | [] => true
  | '\\' :: c :: _ => d.basic && (c == ')' || c == '|')
  | c :: _ => !d.basic && (c == ')' || c == '|')

/-- The first token of a text, and what follows it; `here` says that a caret stands for the
start of the text even if operators need a backslash. -/
def token (d : Dialect) (here : Bool) : Text → Text.Reading Token
  | [] => ⟨.finish, []⟩
  | ['\\'] => ⟨.loneBackslash, []⟩
  | '\\' :: c :: s =>
    let t := if d.basic then (operator? c).or (escaped? c) else escaped? c
    ⟨t.getD (.char c), s⟩
  | '*' :: s => ⟨.repeats '*' 0 none, s⟩
  | '.' :: s => ⟨.any, s⟩
  | '[' :: s => ⟨.openSet, s⟩
  | '^' :: s =>
    let p := if d.byLine then .lineStart else .textStart
    ⟨if !d.basic || here then .place p else .char '^', s⟩
  | '$' :: s =>
    let p := if d.byLine then .lineEnd else .textEnd
    ⟨if !d.basic || endsHere d s then .place p else .char '$', s⟩
  | c :: s => ⟨((if d.basic then none else operator? c)).getD (.char c), s⟩

/-! ## Sets -/

/-- What stands for one or more characters in a set. -/
inductive Member where
  /-- This character; it may start or end a range. -/
  | char (c : Char)
  /-- A class of characters. -/
  | ranges (rs : List CharRange)

/-- The member whose name stands in square brackets in a set. -/
def named (kind : Char) (name : Text) : Except Fault Member :=
  if kind = ':' then
    match CharSet.namedRanges? name with
    | some rs => .ok (.ranges (rs ++ Letter.othersOf name))
    | none => .error .badClass
  else
    match name with
    | [c] => .ok (if kind = '=' then .ranges [⟨c, c⟩] else .char c)
    | _ => .error .badCharacter

/-- The member at the start of a text; `free` says that a hyphen may be one. -/
def member (free : Bool) : Text → Except Fault (Text.Reading Member)
  | [] => .error .openSet
  | '[' :: kind :: s =>
    if kind = ':' ∨ kind = '.' ∨ kind = '=' then
      match Text.cut? [kind, ']'] s with
      | some k => (named kind k.before).map (⟨·, k.after⟩)
      | none => .error .openSet
    else .ok ⟨.char '[', kind :: s⟩
  | '-' :: '-' :: '-' :: s => .ok ⟨.char '-', s⟩
  | '-' :: s => if free || s.head? = some ']' then .ok ⟨.char '-', s⟩ else .error .badRange
  | c :: s => .ok ⟨.char c, s⟩

/-- Whether a hyphen at the start of a text makes a range. -/
def startsRange : Text → Bool
  | '-' :: ']' :: _ => false
  | '-' :: '-' :: '-' :: _ => false
  | '-' :: _ => true
  | _ => false

/-- Reads the members of a set up to its closing bracket, after `done`. -/
def members (d : Dialect) (negated : Bool) : (fuel : Nat) → (first : Bool) →
    (done : List CharRange) → Text → Except Fault (Text.Reading CharSet)
  | 0, _, _, _ => .error .openSet
  | fuel + 1, first, done, s => do
    if !first && s.head? = some ']' then return ⟨⟨negated, done⟩, s.drop 1⟩
    let a ← member first s
    match a.value with
    | .ranges rs => members d negated fuel false (done ++ rs) a.rest
    | .char c =>
      if startsRange a.rest then
        let b ← member true (a.rest.drop 1)
        match b.value with
        | .ranges _ => .error .badRange
        | .char e =>
          if e < c then .error .badRange
          else members d negated fuel false (done ++ [⟨c, e⟩]) b.rest
      else members d negated fuel false (done ++ [⟨c, c⟩]) a.rest

/-- Reads a set from behind its opening bracket. -/
def readSet (d : Dialect) (s : Text) : Except Fault (Text.Reading CharSet) :=
  match s with
  | [] => .error .invalid
  | ['^'] => .error .invalid
  | '^' :: rest => members d true (s.length + 1) true [] rest
  | _ => members d false (s.length + 1) true [] s

/-! ## Bounds -/

/-- A number in bounds. -/
inductive Count where
  /-- There is none. -/
  | absent
  /-- It is none. -/
  | bad
  /-- A number. -/
  | number (n : Nat)

/-- What ends a number in bounds. -/
inductive CountEnd where
  /-- A comma. -/
  | comma
  /-- The end of the bounds. -/
  | close
  /-- The end of the expression. -/
  | finish
deriving DecidableEq

/-- The greatest number of repetitions. -/
def mostRepetitions : Nat := 32767

/-- A number with one more character behind it. -/
def Count.push (n : Count) (c : Char) : Count :=
  if !c.isDigit then .bad
  else
    match n with
    | .bad => .bad
    | .absent => .number (c.toNat - 48)
    | .number n => .number (min (mostRepetitions + 1) (10 * n + (c.toNat - 48)))

/-- The number at the start of a text, what ends it, and what follows. -/
def count (d : Dialect) : Count → Text → Count × CountEnd × Text
  | _, [] => (.bad, .finish, [])
  | n, ',' :: s => (n, .comma, s)
  | n, '\\' :: '\x7d' :: s => if d.basic then (n, .close, s) else count d .bad s
  | n, c :: s => if !d.basic && c == '\x7d' then (n, .close, s) else count d (n.push c) s

/-- Bounds on repetition. -/
structure Bounds where
  /-- The least number. -/
  least : Nat
  /-- The greatest number. -/
  most : Option Nat

/-- Checks bounds that are numbers. -/
def checked (least : Nat) (most : Option Nat) (last : CountEnd) (rest : Text) :
    Except Fault (Option (Text.Reading Bounds)) :=
  if last ≠ .close || most.any (· < least) then .error .badBounds
  else if mostRepetitions < most.getD least then .error .tooBig
  else .ok (some ⟨⟨least, most⟩, rest⟩)

/-- The bounds from behind their opening brace, and what follows them; nothing if the brace
stands for itself. -/
def readBounds (d : Dialect) (s : Text) : Except Fault (Option (Text.Reading Bounds)) :=
  let wrong (last : CountEnd) : Except Fault (Option (Text.Reading Bounds)) :=
    if d.keepsBadBounds then .ok none
    else .error (if last = .finish then .openBounds else .badBounds)
  let upTo (least : Nat) (rest : Text) : Except Fault (Option (Text.Reading Bounds)) :=
    match count d .absent rest with
    | (.bad, last, _) => wrong last
    | (.absent, last, rest) => checked least none last rest
    | (.number m, last, rest) => checked least (some m) last rest
  match count d .absent s with
  | (.absent, .comma, rest) => upTo 0 rest
  | (.absent, _, _) => .error .badBounds
  | (.bad, last, _) => wrong last
  | (.number n, .comma, rest) => upTo n rest
  | (.number n, last, rest) => checked n (some n) last rest

/-! ## Expressions -/

/-- How far an expression was read. -/
structure Progress where
  /-- What follows. -/
  rest : Text
  /-- Whether a caret stands for the start of the text here. -/
  here : Bool
  /-- Whether an opening brace stands for itself here. -/
  kept : Bool
  /-- How many groups were opened. -/
  opened : Nat
  /-- The groups that were closed before. -/
  closed : List Nat

/-- An expression, and how far it was read. -/
structure Parsed where
  /-- The expression. -/
  regex : Regex
  /-- How far it was read. -/
  next : Progress

/-- The next token. -/
def Progress.token (d : Dialect) (p : Progress) : Text.Reading Token :=
  Regex.token d p.here p.rest

/-- Whether a repetition follows that may not follow another one. -/
def repeatsAgain (d : Dialect) (s : Text) : Bool :=
  d.repeatsOnce &&
    match (token d false s).value with
    | .repeats '*' _ _ => true
    | .openBounds => true
    | _ => false

/-- Puts the repetitions at the start of a text on an expression. -/
def withRepeats (d : Dialect) : (fuel : Nat) → Regex → Text → Except Fault (Text.Reading Regex)
  | 0, r, s => .ok ⟨r, s⟩
  | fuel + 1, r, s =>
    let more (r : Regex) (rest : Text) : Except Fault (Text.Reading Regex) :=
      if repeatsAgain d rest then .error .nothingToRepeat else withRepeats d fuel r rest
    let t := token d false s
    match t.value with
    | .repeats _ n m => more (repeated n m r) t.rest
    | .openBounds => do
      match ← readBounds d t.rest with
      | some b => more (repeated b.value.least b.value.most r) b.rest
      | none => return ⟨r, s⟩
    | _ => .ok ⟨r, s⟩

/-- An element with the repetitions behind it.  A brace is still there only if it does not start
bounds, so it stands for itself. -/
def repeatable (d : Dialect) (r : Regex) (p : Progress) : Except Fault Parsed := do
  let x ← withRepeats d (p.rest.length + 1) r p.rest
  return ⟨x.value, { p with rest := x.rest, here := false, kept := true }⟩

mutual

/-- Reads alternatives. -/
def readAlt (d : Dialect) : (fuel : Nat) → (nested : Bool) → Progress → Except Fault Parsed
  | 0, _, _ => .error .tooBig
  | fuel + 1, nested, p => do
    let a ← readSeq d fuel nested .empty p
    let t := a.next.token d
    match t.value with
    | .alt =>
      let after : Progress :=
        { a.next with rest := t.rest, here := true, kept := false, closed := p.closed }
      let b ← readAlt d fuel nested after
      return ⟨.alt a.regex b.regex, { b.next with closed := a.next.closed ++ b.next.closed }⟩
    | _ => return a

/-- Reads a sequence, after `done`. -/
def readSeq (d : Dialect) : (fuel : Nat) → (nested : Bool) → (done : Regex) → Progress →
    Except Fault Parsed
  | 0, _, _, _ => .error .tooBig
  | fuel + 1, nested, done, p => do
    let more : Except Fault Parsed := do
      let a ← readItem d fuel nested p
      readSeq d fuel nested (.seq done a.regex) a.next
    match (p.token d).value with
    | .finish => return ⟨done, p⟩
    | .alt => return ⟨done, p⟩
    | .closeGroup => if nested then return ⟨done, p⟩ else more
    | _ => more

/-- Reads an element with the repetitions behind it. -/
def readItem (d : Dialect) : (fuel : Nat) → (nested : Bool) → Progress → Except Fault Parsed
  | 0, _, _ => .error .tooBig
  | fuel + 1, nested, p => do
    let t := p.token d
    let after : Progress := { p with rest := t.rest, here := false, kept := false }
    let lone (means : LoneOperator) (c : Char) : Except Fault Parsed :=
      match means with
      | .literal => repeatable d (.char c) after
      | .skipped => readItem d fuel nested after
      | .refused => .error .nothingToRepeat
    match t.value with
    | .char c => repeatable d (.char c) after
    | .any => repeatable d .any after
    | .kind s => repeatable d (.set s) after
    | .openSet => do
      let s ← readSet d t.rest
      repeatable d (.set s.value) { after with rest := s.rest }
    | .again n =>
      if p.closed.contains n then repeatable d (.again n false) after else .error .badReference
    | .place x =>
      if d.repeatsPlaces then do
        let a ← repeatable d (.at x) after
        return { a with next.here := true }
      else return ⟨.at x, { after with here := true }⟩
    | .repeats c .. => lone d.lone c
    | .openBounds =>
      match if p.kept then (.literal, .literal) else (d.loneBounds, d.lone) with
      | (.literal, .skipped) =>
        match ← readBounds d t.rest with
        | some b => readItem d fuel nested { after with rest := b.rest }
        | none => lone .literal '\x7b'
      | (means, _) => lone means '\x7b'
    | .closeBounds => repeatable d (.char '\x7d') after
    | .closeGroup =>
      if d.keepsStrayClose then repeatable d (.char ')') after else .error .strayClose
    | .openGroup => do
      let n := p.opened + 1
      let inner ← readAlt d fuel true { after with here := true, opened := n }
      let e := inner.next.token d
      match e.value with
      | .closeGroup =>
        repeatable d (.group n inner.regex)
          { inner.next with rest := e.rest, closed := n :: inner.next.closed }
      | _ => .error .openGroup
    | .loneBackslash => .error .trailingBackslash
    | .alt => return ⟨.empty, p⟩
    | .finish => return ⟨.empty, p⟩

end

/-- The expression that a text spells. -/
def read (d : Dialect) (s : Text) : Except Fault Regex := do
  let a ← readAlt d (3 * s.length + 4) false ⟨s, true, false, 0, []⟩
  if a.next.rest.isEmpty then return a.regex else .error .invalid

/-- Whether the members of a set are the name of a class with its colons. -/
def isBareClass (s : Text) : Bool :=
  let s := if s.head? = some '^' then s.drop 1 else s
  2 < s.length && s.head? = some ':' && s.getLast? = some ':' && !s.contains '-' &&
    !s.contains '['

/-- Whether an expression has the name of a class as a set, which is a likely mistake. -/
def bareClassFrom (d : Dialect) : (fuel : Nat) → Text → Bool
  | 0, _ => false
  | _, [] => false
  | fuel + 1, s =>
    let t := token d true s
    match t.value with
    | .openSet =>
      match readSet d t.rest with
      | .ok r =>
        isBareClass (t.rest.take (t.rest.length - r.rest.length - 1)) || bareClassFrom d fuel r.rest
      | .error _ => false
    | _ => bareClassFrom d fuel t.rest

/-- Whether an expression has the name of a class as a set. -/
def hasBareClass (d : Dialect) (s : Text) : Bool := bareClassFrom d (s.length + 1) s

end Regex
end DocExamples
