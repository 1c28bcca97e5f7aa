/-
# Regular expressions

Regular expressions over characters or octets, and how they match.  The ways in which an expression
matches from a position are listed in the order of preference: repetitions take as much
as they can, and the alternative on the left comes first.  A match begins as far left as
possible and is as long as possible there; among the ways to that end the first one
decides what groups matched.
-/

import DocExamples.Machine.Letter

namespace DocExamples

namespace CharSet

/-- The part of a range that lies in another. -/
def common (a b : CharRange) : List CharRange :=
  let first := if a.first < b.first then b.first else a.first
  let last := if a.last < b.last then a.last else b.last
  if last < first then [] else [⟨first, last⟩]

/-- The characters that lie so many places before or behind a part of a range. -/
def moved (a b : CharRange) (shift : Char → Char) : List CharRange :=
  (common a b).map fun c => ⟨shift c.first, shift c.last⟩

/-- The letters of the other size than those of a range. -/
def otherSize (r : CharRange) : List CharRange :=
  let shifted := Letter.shifted.flatMap fun s =>
    let capital : CharRange := ⟨Letter.upper s.1.first, Letter.upper s.1.last⟩
    moved r s.1 Letter.upper ++ moved r capital Letter.lower
  if r.first = r.last then
    shifted ++ [⟨Letter.upper r.first, Letter.upper r.first⟩,
      ⟨Letter.lower r.first, Letter.lower r.first⟩]
  else shifted

/-- A set that does not tell capital letters from small ones. -/
def caseless (s : CharSet) : CharSet where
  negated := s.negated
  ranges := s.ranges ++ s.ranges.flatMap otherSize

end CharSet

/-- A place between two characters. -/
inductive Place where
  /-- The start of the text. -/
  | textStart
  /-- The end of the text. -/
  | textEnd
  /-- The start of a line. -/
  | lineStart
  /-- The end of a line. -/
  | lineEnd
  /-- The start of a word. -/
  | wordStart
  /-- The end of a word. -/
  | wordEnd
  /-- The start or the end of a word. -/
  | wordEdge
  /-- Neither the start nor the end of a word. -/
  | noWordEdge
deriving DecidableEq, Repr

namespace Place

/-- Whether a character belongs to a word. -/
def isWordPart (c : Char) : Bool := c.isAlphanum || c == '_' || Letter.isOther c

/-- Whether a place is of a kind, given the characters before and behind it. -/
def holds (before after : Option Char) : Place → Bool
  | textStart => before.isNone
  | textEnd => after.isNone
  | lineStart => before.all (· == '\n')
  | lineEnd => after.all (· == '\n')
  | wordStart => !before.any isWordPart && after.any isWordPart
  | wordEnd => before.any isWordPart && !after.any isWordPart
  | wordEdge => before.any isWordPart != after.any isWordPart
  | noWordEdge => before.any isWordPart == after.any isWordPart

end Place

/-- A regular expression. -/
inductive Regex where
  /-- The empty text. -/
  | empty
  /-- This character. -/
  | char (c : Char)
  /-- Any character. -/
  | any
  /-- A character of a set. -/
  | set (s : CharSet)
  /-- The empty text at a place of a kind. -/
  | at (p : Place)
  /-- One expression and then another. -/
  | seq (a b : Regex)
  /-- One expression or another. -/
  | alt (a b : Regex)
  /-- An expression any number of times. -/
  | star (a : Regex)
  /-- A group with a number. -/
  | group (n : Nat) (a : Regex)
  /-- The text of a group once more; capital letters may stand for small ones. -/
  | again (n : Nat) (caseless : Bool)
deriving Repr

namespace Regex

/-- An expression that may be left out. -/
def optional (r : Regex) : Regex := .alt r .empty

/-- An expression so many times in a row, behind another. -/
def copies (r : Regex) : Nat → Regex → Regex
  | 0, before => before
  | n + 1, before => copies r n (.seq before r)

/-- At most so many more times an expression than it stands in `inner` already. -/
def optionalCopies (r : Regex) : Nat → Regex → Regex
  | 0, inner => inner
  | n + 1, inner => optionalCopies r n (optional (.seq inner r))

/-- An expression repeated, so many times at least and so many at most. -/
def repeated (least : Nat) (most : Option Nat) (r : Regex) : Regex :=
  let start := match least with
    | 0 => none
    | n + 1 => some (copies r n r)
  let finish := match most with
    | none => some r.star
    | some m =>
      match m - least with
      | 0 => none
      | n + 1 => some (optionalCopies r n r.optional)
  match start, finish with
  | some a, some b => .seq a b
  | some a, none => a
  | none, some b => b
  | none, none => .empty

/-- The expression for a text taken literally. -/
def literal (s : Text) : Regex := s.foldr (fun c r => .seq (.char c) r) .empty

/-- An expression that does not tell capital letters from small ones. -/
def caseless : Regex → Regex
  | .char c => .set (CharSet.caseless ⟨false, [⟨c, c⟩]⟩)
  | .set s => .set s.caseless
  | .seq a b => .seq a.caseless b.caseless
  | .alt a b => .alt a.caseless b.caseless
  | .star a => .star a.caseless
  | .group n a => .group n a.caseless
  | .again n _ => .again n true
  | r => r

/-- Whether an expression asks for the text of a group once more. -/
def looksBack : Regex → Bool
  | .again .. => true
  | .seq a b => a.looksBack || b.looksBack
  | .alt a b => a.looksBack || b.looksBack
  | .star a => a.looksBack
  | .group _ a => a.looksBack
  | _ => false

/-- The greatest number of a group. -/
def groups : Regex → Nat
  | .seq a b => Nat.max a.groups b.groups
  | .alt a b => Nat.max a.groups b.groups
  | .star a => a.groups
  | .group n a => Nat.max n a.groups
  | _ => 0

/-! ## Matching -/

/-- What a group matched. -/
structure Capture where
  /-- The number of the group. -/
  group : Nat
  /-- The text it matched. -/
  text : Text
deriving DecidableEq, Repr

/-- A way to match: what goes before the rest, the rest, and the groups. -/
structure Way where
  /-- What goes before the rest, reversed. -/
  before : Text
  /-- What follows the match. -/
  rest : Text
  /-- How many characters follow. -/
  left : Nat
  /-- What groups matched, the last one first. -/
  captures : List Capture

/-- The text that a group matched last. -/
def textOf (n : Nat) (cs : List Capture) : Option Text :=
  (cs.find? (·.group == n)).map (·.text)

namespace Way

/-- The way that has taken nothing, `seen` (reversed) before the rest. -/
def first (seen rest : Text) : Way := ⟨seen, rest, rest.length, []⟩

/-- The way after one more character. -/
def next (w : Way) (ok : Char → Bool) : List Way :=
  match w.rest with
  | c :: s =>
    if ok c then [{ w with before := c :: w.before, rest := s, left := w.left - 1 }] else []
  | [] => []

/-- The ways after any number of characters, the longest one first; `done` are shorter. -/
def run (ok : Char → Bool) (w : Way) : (done : List Way) → (left : Nat) → (before rest : Text) →
    List Way
  | done, left, before, [] => { w with before, rest := [], left } :: done
  | done, left, before, c :: s =>
    let done := { w with before, rest := c :: s, left } :: done
    if ok c then run ok w done (left - 1) (c :: before) s else done

/-- The way with what a group matched since another way. -/
def capture (w v : Way) (n : Nat) : Way :=
  { v with captures :=
      ⟨n, w.rest.take (w.left - v.left)⟩ :: v.captures.filter (·.group != n) }

end Way

/-- The first of all ways that lead to the same position; `seen` holds a bit for each number of
characters that follow a way before. -/
def firstPerPlace : (seen : Nat) → List Way → List Way
  | _, [] => []
  | seen, w :: ws =>
    if seen.testBit w.left then firstPerPlace seen ws
    else w :: firstPerPlace (seen ||| 1 <<< w.left) ws

/-- The ways that have to be told apart: where the texts of groups do not matter, the first of all
that lead to the same position. -/
def distinct (exact : Bool) (ws : List Way) : List Way :=
  if exact then ws else firstPerPlace 0 ws

/-- The ways that were found, and the positions that were tried. -/
structure Found where
  /-- The ways, the last one first. -/
  ways : List Way
  /-- A bit for each number of characters that follow a position. -/
  places : Nat
  /-- The positions with the texts of groups, where these matter. -/
  tried : List Way

namespace Found

/-- Whether a position was tried. -/
def has (f : Found) (exact : Bool) (w : Way) : Bool :=
  f.places.testBit w.left &&
    (!exact || f.tried.any fun v => v.left == w.left && v.captures == w.captures)

/-- With one more position that is tried. -/
def try' (f : Found) (exact : Bool) (w : Way) : Found :=
  { f with
    places := f.places ||| 1 <<< w.left
    tried := if exact then w :: f.tried else f.tried }

/-- With one more way. -/
def push (f : Found) (w : Way) : Found := { f with ways := w :: f.ways }

end Found

/-- The ways after steps that each take something.  Each position is tried once: what can follow
a position does not depend on the way to it.  More steps are preferred. -/
def steps (exact : Bool) (step : Way → List Way) : (fuel : Nat) → Found → Way → Found
  | 0, found, w => found.push w
  | fuel + 1, found, w =>
    let found := (step w).foldl
      (fun found v =>
        if v.left < w.left && !found.has exact v then steps exact step fuel found v
        else found) (found.try' exact w)
    found.push w

/-- The way without a step; groups that matched nothing before match the empty text if a step can
take nothing. -/
def stay (step : Way → List Way) (w : Way) : Way :=
  match (step w).find? fun v => v.left == w.left with
  | some v =>
    { w with captures :=
        w.captures ++ v.captures.filter fun c => !w.captures.any (·.group == c.group) }
  | none => w

/-- The text behind another one at the start of a text. -/
def follow (caseless : Bool) : (text rest : Text) → Option Text
  | [], rest => some rest
  | _, [] => none
  | c :: s, d :: rest =>
    if c = d ∨ (caseless ∧ Letter.lower c = Letter.lower d) then follow caseless s rest else none

/-- What an expression asks for that takes exactly one character. -/
def single? : Regex → Option (Char → Bool)
  | .char c => some (· == c)
  | .any => some fun c => !Octet.isStray c
  | .set s => some fun c => s.holds c && !Octet.isStray c
  | _ => none

/-- All ways to match from a position, in the order of preference. -/
def ways (exact : Bool) : Regex → Way → List Way
  | .empty, w => [w]
  | .char c, w => w.next (· == c)
  | .any, w => w.next fun c => !Octet.isStray c
  | .set s, w => w.next fun c => s.holds c && !Octet.isStray c
  | .at p, w => if p.holds w.before.head? w.rest.head? then [w] else []
  | .seq a b, w => distinct exact ((ways exact a w).flatMap (ways exact b))
  | .alt a b, w => distinct exact (ways exact a w ++ ways exact b w)
  | .star a, w =>
    match a.single? with
    | some ok => Way.run ok w [] w.left w.before w.rest
    | none =>
      let found := (steps exact (ways exact a) (w.left + 1) ⟨[], 0, []⟩ w).ways
      (stay (ways exact a) w :: found.drop 1).reverse
  | .group n a, w => (ways exact a w).map fun v => w.capture v n
  | .again n caseless, w =>
    match (textOf n w.captures).bind fun text =>
        (follow caseless text w.rest).map fun rest => (text.length, rest) with
    | some (size, rest) =>
      [{ w with before := (w.rest.take size).reverse ++ w.before, rest, left := w.left - size }]
    | none => []

/-- A match in a text. -/
structure Match where
  /-- What stands before it. -/
  before : Text
  /-- The match. -/
  text : Text
  /-- What groups matched. -/
  captures : List Capture
  /-- What stands behind it. -/
  after : Text

/-- The match that a way from a position stands for, `seen` (reversed) before the rest. -/
def Match.of (seen rest : Text) (w : Way) : Match :=
  ⟨seen.reverse, rest.take (rest.length - w.left), w.captures, w.rest⟩

/-- The longest of several ways; the first one if several are. -/
def longest : List Way → Option Way
  | [] => none
  | w :: ws =>
    match longest ws with
    | some v => if v.left < w.left then some v else some w
    | none => some w

/-- The first match at or after a position, `seen` (reversed) before it; `best` chooses
the match at a position. -/
def findWith (best : Way → Option Way) (seen : Text) : Text → Option Match
  | [] => (best (.first seen [])).map (Match.of seen [])
  | c :: s =>
    match best (.first seen (c :: s)) with
    | some w => some (Match.of seen (c :: s) w)
    | none => findWith best (c :: seen) s

/-- The longest way to match from a position. -/
def best? (r : Regex) : Way → Option Way :=
  let exact := r.looksBack
  fun w => longest (ways exact r w)

/-- The longest way to match whole words from a position.  A shorter way than the longest one
has to take something. -/
def bestWords? (r : Regex) : Way → Option Way :=
  let exact := r.looksBack
  fun w =>
    if w.before.head?.any Place.isWordPart then none
    else
      let all := ways exact r w
      let isEmpty (v : Way) : Bool := v.left == w.left
      longest (all.filter fun v =>
        !v.rest.head?.any Place.isWordPart && (!isEmpty v || all.all isEmpty))

/-- The first match at or after a position, `seen` (reversed) before it. -/
def findFrom (r : Regex) (seen rest : Text) : Option Match := findWith r.best? seen rest

/-- The first match in a text. -/
def find? (r : Regex) (text : Text) : Option Match := r.findFrom [] text

end Regex
end DocExamples
