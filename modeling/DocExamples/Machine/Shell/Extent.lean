/-
# How far something open goes

A substitution goes up to the character that closes it.  Inside are other substitutions
and quotes, and where commands stand also comments, texts given on lines of their own and
the patterns of a choice, whose closing parentheses close nothing.  The text is scanned
once, with a stack of what is open.
-/

import DocExamples.Machine.Shell.Syntax

namespace DocExamples
namespace Shell

/-- What part of a choice by a word is being read. -/
inductive ChoicePart where
  /-- The word, up to `in`. -/
  | subject
  /-- The patterns of an arm. -/
  | patterns
  /-- The commands of an arm. -/
  | body
deriving DecidableEq, Repr

/-- What is open in a text. -/
inductive Opening where
  /-- Commands up to a closing parenthesis: a substitution within a word, or a group. -/
  | commands (inWord : Bool)
  /-- A choice by a word, among commands. -/
  | choice (part : ChoicePart)
  /-- An arithmetic expression, in which so many parentheses are open. -/
  | sum (depth : Nat)
  /-- A parameter in braces, in double quotes or not. -/
  | brace (inQuotes : Bool)
  /-- Double quotes. -/
  | double
  /-- Single quotes. -/
  | single
  /-- Back quotes. -/
  | back
  /-- A comment. -/
  | comment
deriving DecidableEq, Repr

/-- Whether commands stand where this is what is open. -/
def Opening.holdsCommands : Opening → Bool
  | .commands _ => true
  | .choice _ => true
  | _ => false

/-- A text of lines that is still to come. -/
structure HereText where
  /-- Whether tabs at the start of its lines are dropped. -/
  withoutTabs : Bool
  /-- The line that ends it. -/
  mark : Text
deriving DecidableEq, Repr

/-- A scan of a text. -/
structure Extent where
  /-- What is open, the innermost first. -/
  opened : List Opening
  /-- The characters so far, the last one first. -/
  seen : Text
  /-- The word being read, the last character first. -/
  word : Option Text
  /-- Whether a command may start with that word. -/
  isFresh : Bool
  /-- Whether the word is the mark of a text of lines, and whether that is without tabs. -/
  isMark : Option Bool
  /-- The texts of lines that are still to come. -/
  texts : List HereText
  /-- The line of such a text being read, the last character first. -/
  line : Option Text

namespace Extent

/-- The scan with one more character, which also belongs to the word being read. -/
def add (e : Extent) (c : Char) : Extent :=
  { e with seen := c :: e.seen, word := e.word.map (c :: ·) }

/-- The scan with one more character of a word. -/
def addToWord (e : Extent) (c : Char) : Extent :=
  { e with seen := c :: e.seen, word := some (c :: e.word.getD []) }

/-- The scan within something more. -/
def push (e : Extent) (o : Opening) : Extent := { e with opened := o :: e.opened }

/-- The scan within commands that have just begun. -/
def pushCommands (e : Extent) (inWord : Bool) : Extent :=
  { e.push (.commands inWord) with word := none, isFresh := true }

/-- The scan behind what was open innermost. -/
def pop (e : Extent) : Extent := { e with opened := e.opened.drop 1 }

/-- The scan with another part of a choice. -/
def inPart (e : Extent) (p : ChoicePart) : Extent :=
  { e with opened := .choice p :: e.opened.drop 1, isFresh := true }

/-- The words behind which a command may start. -/
def openers : List Text :=
  ["if", "then", "else", "elif", "while", "until", "do", "!", "\x7b"].map String.toList

/-- The scan at the end of a word. -/
def endWord (e : Extent) : Extent :=
  match e.word with
  | none => e
  | some reversed =>
    let w := reversed.reverse
    let e := { e with word := none }
    match e.isMark with
    | some withoutTabs =>
      let mark := w.filter fun c => c != '\'' && c != '"' && c != '\\'
      { e with isMark := none, texts := e.texts ++ [⟨withoutTabs, mark⟩] }
    | none =>
      let plain := { e with isFresh := false }
      match e.opened.head? with
      | some (.choice .subject) => if w = "in".toList then e.inPart .patterns else plain
      | some (.choice .patterns) => if e.isFresh && w == "esac".toList then plain.pop else plain
      | some _ =>
        if !e.isFresh then plain
        else if w = "case".toList then plain.push (.choice .subject)
        else if w = "esac".toList && e.opened.head? == some (.choice .body) then plain.pop
        else if openers.contains w then e
        else plain
      | none => plain

/-- The scan at the end of a line among commands. -/
def endLine (e : Extent) : Extent :=
  let e := { e.endWord.add '\n' with isFresh := true }
  if e.texts.isEmpty then e else { e with line := some [] }

/-- The scan after a character of a text of lines. -/
def addToLine (e : Extent) (line : Text) (c : Char) : Extent :=
  let e := e.add c
  if c ≠ '\n' then { e with line := some (c :: line) }
  else
    let ends (t : HereText) : Bool :=
      let l := line.reverse
      (if t.withoutTabs then l.dropWhile (· == '\t') else l) == t.mark
    let texts := if e.texts.head?.any ends then e.texts.drop 1 else e.texts
    { e with texts, line := if texts.isEmpty then none else some [] }

/-- The scan at a closing parenthesis among commands. -/
def closeParen (e : Extent) : Extent :=
  let e := e.endWord
  match e.opened with
  | .choice .patterns :: _ => (e.add ')').inPart .body
  | .choice _ :: .commands inWord :: outer => closed inWord { e with opened := outer }
  | .commands inWord :: outer => closed inWord { e with opened := outer }
  | _ => e.add ')'
where
  /-- The scan behind commands. -/
  closed (inWord : Bool) (e : Extent) : Extent :=
    { e.add ')' with word := if inWord then some [')'] else none, isFresh := !inWord }

/-- The scan after an operator among commands. -/
def addOperator (e : Extent) (c : Char) : Extent :=
  let before := e.seen.head?
  let e := e.endWord
  let next := { e.add c with isFresh := c != '|' || e.opened.head? != some (.choice .patterns) }
  if c = ';' && before == some ';' && e.opened.head? == some (.choice .body) then
    next.inPart .patterns
  else next

/-- The scan at an opening parenthesis among commands. -/
def openParen (e : Extent) : Extent :=
  let e := e.endWord
  if e.opened.head? = some (.choice .patterns) then { e.add '(' with isFresh := false }
  else (e.add '(').pushCommands false

/-- Whether a parameter in braces is read as if without quotes: the pattern that is cut off is. -/
def cutsOff (s : Text) : Bool :=
  let name := s.takeWhile fun c => c.isAlphanum || c == '_'
  let rest := if name.isEmpty then s.drop 1 else s.drop name.length
  Text.startsWith ['#'] rest || Text.startsWith ['%'] rest

/-- The text up to the character that closes everything open, and the text behind it; what stands
behind a dollar sign opens the same in all that is not in single quotes. -/
def scan (e : Extent) : Text → Option Text.Cut
  | [] => none
  | c :: s =>
    if let some l := e.line then scan (e.addToLine l c) s
    else
      match e.opened with
      | [] => none
      | .single :: _ => if c = '\'' then next (e.add c).pop s else scan (e.add c) s
      | .comment :: _ => if c = '\n' then scan e.pop.endLine s else scan (e.add c) s
      | top :: _ =>
        let inWord := if top.holdsCommands then e.addToWord c else e.add c
        if c = '\\' then
          match s with
          | [] => none
          | d :: s => scan (inWord.add d) s
        else if top = .back then if c = '\x60' then next (e.add c).pop s else scan (e.add c) s
        else if c = '\x60' then scan (inWord.push .back) s
        else if c = '$' then
          match s with
          | '(' :: '(' :: s => scan ((inWord.add '(').add '(' |>.push (.sum 0)) s
          | '(' :: s => scan ((inWord.add '(').pushCommands true) s
          | '\x7b' :: s =>
            let inQuotes := top != .brace false && !top.holdsCommands
            scan ((inWord.add '\x7b').push (.brace (inQuotes && !cutsOff s))) s
          | s => scan inWord s
        else
          match top with
          | .sum depth =>
            if c = '(' then scan { e.add c with opened := .sum (depth + 1) :: e.opened.drop 1 } s
            else if c ≠ ')' then scan (e.add c) s
            else if 0 < depth then
              scan { e.add c with opened := .sum (depth - 1) :: e.opened.drop 1 } s
            else
              match s with
              | ')' :: s => next ((e.add c).add ')').pop s
              | s => scan (e.add c) s
          | .brace inQuotes =>
            if c = '\x7d' then next (e.add c).pop s
            else if c = '\n' && !inQuotes then none
            else if c = '"' then scan ((e.add c).push .double) s
            else if c = '\'' && !inQuotes then scan ((e.add c).push .single) s
            else scan (e.add c) s
          | .double => if c = '"' then next (e.add c).pop s else scan (e.add c) s
          | _ =>
            if c = '"' then scan (inWord.push .double) s
            else if c = '\'' then scan (inWord.push .single) s
            else if c = '#' && e.word.isNone then scan ((e.add c).push .comment) s
            else if c = ' ' ∨ c = '\t' then scan (e.endWord.add c) s
            else if c = '\n' then scan e.endLine s
            else if c = ';' ∨ c = '&' ∨ c = '|' then scan (e.addOperator c) s
            else if c = '(' then scan e.openParen s
            else if c = ')' then next e.closeParen s
            else if c = '>' then scan (e.endWord.add c) s
            else if c = '<' then
              match s with
              | '<' :: '-' :: s =>
                scan { ((e.endWord.add c).add c).add '-' with isMark := some true } s
              | '<' :: s => scan { (e.endWord.add c).add c with isMark := some false } s
              | s => scan (e.endWord.add c) s
            else scan inWord s
where
  /-- The end of the scan if nothing is open any more. -/
  next (e : Extent) (s : Text) : Option Text.Cut :=
    if e.opened.isEmpty then some ⟨e.seen.reverse, s⟩ else scan e s

end Extent

/-- How many characters close something open. -/
def Opening.closerLength : Opening → Nat
  | .sum _ => 2
  | _ => 1

/-- The text within something that has just been opened, and the text behind what closes it. -/
def within (o : Opening) (s : Text) : Option Text.Cut :=
  (Extent.scan ⟨[o], [], none, true, none, [], none⟩ s).map fun k =>
    { k with before := k.before.take (k.before.length - o.closerLength) }

end Shell
end DocExamples
