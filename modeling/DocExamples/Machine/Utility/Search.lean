/-
# Searching lines

The utility `grep` shows the lines of files in which one of several patterns
matches.  Its exit code says whether a line was selected.
-/

import DocExamples.Machine.Regex.Reading
import DocExamples.Machine.Utility.Folders
import DocExamples.Machine.Utility.Streams

namespace DocExamples

namespace Regex

/-- All matches in a line that are not empty, each behind the number of characters before it;
`seen` (reversed) stands before the rest, and `best` chooses the match at a position. -/
def findAll (best : Way → Option Way) : (fuel : Nat) → (seen rest : Text) → List (Nat × Text)
  | 0, _, _ => []
  | fuel + 1, seen, rest =>
    match findWith best seen rest with
    | none => []
    | some m =>
      if m.text.isEmpty then
        match m.after with
        | [] => []
        | c :: s => findAll best fuel (c :: m.before.reverse) s
      else
        (m.before.length, m.text) ::
          findAll best fuel (m.text.reverse ++ m.before.reverse) m.after

/-- What is said about operators that have nothing to work on: a warning for each.  `fresh` says
that nothing stands before the rest. -/
def warnings (d : Dialect) : (fuel : Nat) → (fresh : Bool) → Text → List Text
  | 0, _, _ => []
  | fuel + 1, fresh, s =>
    let t := token d true s
    let warned (what : Text) (more : List Text) : List Text :=
      if fresh then (what ++ " at start of expression".toList) :: more else more
    match t.value with
    | .finish => []
    | .openGroup => warnings d fuel true t.rest
    | .alt => warnings d fuel true t.rest
    | .place _ => warnings d fuel fresh t.rest
    | .repeats c .. => warned [c] (warnings d fuel fresh t.rest)
    | .openBounds =>
      match readBounds d t.rest with
      | .ok (some b) => warned "\x7b...\x7d".toList (warnings d fuel false b.rest)
      | _ => warnings d fuel false t.rest
    | .openSet =>
      match readSet d t.rest with
      | .ok b => warnings d fuel false b.rest
      | .error _ => []
    | _ => warnings d fuel false t.rest

end Regex

namespace Utility

/-! ## Searching a file -/

/-- What is told about a file. -/
inductive Report where
  /-- The lines that are selected. -/
  | lines
  /-- How many they are. -/
  | count
  /-- The name, if a line is selected. -/
  | chosenName
  /-- The name, if no line is selected. -/
  | otherName
  /-- Nothing. -/
  | nothing
deriving DecidableEq, Repr

/-- How a search is carried out. -/
structure Search where
  /-- How the match that selects a line is found. -/
  selecting : Regex.Way → Option Regex.Way
  /-- How the matches that are shown are found. -/
  showing : Regex.Way → Option Regex.Way
  /-- What is told about a file. -/
  report : Report
  /-- Whether the lines without a match are selected. -/
  inverted : Bool
  /-- Whether only matches are shown. -/
  onlyMatches : Bool
  /-- Whether the name of the file stands before each line. -/
  named : Bool
  /-- Whether its number stands before each line. -/
  counted : Bool
  /-- Whether the number of octets before it stands before each line. -/
  placed : Bool
  /-- Whether a tab stands before each line behind other things. -/
  aligned : Bool
  /-- Whether matches, names and numbers are coloured. -/
  painted : Bool
  /-- The octet behind lines. -/
  mark : Char
  /-- The octet behind names, if it is special. -/
  nameMark : Option Char
  /-- How many lines are selected at most. -/
  most : Option Nat
  /-- How many lines before a selected one are shown. -/
  before : Nat
  /-- How many lines behind a selected one are shown. -/
  after : Nat
  /-- The line between lines that are not neighbours, if lines around selected ones are wanted. -/
  rule : Option Text
  /-- Whether files are lines of text whatever they hold. -/
  allText : Bool
  /-- Whether files that hold other things than text have no lines. -/
  onlyText : Bool

namespace Search

/-- A line of a file, with its number and whether it is selected. -/
structure Numbered where
  /-- The number, counted from 1. -/
  number : Nat
  /-- The number of octets before it. -/
  offset : Nat
  /-- The characters of the line. -/
  line : Text
  /-- Whether it is selected. -/
  selected : Bool

/-- Whether a line is selected. -/
def selects (s : Search) (line : Text) : Bool :=
  (Regex.findWith s.selecting [] line).isSome != s.inverted

/-- Lines with their numbers; after `left` selected lines none is selected. -/
def numbered (s : Search) : (left : Option Nat) → (n offset : Nat) → List Text → List Numbered
  | _, _, _, [] => []
  | left, n, offset, l :: ls =>
    let line := Octet.chars l
    let chosen := left != some 0 && s.selects line
    ⟨n, offset, line, chosen⟩ :: numbered s (if chosen then left.map (· - 1) else left) (n + 1)
      (offset + l.length + 1) ls

/-- A text in a colour, if colours are wanted. -/
def paint (s : Search) (colour : String) (text : Text) : Text :=
  if s.painted then
    "\x1b[".toList ++ colour.toList ++ "m\x1b[K".toList ++ text ++ "\x1b[m\x1b[K".toList
  else text

/-- A file's name, and the mark behind it. -/
def lead (s : Search) (name : Text) (mark : Char) : Text :=
  s.paint "35" name ++
    match s.nameMark with
    | some c => [c]
    | none => s.paint "36" [mark]

/-- What stands before a line or a match, `offset` octets into the file. -/
def leads (s : Search) (name : Text) (n : Numbered) (offset : Nat) : Text :=
  let mark := if n.selected then ':' else '-'
  let all := (if s.named then s.lead name mark else []) ++
    (if s.counted then s.paint "32" (Text.decimal n.number) ++ s.paint "36" [mark] else []) ++
    (if s.placed then s.paint "32" (Text.decimal offset) ++ s.paint "36" [mark] else [])
  if s.aligned && !all.isEmpty then all ++ ['\t'] else all

/-- A line with its matches in colour: each stands behind a number of characters, of which
`seen` are left out. -/
def coloured (s : Search) : (seen : Nat) → Text → List (Nat × Text) → Text
  | _, line, [] => Octet.ofChars line
  | seen, line, m :: ms =>
    Octet.ofChars (line.take (m.1 - seen)) ++ s.paint "01;31" (Octet.ofChars m.2) ++
      coloured s (m.1 + m.2.length) (line.drop (m.1 - seen + m.2.length)) ms

/-- What is shown of one line. -/
def shownLine (s : Search) (name : Text) (n : Numbered) : Text :=
  let matches' := fun _ : Unit => Regex.findAll s.showing (n.line.length + 2) [] n.line
  if s.onlyMatches then
    if !n.selected || s.inverted then []
    else (matches' ()).flatMap fun m =>
      let before := (Octet.ofChars (n.line.take m.1)).length
      s.leads name n (n.offset + before) ++ s.paint "01;31" (Octet.ofChars m.2) ++ [s.mark]
  else
    let line := if s.painted && n.selected && !s.inverted then s.coloured 0 n.line (matches' ())
      else Octet.ofChars n.line
    s.leads name n n.offset ++ line ++ [s.mark]

/-- The lines to show: those selected, and so many before and after each. -/
def withContext (s : Search) (ns : List Numbered) : List Numbered :=
  let chosen := (ns.filter (·.selected)).map (·.number)
  ns.filter fun n => chosen.any fun k => k ≤ n.number + s.before && n.number ≤ k + s.after

/-- Lines shown one below the other, with a rule where some are left out. -/
def shownLines (s : Search) (name : Text) : (last : Option Nat) → List Numbered → Text
  | _, [] => []
  | last, n :: ns =>
    let rule := match s.rule with
      | some r => if last.any (· + 1 != n.number) then s.paint "36" r ++ ['\n'] else []
      | none => []
    rule ++ s.shownLine name n ++ shownLines s name (some n.number) ns

/-- The lines of a file. -/
def linesOf (s : Search) (content : Text) : List Text :=
  if s.mark = '\n' then Octet.bareLines content
  else
    let pieces := Text.pieces s.mark content
    if pieces.getLast? = some [] then pieces.dropLast else pieces

/-- What a search finds in a file. -/
structure Finding where
  /-- What is written. -/
  writes : List Write
  /-- Whether a line is selected. -/
  chosen : Bool

/-- What a search finds in a file; `program` complains about files that are no text. -/
def ofFile (s : Search) (program name content : Text) : Finding :=
  let isBinary := s.mark == '\n' && content.contains '\x00' && !s.allText
  if isBinary && s.onlyText then ⟨[], false⟩
  else
    let ns := s.numbered s.most 1 0 (s.linesOf content)
    let chosen := ns.any (·.selected)
    let shown (t : Text) : List Write := if t.isEmpty then [] else [⟨1, t⟩]
    let nameLine : Text := s.paint "35" name ++ [s.nameMark.getD '\n']
    let writes : List Write := match s.report with
      | .nothing => []
      | .chosenName => if chosen then shown nameLine else []
      | .otherName => if chosen then [] else shown nameLine
      | .count =>
        shown ((if s.named then s.lead name ':' else []) ++
          Text.decimal (ns.countP (·.selected)) ++ ['\n'])
      | .lines =>
        let wanted := s.withContext ns
        let readable := if s.allText || (s.onlyMatches && !isBinary) then wanted
          else if isBinary then []
          else wanted.takeWhile fun n => !n.line.any Octet.isStray
        shown (s.shownLines name none readable) ++
          if readable.length = wanted.length || s.onlyText then []
          else [⟨2, program ++ ": ".toList ++ name ++ ": binary file matches\n".toList⟩]
    ⟨writes, chosen⟩

end Search

/-! ## Patterns -/

/-- The expression for several patterns, one of which has to match; none matches nothing. -/
def anyOf : List Regex → Regex
  | [] => .set ⟨false, []⟩
  | [r] => r
  | r :: rs => .alt r (anyOf rs)

/-- How patterns are written. -/
inductive Writing where
  /-- As they are. -/
  | literal
  /-- As expressions, with or without backslashes before operators. -/
  | regex (extended : Bool)

/-- How the patterns of a search are written: the last option of three says that. -/
def writingOf (o : Options) : Writing :=
  match (o.letters.reverse.find? fun l => "EFG".contains l.1).map (·.1) with
  | some 'F' => .literal
  | some 'E' => .regex true
  | _ => .regex false

/-- The expression for patterns in a dialect. -/
def searchRegex (d : Regex.Dialect) (patterns : List Text) : Except Text Regex := do
  let rs ← patterns.mapM fun p =>
    if Regex.hasBareClass d p then
      .error "character class syntax is [[:space:]], not [:space:]".toList
    else (Regex.read d p).mapError Regex.Fault.message
  return anyOf rs

/-- The expressions that select lines and whose matches are shown. -/
def searchRegexes (w : Writing) (patterns : List Text) : Except Text (Regex × Regex) :=
  match w with
  | .literal =>
    let r := anyOf (patterns.map Regex.literal)
    .ok (r, r)
  | .regex extended => do
    let showing ← searchRegex (.searching extended) patterns
    let selecting ← if showing.looksBack then .ok showing
      else searchRegex (.selecting extended) patterns
    return (selecting, showing)

/-- The warnings about patterns. -/
def searchWarnings (w : Writing) (patterns : List Text) : List Text :=
  match w with
  | .regex true => patterns.flatMap fun p => Regex.warnings (.searching true) (p.length + 1) true p
  | _ => []

/-- How a search chooses the match of an expression at a position. -/
def chosenBy (o : Options) (r : Regex) : Regex.Way → Option Regex.Way :=
  if o.has 'x' then (Regex.seq (.at .textStart) (.seq r (.at .textEnd))).best?
  else if o.has 'w' then r.bestWords?
  else r.best?

/-! ## The utility -/

/-- The names of options of a search; letters that are no letters stand for options without
one. -/
def searchNames : Options.LongNames :=
  [("regexp", 'e'), ("file", 'f'), ("ignore-case", 'i'), ("no-ignore-case", 'κ'),
    ("word-regexp", 'w'), ("line-regexp", 'x'), ("invert-match", 'v'), ("count", 'c'),
    ("quiet", 'q'), ("silent", 'q'), ("no-messages", 's'), ("only-matching", 'o'),
    ("line-number", 'n'), ("byte-offset", 'b'), ("with-filename", 'H'), ("no-filename", 'h'),
    ("files-with-matches", 'l'), ("files-without-match", 'L'), ("recursive", 'r'),
    ("dereference-recursive", 'R'), ("fixed-strings", 'F'), ("extended-regexp", 'E'),
    ("basic-regexp", 'G'), ("text", 'a'), ("binary", 'U'),
    ("binary-files", 'β'), ("max-count", 'm'), ("after-context", 'A'), ("before-context", 'B'),
    ("context", 'C'), ("color", 'χ'), ("colour", 'χ'), ("null-data", 'z'), ("null", 'Z'),
    ("initial-tab", 'T'), ("line-buffered", 'σ'), ("directories", 'd'), ("devices", 'D'),
    ("label", 'λ'), ("include", 'ι'), ("exclude", 'ε'), ("exclude-dir", 'φ'),
    ("group-separator", 'γ'), ("no-group-separator", 'ν')]

/-- The patterns that options give, in order; what a file holds cannot be read perhaps. -/
def givenPatterns (c : Call) (o : Options) : Except Text (List Text) := do
  let ps ← (o.letters.filter fun l => l.1 == 'e' || l.1 == 'f').mapM fun (l, v) =>
    if l = 'e' then .ok (Text.lines v)
    else
      match (openFile c Disk.readLimit v).content with
      | .ok s => .ok (Octet.bareLines s)
      | .error f => .error (Call.bareFaultAt v f)
  return ps.flatten

/-- The number of lines around a selected one that digits among the options ask for. -/
def digitContext? (o : Options) : Option Text :=
  let digits := (o.letters.map (·.1)).filter Char.isDigit
  if digits.isEmpty then none else some digits

/-- A number that an option gives, or what is said if it is none. -/
def searchNumber (value : Option Text) (complaint : Text → Text) : Except Text (Option Nat) :=
  match value with
  | none => .ok none
  | some v =>
    match Octet.number? v with
    | some n => .ok (some n)
    | none => .error (complaint v)

/-- Whether the last of two letters among the options is the first one. -/
def lastIs (o : Options) (a b : Char) : Bool :=
  ((o.letters.reverse.find? fun l => l.1 == a || l.1 == b).map (·.1)) == some a

/-- The search that options and patterns ask for. -/
def searchFor (o : Options) (patterns : List Text) (named : Bool) : Except Text Search := do
  let badLength (v : Text) : Text := v ++ ": invalid context length argument".toList
  let after ← searchNumber (o.value? 'A') badLength
  let before ← searchNumber (o.value? 'B') badLength
  let around ← searchNumber ((o.value? 'C').or (digitContext? o)) badLength
  let most ← searchNumber (o.value? 'm') fun _ => "invalid max count".toList
  let writings := (o.letters.map (·.1)).filter fun c => "EFG".contains c
  if 1 < writings.eraseDups.length then throw "conflicting matchers specified".toList
  let (selecting, showing) ← searchRegexes (writingOf o) (patterns.map Octet.chars)
  let sized (r : Regex) : Regex :=
    if (o.has 'i' || o.has 'y') && !lastIs o 'κ' 'i' then r.caseless else r
  let binary := (o.value? 'β').getD []
  return {
    selecting := chosenBy o (sized selecting), showing := chosenBy o (sized showing)
    report := if o.has 'q' then .nothing
      else if o.has 'l' || o.has 'L' then if lastIs o 'l' 'L' then .chosenName else .otherName
      else if o.has 'c' then .count
      else .lines
    inverted := o.has 'v', onlyMatches := o.has 'o', named
    counted := o.has 'n', placed := o.has 'b', aligned := o.has 'T'
    painted := (o.value? 'χ') == some "always".toList
    mark := if o.has 'z' then '\x00' else '\n'
    nameMark := if o.has 'Z' then some '\x00' else none
    most, before := (before.or around).getD 0, after := (after.or around).getD 0
    rule := if o.has 'ν' || (after.or (before.or around)).isNone then none
      else some ((o.value? 'γ').getD "--".toList)
    allText := o.has 'a' || binary == "text".toList
    onlyText := o.has 'I' || binary == "without-match".toList }

/-- Whether globs leave out a name. -/
def leavesOut (o : Options) (excluding : Char) (including : Option Char) (name : Text) : Bool :=
  let accepts (g : Text) : Bool := (Glob.read (g.map fun c => ⟨c, false⟩)).accepts name
  let included := (including.map o.values).getD []
  (!included.isEmpty && !included.any accepts) || (o.values excluding).any accepts

/-- The files below a path in the order of their names, so many folders deep at most. -/
def filesBelow (d : Disk) (o : Options) : (depth : Nat) → Text → List Text
  | 0, _ => []
  | depth + 1, path =>
    (namesAt d path).flatMap fun n =>
      let inner := if path.isEmpty then n else below path n
      if d.isFolderAt inner then
        if leavesOut o 'φ' none n then [] else filesBelow d o depth inner
      else if leavesOut o 'ε' (some 'ι') n then [] else [inner]

/-- A file or a folder that is searched. -/
structure Sought where
  /-- Its name. -/
  name : Text
  /-- Whether its name stands before each line, if nothing else is asked for. -/
  named : Bool

/-- The files that names stand for. -/
def sought (c : Call) (o : Options) (deep : Bool) (names : List Text) : List Sought :=
  let several := 1 < names.length
  if deep && names.isEmpty then
    (filesBelow c.disk o 64 Path.dot).map fun n => ⟨n.drop 2, true⟩
  else if names.isEmpty then [⟨['-'], false⟩]
  else
    names.flatMap fun n =>
      if deep && c.disk.isFolderAt n then (filesBelow c.disk o 64 n).map (⟨·, true⟩)
      else
        let base := ((Text.pieces '/' n).getLast?).getD n
        if n != ['-'] && leavesOut o 'ε' (some 'ι') base then [] else [⟨n, several⟩]

/-- The findings up to the first one with a selected line. -/
def untilChosen : List (List Write × Bool × Bool) → List (List Write × Bool × Bool)
  | [] => []
  | f :: fs => if f.2.1 then [f] else f :: untilChosen fs

/-- Shows lines in which a pattern matches. -/
def grep (c : Call) : Effect :=
  let o := c.optionsWith searchNames "eABCmfdDβλιεφγ" "chinqvoxlLFEGswrRHayUzbuZTI0123456789"
  let usage : Write := ⟨2, ("Usage: grep [OPTION]... PATTERNS [FILE]...\n" ++
    "Try 'grep --help' for more information.\n").toList⟩
  match o.fault, givenPatterns c o with
  | some f, _ => { c.exit 2 with writes := (c.badOption 2 f).writes.take 1 ++ [usage] }
  | none, .error m => c.refuse 2 m
  | none, .ok given =>
    let isGiven := o.has 'e' || o.has 'f'
    let patterns := if isGiven then given else (o.operands.take 1).flatMap Text.lines
    let names := if isGiven then o.operands else o.operands.drop 1
    if !isGiven && o.operands.isEmpty then { c.exit 2 with writes := [usage] }
    else
      let byAction := o.value? 'd'
      let deep := o.has 'r' || o.has 'R' || byAction == some "recurse".toList
      match searchFor o patterns false with
      | .error m => c.refuse 2 m
      | .ok search =>
        let warned := (searchWarnings (writingOf o) patterns).map fun w =>
          c.complaint ("warning: ".toList ++ w)
        let isFutile := search.report != .otherName && (search.most == some 0 ||
          (!(o.has 'x' || o.has 'w') && search.inverted && patterns == [[]]) ||
          (!search.inverted && patterns.isEmpty))
        let files := if isFutile then [] else sought c o deep names
        let done := files.map fun n =>
          let search := { search with
            named := if o.has 'H' || o.has 'h' then lastIs o 'H' 'h' else n.named }
          let name := if n.name = ['-'] then
              (o.value? 'λ').getD "(standard input)".toList else n.name
          match (openFile c Disk.readLimit n.name).content with
          | .ok content =>
            let found := search.ofFile c.name name content
            (found.writes, found.chosen, false)
          | .error e =>
            if e = Fault.isFolder ∧ byAction = some "skip".toList then ([], false, false)
            else
              (if o.has 's' then [] else [c.complaint (Call.bareFaultAt name e)], false, true)
        let done := if o.has 'q' then untilChosen done else done
        let chosen := done.any (·.2.1)
        let failed := done.any (·.2.2)
        ⟨warned ++ done.flatMap (·.1),
          if chosen && (o.has 'q' || !failed) then 0 else if failed then 2 else 1, c.disk, 0⟩

end Utility
end DocExamples
