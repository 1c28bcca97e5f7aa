/-
# Import statements

The lines of an example are divided into import statements and all other lines.
A statement is one line, or the lines from one that opens more braces than it
closes to the first later one with a closing brace.  Because the program runs in
a folder of its own, a specifier that begins with `./` or `../` is replaced by
the absolute path it stands for.
-/

import DocExamples.Export
import DocExamples.Path.Lexical

namespace DocExamples
namespace Import

/-- Whether a line begins an import statement: the word `import` and a blank, a
brace, a star or a quote. -/
def isImportLine (line : Text) : Bool :=
  match Text.after? "import".toList (Text.stripLeft line) with
  | some (c :: _) => Text.isBlank c || c == '\x7b' || c == '*' || c == '\'' || c == '"'
  | _ => false

/-- Whether a line opens more braces than it closes. -/
def opensList (line : Text) : Bool := line.count '\x7d' < line.count '\x7b'

/-- Whether a line closes a list that is open. -/
def closesList (line : Text) : Bool := line.contains '\x7d'

/-- The lines of an example, divided. -/
structure Division where
  /-- The import statements, each as its lines. -/
  statements : List (List Text)
  /-- All other lines. -/
  others : List Text
deriving DecidableEq, Repr

namespace Division

/-- One statement more, in front. -/
def withStatement (s : List Text) (d : Division) : Division :=
  { d with statements := s :: d.statements }

/-- One other line more, in front. -/
def withOther (l : Text) (d : Division) : Division := { d with others := l :: d.others }

end Division

/-- Divides lines, where `pending` are the lines (reversed) of a statement that is
still open.  A statement that is never closed goes on to the end. -/
def divideFrom : (pending : Option (List Text)) → List Text → Division
  | none, [] => ⟨[], []⟩
  | some ls, [] => ⟨[ls.reverse], []⟩
  | some ls, l :: rest =>
    if closesList l then (divideFrom none rest).withStatement (l :: ls).reverse
    else divideFrom (some (l :: ls)) rest
  | none, l :: rest =>
    if isImportLine l then
      if opensList l then divideFrom (some [l]) rest
      else (divideFrom none rest).withStatement [l]
    else (divideFrom none rest).withOther l

/-- Divides the lines of an example. -/
def divide (lines : List Text) : Division := divideFrom none lines

/-- A relative module specifier in a statement. -/
structure Specifier where
  /-- The word before the specifier, and the blanks behind the word. -/
  lead : Text
  /-- The quote around the specifier. -/
  quote : Char
  /-- The path in quotes. -/
  path : Text
deriving DecidableEq, Repr

/-- Whether a character is a single or a double quote. -/
def isQuote (c : Char) : Bool := c == '\'' || c == '"'

/-- Whether a path begins with a dot or two, and a slash. -/
def isRelative : Text → Bool
  | '.' :: '/' :: _ => true
  | '.' :: '.' :: '/' :: _ => true
  | _ => false

/-- The specifier behind `word` at the start of a text. -/
def readAfter? (word s : Text) : Option (Text.Reading Specifier) := do
  let rest ← Text.after? word s
  match Text.stripLeft rest with
  | q :: quoted =>
    let path := quoted.takeWhile (!isQuote ·)
    let rest' ← Text.after? [q] (quoted.dropWhile (!isQuote ·))
    if isQuote q && isRelative path then
      some ⟨⟨word ++ rest.takeWhile Text.isBlank, q, path⟩, rest'⟩
    else none
  | [] => none

/-- The relative specifier at the start of a text, behind `from` or `import`. -/
def readSpecifier? (before : Option Char) (s : Text) : Option (Text.Reading Specifier) :=
  if Text.atWordStart before then
    readAfter? "from".toList s <|> readAfter? "import".toList s
  else none

/-- A specifier with the path that it stands for, seen from a folder. -/
def Specifier.anchored (folder : Text) (p : Specifier) : Text :=
  p.lead ++ p.quote :: Lexical.slashed (Lexical.normal (Lexical.join folder p.path)) ++ [p.quote]

/-- A statement in which relative specifiers are replaced by absolute paths. -/
def anchored (folder statement : Text) : Text :=
  (Text.segments readSpecifier? statement).replaced fun p => p.value.anchored folder

/-- The folder that the relative specifiers of an example start from. -/
def originFolder (cwd origin : Text) : Text := Lexical.folder (Lexical.absolute cwd origin)

/-- The import statements of an example's lines, ready for another folder. -/
def statements (cwd origin : Text) (lines : List Text) : List Text :=
  (divide lines).statements.map fun ls => anchored (originFolder cwd origin) (Text.unlines ls)

/-- The word `from` before a quote, at the start of a text. -/
def readFrom? (before : Option Char) (s : Text) : Option (Text.Reading Unit) :=
  if Text.atWordStart before then do
    let s ← Text.after? "from".toList s
    match Text.stripLeft s with
    | c :: s => if isQuote c then some ⟨(), s⟩ else none
    | [] => none
  else none

/-- The text between the word `import` and the word `from`, without a leading word
`type`. -/
def clause? (statement : Text) : Option Text := do
  let s ← Text.spaced? "import".toList (Text.stripLeft statement)
  match (Text.segments readFrom? (Export.optional "type".toList s)).segments with
  | p :: _ => some (Text.stripRight p.skipped)
  | [] => none

/-- The part of a clause in braces, and the clause around it. -/
structure Braced where
  /-- What stands between the braces. -/
  inside : Text
  /-- The clause without the braces and what is between them. -/
  outside : Text

/-- Cuts a clause at its first braces. -/
def braced? (clause : Text) : Option Braced := do
  let k ← Text.cut? ['\x7b'] clause
  let k' ← Text.cut? ['\x7d'] k.after
  return ⟨k'.before, k.before ++ k'.after⟩

/-- The local name that one entry of a braced list binds. -/
def boundByEntry? (entry : Text) : Option Text :=
  let entry := Export.optional "type".toList (Text.strip entry)
  if entry.isEmpty then none else some (Text.strip (Export.aliases entry).tail)

/-- The name behind `* as` at the start of a text. -/
def readNamespace? (s : Text) : Option (Text.Reading Text) := do
  let s ← Text.after? ['*'] s
  let s ← Text.spaced? "as".toList (Text.stripLeft s)
  Text.identifier? s

/-- The local names that a clause without braces binds. -/
def boundByNames (clause : Text) : List Text :=
  match (Text.segments (fun _ => readNamespace?) clause).segments with
  | p :: _ =>
    let others := p.skipped ++ clause.drop (p.skipped.length + p.taken.length)
    p.value :: ((Text.identifier? (Text.stripLeft others)).map (·.value)).toList
  | [] => ((Text.identifier? (Text.stripLeft clause)).map (·.value)).toList

/-- The local names that an import statement binds. -/
def boundNames (statement : Text) : List Text :=
  match clause? statement with
  | none => []
  | some clause =>
    match braced? clause with
    | none => boundByNames clause
    | some b => (Text.pieces ',' b.inside).filterMap boundByEntry? ++ boundByNames b.outside

end Import
end DocExamples
