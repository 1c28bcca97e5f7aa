/-
# Reading words

A word goes up to the next unquoted blank or operator.  Quotes, parameters and
substitutions become its parts.  The same reader serves whole texts: the words
inside parameters, texts read as if in double quotes, and texts given on lines of
their own.
-/

import DocExamples.Machine.Shell.Extent

namespace DocExamples
namespace Shell

/-- How a text is read. -/
inductive Reading where
  /-- Up to the end of a word. -/
  | word
  /-- As a whole. -/
  | whole
  /-- As a whole, as if in double quotes. -/
  | quoted
  /-- As a whole, as if in double quotes, which stand for themselves. -/
  | lines
deriving DecidableEq, Repr

/-- Whether a character ends a word. -/
def endsWord (c : Char) : Bool :=
  c == ' ' || c == '\t' || c == '\n' || c == ';' || c == '&' || c == '|' || c == '<' || c == '>' ||
    c == '(' || c == ')'

/-- Adds a part to those read so far, the last one first. -/
def addPart (done : Word) (p : Part) : Word :=
  match p, done with
  | .plain s, .plain t :: more => .plain (t ++ s) :: more
  | .quoted s, .quoted t :: more => .quoted (t ++ s) :: more
  | p, done => p :: done

/-- Whether a character names a parameter of its own. -/
def isSpecialName (c : Char) : Bool := "@*#?-$!".toList.contains c

/-- The usage that the text behind a name asks for. -/
def usageOf (s : Text) : Usage :=
  match s with
  | [] => .value
  | ':' :: '-' :: w => .orElse true w
  | '-' :: w => .orElse false w
  | ':' :: '=' :: w => .orAssign true w
  | '=' :: w => .orAssign false w
  | ':' :: '?' :: w => .orFail true w
  | '?' :: w => .orFail false w
  | ':' :: '+' :: w => .ifSet true w
  | '+' :: w => .ifSet false w
  | '#' :: '#' :: p => .withoutStart true p
  | '#' :: p => .withoutStart false p
  | '%' :: '%' :: p => .withoutEnd true p
  | '%' :: p => .withoutEnd false p
  | _ => .bad

/-- The name at the start of a text, and what follows it. -/
def readName : Text → Text × Text
  | c :: s =>
    if c.isAlpha || c == '_' then
      let isPart (c : Char) : Bool := c.isAlphanum || c == '_'
      (c :: s.takeWhile isPart, s.dropWhile isPart)
    else if c.isDigit then (c :: s.takeWhile Char.isDigit, s.dropWhile Char.isDigit)
    else if isSpecialName c then ([c], s)
    else ([], c :: s)
  | [] => ([], [])

/-- The parameter that the text between braces stands for. -/
def parameterOf (s : Text) (inQuotes : Bool) : Part :=
  let direct : Part :=
    match readName s with
    | ([], _) => .parameter s .bad inQuotes
    | (name, rest) => .parameter name (usageOf rest) inQuotes
  match s with
  | '#' :: rest =>
    match readName rest with
    | ([], _) => direct
    | (name, []) => .parameter name .length inQuotes
    | _ => direct
  | _ => direct

/-- A parameter behind a dollar sign without braces: a name, a digit or a special character. -/
def bareParameter? (s : Text) (inQuotes : Bool) : Option (Part × Text) :=
  match s with
  | c :: rest =>
    if c.isDigit then some (.parameter [c] .value inQuotes, rest)
    else
      match readName s with
      | ([], _) => none
      | (name, rest) => some (.parameter name .value inQuotes, rest)
  | [] => none

/-- The source of a back quoted command: some backslashes are dropped. -/
def unescapeBack (inQuotes : Bool) : Text → Text
  | '\\' :: c :: s =>
    if c = '\\' ∨ c = '$' ∨ c = '\x60' ∨ (inQuotes ∧ c = '"') then c :: unescapeBack inQuotes s
    else '\\' :: c :: unescapeBack inQuotes s
  | c :: s => c :: unescapeBack inQuotes s
  | [] => []

/-- What is said of a parameter in braces that ends with its line. -/
def missingBrace : Text := "Missing '\x7d'".toList

/-- Reads what follows a dollar sign on a line. -/
def readDollar (line : Nat) (inQuotes : Bool) (s : Text) : Except Text (Part × Text) :=
  match s with
  | '(' :: '(' :: rest =>
    match within (.sum 0) rest with
    | some k => .ok (.arithmetic k.before inQuotes, k.after)
    | none => .error "Missing '))'".toList
  | '(' :: rest =>
    match within (.commands true) rest with
    | some k => .ok (.command k.before (some line) inQuotes, k.after)
    | none => .error "end of file unexpected (expecting \")\")".toList
  | '\x7b' :: rest =>
    match within (.brace (inQuotes && !Extent.cutsOff rest)) rest with
    | some k => .ok (parameterOf k.before inQuotes, k.after)
    | none =>
      .error (if inQuotes then "Unterminated quoted string".toList else missingBrace)
  | s =>
    match bareParameter? s inQuotes with
    | some r => .ok r
    | none => .ok (if inQuotes then .quoted ['$'] else .plain ['$'], s)

/-- Reads a back quoted command behind its first quote. -/
def readBack (inQuotes : Bool) (s : Text) : Except Text (Part × Text) :=
  match within .back s with
  | some k => .ok (.command (unescapeBack inQuotes k.before) none inQuotes, k.after)
  | none => .error "EOF in backquote substitution".toList

/-- Whether a character stands for itself outside quotes. -/
def isOrdinary (reading : Reading) (c : Char) : Bool :=
  !(c == '\\' || c == '\'' || c == '"' || c == '$' || c == '\x60' ||
    (reading == .word && endsWord c))

/-- Whether a character stands for itself in double quotes. -/
def isOrdinaryInQuotes (reading : Reading) (c : Char) : Bool :=
  !(c == '\\' || (c == '"' && reading != .lines) || c == '$' || c == '\x60')

/-- Whether a text behind a quote is the list of arguments alone, which may be no field at all;
other quotes make a field even where there is nothing in them. -/
def isArguments (s : Text) : Bool :=
  Text.startsWith "$@\"".toList s || Text.startsWith "$\x7b@\x7d\"".toList s

/-- Reads parts of a whole text after `done` (reversed); what follows them is left. -/
def readParts (reading : Reading) (whole : Text) : (fuel : Nat) → (inQuotes : Bool) →
    (done : Word) → Text → Except Text (Word × Text)
  | 0, _, done, s => .ok (done.reverse, s)
  | _, inQuotes, done, [] =>
    if inQuotes && reading = .word then .error "Unterminated quoted string".toList
    else .ok (done.reverse, [])
  | fuel + 1, inQuotes, done, c :: s =>
    let goOn (r : Except Text (Part × Text)) : Except Text (Word × Text) :=
      match r with
      | .ok (p, rest) => readParts reading whole fuel inQuotes (addPart done p) rest
      | .error m => .error m
    if c = '$' then
      goOn (readDollar ((whole.take (whole.length - s.length)).count '\n') inQuotes s)
    else if c = '\x60' then goOn (readBack inQuotes s)
    else if inQuotes then
      if c = '"' && reading != .lines then readParts reading whole fuel (reading == .quoted) done s
      else if c = '\\' then
        match s with
        | '\n' :: s => readParts reading whole fuel inQuotes done s
        | d :: s =>
          if d = '$' ∨ d = '\x60' ∨ d = '\\' ∨ (d = '"' ∧ reading ≠ .lines) ∨
              (d = '\x7d' ∧ (reading = .quoted ∨ reading = .whole)) then
            readParts reading whole fuel inQuotes (addPart done (.quoted [d])) s
          else readParts reading whole fuel inQuotes (addPart done (.quoted ['\\'])) (d :: s)
        | [] => readParts reading whole fuel inQuotes (addPart done (.quoted ['\\'])) []
      else
        let run := (c :: s).takeWhile (isOrdinaryInQuotes reading)
        readParts reading whole fuel inQuotes (addPart done (.quoted run))
          ((c :: s).drop run.length)
    else if reading = .word && endsWord c then .ok (done.reverse, c :: s)
    else if c = '"' then
      let done := if isArguments s then done else addPart done (.quoted [])
      readParts reading whole fuel true done s
    else if c = '\'' then
      match within .single s with
      | some k => readParts reading whole fuel inQuotes (addPart done (.quoted k.before)) k.after
      | none => .error "Unterminated quoted string".toList
    else if c = '\\' then
      match s with
      | '\n' :: s => readParts reading whole fuel inQuotes done s
      | d :: s => readParts reading whole fuel inQuotes (addPart done (.quoted [d])) s
      | [] => readParts reading whole fuel inQuotes (addPart done (.plain ['\\'])) []
    else
      let run := (c :: s).takeWhile (isOrdinary reading)
      readParts reading whole fuel inQuotes (addPart done (.plain run)) ((c :: s).drop run.length)

/-- Reads a word, and leaves what follows it. -/
def readWord (s : Text) : Except Text (Word × Text) := readParts .word s (s.length + 1) false [] s

/-- The parts of a whole text. -/
def partsOf (reading : Reading) (s : Text) : Except Text Word :=
  (readParts reading s (s.length + 1) (reading == .quoted || reading == .lines) [] s).map (·.1)

end Shell
end DocExamples
