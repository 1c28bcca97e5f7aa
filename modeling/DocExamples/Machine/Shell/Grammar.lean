/-
# Reading commands

A shell reads one complete line at a time: a list of pipelines that may go on over
several lines where something is still open.  Each reader below returns a command
and the source behind it, or says what it met instead of what it wanted.  Where a
command starts, the text of an alias is read in place of its name.
-/

import DocExamples.Machine.Octet
import DocExamples.Machine.Shell.Alias
import DocExamples.Machine.Shell.Lexeme

namespace DocExamples
namespace Shell

/-- Source text that is still to be read. -/
structure Source where
  /-- The text. -/
  rest : Text
  /-- The number of its first line. -/
  line : Nat
  /-- How many lines were taken out behind that line. -/
  skipped : Nat
  /-- The aliases that stand for other text. -/
  aliases : List Alias
  /-- The names of those whose text is being read, and how much source is behind each. -/
  opened : List (Text × Nat)
  /-- Whether it can be shown as it is read. -/
  visible : Bool

/-- A text as source that starts on a line. -/
def Source.ofText (text : Text) (line : Nat) : Source := ⟨text, line, 0, [], [], false⟩

/-- The source behind the end of a line. -/
def Source.nextLine (s : Source) (rest : Text) : Source :=
  { s with rest, line := s.line + 1 + s.skipped, skipped := 0 }

/-- The lines of a source up to one of them. -/
def Source.upTo (s : Source) (line : Nat) : Text :=
  ((Octet.fullLines s.rest).take (line + 1 - s.line)).flatten

/-- How deep the readers go at most. -/
def Source.fuel (s : Source) : Nat := (16 * s.rest.length + 64) * (Alias.size s.aliases + 1)

/-- A place where the source cannot be read. -/
structure Mistake where
  /-- The number of the line. -/
  line : Nat
  /-- What is wrong. -/
  message : Text

/-- What a source is made of. -/
inductive Token where
  /-- The end of the source. -/
  | finish
  /-- The end of a line. -/
  | newline
  /-- An operator between or around commands. -/
  | operator (s : Text)
  /-- A redirection of a stream; its word follows. -/
  | redirect (stream : Nat) (operator : Text)
  /-- A word. -/
  | word (w : Word)
deriving DecidableEq, Repr

namespace Token

/-- The reserved word that a token is. -/
def reserved? : Token → Option Text
  | .word [.plain s] => if reserved.contains s then some s else none
  | _ => none

/-- Whether a token is a reserved word. -/
def is (t : Token) (s : String) : Bool := t.reserved? == some s.toList

/-- Whether a token is an operator. -/
def isOperator (t : Token) (s : String) : Bool := t == .operator s.toList

/-- What a complaint calls a token; reserved words have their own names only where they
could stand. -/
def name (t : Token) (reservedHere : Bool) : Text :=
  match t with
  | .finish => "end of file".toList
  | .newline => "newline".toList
  | .operator s => '"' :: s ++ ['"']
  | .redirect .. => "redirection".toList
  | .word _ =>
    match t.reserved? with
    | some s => if reservedHere then '"' :: s ++ ['"'] else "word".toList
    | none => "word".toList

/-- Whether a token ends a list of commands. -/
def endsList (t : Token) : Bool :=
  match t with
  | .finish => true
  | .operator s => s == [')'] || s == [';', ';']
  | t => ["do", "done", "elif", "else", "esac", "fi", "then", "\x7d"].any t.is

end Token

/-- A token and the source behind it. -/
structure Taken where
  /-- The token. -/
  token : Token
  /-- The source behind it. -/
  source : Source

/-- The source without blanks, continued lines and comments at its start. -/
def withoutBlanks : (fuel : Nat) → Source → Source
  | 0, s => s
  | fuel + 1, s =>
    match s.rest with
    | ' ' :: r => withoutBlanks fuel { s with rest := r }
    | '\t' :: r => withoutBlanks fuel { s with rest := r }
    | '\\' :: '\n' :: r => withoutBlanks fuel { s with rest := r, line := s.line + 1 }
    | '#' :: r => { s with rest := r.dropWhile (· != '\n') }
    | _ => s

/-- The operators of a source, longer ones first. -/
def operators : List Text :=
  ["&&", "||", ";;", ";", "&", "|", "(", ")"].map String.toList

/-- The operators of redirections, longer ones first. -/
def redirectOperators : List Text :=
  ["<<-", "<<", "<&", "<>", "<", ">>", ">&", ">|", ">"].map String.toList

/-- The first of some marks that a text starts with, and what follows it. -/
def firstMark? (marks : List Text) (s : Text) : Option (Text × Text) :=
  marks.findSome? fun m => (Text.after? m s).map (m, ·)

/-- The stream that a redirection is for when it names none. -/
def defaultStream (operator : Text) : Nat := if Text.startsWith ['<'] operator then 0 else 1

/-- The token that the source itself has next. -/
def writtenToken (s : Source) : Except Mistake Taken :=
  let s := withoutBlanks (s.rest.length + 1) s
  match s.rest with
  | [] => .ok ⟨.finish, s⟩
  | '\n' :: r => .ok ⟨.newline, s.nextLine r⟩
  | c :: r =>
    match firstMark? operators s.rest with
    | some (o, r) => .ok ⟨.operator o, { s with rest := r }⟩
    | none =>
      match firstMark? redirectOperators s.rest with
      | some (o, r) => .ok ⟨.redirect (defaultStream o) o, { s with rest := r }⟩
      | none =>
        match c.isDigit, firstMark? redirectOperators r with
        | true, some (o, r) => .ok ⟨.redirect (c.toNat - 48) o, { s with rest := r }⟩
        | _, _ =>
          match readWord s.rest with
          | .ok (w, r) =>
            let used := s.rest.take (s.rest.length - r.length)
            .ok ⟨.word (w.fromLine s.line), { s with rest := r, line := s.line + used.count '\n' }⟩
          | .error m =>
            .error ⟨if m = missingBrace then s.line else s.line + s.rest.count '\n', m⟩

/-- The alias that a token stands for; `start` is how much source there is from the token on.
A reserved word stands for none, and neither does a name within the alias's own text. -/
def aliasOf? (s : Source) (start : Nat) (t : Token) : Option Alias :=
  match t with
  | .word [.plain n] =>
    if reserved.contains n || s.opened.any (fun o => o.1 == n && o.2 < start) then none
    else Alias.find? s.aliases n
  | _ => none

/-- The next token, with the texts of aliases in place of their names where a command starts,
and behind the text of an alias that ends with a blank. -/
def tokenFrom : (fuel : Nat) → (atStart : Bool) → Source → Except Mistake Taken
  | 0, _, s => writtenToken s
  | fuel + 1, atStart, s => do
    let t ← writtenToken s
    let start := (withoutBlanks (s.rest.length + 1) s).rest.length
    let behindBlank := s.opened.any fun o => start ≤ o.2 && o.2 < s.rest.length
    match if atStart || behindBlank then aliasOf? s start t.token else none with
    | none => return t
    | some a =>
      let behind := t.source.rest.length
      tokenFrom fuel true { t.source with
        rest := a.text ++ t.source.rest
        opened := (a.name, behind) :: s.opened.filter (·.2 ≤ behind) }

/-- The next token. -/
def nextToken (s : Source) : Except Mistake Taken := tokenFrom s.fuel false s

/-- The next token, where a command starts. -/
def startToken (s : Source) : Except Mistake Taken := tokenFrom s.fuel true s

/-- The source without the ends of lines at its start. -/
def withoutNewlines : (fuel : Nat) → Source → Source
  | 0, s => s
  | fuel + 1, s =>
    let s := withoutBlanks (s.rest.length + 1) s
    match s.rest with
    | '\n' :: r => withoutNewlines fuel (s.nextLine r)
    | _ => s

/-- The source from the next token that is not the end of a line. -/
def onNextLine (s : Source) : Source := withoutNewlines (s.rest.length + 1) s

/-- A complaint about a token. -/
def unexpected {α : Type} (t : Taken) (reservedHere : Bool) (wanted : Option String) :
    Except Mistake α :=
  .error ⟨t.source.line,
    t.token.name reservedHere ++ " unexpected".toList ++
      match wanted with
      | some w => " (expecting \"".toList ++ w.toList ++ "\")".toList
      | none => []⟩

/-- A command and the source behind it. -/
structure Parsed where
  /-- The command. -/
  command : Command
  /-- The source behind it. -/
  source : Source

/-! ## Redirections -/

/-- The text that a word spells without its quotes. -/
def spelled (w : Word) : Text := w.flatMap fun
  | .plain s => s
  | .quoted s => s
  | _ => []

/-- The text of the lines up to one that is the mark, and the lines behind it. -/
def linesUpTo (mark : Text) (withoutTabs : Bool) : List Text → Text × List Text
  | [] => ([], [])
  | l :: ls =>
    let shown := if withoutTabs then l.dropWhile (· == '\t') else l
    if shown = mark then ([], ls)
    else if ls.isEmpty then (shown, [])
    else
      let (inside, behind) := linesUpTo mark withoutTabs ls
      (shown ++ '\n' :: inside, behind)

/-- Takes the lines of a text that is given behind the line being read. -/
def takeLines (mark : Word) (withoutTabs : Bool) (s : Source) : Except Mistake (Word × Source) :=
  let line := s.rest.takeWhile (· != '\n')
  let behind := Text.lines (s.rest.drop (line.length + 1))
  let (body, left) := linesUpTo (spelled mark) withoutTabs behind
  let isQuoted := mark.any fun
    | .quoted _ => true
    | _ => false
  let source : Source :=
    { s with
      rest := line ++ '\n' :: Text.unlines left
      skipped := s.skipped + (behind.length - left.length) }
  if isQuoted then .ok ([.quoted body], source)
  else
    match partsOf .lines body with
    | .ok w => .ok (w.fromLine (s.line + 1 + s.skipped), source)
    | .error m => .error ⟨s.line, m⟩

/-- The direction that an operator gives. -/
def directionOf (operator : Text) : Direction :=
  if operator = ['<'] then .input
  else if operator = ['>', '>'] then .append
  else if operator = ['>', '|'] then .replace
  else if operator = ['<', '>'] then .both
  else if operator = ['<', '&'] ∨ operator = ['>', '&'] then .copy
  else if operator = ['<', '<'] ∨ operator = ['<', '<', '-'] then .here
  else .output

/-- Reads the word of a redirection. -/
def readRedirection (stream : Nat) (operator : Text) (s : Source) :
    Except Mistake (Redirection × Source) :=
  match nextToken s with
  | .error m => .error m
  | .ok t =>
    match t.token with
    | .word w =>
      match directionOf operator with
      | .here => do
        let (body, source) ← takeLines w (operator.getLast? == some '-') t.source
        return (⟨stream, .here, body⟩, source)
      | d => .ok (⟨stream, d, w⟩, t.source)
    | _ => unexpected t false none

/-- Reads redirections, as many as there are. -/
def readRedirections : (fuel : Nat) → Source → Except Mistake (List Redirection × Source)
  | 0, s => .ok ([], s)
  | fuel + 1, s => do
    let t ← nextToken s
    match t.token with
    | .redirect n o => do
      let (r, s) ← readRedirection n o t.source
      let (rs, s) ← readRedirections fuel s
      return (r :: rs, s)
    | _ => return ([], s)

/-! ## Commands -/

/-- The assignment that a word is. -/
def assignment? (w : Word) : Option Assignment :=
  match w with
  | .plain s :: more =>
    match Text.cut? ['='] s with
    | some k =>
      if isName k.before then
        some ⟨k.before, if k.after.isEmpty then more else .plain k.after :: more⟩
      else none
    | none => none
  | _ => none

/-- Words up to the first token that is none. -/
def readWords : (fuel : Nat) → Source → Except Mistake (List Word × Source)
  | 0, s => .ok ([], s)
  | fuel + 1, s => do
    let t ← nextToken s
    match t.token with
    | .word w => do
      let (ws, s) ← readWords fuel t.source
      return (w :: ws, s)
    | _ => return ([], s)

/-- The reader goes on behind a token that has to come. -/
def require (t : Taken) (wanted : String) : Except Mistake Source :=
  if t.token.is wanted || t.token.isOperator wanted then .ok t.source
  else unexpected t true (some wanted)

/-- The reader goes on behind a token that has to come on this line or a later one. -/
def requireLater (s : Source) (wanted : String) : Except Mistake Source := do
  require (← startToken (onNextLine s)) wanted

mutual

/-- Reads the commands up to a token that ends a list; `begun` says that there may be none. -/
def readList : (fuel : Nat) → (begun : Bool) → Source → Except Mistake Parsed
  | 0, _, s => .ok ⟨.nothing, s⟩
  | fuel + 1, begun, s => do
    let s := onNextLine s
    let t ← startToken s
    if t.token = .finish || (begun && t.token.endsList) then return ⟨.nothing, s⟩
    let first ← readAndOr fuel s
    let t ← nextToken first.source
    let more (c : Command) (s : Source) : Except Mistake Parsed := do
      let rest ← readList fuel true s
      match rest.command with
      | .nothing => return ⟨c, rest.source⟩
      | d => return ⟨.seq c d, rest.source⟩
    if t.token.isOperator "&" then more (.background first.command) t.source
    else if t.token.isOperator ";" then more first.command t.source
    else if t.token = .newline then more first.command first.source
    else return first

/-- Reads pipelines joined by `&&` and `||`. -/
def readAndOr : (fuel : Nat) → Source → Except Mistake Parsed
  | 0, s => .ok ⟨.nothing, s⟩
  | fuel + 1, s => do readJoined fuel (← readPipeline fuel s)

/-- Reads what is joined to a pipeline. -/
def readJoined : (fuel : Nat) → Parsed → Except Mistake Parsed
  | 0, p => .ok p
  | fuel + 1, p => do
    let t ← nextToken p.source
    if t.token.isOperator "&&" then do
      let next ← readPipeline fuel (onNextLine t.source)
      readJoined fuel ⟨.both p.command next.command, next.source⟩
    else if t.token.isOperator "||" then do
      let next ← readPipeline fuel (onNextLine t.source)
      readJoined fuel ⟨.either p.command next.command, next.source⟩
    else return p

/-- Reads a pipeline, which may be negated. -/
def readPipeline : (fuel : Nat) → Source → Except Mistake Parsed
  | 0, s => .ok ⟨.nothing, s⟩
  | fuel + 1, s => do
    let t ← startToken s
    if t.token.is "!" then do
      let p ← readPiped fuel t.source
      return { p with command := .not p.command }
    else readPiped fuel s

/-- Reads commands joined by `|`. -/
def readPiped : (fuel : Nat) → Source → Except Mistake Parsed
  | 0, s => .ok ⟨.nothing, s⟩
  | fuel + 1, s => do
    let first ← readCommand fuel s
    let t ← nextToken first.source
    if t.token.isOperator "|" then do
      let rest ← readPiped fuel (onNextLine t.source)
      return ⟨.pipe first.command rest.command, rest.source⟩
    else return first

/-- Reads a command. -/
def readCommand : (fuel : Nat) → Source → Except Mistake Parsed
  | 0, s => .ok ⟨.nothing, s⟩
  | fuel + 1, s => do
    let t ← startToken s
    let compound (keepsLine : Bool) (p : Parsed) : Except Mistake Parsed := do
      let (rs, s) ← readRedirections p.source.fuel p.source
      let isPlain := rs.isEmpty && !keepsLine
      return ⟨if isPlain then p.command else .redirected t.source.line rs p.command, s⟩
    match t.token with
    | .operator ['('] => do
      let inner ← readList fuel false t.source
      compound true ⟨.subshell inner.command, ← requireLater inner.source ")"⟩
    | .redirect .. => readSimple fuel s
    | .word _ =>
      match t.token.reserved? with
      | none => readSimple fuel s
      | some k =>
        if k = "if".toList then do compound false (← readIf fuel t.source)
        else if k = "while".toList then do compound false (← readLoop fuel false t.source)
        else if k = "until".toList then do compound false (← readLoop fuel true t.source)
        else if k = "for".toList then do compound true (← readFor fuel t.source)
        else if k = "case".toList then do compound true (← readCase fuel t.source)
        else if k = ['\x7b'] then do
          let inner ← readList fuel false t.source
          compound false ⟨inner.command, ← requireLater inner.source "\x7d"⟩
        else unexpected t true none
    | _ => unexpected t true none

/-- Reads a choice behind its first word. -/
def readIf : (fuel : Nat) → Source → Except Mistake Parsed
  | 0, s => .ok ⟨.nothing, s⟩
  | fuel + 1, s => do
    let condition ← readList fuel false s
    let s ← requireLater condition.source "then"
    let yes ← readList fuel false s
    let t ← startToken (onNextLine yes.source)
    if t.token.is "elif" then do
      let no ← readIf fuel t.source
      return ⟨.branch condition.command yes.command no.command, no.source⟩
    else if t.token.is "else" then do
      let no ← readList fuel false t.source
      let s ← requireLater no.source "fi"
      return ⟨.branch condition.command yes.command no.command, s⟩
    else return ⟨.branch condition.command yes.command .nothing, ← require t "fi"⟩

/-- Reads a loop behind its first word. -/
def readLoop : (fuel : Nat) → (untilHolds : Bool) → Source → Except Mistake Parsed
  | 0, _, s => .ok ⟨.nothing, s⟩
  | fuel + 1, untilHolds, s => do
    let condition ← readList fuel false s
    let s ← requireLater condition.source "do"
    let body ← readList fuel false s
    let s ← requireLater body.source "done"
    return ⟨.loop untilHolds condition.command body.command, s⟩

/-- Reads a loop over words behind its first word. -/
def readFor : (fuel : Nat) → Source → Except Mistake Parsed
  | 0, s => .ok ⟨.nothing, s⟩
  | fuel + 1, s => do
    let t ← nextToken s
    let name := match t.token with
      | .word [.plain n] => n
      | _ => []
    if !isName name then .error ⟨t.source.line, "Bad for loop variable".toList⟩
    else
      let next ← startToken (onNextLine t.source)
      let body (words : Option (List Word)) (s : Source) : Except Mistake Parsed := do
        let s ← requireLater s "do"
        let inner ← readList fuel false s
        let s ← requireLater inner.source "done"
        return ⟨.each name words inner.command, s⟩
      if next.token.is "in" then do
        let (ws, s) ← readWords next.source.fuel next.source
        let close ← nextToken s
        if close.token = .newline || close.token.isOperator ";" then body (some ws) close.source
        else unexpected close false none
      else if next.token.isOperator ";" then body none next.source
      else body none t.source

/-- Reads a choice by a word behind its first word. -/
def readCase : (fuel : Nat) → Source → Except Mistake Parsed
  | 0, s => .ok ⟨.nothing, s⟩
  | fuel + 1, s => do
    let t ← nextToken s
    match t.token with
    | .word w => do
      let s ← requireLater t.source "in"
      let arms ← readArms fuel s
      return ⟨.select w arms.command, arms.source⟩
    | _ => unexpected t false (some "word")

/-- Reads the arms of a choice. -/
def readArms : (fuel : Nat) → Source → Except Mistake Parsed
  | 0, s => .ok ⟨.nothing, s⟩
  | fuel + 1, s => do
    let t ← nextToken (onNextLine s)
    if t.token.is "esac" then return ⟨.nothing, t.source⟩
    else
      let first ← if t.token.isOperator "(" then nextToken t.source else .ok t
      let (patterns, s) ← readPatterns fuel first
      let body ← readList fuel true s
      let t ← nextToken (onNextLine body.source)
      if t.token.is "esac" then return ⟨.arm patterns body.command .nothing, t.source⟩
      else
        let s ← require t ";;"
        let others ← readArms fuel s
        return ⟨.arm patterns body.command others.command, others.source⟩

/-- Reads the patterns of an arm, the first of which was taken already. -/
def readPatterns : (fuel : Nat) → Taken → Except Mistake (List Word × Source)
  | 0, t => .ok ([], t.source)
  | fuel + 1, t => do
    match t.token with
    | .word w => do
      let next ← nextToken t.source
      if next.token.isOperator "|" then do
        let (ws, s) ← readPatterns fuel (← nextToken next.source)
        return (w :: ws, s)
      else if next.token.isOperator ")" then return ([w], next.source)
      else unexpected next false (some ")")
    | _ => unexpected t false (some ")")

/-- Reads a simple command, or the definition of a function. -/
def readSimple : (fuel : Nat) → Source → Except Mistake Parsed
  | 0, s => .ok ⟨.nothing, s⟩
  | fuel + 1, s => do
    let (c, s) ← readElements fuel ⟨(withoutBlanks (s.rest.length + 1) s).line, [], [], []⟩ s
    let t ← nextToken s
    match c, t.token with
    | ⟨_, [], [[.plain name]], []⟩, .operator ['('] => do
      let close ← nextToken t.source
      let s ← if close.token.isOperator ")" then .ok close.source
        else unexpected close false (some ")")
      if !isName name then .error ⟨s.line, "Bad function name".toList⟩
      else
        let body ← readCommand fuel (onNextLine s)
        return ⟨.define name body.command, body.source⟩
    | _, _ => return ⟨.simple c, s⟩

/-- Reads the elements of a simple command. -/
def readElements : (fuel : Nat) → Simple → Source → Except Mistake (Simple × Source)
  | 0, c, s => .ok (c, s)
  | fuel + 1, c, s => do
    let t ← if c.words.isEmpty then startToken s else nextToken s
    match t.token with
    | .word w =>
      match c.words, assignment? w with
      | [], some a => readElements fuel { c with assignments := c.assignments ++ [a] } t.source
      | _, _ => readElements fuel { c with words := c.words ++ [w] } t.source
    | .redirect n o => do
      let (r, s) ← readRedirection n o t.source
      readElements fuel { c with redirections := c.redirections ++ [r] } s
    | _ => return (c, s)

end

/-! ## Substitutions -/

/-- The words of a command, each with the number of its line. -/
def Command.words (line : Nat) : Command → List (Nat × Word)
  | .simple c =>
    (c.assignments.map (·.word) ++ c.words ++ c.redirections.map (·.word)).map (c.line, ·)
  | .pipe a b => a.words line ++ b.words line
  | .seq a b => a.words line ++ b.words line
  | .both a b => a.words line ++ b.words line
  | .either a b => a.words line ++ b.words line
  | .not a => a.words line
  | .background a => a.words line
  | .subshell a => a.words line
  | .branch c a b => c.words line ++ a.words line ++ b.words line
  | .loop _ c a => c.words line ++ a.words line
  | .each _ ws a => (ws.getD []).map (line, ·) ++ a.words line
  | .select w a => (line, w) :: a.words line
  | .arm ps a b => ps.map (line, ·) ++ a.words line ++ b.words line
  | .define _ a => a.words line
  | .redirected line rs a => rs.map (fun r => (line, r.word)) ++ a.words line
  | .nothing => []

/-- Reads the commands in the words of a command, so deep at most: each source has to be a list of
commands up to a closing parenthesis, or to its end where its lines are counted from one. -/
def verify (aliases : List Alias) : (fuel : Nat) → (line : Nat) → Command → Except Mistake Unit
  | 0, _, _ => .ok ()
  | fuel + 1, line, c =>
    (c.words line).forM fun (line, w) => w.forM fun
      | .command source place _ => do
        let closer :=
          if place.isNone then [] else if source.contains '#' then ['\n', ')'] else [')']
        let s := { Source.ofText (source ++ closer) (place.getD 1) with aliases }
        let p ← readList s.fuel true s
        let t ← startToken (onNextLine p.source)
        if place.isNone && t.token == .finish then verify aliases fuel line p.command
        else
          let _ ← require t ")"
          verify aliases fuel line p.command
      | _ => .ok ()

/-- How deep substitutions may stand in one another to be read before they are run. -/
def substitutionDepth : Nat := 16

/-- What is read of a source at once. -/
inductive LineRead where
  /-- Nothing is left. -/
  | finished
  /-- A command, which may be empty, and the source behind it. -/
  | command (c : Command) (rest : Source)

/-- Reads the commands of a line after some that were read already. -/
def readLineFrom : (fuel : Nat) → (done : Command) → Source → Except Mistake (Command × Source)
  | 0, done, s => .ok (done, s)
  | fuel + 1, done, s => do
    let p ← readAndOr s.fuel s
    let t ← nextToken p.source
    let add (c : Command) : Command := match done with
      | .nothing => c
      | d => .seq d c
    let after (c : Command) (s : Source) : Except Mistake (Command × Source) := do
      let t ← nextToken s
      match t.token with
      | .newline => return (add c, t.source)
      | .finish => return (add c, t.source)
      | _ => readLineFrom fuel (add c) s
    if t.token.isOperator "&" then after (.background p.command) t.source
    else if t.token.isOperator ";" then after p.command t.source
    else
      match t.token with
      | .newline => return (add p.command, t.source)
      | .finish => return (add p.command, t.source)
      | _ => unexpected t true none

/-- Reads one complete line. -/
def readLine (s : Source) : Except Mistake LineRead := do
  let t ← startToken s
  match t.token with
  | .finish => return .finished
  | .newline => return .command .nothing t.source
  | _ => do
    let (c, rest) ← readLineFrom s.fuel .nothing s
    verify s.aliases substitutionDepth s.line c
    return .command c rest

end Shell
end DocExamples
