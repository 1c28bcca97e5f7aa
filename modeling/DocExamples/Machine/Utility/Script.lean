/-
# Editing scripts

The utility `sed` takes a script: instructions that are carried out on each line
in turn.  This module reads scripts.  A block is laid out flat: an instruction
that opens it says where to go on when its lines are not selected.
-/

import DocExamples.Machine.Regex
import DocExamples.Machine.Utility.Search

namespace DocExamples
namespace Sed

/-- A place in the input. -/
inductive Address where
  /-- The line with this number. -/
  | line (n : Nat)
  /-- The last line. -/
  | last
  /-- A line in which this matches, or else what was looked for last. -/
  | matching (r : Option Regex)
  /-- Every so many lines from a first one. -/
  | every (first step : Nat)
  /-- So many lines below the start of a range. -/
  | plus (n : Nat)
  /-- The next line from the start of a range on whose number is a multiple. -/
  | multiple (n : Nat)

/-- The lines that an instruction is for. -/
structure Scope where
  /-- The line, or the first of a range. -/
  first : Option Address
  /-- The last of a range. -/
  second : Option Address
  /-- Whether all other lines are meant. -/
  negated : Bool

/-- A piece of a replacement. -/
inductive Replacement where
  /-- This text. -/
  | text (s : Text)
  /-- The text of a group; group 0 is the whole match. -/
  | group (n : Nat)
  /-- What follows is put in capital or small letters, or as it is again: all of it, or its
  first character. -/
  | casing (letter : Char)

/-- What is put in the place of matches. -/
structure Substitution where
  /-- What is replaced; otherwise, what was looked for last. -/
  regex : Option Regex
  /-- What is put in its place. -/
  replacement : List Replacement
  /-- Whether all matches from the first one on are replaced. -/
  everywhere : Bool
  /-- The number of the first match that is replaced. -/
  occurrence : Nat
  /-- Whether the line is shown if a match was replaced. -/
  shown : Bool
  /-- The file that the line is added to if a match was replaced. -/
  target : Option Text

/-- What an instruction does. -/
inductive Action where
  /-- Opens a block; lines not selected go on behind it. -/
  | block (past : Nat)
  /-- Does nothing. -/
  | nothing
  /-- Drops the line. -/
  | delete
  /-- Drops the first line of several, and starts again with the others. -/
  | deleteFirst
  /-- Shows the line. -/
  | print
  /-- Shows the first line of several. -/
  | printFirst
  /-- Ends the run; the line is shown first if `shown` says so. -/
  | quit (code : Nat) (shown : Bool)
  /-- Replaces matches. -/
  | substitute (s : Substitution)
  /-- Replaces characters. -/
  | replaceChars (table : List (Char × Char))
  /-- Goes on to the next line. -/
  | next
  /-- Appends the next line to this one. -/
  | join
  /-- Shows a text after the line. -/
  | append (s : Text)
  /-- Shows a text before the line. -/
  | insert (s : Text)
  /-- Shows what a file holds after the line. -/
  | read (name : Text)
  /-- Shows the next line of a file after the line. -/
  | readLine (name : Text)
  /-- Adds the line to a file, or only the first of several. -/
  | save (name : Text) (onlyFirst : Bool)
  /-- Empties the line. -/
  | zap
  /-- Shows a text in place of the lines. -/
  | change (s : Text)
  /-- Shows the number of the line. -/
  | number
  /-- Shows the name of the file. -/
  | fileName
  /-- Shows the line with all its characters made visible, so many in a row; none stands for as
  many as there are. -/
  | list (width : Nat)
  /-- Copies the line to the store, or appends it to what is there. -/
  | keep (appending : Bool)
  /-- Copies the store to the line, or appends it to what is there. -/
  | recall (appending : Bool)
  /-- Exchanges the line and the store. -/
  | exchange
  /-- A place to go on at. -/
  | label (name : Text)
  /-- Goes on at a label, or at the end. -/
  | branch (name : Text)
  /-- Goes on at a label if matches were replaced, or were not. -/
  | branchIf (replaced : Bool) (name : Text)

/-- An instruction. -/
structure Instruction where
  /-- The lines it is for. -/
  scope : Scope
  /-- What it does. -/
  action : Action

/-- What is wrong with a script, and how much follows the place. -/
structure Mistake where
  /-- The wording. -/
  message : Text
  /-- How many characters are left. -/
  left : Nat
  /-- Whether the place is told. -/
  placed : Bool

/-- A value read from a script. -/
abbrev Read (α : Type) := Except Mistake (Text.Reading α)

/-- A mistake at the start of a text. -/
def wrong {α : Type} (message : String) (rest : Text) : Except Mistake α :=
  .error ⟨message.toList, rest.length, true⟩

/-- The text up to a delimiter, which a backslash takes from its meaning; `isRegex` says
that the backslash stays before all other characters. -/
def upTo (delimiter : Char) : (fuel : Nat) → Text → Option (Text.Reading Text)
  | 0, _ => none
  | _, [] => none
  | fuel + 1, '\\' :: c :: s => do
    let r ← upTo delimiter fuel s
    return { r with value := if c = delimiter then c :: r.value else '\\' :: c :: r.value }
  | fuel + 1, c :: s =>
    if c = delimiter then some ⟨[], s⟩
    else do
      let r ← upTo delimiter fuel s
      return { r with value := c :: r.value }

/-- The expression up to a delimiter; brackets hide it. -/
def regexUpTo (delimiter : Char) : (fuel : Nat) → Text → Option (Text.Reading Text)
  | 0, _ => none
  | _, [] => none
  | fuel + 1, '\\' :: c :: s => do
    let r ← regexUpTo delimiter fuel s
    return { r with value := if c = delimiter then c :: r.value else '\\' :: c :: r.value }
  | fuel + 1, '[' :: s =>
    match CharSet.read s with
    | some set => do
      let r ← regexUpTo delimiter fuel set.rest
      return { r with value := '[' :: s.take (s.length - set.rest.length) ++ r.value }
    | none => none
  | fuel + 1, c :: s =>
    if c = delimiter then some ⟨[], s⟩
    else do
      let r ← regexUpTo delimiter fuel s
      return { r with value := c :: r.value }

/-- The character that a letter and perhaps digits stand for behind a backslash, and what follows
them. -/
def escape? : Text → Option (Char × Text)
  | 'a' :: s => some ('\x07', s)
  | 'f' :: s => some ('\x0c', s)
  | 'r' :: s => some ('\r', s)
  | 't' :: s => some ('\t', s)
  | 'v' :: s => some ('\x0b', s)
  | 'c' :: x :: s => some (Char.ofNat ((x.toUpper.toNat ^^^ 64) % 256), s)
  | c :: s =>
    let coded (base most : Nat) : Option (Char × Text) :=
      let digits := (s.takeWhile fun d => (Octet.digit? base d).isSome).take most
      let n := Octet.ofDigits base digits % 256
      if digits.isEmpty then none
      else some (if n < 0x80 then Char.ofNat n else Octet.stray (.ofNat n), s.drop digits.length)
    if c = 'x' then coded 16 2 else if c = 'o' then coded 8 3 else if c = 'd' then coded 10 3
    else none
  | [] => none

/-- An expression with the characters that its escapes stand for. -/
def withCharacters : (fuel : Nat) → Text → Text
  | 0, _ => []
  | _, [] => []
  | fuel + 1, '\\' :: s =>
    match escape? s with
    | some (c, rest) => c :: withCharacters fuel rest
    | none =>
      match s with
      | 'n' :: rest => '\n' :: withCharacters fuel rest
      | c :: rest => '\\' :: c :: withCharacters fuel rest
      | [] => ['\\']
  | fuel + 1, c :: s => c :: withCharacters fuel s

/-- The pieces of a replacement. -/
def replacement : (fuel : Nat) → Text → List Replacement
  | 0, _ => []
  | _, [] => []
  | fuel + 1, '\\' :: c :: s =>
    match escape? (c :: s) with
    | some (x, rest) => .text [x] :: replacement fuel rest
    | none =>
      (if c.isDigit then .group (c.toNat - 48)
        else if c = 'n' then .text ['\n']
        else if "ULEul".toList.contains c then .casing c
        else .text [c]) :: replacement fuel s
  | fuel + 1, '&' :: s => .group 0 :: replacement fuel s
  | fuel + 1, c :: s => .text [c] :: replacement fuel s

/-- Blanks within a line. -/
def isBlank (c : Char) : Bool := c == ' ' || c == '\t'

/-- What is asked of an expression by letters behind it. -/
structure Modifiers where
  /-- Whether capital letters may stand for small ones. -/
  caseless : Bool
  /-- Whether lines in the text have a start and an end of their own. -/
  byLine : Bool

/-- The expression for a pattern, or none for what was looked for last; `left` characters
follow. -/
def expression (dialect : Regex.Dialect) (m : Modifiers) (pattern : Text) (left : Nat) :
    Except Mistake (Option Regex) :=
  if pattern.isEmpty then
    if m.caseless || m.byLine then
      .error ⟨"cannot specify modifiers on empty regexp".toList, left, true⟩
    else .ok none
  else
    let dialect := { dialect with byLine := m.byLine }
    let pattern := withCharacters (pattern.length + 1) pattern
    match Regex.read dialect pattern with
    | .error f => .error ⟨f.message, left, true⟩
    | .ok r =>
      if Regex.hasBareClass dialect pattern then
        .error ⟨"character class syntax is [[:space:]], not [:space:]".toList, left, false⟩
      else .ok (some (if m.caseless then r.caseless else r))

/-- The letters behind the expression of an address. -/
def modifiers : Modifiers → Text → Text.Reading Modifiers
  | m, 'I' :: s => modifiers { m with caseless := true } s
  | m, 'M' :: s => modifiers { m with byLine := true } s
  | m, s => ⟨m, s⟩

/-- Reads an address. -/
def address (dialect : Regex.Dialect) (s : Text) : Read (Option Address) :=
  let matching (delimiter : Char) (s : Text) : Except Mistake (Text.Reading (Option Address)) :=
    match regexUpTo delimiter (s.length + 1) s with
    | none => wrong "unterminated address regex" []
    | some r => do
      let m := modifiers ⟨false, false⟩ r.rest
      let x ← expression dialect m.value r.value m.rest.length
      return ⟨some (.matching x), m.rest⟩
  match s with
  | '$' :: rest => .ok ⟨some .last, rest⟩
  | '/' :: rest => matching '/' rest
  | '\\' :: c :: rest => matching c rest
  | c :: rest =>
    if c.isDigit then
      let ds := (c :: rest).takeWhile Char.isDigit
      let after := (c :: rest).dropWhile Char.isDigit
      let n := (Octet.number? ds).getD 0
      match after with
      | '~' :: more =>
        let step := more.takeWhile Char.isDigit
        .ok ⟨some (.every n ((Octet.number? step).getD 0)), more.drop step.length⟩
      | _ => .ok ⟨some (.line n), after⟩
    else .ok ⟨none, c :: rest⟩
  | [] => .ok ⟨none, []⟩

/-- Reads the end of a range, behind the comma. -/
def rangeEnd (dialect : Regex.Dialect) (s : Text) :
    Except Mistake (Text.Reading (Option Address)) :=
  match s.dropWhile isBlank with
  | '+' :: ds =>
    let n := ds.takeWhile Char.isDigit
    .ok ⟨some (.plus ((Octet.number? n).getD 0)), ds.drop n.length⟩
  | '~' :: ds =>
    let n := ds.takeWhile Char.isDigit
    .ok ⟨some (.multiple ((Octet.number? n).getD 0)), ds.drop n.length⟩
  | s => do
    let b : Text.Reading (Option Address) ← address dialect s
    if b.value.isNone then wrong "unexpected `,'" (b.rest.drop 1) else return b

/-- Reads the addresses before an instruction. -/
def scope (dialect : Regex.Dialect) (s : Text) : Except Mistake (Text.Reading Scope) := do
  let a : Text.Reading (Option Address) ← address dialect s
  let rest := if a.value.isSome then a.rest.dropWhile isBlank else a.rest
  let b : Text.Reading (Option Address) ← match a.value, rest with
    | some _, ',' :: more => rangeEnd dialect more
    | none, ',' :: more => wrong "unknown command: `,'" more
    | _, rest => .ok ⟨none, rest⟩
  match b.rest.dropWhile isBlank with
  | '!' :: rest =>
    match rest.dropWhile isBlank with
    | '!' :: rest => wrong "multiple `!'s" rest
    | rest => return ⟨⟨a.value, b.value, true⟩, rest⟩
  | rest => return ⟨⟨a.value, b.value, false⟩, rest⟩

/-- A text that an instruction shows, up to the end of its line. -/
def shownText : (fuel : Nat) → Text → Text.Reading Text
  | 0, s => ⟨[], s⟩
  | _, [] => ⟨['\n'], []⟩
  | _, '\n' :: s => ⟨['\n'], s⟩
  | fuel + 1, '\\' :: c :: s =>
    match escape? (c :: s) with
    | some (x, rest) =>
      let r := shownText fuel rest
      { r with value := x :: r.value }
    | none =>
      let r := shownText fuel s
      { r with value := (if c = 'n' then '\n' else c) :: r.value }
  | fuel + 1, c :: s =>
    let r := shownText fuel s
    { r with value := c :: r.value }

/-- The end of an instruction: a semicolon, a line feed, or a brace that stays. -/
def ended {α : Type} (value : α) (s : Text) : Read α :=
  match s.dropWhile isBlank with
  | [] => .ok ⟨value, []⟩
  | ';' :: rest => .ok ⟨value, rest⟩
  | '\n' :: rest => .ok ⟨value, rest⟩
  | '\x7d' :: rest => .ok ⟨value, '\x7d' :: rest⟩
  | '#' :: rest => .ok ⟨value, '#' :: rest⟩
  | _ :: rest => wrong "extra characters after command" rest

/-- What the letters behind a substitution ask for. -/
structure Flags where
  /-- Whether all matches from the first one on are replaced. -/
  everywhere : Bool
  /-- The number of the first match that is replaced. -/
  occurrence : Option Nat
  /-- Whether the line is shown if a match was replaced. -/
  shown : Bool
  /-- What is asked of the expression. -/
  modifiers : Modifiers
  /-- The file that the line is added to if a match was replaced. -/
  target : Option Text

/-- Reads the letters behind a substitution, up to the end of the instruction. -/
def flags : (fuel : Nat) → Flags → Text → Read Flags
  | 0, _, rest => wrong "unknown option to `s'" rest
  | fuel + 1, f, s =>
    match s.dropWhile isBlank with
    | [] => .ok ⟨f, []⟩
    | ';' :: rest => .ok ⟨f, rest⟩
    | '\n' :: rest => .ok ⟨f, rest⟩
    | '\x7d' :: rest => .ok ⟨f, '\x7d' :: rest⟩
    | '#' :: rest => .ok ⟨f, '#' :: rest⟩
    | 'g' :: rest =>
      if f.everywhere then wrong "multiple `g' options to `s' command" rest
      else flags fuel { f with everywhere := true } rest
    | 'p' :: rest =>
      if f.shown then wrong "multiple `p' options to `s' command" rest
      else flags fuel { f with shown := true } rest
    | 'w' :: rest =>
      let name := (rest.dropWhile isBlank).takeWhile (· != '\n')
      if name.isEmpty then wrong "missing filename in r/R/w/W commands" rest
      else .ok ⟨{ f with target := some name }, (rest.dropWhile (· != '\n')).drop 1⟩
    | c :: rest =>
      if c = 'i' ∨ c = 'I' then flags fuel { f with modifiers.caseless := true } rest
      else if c = 'm' ∨ c = 'M' then flags fuel { f with modifiers.byLine := true } rest
      else if c.isDigit then
        let ds := (c :: rest).takeWhile Char.isDigit
        let rest := (c :: rest).drop ds.length
        let n := (Octet.number? ds).getD 1
        if f.occurrence.isSome then wrong "multiple number options to `s' command" rest
        else if n = 0 then wrong "number option to `s' command may not be zero" rest
        else flags fuel { f with occurrence := some n } rest
      else wrong "unknown option to `s'" rest

/-- The greatest number of a group in a replacement. -/
def greatestGroup (rs : List Replacement) : Nat :=
  rs.foldl (fun n r => match r with
    | .group m => Nat.max n m
    | _ => n) 0

/-- Reads a substitution behind its letter. -/
def substitution (dialect : Regex.Dialect) (s : Text) : Except Mistake (Text.Reading Action) :=
  match s with
  | [] => wrong "unterminated `s' command" []
  | delimiter :: rest =>
    match regexUpTo delimiter (rest.length + 1) rest with
    | none => wrong "unterminated `s' command" []
    | some pattern =>
      match upTo delimiter (pattern.rest.length + 1) pattern.rest with
      | none => wrong "unterminated `s' command" []
      | some put => do
        let f : Text.Reading Flags ←
          flags (put.rest.length + 1) ⟨false, none, false, ⟨false, false⟩, none⟩ put.rest
        let regex ← expression dialect f.value.modifiers pattern.value f.rest.length
        let filling := replacement (put.value.length + 1) put.value
        let n := greatestGroup filling
        if regex.any (·.groups < n) then
          throw ⟨"invalid reference \\".toList ++ Text.decimal n ++ " on `s' command's RHS".toList,
            f.rest.length, true⟩
        else
          let f' := f.value
          return ⟨.substitute ⟨regex, filling, f'.everywhere, f'.occurrence.getD 1, f'.shown,
            f'.target⟩, f.rest⟩

/-- Replaces escapes in the lists of a table of characters. -/
def unescaped (delimiter : Char) : (fuel : Nat) → Text → Text
  | 0, _ => []
  | _, [] => []
  | fuel + 1, '\\' :: c :: s =>
    match escape? (c :: s) with
    | some (x, rest) => x :: unescaped delimiter fuel rest
    | none =>
      (if c = 'n' then ['\n'] else if c = '\\' ∨ c = delimiter then [c] else ['\\', c]) ++
        unescaped delimiter fuel s
  | fuel + 1, c :: s => c :: unescaped delimiter fuel s

/-- Reads a table of characters behind its letter. -/
def charTable (s : Text) : Read Action :=
  match s with
  | [] => wrong "unterminated `y' command" []
  | delimiter :: rest =>
    match upTo delimiter (rest.length + 1) rest with
    | none => wrong "unterminated `y' command" []
    | some a =>
      match upTo delimiter (a.rest.length + 1) a.rest with
      | none => wrong "unterminated `y' command" []
      | some b =>
        let xs := unescaped delimiter (a.value.length + 1) a.value
        let ys := unescaped delimiter (b.value.length + 1) b.value
        if xs.length ≠ ys.length then wrong "strings for `y' command are different lengths" b.rest
        else ended (.replaceChars (xs.zip ys)) b.rest

/-- Reads what an instruction does; blocks are left to the caller. -/
def action (dialect : Regex.Dialect) (letter : Char) (rest : Text) : Read Action :=
  let shown (make : Text → Action) : Read Action :=
    let body := match rest.dropWhile isBlank with
      | '\\' :: s =>
        match s.dropWhile isBlank with
        | '\n' :: s => s
        | _ => s
      | s => s
    if body.isEmpty then wrong "expected \\ after `a', `c' or `i'" []
    else
      let r := shownText (body.length + 1) body
      .ok ⟨make r.value, r.rest⟩
  let named (make : Text → Action) : Read Action :=
    let name := (rest.dropWhile isBlank).takeWhile fun c => c != ';' && c != '\n' && c != '\x7d'
    ended (make ((name.reverse.dropWhile isBlank).reverse))
      ((rest.dropWhile isBlank).drop name.length)
  let coded (shown : Bool) : Read Action :=
    let ds := (rest.dropWhile isBlank).takeWhile Char.isDigit
    ended (.quit ((Octet.number? ds).getD 0) shown) ((rest.dropWhile isBlank).drop ds.length)
  let sized (make : Nat → Action) : Read Action :=
    let ds := (rest.dropWhile isBlank).takeWhile Char.isDigit
    let width := ((Octet.number? ds).getD 70) - 1
    ended (make width) ((rest.dropWhile isBlank).drop ds.length)
  let onFile (make : Text → Action) : Read Action :=
    let name := (rest.dropWhile isBlank).takeWhile (· != '\n')
    if name.isEmpty then wrong "missing filename in r/R/w/W commands" rest
    else .ok ⟨make name, rest.dropWhile (· != '\n')⟩
  match letter with
  | 'r' => onFile .read
  | 'R' => onFile .readLine
  | 'w' => onFile (.save · false)
  | 'W' => onFile (.save · true)
  | 'F' => ended .fileName rest
  | 'v' => .ok ⟨.nothing, rest.dropWhile fun c => c != '\n' && c != ';'⟩
  | 'z' => ended .zap rest
  | 'd' => ended .delete rest
  | 'D' => ended .deleteFirst rest
  | 'p' => ended .print rest
  | 'P' => ended .printFirst rest
  | 'q' => coded true
  | 'Q' => coded false
  | 's' => substitution dialect rest
  | 'y' => charTable rest
  | 'n' => ended .next rest
  | 'N' => ended .join rest
  | 'a' => shown .append
  | 'i' => shown .insert
  | 'c' => shown .change
  | '=' => ended .number rest
  | 'l' => sized .list
  | 'h' => ended (.keep false) rest
  | 'H' => ended (.keep true) rest
  | 'g' => ended (.recall false) rest
  | 'G' => ended (.recall true) rest
  | 'x' => ended .exchange rest
  | ':' => named .label
  | 'b' => named .branch
  | 't' => named (.branchIf true)
  | 'T' => named (.branchIf false)
  | _ => .error ⟨"unknown command: `".toList ++ [letter, '\''], rest.length, true⟩

/-- Reads instructions after `done` (reversed); `openings` are the places of the blocks
that are still open. -/
def instructions (dialect : Regex.Dialect) (total : Nat) : (fuel : Nat) → (openings : List Nat) →
    (done : List Instruction) → Text → Except Mistake (List Instruction)
  | 0, _, _, s => wrong "script too long" s
  | fuel + 1, openings, done, s => do
    let s := s.dropWhile fun c => isBlank c || c == ';' || c == '\n'
    match s with
    | [] =>
      if openings.isEmpty then return done.reverse
      else .error ⟨"unmatched `\x7b'".toList, total, true⟩
    | '#' :: rest => instructions dialect total fuel openings done (rest.dropWhile (· != '\n'))
    | _ =>
      let place ← scope dialect s
      match place.rest with
      | [] => wrong "missing command" []
      | '\x7b' :: rest =>
        let opening : Instruction := ⟨place.value, .block 0⟩
        instructions dialect total fuel (done.length :: openings) (opening :: done) rest
      | '\x7d' :: rest =>
        match openings with
        | [] => wrong "unexpected `\x7d'" rest
        | o :: openings => do
          let after ← ended () rest
          let close (i : Instruction) : Instruction := { i with action := .block done.length }
          let closed := (done.reverse.modify o close).reverse
          instructions dialect total fuel openings closed after.rest
      | letter :: rest => do
        let r ← action dialect letter rest
        instructions dialect total fuel openings (⟨place.value, r.value⟩ :: done) r.rest

/-- The expressions that an instruction looks for, in order; none stands for the one before. -/
def regexes (i : Instruction) : List (Option Regex) :=
  let ofAddress (a : Option Address) : List (Option Regex) := match a with
    | some (.matching r) => [r]
    | _ => []
  ofAddress i.scope.first ++ ofAddress i.scope.second ++
    match i.action with
    | .substitute s => [s.regex]
    | _ => []

/-- Whether a script asks for an expression from before its first one. -/
def looksBack (script : List Instruction) : Bool :=
  ((script.flatMap regexes).head?).any (·.isNone)

/-- What is said about a script that cannot run, and the exit code. -/
structure Refusal where
  /-- The exit code. -/
  code : Nat
  /-- What is said. -/
  message : Text

/-- The instructions of a script, or the complaint about it. -/
def read (dialect : Regex.Dialect) (s : Text) : Except Refusal (List Instruction) :=
  match instructions dialect s.length (s.length + 2) [] [] s with
  | .ok is =>
    if looksBack is then
      .error ⟨1, "-e expression #1, char 0: no previous regular expression".toList⟩
    else .ok is
  | .error m =>
    if m.placed then
      let read := Octet.ofChars (s.take (s.length - m.left))
      .error ⟨1, "-e expression #1, char ".toList ++ Text.decimal read.length ++ ": ".toList ++
        Octet.ofChars m.message⟩
    else .error ⟨4, m.message⟩

end Sed
end DocExamples
