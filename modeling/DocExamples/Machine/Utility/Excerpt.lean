/-
# The start and the end of files

An excerpt is so many lines, or octets, from one end of a file, or all but so many.
Options are read from left to right, and each of them changes the excerpt that those
before it ask for.

Both utilities also know an older way to ask, in the first argument alone: digits
between a sign and letters.
-/

import DocExamples.Machine.Utility.Count
import DocExamples.Machine.Utility.Streams

namespace DocExamples
namespace Utility

/-- A part of each file. -/
structure Excerpt where
  /-- Whether octets are counted, not lines. -/
  countsOctets : Bool
  /-- Whether what the count reaches is left out; at the end of files, all is shown from
  the one with this number. -/
  turned : Bool
  /-- The count. -/
  count : Nat
  /-- Whether files are shown under headers; `none` if there are several. -/
  headers : Option Bool
  /-- The end of a line. -/
  mark : Char
  /-- Whether the end of a file is watched for more. -/
  follows : Bool

/-- The name of a file in headers and complaints. -/
def spokenName (name : Text) : Text := if name = ['-'] then "standard input".toList else name

namespace Excerpt

/-- Ten lines. -/
def usual : Excerpt := ⟨false, false, 10, none, '\n', false⟩

/-- The part of a text at its start. -/
def ofStart (e : Excerpt) (s : Text) : Text :=
  let part {α : Type} (xs : List α) : List α :=
    xs.take (if e.turned then xs.length - e.count else e.count)
  if e.countsOctets then part s else (part (linesEnding e.mark s)).flatten

/-- The part of a text at its end. -/
def ofEnd (e : Excerpt) (s : Text) : Text :=
  let part {α : Type} (xs : List α) : List α :=
    xs.drop (if e.turned then e.count - 1 else xs.length - e.count)
  if e.countsOctets then part s else (part (linesEnding e.mark s)).flatten

/-- The number that an option gives, or what is said about it. -/
def counted (octets : Bool) (s : Text) : Except Text Nat :=
  match Count.read "bkKmMGTPEZYRQ" s with
  | .ok n => .ok n
  | .error f =>
    .error ("invalid number of ".toList ++ (if octets then "bytes" else "lines").toList ++
      ": ".toList ++ Call.inQuotes s ++ f.remark)

/-- An excerpt with what an option that both utilities know adds. -/
def withMark (e : Excerpt) (letter : Char) : Excerpt :=
  match letter with
  | 'q' => { e with headers := some false }
  | 'v' => { e with headers := some true }
  | 'z' => { e with mark := '\x00' }
  | 'f' => { e with follows := true }
  | 'F' => { e with follows := true }
  | 'φ' => { e with follows := true }
  | _ => e

/-- The excerpt of the start with what an option adds. -/
def withStartOption (e : Excerpt) (option : Char × Text) : Except Text Excerpt :=
  let (letter, value) := option
  if letter = 'n' ∨ letter = 'c' then do
    let turned := value.head? = some '-'
    let count ← counted (letter = 'c') (if turned then value.drop 1 else value)
    return { e with countsOctets := letter = 'c', turned, count }
  else .ok (e.withMark letter)

/-- The excerpt of the end with what an option adds. -/
def withEndOption (e : Excerpt) (option : Char × Text) : Except Text Excerpt :=
  let (letter, value) := option
  if letter = 'n' ∨ letter = 'c' then do
    let turned := e.turned || value.head? = some '+'
    let count ← counted (letter = 'c') (if value.head? = some '-' then value.drop 1 else value)
    return { e with countsOctets := letter = 'c', turned, count }
  else .ok (e.withMark letter)

/-! ## The older ways to ask -/

/-- What letters behind a number of lines say: what is counted, the letter of its multiple, and
marks; or the first letter that says nothing. -/
def readLetters (e : Excerpt) (multiple : Text) : Text → Except Char (Excerpt × Text)
  | [] => .ok (e, multiple)
  | c :: cs =>
    if c = 'c' then readLetters { e with countsOctets := true } [] cs
    else if c = 'b' ∨ c = 'k' ∨ c = 'm' then readLetters { e with countsOctets := true } [c] cs
    else if c = 'l' then readLetters { e with countsOctets := false } multiple cs
    else if c = 'q' ∨ c = 'v' ∨ c = 'z' then readLetters (e.withMark c) multiple cs
    else .error c

/-- What is wrong with arguments, and whether a hint at the help text follows. -/
structure Refusal where
  /-- The complaint. -/
  message : Text
  /-- Whether the hint follows. -/
  hinted : Bool

/-- The excerpt that arguments which begin with a hyphen and a digit ask for, and the others. -/
def olderStart (args : List Text) : Except Refusal (Excerpt × List Text) :=
  match args with
  | ('-' :: d :: ds) :: rest =>
    if !d.isDigit then .ok (usual, args)
    else
      let digits := (d :: ds).takeWhile Char.isDigit
      match readLetters usual [] ((d :: ds).drop digits.length) with
      | .error c => .error ⟨"invalid trailing option -- ".toList ++ [c], true⟩
      | .ok (e, multiple) =>
        match counted e.countsOctets (digits ++ multiple) with
        | .error m => .error ⟨m, false⟩
        | .ok count => .ok ({ e with count }, rest)
  | _ => .ok (usual, args)

/-- Whether the arguments behind the first one leave room for the older way to ask for the end of
a file: one file at most. -/
def leavesRoom : List Text → Bool
  | [] => true
  | ['-', '-'] :: rest => rest.length ≤ 2
  | ['-' :: _ :: _] => false
  | [_] => true
  | _ => false

/-- The excerpt of the end that a first argument asks for, digits between a sign and letters. -/
def olderEnd? : Text → Option (Except Refusal Excerpt)
  | [] => none
  | sign :: s =>
    let digits := s.takeWhile Char.isDigit
    let letters := s.drop digits.length
    let unit := if letters.head?.any "bcl".toList.contains then letters.take 1 else []
    let rest := letters.drop unit.length
    let isAsked := sign = '+' || (sign = '-' && !s.isEmpty && s != ['c'])
    if !isAsked || !(rest.isEmpty || rest = ['f']) then none
    else
      let factor := if unit = ['b'] then 512 else 1
      let count := factor * (Octet.number? digits).getD 10
      some <|
        if count < Nat.pow 2 64 then
          .ok { usual with
            countsOctets := unit = ['b'] || unit = ['c']
            turned := sign = '+'
            count
            follows := rest = ['f'] }
        else
          .error ⟨"invalid number: ".toList ++ Call.inQuotes (sign :: s) ++
            CountFault.outOfRange.remark, false⟩

/-- The excerpt of the end that a first argument asks for, and the other arguments. -/
def olderEnd (args : List Text) : Except Refusal (Excerpt × List Text) :=
  match args with
  | [] => .ok (usual, args)
  | first :: rest =>
    match if leavesRoom rest then olderEnd? first else none with
    | some asked => asked.map (·, rest)
    | none => .ok (usual, args)

/-! ## Files under headers -/

/-- A file's text under a header, where headers are wanted. -/
def underHeader (headers isFirst : Bool) (name text : Text) : Text :=
  if headers then
    (if isFirst then [] else ['\n']) ++ "==> ".toList ++
      spokenName name ++ " <==\n".toList ++ text
  else text

/-- The wording when a file cannot be opened for reading. -/
def cannotOpen (name : Text) : Fault → Text
  | .isFolder => "error reading '".toList ++ spokenName name ++ "': Is a directory".toList
  | f => "cannot open ".toList ++ Quoting.shell name ++ " for reading: ".toList ++ f.wording

/-- Shows a part of each file. -/
def shown (c : Call) (e : Excerpt) (names : List Text) (part : Text → Text) : Effect :=
  let headers := e.headers.getD (1 < names.length)
  let step (st : Effect × Bool) (f : Opened) : Effect × Bool :=
    let (done, isFirst) := st
    let write (s : Text) : Write := ⟨1, underHeader headers isFirst f.name s⟩
    match f.content with
    | .ok s => ({ done with writes := done.writes ++ [write (part s)] }, false)
    | .error fault =>
      let opened := if fault = .isFolder then [write []] else []
      let complaint := c.complaint (cannotOpen f.name fault)
      ({ done with writes := done.writes ++ opened ++ [complaint], status := 1 },
        isFirst && opened.isEmpty)
  let limit := if e.turned then Disk.readLimit else max e.count Disk.readLimit
  ((openAll c limit names).foldl step (c.exit 0, true)).1

/-- What is done about arguments that are refused. -/
def Refusal.effect (r : Refusal) (c : Call) : Effect :=
  if r.hinted then c.refuseWithHint 1 r.message else c.refuse 1 r.message

end Excerpt

/-- The long options of both utilities. -/
def excerptOptions : Options.LongNames :=
  [("lines", 'n'), ("bytes", 'c'), ("quiet", 'q'), ("silent", 'q'), ("verbose", 'v'),
    ("zero-terminated", 'z')]

/-- Shows the start of files. -/
def head (c : Call) : Effect :=
  match Excerpt.olderStart c.arguments with
  | .error r => r.effect c
  | .ok (usual, args) =>
    let o := Options.readWith excerptOptions "nc" "qvz" args
    match o.letters.foldlM Excerpt.withStartOption usual, o.fault with
    | .error m, _ => c.refuse 1 m
    | .ok _, some (.unknownLetter l) =>
      if l.isDigit then c.refuseWithHint 1 ("invalid trailing option -- ".toList ++ [l])
      else c.badOption 1 (.unknownLetter l)
    | .ok _, some f => c.badOption 1 f
    | .ok e, none => e.shown c o.operands e.ofStart

/-- Shows the end of files, and what is added to them as long as they are watched. -/
def tail (c : Call) : Effect :=
  match Excerpt.olderEnd c.arguments with
  | .error r => r.effect c
  | .ok (usual, args) =>
    let o := Options.readWith (excerptOptions ++ [("follow", 'φ'), ("retry", 'ρ'), ("pid", 'π'),
      ("sleep-interval", 's'), ("max-unchanged-stats", 'μ')]) "ncsπμ" "qvzfFρ" args
    match o.letters.foldlM Excerpt.withEndOption usual, o.fault with
    | .error m, _ => c.refuse 1 m
    | .ok _, some (.unknownLetter l) =>
      if l.isDigit then c.refuse 1 ("option used in invalid context -- ".toList ++ [l])
      else c.badOption 1 (.unknownLetter l)
    | .ok _, some f => c.badOption 1 f
    | .ok e, none =>
      let ignored (letter : Char) (message : String) : List Write :=
        if o.has letter && !e.follows then [c.complaint message.toList] else []
      let warnings :=
        ignored 'ρ' "warning: --retry ignored; --retry is useful only when following" ++
          ignored 'π' "warning: PID ignored; --pid=PID is useful only when following"
      let done :=
        if e.count = 0 && !e.turned && !e.follows then c.exit 0
        else e.shown c o.operands e.ofEnd
      let watched := o.operands.filter fun n =>
        n != ['-'] && c.disk.isThere n && !c.disk.isFolderAt n
      let done :=
        if !e.follows || o.operands.all (· == ['-']) then done
        else if watched.isEmpty && !o.has 'F' then
          { done with
            writes := done.writes ++ [c.complaint "no files remaining".toList]
            status := 1 }
        else { done with pause := Nat.pow 10 18 }
      { done with writes := warnings ++ done.writes }

end Utility
end DocExamples
