/-
# Editing lines

The utility `sed` carries out the instructions of a script on each line of its
input.  The line being edited and a store for other text go from instruction to
instruction; at the end of the script the line is shown.
-/

import DocExamples.Machine.Utility.Script
import DocExamples.Machine.Utility.Streams

namespace DocExamples
namespace Sed

/-- A range of lines that has begun. -/
structure OpenRange where
  /-- The place of its instruction in the script. -/
  place : Nat
  /-- The number of its last line, where that is known. -/
  last : Option Nat

/-- Lines being edited. -/
structure Editor where
  /-- The line. -/
  space : Text
  /-- Whether the mark of an end stands behind it. -/
  ended : Bool
  /-- The store. -/
  store : Text
  /-- Whether the mark of an end stands behind the store. -/
  storeEnded : Bool
  /-- The number of the line. -/
  number : Nat
  /-- The lines left. -/
  rest : List Text
  /-- What was shown, reversed. -/
  shown : Text
  /-- Whether the mark of an end is still to be shown before anything else. -/
  owing : Bool
  /-- Texts to show after the line. -/
  queue : List Text
  /-- The ranges that have begun. -/
  ranges : List OpenRange
  /-- Whether matches were replaced in this line. -/
  replaced : Bool
  /-- The disk that files are read from. -/
  disk : Disk
  /-- What was added to files, with their names, the last first. -/
  saved : List (Text × Text)
  /-- The expression that was looked for last. -/
  recent : Option Regex
  /-- The files of which single lines were shown, with the number of lines. -/
  taken : List (Text × Nat)
  /-- The name of the file that lines come from. -/
  name : Text
  /-- The character that stands behind lines. -/
  mark : Char

/-- How a pass over the script ends. -/
inductive PassEnd where
  /-- The line is shown and the next one follows. -/
  | finished
  /-- The next line follows. -/
  | dropped
  /-- The script starts again with what is left of the line. -/
  | again
  /-- The run ends. -/
  | quit (code : Nat) (shown : Bool)

namespace Editor

/-- Shows a text, with the mark of an end if one stands behind it. -/
def write (e : Editor) (s : Text) (ended : Bool) : Editor :=
  let before := if e.owing then e.mark :: e.shown else e.shown
  { e with
    shown := (if ended then [e.mark] else []) ++ s.reverse ++ before
    owing := !ended }

/-- Shows a text as it is. -/
def showText (e : Editor) (s : Text) : Editor :=
  { e with shown := s.reverse ++ (if e.owing then e.mark :: e.shown else e.shown), owing := false }

/-- Shows the texts that wait for the end of the line. -/
def flush (e : Editor) : Editor :=
  { e.queue.foldl showText e with queue := [] }

/-- The next line in place of this one, if there is one. -/
def advance? (e : Editor) : Option Editor :=
  match e.rest with
  | [] => none
  | l :: ls =>
    let ended := l.getLast? == some e.mark
    some { e.flush with
      space := if ended then l.dropLast else l
      ended, rest := ls, number := e.number + 1 }

/-- Whether the line is the one at an address. -/
def isAt (e : Editor) : Address → Bool
  | .line n => e.number == n
  | .last => e.rest.isEmpty
  | .matching r => (r.or e.recent).any fun r => (r.find? e.space).isSome
  | .every first step =>
    if step = 0 then e.number == first else first ≤ e.number && (e.number - first) % step == 0
  | .plus _ => false
  | .multiple _ => false

/-- The editor without the open range of an instruction. -/
def closeRange (e : Editor) (place : Nat) : Editor :=
  { e with ranges := e.ranges.filter (·.place != place) }

/-- Whether the line is in the range of an instruction, which may begin or end here. -/
def inRange (e : Editor) (place : Nat) (first second : Address) : Bool × Editor :=
  match e.ranges.find? (·.place == place) with
  | some r =>
    match r.last with
    | some n => (e.number ≤ n, if n ≤ e.number then e.closeRange place else e)
    | none => (true, if e.isAt second then e.closeRange place else e)
  | none =>
    let fromStart := match first with
      | .line 0 => e.number == 1
      | _ => false
    if fromStart then
      (true, if e.isAt second then e else { e with ranges := ⟨place, none⟩ :: e.ranges })
    else if !e.isAt first then (false, e)
    else
      let last := match second with
        | .line n => some n
        | .plus n => some (e.number + n)
        | .multiple n => some (if n = 0 then e.number else (e.number + n - 1) / n * n)
        | _ => none
      let e' := { e with ranges := ⟨place, last⟩ :: e.ranges }
      (true, if last.any (· ≤ e.number) then e else e')

/-- The editor after the expression of an address was looked for. -/
def noting (e : Editor) (a : Address) : Editor :=
  match a with
  | .matching r => { e with recent := r.or e.recent }
  | _ => e

/-- Whether an instruction is for the line. -/
def selects (e : Editor) (place : Nat) (s : Scope) : Bool × Editor :=
  let (found, e) := match s.first, s.second with
    | none, _ => (true, e)
    | some a, none => (e.isAt a, e.noting a)
    | some a, some b =>
      let (found, next) := e.inRange place a b
      (found, next.noting (if e.ranges.any (·.place == place) then b else a))
  (found != s.negated, e)

/-- A text in the letters that are asked for: `all` of it, and its first character. -/
def recased (all first : Option Char) (s : Text) : Text :=
  let put (letter : Option Char) (c : Char) : Char :=
    match letter with
    | some 'U' => Letter.upper c
    | some 'u' => Letter.upper c
    | some 'L' => Letter.lower c
    | some 'l' => Letter.lower c
    | _ => c
  match s with
  | [] => []
  | c :: cs => (if first.isSome then put first c else put all c) :: cs.map (put all)

/-- A replacement filled with what a match and its groups matched, in the letters that are asked
for. -/
def filledFrom (m : Regex.Match) : (all first : Option Char) → List Replacement → Text
  | _, _, [] => []
  | all, first, p :: ps =>
    let put (s : Text) : Text :=
      recased all first s ++ filledFrom m all (if s.isEmpty then first else none) ps
    match p with
    | .text s => put s
    | .group 0 => put m.text
    | .group n => put ((Regex.textOf n m.captures).getD [])
    | .casing c =>
      if c = 'E' then filledFrom m none none ps
      else if c = 'U' ∨ c = 'L' then filledFrom m (some c) first ps
      else filledFrom m all (some c) ps

/-- A replacement filled with what a match and its groups matched. -/
def filled (m : Regex.Match) (ps : List Replacement) : Text := filledFrom m none none ps

/-- A line with matches replaced, from the one with the number `k` on; `seen` (reversed)
stands before the rest, and `touching` says that a match ends there. -/
def replacedFrom (s : Substitution) (regex : Regex) (line : Text) : (fuel : Nat) → (k : Nat) →
    (touching : Bool) → (seen rest : Text) → Text × Bool
  | 0, _, _, _, rest => (rest, false)
  | fuel + 1, k, touching, seen, rest =>
    match regex.findFrom seen rest with
    | none => (rest, false)
    | some m =>
      let between := m.before.drop seen.length
      let here := between ++ m.text
      let step (put : Text) (k : Nat) : Text × Bool :=
        match m.text, m.after with
        | [], [] => (between ++ put, false)
        | [], c :: after =>
          let more := replacedFrom s regex line fuel k false (c :: m.before.reverse) after
          (between ++ put ++ c :: more.1, more.2)
        | _, after =>
          let done := m.text.reverse ++ m.before.reverse
          let more := replacedFrom s regex line fuel k true done after
          (between ++ put ++ more.1, more.2)
      if m.text.isEmpty && touching && between.isEmpty then step [] k
      else if k < s.occurrence then step m.text (k + 1)
      else
        let put := filled m s.replacement
        if s.everywhere then ((step put (k + 1)).1, true)
        else (between ++ put ++ rest.drop here.length, true)

/-- Adds the line to a file. -/
def save (e : Editor) (name line : Text) : Editor :=
  if name = "/dev/stdout".toList then e.write line e.ended
  else { e with saved := (name, line ++ ['\n']) :: e.saved }

/-- The editor after a substitution. -/
def substitute (e : Editor) (s : Substitution) : Editor :=
  let regex := (s.regex.or e.recent).getD .empty
  let (line, done) := replacedFrom s regex e.space (e.space.length + 2) 1 false [] e.space
  let e := { e with recent := some regex }
  if done then
    let e := { e with space := line, replaced := true }
    let e := if s.shown then e.write line e.ended else e
    match s.target with
    | some name => e.save name e.space
    | none => e
  else e

/-- What stands before the first mark of an end, and what stands behind it. -/
def firstLine (mark : Char) (s : Text) : Text × Option Text :=
  match Text.cut? [mark] s with
  | some k => (k.before, some k.after)
  | none => (s, none)

/-- A character made visible. -/
def visibleChar (c : Char) : Text :=
  if c = '\\' then "\\\\".toList
  else if c = '\n' then "\\n".toList
  else if c = '\t' then "\\t".toList
  else if c = '\r' then "\\r".toList
  else if c = '\x07' then "\\a".toList
  else if c = '\x08' then "\\b".toList
  else if c = '\x0c' then "\\f".toList
  else if c = '\x0b' then "\\v".toList
  else if ' ' ≤ c ∧ c ≤ '~' then [c]
  else
    let digits := Nat.toDigits 8 c.toNat
    '\\' :: List.replicate (3 - digits.length) '0' ++ digits

/-- A line made visible in rows of so many characters, with a dollar sign at its end. -/
def visible (width : Nat) (s : Text) : Text :=
  let broken := (Octet.ofChars s).foldl
    (fun (done : Text × Nat) c =>
      let shown := visibleChar c
      if 0 < width ∧ width < done.2 + shown.length then
        (shown.reverse ++ '\n' :: '\\' :: done.1, shown.length)
      else (shown.reverse ++ done.1, done.2 + shown.length)) ([], 0)
  broken.1.reverse ++ ['$']

/-- A pass over the script from a place on. -/
def pass (script : List Instruction) (quiet : Bool) : (fuel : Nat) → (place : Nat) → Editor →
    PassEnd × Editor
  | 0, _, e => (.quit 1 false, e)
  | fuel + 1, place, e =>
    match script[place]? with
    | none => (.finished, e)
    | some i =>
      let (chosen, e) := e.selects place i.scope
      let jump (name : Text) : Nat :=
        (script.findIdx? fun i => match i.action with
          | .label n => n == name
          | _ => false).getD script.length
      let goOn (e : Editor) : PassEnd × Editor := pass script quiet fuel (place + 1) e
      if !chosen then
        match i.action with
        | .block past => pass script quiet fuel past e
        | _ => goOn e
      else
        match i.action with
        | .block _ => goOn e
        | .nothing => goOn e
        | .label _ => goOn e
        | .delete => (.dropped, e)
        | .deleteFirst =>
          match firstLine e.mark e.space with
          | (_, some rest) => (.again, { e with space := rest })
          | _ => (.dropped, e)
        | .print => goOn (e.write e.space e.ended)
        | .printFirst => goOn (e.write (firstLine e.mark e.space).1 true)
        | .quit code shown => (.quit code shown, e)
        | .substitute s => goOn (e.substitute s)
        | .replaceChars table =>
          goOn { e with space := e.space.map fun c =>
            ((table.find? (·.1 == c)).map (·.2)).getD c }
        | .next =>
          let shown := if quiet || e.rest.isEmpty then e else e.write e.space e.ended
          match shown.advance? with
          | some e => goOn e
          | none => (.finished, e)
        | .join =>
          match e.advance? with
          | some next => goOn { next with space := e.space ++ e.mark :: next.space }
          | none => (.finished, e)
        | .append s => goOn { e with queue := e.queue ++ [s] }
        | .insert s => goOn (e.showText s)
        | .read name =>
          match e.disk.read (Octet.ofChars name) with
          | .ok s => goOn { e with queue := e.queue ++ [Octet.chars s] }
          | .error _ => goOn e
        | .readLine name =>
          let n := (e.taken.lookup name).getD 0
          match e.disk.read (Octet.ofChars name) with
          | .ok s =>
            match (Octet.bareLines (Octet.chars s))[n]? with
            | some l =>
              let taken := (name, n + 1) :: e.taken.filter (·.1 != name)
              goOn { e with queue := e.queue ++ [l ++ ['\n']], taken }
            | none => goOn e
          | .error _ => goOn e
        | .save name onlyFirst =>
          goOn (e.save name (if onlyFirst then (firstLine e.mark e.space).1 else e.space))
        | .fileName => goOn (e.write e.name true)
        | .zap => goOn { e with space := [] }
        | .change s =>
          let within := i.scope.second.isSome && !i.scope.negated &&
            e.ranges.any (·.place == place)
          (.dropped, if within then e else e.showText s)
        | .number => goOn (e.write (Text.decimal e.number) true)
        | .list width => goOn (e.write (visible width e.space) true)
        | .keep true =>
          goOn { e with
            store := e.store ++ e.mark :: e.space, storeEnded := e.storeEnded || e.ended }
        | .keep false => goOn { e with store := e.space, storeEnded := e.ended }
        | .recall true =>
          goOn { e with space := e.space ++ e.mark :: e.store, ended := e.ended || e.storeEnded }
        | .recall false => goOn { e with space := e.store, ended := e.storeEnded }
        | .exchange =>
          goOn { e with
            space := e.store, ended := e.storeEnded, store := e.space, storeEnded := e.ended }
        | .branch name =>
          pass script quiet fuel (if name.isEmpty then script.length else jump name) e
        | .branchIf wanted name =>
          if e.replaced == wanted then
            pass script quiet fuel (if name.isEmpty then script.length else jump name)
              { e with replaced := false }
          else goOn { e with replaced := false }

/-- How many instructions one pass carries out at most. -/
def passLimit : Nat := 100000

/-- Passes over the script, line by line, and the exit code. -/
def passes (script : List Instruction) (quiet : Bool) : (fuel : Nat) → Editor → Nat × Editor
  | 0, e => (0, e)
  | fuel + 1, e =>
    let (ending, e) := pass script quiet passLimit 0 e
    let next (e : Editor) : Nat × Editor :=
      match e.flush.advance? with
      | some e => passes script quiet fuel { e with replaced := false }
      | none => (0, e.flush)
    match ending with
    | .finished => next (if quiet then e else e.write e.space e.ended)
    | .dropped => next e
    | .again => passes script quiet fuel e.flush
    | .quit code shown =>
      (code, if shown then (if quiet then e else e.write e.space e.ended).flush else e)

/-- What a run of a script comes to. -/
structure Edited where
  /-- The exit code. -/
  code : Nat
  /-- What was shown. -/
  shown : Text
  /-- What was added to files, with their names. -/
  saved : List (Text × Text)

/-- What a script makes of lines; what it is given and what it shows are octets. -/
def run (script : List Instruction) (quiet : Bool) (d : Disk) (mark : Char) (name : Text)
    (lines : List Text) : Edited :=
  let lines := lines.map Octet.chars
  let name := Octet.chars name
  let e : Editor :=
    ⟨[], true, [], true, 0, lines, [], false, [], [], false, d, [], none, [], name, mark⟩
  match e.advance? with
  | none => ⟨0, [], []⟩
  | some e =>
    let size := lines.flatten.length
    let (code, e) := passes script quiet (size + 2) e
    ⟨code, Octet.ofChars e.shown.reverse, e.saved.reverse.map fun s => (s.1, Octet.ofChars s.2)⟩

end Editor

/-- The files that a script adds lines to. -/
def targets (script : List Instruction) : List Text :=
  (script.filterMap fun i => match i.action with
    | .save name _ => some name
    | .substitute s => s.target
    | _ => none).filter (· != "/dev/stdout".toList)

/-- The disk with what runs of a script have added to files. -/
def withSaved (script : List Instruction) (runs : List Editor.Edited) (d : Disk) : Disk :=
  (targets script).eraseDups.foldl
    (fun d name =>
      let text := ((runs.flatMap (·.saved)).filter (·.1 == name)).flatMap (·.2)
      match d.write (Octet.ofChars name) text with
      | .ok d => d
      | .error _ => d) d

/-- The label that a script asks for without holding it. -/
def missingLabel? (script : List Instruction) : Option Text :=
  let labels := script.filterMap fun i => match i.action with
    | .label n => some n
    | _ => none
  script.findSome? fun i => match i.action with
    | .branch n => if n.isEmpty || labels.contains n then none else some n
    | .branchIf _ n => if n.isEmpty || labels.contains n then none else some n
    | _ => none

end Sed

namespace Utility

/-- The lines of a text, with a mark behind each but perhaps the last. -/
def linesEndedBy (mark : Char) (s : Text) : List Text :=
  if mark = '\n' then Octet.fullLines s
  else
    let pieces := Text.pieces mark s
    pieces.dropLast.map (· ++ [mark]) ++ pieces.getLast?.toList.filter (!·.isEmpty)

/-- The suffix for copies that an option asks for, and the arguments without it. -/
def withoutCopySuffix (args : List Text) : Text × List Text :=
  args.foldr
    (fun a done =>
      match a with
      | '-' :: 'i' :: c :: s => (c :: s, ['-', 'i'] :: done.2)
      | a =>
        match Text.after? "--in-place=".toList a with
        | some s => (s, ['-', 'i'] :: done.2)
        | none => (done.1, a :: done.2))
    ([], [])

/-- Edits files in their places. -/
def editInPlace (c : Call) (script : List Sed.Instruction) (quiet : Bool) (mark : Char)
    (suffix : Text)
    (names : List Text) : Effect :=
  names.foldl
    (fun e n =>
      match e.disk.stat (Octet.toText n) with
      | .error f =>
        { e with
          writes := e.writes ++ [c.complaint ("can't read ".toList ++ Call.bareFaultAt n f)]
          status := 2 }
      | .ok (.file content x) =>
        let edited := Sed.Editor.run script quiet e.disk mark n
          (linesEndedBy mark (Octet.ofOctets content))
        let code := edited.code
        let copied := if suffix.isEmpty then e.disk
          else match e.disk.locate true (Octet.toText (n ++ suffix)) with
            | .ok spot => e.disk.put spot.location (.file content x)
            | .error _ => e.disk
        match (Sed.withSaved script [edited] copied).write n edited.shown with
        | .ok d => { e with disk := d, status := if code = 0 then e.status else code }
        | .error _ => e
      | .ok _ =>
        { e with
          writes := e.writes ++
            [c.complaint ("couldn't edit ".toList ++ n ++ ": not a regular file".toList)]
          status := 4 })
    (c.exit 0)

/-- Edits lines as a script says. -/
def sed (c : Call) : Effect :=
  let (suffix, args) := withoutCopySuffix c.arguments
  let o := Options.readWith [("expression", 'e'), ("file", 'f'), ("quiet", 'n'), ("silent", 'n'),
    ("regexp-extended", 'E'), ("in-place", 'i'), ("separate", 's'), ("line-length", 'l'),
    ("null-data", 'z'), ("zero-terminated", 'z'), ("unbuffered", 'u'), ("posix", 'p'),
    ("follow-symlinks", 'L')]
    "elf" "niErsuzpL" args
  let mark := if o.has 'z' then '\x00' else '\n'
  match o.fault with
  | some f => c.refuse 1 f.message
  | none =>
    let scripts := o.letters.filter fun l => l.1 == 'e' || l.1 == 'f'
    let given : Except Text (List Text) := scripts.mapM fun (l, v) =>
      if l = 'e' then .ok v
      else match c.disk.read v with
        | .ok s => .ok (if s.getLast? = some '\n' then s.dropLast else s)
        | .error f => .error (v ++ ": ".toList ++ f.wording)
    match given with
    | .error m => c.refuse 4 ("couldn't open file ".toList ++ m)
    | .ok given =>
    let (source, names) := match given, o.operands with
      | [], s :: rest => (some s, rest)
      | [], [] => (none, [])
      | es, rest => (some (Text.unlines es), rest)
    match source with
    | none =>
      let usage :=
        "Usage: sed [OPTION]... \x7bscript-only-if-no-other-script\x7d [input-file]...\n".toList
      ⟨[⟨2, usage⟩], 1, c.disk, 0⟩
    | some source =>
      let dialect := Regex.Dialect.editing (o.has 'E' || o.has 'r')
      let quiet := o.has 'n' || Text.startsWith "#n".toList source
      match Sed.read dialect (Octet.chars source) with
      | .error m => c.refuse m.code m.message
      | .ok script =>
        match Sed.missingLabel? script with
        | some n =>
          c.refuse 4 ("can't find label for jump to `".toList ++ Octet.ofChars n ++ ['\''])
        | none =>
          if o.has 'i' then
            if names.isEmpty then c.refuse 4 "no input files".toList
            else editInPlace c script quiet mark suffix names
          else
            let files := openAll c Disk.readLimit names
            let missing := files.filterMap fun f => match f.content with
              | .ok _ => none
              | .error .isFolder => some (c.complaint ("read error on ".toList ++ f.name ++
                  ": Is a directory".toList), 4)
              | .error e =>
                some (c.complaint ("can't read ".toList ++ Call.bareFaultAt f.name e), 2)
            let there := files.filterMap fun f => match f.content with
              | .ok s => some (f.name, linesEndedBy mark s)
              | .error _ => none
            let runs := if o.has 's' then there
              else [((there.head?.map (·.1)).getD ['-'], there.flatMap (·.2))]
            let done := runs.map fun r => Sed.Editor.run script quiet c.disk mark r.1 r.2
            let code := (done.find? (·.code != 0)).map (·.code)
            ⟨missing.map (·.1) ++ done.map fun r => ⟨1, r.shown⟩,
              code.getD ((missing.map (·.2)).foldl max 0), Sed.withSaved script done c.disk, 0⟩

end Utility
end DocExamples
