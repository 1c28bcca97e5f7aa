/-
# Expansion of words

Expanding a word gives fields: parameters, commands and arithmetic expressions are
replaced by their values, values outside quotes are cut at separators, and what is
left of patterns outside quotes stands for the files that match.  Commands in words
are run by a function that the caller gives.
-/

import DocExamples.Finder
import DocExamples.Machine.Glob
import DocExamples.Machine.Shell.Arithmetic
import DocExamples.Machine.Shell.State

namespace DocExamples
namespace Shell

/-- An element of an expanded word. -/
inductive Bit where
  /-- A character that no field ends at. -/
  | literal (m : Mark)
  /-- A character of a value, at which a field may end. -/
  | value (c : Char)
  /-- A quoted place: there is a field here, even if it is empty. -/
  | hold
  /-- The end of a field. -/
  | gap
deriving DecidableEq, Repr

/-- Runs commands that start on a line, and gives their output. -/
abbrev Substitute := (line : Nat) → Text → State → Text × State

/-! ## Fields -/

/-- Fields in the making. -/
structure Fields where
  /-- The fields, the last one first. -/
  done : List (List Mark)
  /-- The field being made, its last character first. -/
  current : Option (List Mark)
  /-- Whether a blank has just ended a field. -/
  spaced : Bool

/-- The fields when the one being made ends. -/
def Fields.ended (f : Fields) : Fields :=
  match f.current with
  | some c => ⟨c.reverse :: f.done, none, false⟩
  | none => { f with spaced := false }

/-- The fields with one more character in the one being made. -/
def Fields.add (f : Fields) (m : Mark) : Fields := ⟨f.done, some (m :: f.current.getD []), false⟩

/-- The fields after one more element, with values cut at separators. -/
def Fields.step (separators : Text) (f : Fields) : Bit → Fields
  | .literal m => f.add m
  | .hold => ⟨f.done, some (f.current.getD []), false⟩
  | .gap => f.ended
  | .value c =>
    if !separators.contains c then f.add ⟨c, false⟩
    else if c = ' ' ∨ c = '\t' ∨ c = '\n' then
      if f.current.isSome then { f.ended with spaced := true } else f
    else if f.current.isNone && f.spaced then { f with spaced := false }
    else { f with current := some (f.current.getD []) }.ended

/-- The fields that elements make. -/
def fieldsOf (separators : Text) (bits : List Bit) : List (List Mark) :=
  (bits.foldl (Fields.step separators) ⟨[], none, false⟩).ended.done.reverse

/-- The characters that elements make when nothing is cut: the first separator stands between
fields. -/
def marksOf (separators : Text) (bits : List Bit) : List Mark := bits.flatMap fun
  | .literal m => [m]
  | .value c => [⟨c, false⟩]
  | .hold => []
  | .gap => (separators.take 1).map fun c => ⟨c, true⟩

/-- The characters of marks. -/
def textOf (ms : List Mark) : Text := ms.map (·.char)

/-! ## Files that match -/

/-- The pieces of a pattern between slashes. -/
def segments (ms : List Mark) : List (List Mark) :=
  ms.foldr (fun m ps => if m.char = '/' then [] :: ps else (m :: ps.headD []) :: ps.tail) [[]]

/-- The names in a folder that a pattern matches; a period at the start has to be given. -/
def matchingNames (d : Disk) (folder : Text) (pattern : List Mark) : List Text :=
  match d.locate true (Octet.toText (if folder.isEmpty then Path.dot else folder)) with
  | .ok spot =>
    let names := Finder.sorted ((d.namesIn spot.location).map Octet.ofText)
    let names := Path.dot :: Path.dotDot :: names
    let glob := Glob.read pattern
    names.filter fun n =>
      (!Text.startsWith ['.'] n || glob.head? == some (.char '.')) && glob.accepts n
  | .error _ => []

/-- The paths that a pattern matches behind a path. -/
def matchingPaths (d : Disk) : List (List Mark) → (before : Text) → List Text
  | [], _ => []
  | [last], before =>
    if (Glob.read last).isPattern then (matchingNames d before last).map (before ++ ·)
    else
      let path := before ++ textOf last
      match d.lstat (Octet.toText path) with
      | .ok _ => [path]
      | .error _ => []
  | p :: rest, before =>
    if (Glob.read p).isPattern then
      ((matchingNames d before p).filter fun n => d.isFolderAt (before ++ n)).flatMap fun n =>
        matchingPaths d rest (before ++ n ++ ['/'])
    else matchingPaths d rest (before ++ textOf p ++ ['/'])

/-- The texts that a field stands for. -/
def textsOf (s : State) (field : List Mark) : List Text :=
  if s.switches.literal || !(Glob.read field).isPattern then [textOf field]
  else
    match matchingPaths s.machine.disk (segments field) [] with
    | [] => [textOf field]
    | paths => paths

/-! ## Parameters -/

/-- The value of a parameter that is no list. -/
def parameter? (s : State) (name : Text) : Option Text :=
  match name with
  | ['#'] => some (Text.decimal s.arguments.length)
  | ['?'] => some (Text.decimal s.status)
  | ['$'] => some (Text.decimal s.main)
  | ['!'] => s.lastJob.map Text.decimal
  | ['-'] => some s.switches.letters
  | name =>
    match Octet.number? name with
    | some 0 => some s.name
    | some n => s.arguments[n - 1]?
    | none => s.value? name

/-- The separators of a state. -/
def separatorsOf (s : State) : Text := (s.value? "IFS".toList).getD [' ', '\t', '\n']

/-- The elements of a value. -/
def valueBits (inQuotes : Bool) (v : Text) : List Bit :=
  if inQuotes then .hold :: v.map fun c => .literal ⟨c, true⟩ else v.map .value

/-- The elements of a list of values. -/
def listBits (inQuotes : Bool) (values : List Text) : List Bit :=
  [Bit.gap].intercalate (values.map (valueBits inQuotes))

/-- The elements of the list of arguments. -/
def argumentBits (s : State) (name : Text) (inQuotes : Bool) : List Bit :=
  if name = ['*'] && inQuotes then
    valueBits true (Text.joined ((separatorsOf s).take 1) s.arguments)
  else listBits inQuotes s.arguments

/-- A value without the shortest or longest start that a pattern matches. -/
def withoutStart (longest : Bool) (g : Glob) (v : Text) : Text :=
  let sizes := List.range (v.length + 1)
  let sizes := if longest then sizes.reverse else sizes
  match sizes.find? fun n => g.accepts (v.take n) with
  | some n => v.drop n
  | none => v

/-- A value without the shortest or longest end that a pattern matches. -/
def withoutEnd (longest : Bool) (g : Glob) (v : Text) : Text :=
  let sizes := List.range (v.length + 1)
  let sizes := if longest then sizes else sizes.reverse
  match sizes.find? fun n => g.accepts (v.drop n) with
  | some n => v.take n
  | none => v

/-- The environment that arithmetic works in. -/
def arithmeticStore : Arith.Store State where
  get s name := (s.value? name).getD []
  put s name v := s.assign name v

/-- The output of commands as a value: without NUL and without line feeds at its end. -/
def outputValue (s : Text) : Text := Text.withoutFinal '\n' (s.filter (· != '\x00'))

/-- The home folders of users that every computer has. -/
def homes : List (String × String) := [
  ("root", "/root"), ("daemon", "/usr/sbin"), ("bin", "/bin"), ("sys", "/dev"),
  ("mail", "/var/mail"), ("www-data", "/var/www"), ("nobody", "/nonexistent")]

/-- The home folder of a user; without a name, of the one that the shell runs for. -/
def homeOf? (s : State) (user : Text) : Option Text :=
  if user.isEmpty then s.value? "HOME".toList
  else (homes.find? fun e => e.1.toList == user).map (·.2.toList)

/-- A text as parts of a word, where a sign for a home folder at its start is replaced. -/
def homeAtStart (s : State) (isLast : Bool) (stop : Char → Bool) (t : Text) : Word :=
  match t with
  | '~' :: rest =>
    let user := rest.takeWhile fun c => !stop c
    let behind := rest.drop user.length
    if behind.isEmpty && !isLast then [.plain t]
    else
      match homeOf? s user with
      | some home => [.quoted home, .plain behind]
      | none => [.plain t]
  | t => [.plain t]

/-- A word whose first part may begin with the sign for a home folder. -/
def withHome (s : State) (w : Word) : Word :=
  match w with
  | .plain t :: more => homeAtStart s more.isEmpty (· == '/') t ++ more
  | w => w

/-- The word of an assignment, in which the sign for a home folder may stand behind colons
too. -/
def withHomes (s : State) (w : Word) : Word :=
  let pieces (isFirst isLast : Bool) (t : Text) : Word :=
    let ps := Text.pieces ':' t
    let stop (c : Char) : Bool := c == '/' || c == ':'
    [Part.plain [':']].intercalate (ps.zipIdx.map fun (p, i) =>
      if i = 0 && !isFirst then [.plain p]
      else homeAtStart s (isLast || i + 1 < ps.length) stop p)
  (w.zipIdx.map fun (p, i) =>
    match p with
    | .plain t => pieces (i == 0) (i + 1 == w.length) t
    | p => [p]).flatten

/-! ## Words -/

/-- Makes characters of a word inside a parameter ones that fields may end at. -/
def divisible (bits : List Bit) : List Bit := bits.map fun
  | .literal ⟨c, false⟩ => .value c
  | b => b

/-- The elements of the value of an arithmetic expression. -/
def arithmeticBits (source : Text) (inQuotes : Bool) (s : State) : List Bit × State :=
  match Arith.read source with
  | .error m => ([], s.giveUp m)
  | .ok e =>
    match e.eval arithmeticStore source s with
    | .ok (n, s) => (valueBits inQuotes (Text.integer n), s)
    | .error m => ([], s.giveUp m)

/-- The elements of the parts of a word, with so many words inside words at most; `home` replaces
signs for home folders in a word inside a word. -/
def expandParts (run : Substitute) (home : State → Word → Word) :
    (depth : Nat) → Word → State → List Bit × State
  | 0, _, s => ([], s)
  | depth + 1, w, s =>
    w.foldl
      (fun (done : List Bit × State) p =>
        if !done.2.goesOn then done
        else
          let (bits, s) := part depth p done.2
          (done.1 ++ bits, s)) ([], s)
where
  /-- The elements of a word that is given by its source. -/
  inner (depth : Nat) (reading : Reading) (source : Text) (s : State) : List Bit × State :=
    match partsOf reading source with
    | .ok w =>
      let w := w.fromLine s.line
      expandParts run home depth (if reading = .whole then home s w else w) s
    | .error m => ([], s.giveUp ("Syntax error: ".toList ++ m))
  /-- The elements of one part. -/
  part (depth : Nat) (p : Part) (s : State) : List Bit × State :=
    match p with
    | .plain t => (t.map fun c => .literal ⟨c, false⟩, s)
    | .quoted t => (.hold :: t.map fun c => .literal ⟨c, true⟩, s)
    | .command source line inQuotes =>
      let (out, s) := run (line.getD 1) source s
      (valueBits inQuotes (outputValue out), s)
    | .arithmetic source inQuotes =>
      let (bits, s) := inner depth .lines source s
      if s.goesOn then arithmeticBits (textOf (marksOf (separatorsOf s) bits)) inQuotes s
      else ([], s)
    | .parameter name usage inQuotes => parameter depth name usage inQuotes s
  /-- The elements of the value of a parameter. -/
  parameter (depth : Nat) (name : Text) (usage : Usage) (inQuotes : Bool) (s : State) :
      List Bit × State :=
    let isList := name = ['@'] || name = ['*']
    let value := if isList then some (Text.joined ((separatorsOf s).take 1) s.arguments)
      else parameter? s name
    let bits : List Bit := if isList then argumentBits s name inQuotes
      else valueBits inQuotes (value.getD [])
    let word (source : Text) : List Bit × State :=
      if inQuotes then
        let (bits, s) := inner depth .quoted source s
        (.hold :: bits, s)
      else
        let (bits, s) := inner depth .whole source s
        (divisible bits, s)
    let missing (orEmpty : Bool) : Bool := value.isNone || (orEmpty && value == some [])
    let checked (r : Unit → List Bit × State) : List Bit × State :=
      if value.isNone && s.switches.careful && !isList then
        ([], s.giveUp (name ++ ": parameter not set".toList))
      else r ()
    let trimmed (cut : Glob → Text → Text) (pattern : Text) : List Bit × State :=
      let (bits, s) := inner depth .whole pattern s
      let glob := Glob.read (marksOf (separatorsOf s) bits)
      if name = ['@'] || (name = ['*'] && !inQuotes) then
        (listBits inQuotes (Text.pieces '\x00' (cut glob (Text.joined ['\x00'] s.arguments))), s)
      else (valueBits inQuotes (cut glob (value.getD [])), s)
    match usage with
    | .value => checked fun _ => (bits, s)
    | .length => checked fun _ =>
      (valueBits inQuotes (Text.decimal (value.getD []).length), s)
    | .orElse orEmpty w => if missing orEmpty then word w else (bits, s)
    | .ifSet orEmpty w => if missing orEmpty then (valueBits inQuotes [], s) else word w
    | .orAssign orEmpty w =>
      if missing orEmpty then
        let (found, s) := word w
        let text := textOf (marksOf (separatorsOf s) found)
        (valueBits inQuotes text, if isName name then s.assign name text else s)
      else (bits, s)
    | .orFail orEmpty w =>
      if missing orEmpty then
        let (found, s) := word w
        let text := textOf (marksOf (separatorsOf s) found)
        ([], s.giveUp (name ++ ": ".toList ++
          if w.isEmpty then
            "parameter not set".toList ++ (if orEmpty then " or null".toList else [])
          else text))
      else (bits, s)
    | .withoutStart longest p => checked fun _ => trimmed (withoutStart longest) p
    | .withoutEnd longest p => checked fun _ => trimmed (withoutEnd longest) p
    | .bad => ([], s.giveUp "Bad substitution".toList)

/-- How deep words may stand in words. -/
def wordDepth : Nat := 100

/-- The elements of a word. -/
def expandWord (run : Substitute) (w : Word) (s : State) : List Bit × State :=
  expandParts run withHome wordDepth (withHome s w) s

/-- The texts that words stand for. -/
def expandWords (run : Substitute) : List Word → State → List Text × State
  | [], s => ([], s)
  | w :: ws, s =>
    let (bits, s) := expandWord run w s
    if !s.goesOn then ([], s)
    else
      let texts := (fieldsOf (separatorsOf s) bits).flatMap (textsOf s)
      let (more, s) := expandWords run ws s
      (texts ++ more, s)

/-- The text that a word stands for as a whole. -/
def expandText (run : Substitute) (w : Word) (s : State) : Text × State :=
  let (bits, s) := expandWord run w s
  (textOf (marksOf (separatorsOf s) bits), s)

/-- The value that the word of an assignment stands for. -/
def expandValue (run : Substitute) (w : Word) (s : State) : Text × State :=
  let (bits, s) := expandParts run withHomes wordDepth (withHomes s w) s
  (textOf (marksOf (separatorsOf s) bits), s)

/-- The pattern that a word stands for. -/
def expandPattern (run : Substitute) (w : Word) (s : State) : Glob × State :=
  let (bits, s) := expandWord run w s
  (Glob.read (marksOf (separatorsOf s) bits), s)

end Shell
end DocExamples
