/-
# Calls of utilities

A utility is called with arguments and an input, reads and changes the disk, and
writes to its two outputs in some order.  All texts are octet texts.
-/

import DocExamples.Disk.Edit
import DocExamples.Machine.Quoting

namespace DocExamples

/-- Where the input of a call comes from. -/
inductive InputKind where
  /-- From another process, or from nowhere. -/
  | stream
  /-- From a file. -/
  | file
  /-- From a folder, which cannot be read. -/
  | folder
deriving DecidableEq, Repr

/-- A call of a utility. -/
structure Call where
  /-- The name that the utility was called by. -/
  name : Text
  /-- The arguments behind the name. -/
  arguments : List Text
  /-- All that can be read from standard input. -/
  input : Text
  /-- Where standard input comes from. -/
  inputKind : InputKind
  /-- The disk, with the caller's working folder. -/
  disk : Disk

/-- A piece of output. -/
structure Write where
  /-- 1 for standard output, 2 for standard error. -/
  stream : Nat
  /-- The octets written. -/
  text : Text
deriving DecidableEq, Repr

/-- What a call comes to. -/
structure Effect where
  /-- The output, in order. -/
  writes : List Write
  /-- The exit code. -/
  status : Nat
  /-- The disk afterwards. -/
  disk : Disk
  /-- How many milliseconds the call takes. -/
  pause : Nat

namespace Call

/-- The content of standard input. -/
def inputContent (c : Call) : Except Fault Text :=
  if c.inputKind = .folder then .error .isFolder else .ok c.input

/-- Output without any other effect. -/
def output (c : Call) (s : Text) : Effect := ⟨[⟨1, s⟩], 0, c.disk, 0⟩

/-- An exit code without any other effect. -/
def exit (c : Call) (status : Nat) : Effect := ⟨[], status, c.disk, 0⟩

/-- A line of complaint. -/
def complaint (c : Call) (s : Text) : Write := ⟨2, c.name ++ ": ".toList ++ s ++ ['\n']⟩

/-- A complaint and an exit code. -/
def refuse (c : Call) (status : Nat) (s : Text) : Effect := ⟨[c.complaint s], status, c.disk, 0⟩

/-- A complaint, a hint at the help text, and an exit code. -/
def refuseWithHint (c : Call) (status : Nat) (s : Text) : Effect :=
  ⟨[c.complaint s, ⟨2, "Try '".toList ++ c.name ++ " --help' for more information.\n".toList⟩],
    status, c.disk, 0⟩

/-- An octet text between curly quotes. -/
def inQuotes (s : Text) : Text := Quoting.curly s

/-- The wording of a fault at a path, which stands in quotes where it has to. -/
def faultAt (path : Text) (f : Fault) : Text := Quoting.name path ++ ": ".toList ++ f.wording

/-- The wording of a fault at a path without quotes. -/
def bareFaultAt (path : Text) (f : Fault) : Text := path ++ ": ".toList ++ f.wording

end Call

namespace Disk

/-- What a device gives when it is read: nothing, or zeros without end, of which so many
are taken. -/
def deviceContent (name : Text) (count : Nat) : Text :=
  if name = "zero".toList then List.replicate count '\x00' else []

/-- How much is read from a device that does not end. -/
def readLimit : Nat := 1048576

/-- The content of the file that an octet text leads to; of a device without end, so
many octets at most. -/
def readUpTo (d : Disk) (count : Nat) (path : Text) : Except Fault Text := do
  match ← d.stat (Octet.toText path) with
  | .folder => throw .isFolder
  | .file content _ => return Octet.ofOctets content
  | .device name => return deviceContent name count
  | _ => return []

/-- The content of the file that an octet text leads to. -/
def read (d : Disk) (path : Text) : Except Fault Text := d.readUpTo readLimit path

/-- Writes an octet text to the file that an octet text leads to. -/
def write (d : Disk) (path content : Text) : Except Fault Disk :=
  d.writeFile (Octet.toText path) (Octet.toOctets content)

/-- Whether an octet text leads to a folder. -/
def isFolderAt (d : Disk) (path : Text) : Bool :=
  match d.stat (Octet.toText path) with
  | .ok e => e.isFolder
  | .error _ => false

/-- Whether an octet text leads to anything. -/
def isThere (d : Disk) (path : Text) : Bool :=
  match d.stat (Octet.toText path) with
  | .ok _ => true
  | .error _ => false

end Disk

/-- What is wrong with an option. -/
inductive OptionFault where
  /-- There is no such letter. -/
  | unknownLetter (letter : Char)
  /-- There is no such name. -/
  | unknownName (argument : Text)
  /-- Nothing stands behind a letter that takes a value. -/
  | bareLetter (letter : Char)
  /-- Nothing stands behind a name that takes a value. -/
  | bareName (name : Text)
  /-- A value stands behind a name that takes none. -/
  | fullName (name : Text)
  /-- The start of a name could be one of several names. -/
  | severalNames (argument : Text) (names : List Text)

/-- The wording of what is wrong. -/
def OptionFault.message : OptionFault → Text
  | .unknownLetter c => "invalid option -- '".toList ++ [c, '\'']
  | .unknownName a => "unrecognized option '".toList ++ a ++ ['\'']
  | .bareLetter c => "option requires an argument -- '".toList ++ [c, '\'']
  | .bareName n => "option '--".toList ++ n ++ "' requires an argument".toList
  | .fullName n => "option '--".toList ++ n ++ "' doesn't allow an argument".toList
  | .severalNames a ns =>
    "option '".toList ++ a ++ "' is ambiguous; possibilities:".toList ++
      ns.flatMap fun n => " '--".toList ++ n ++ ['\'']

/-- Arguments cut into options and operands. -/
structure Options where
  /-- The option letters, each with its value if it takes one. -/
  letters : List (Char × Text)
  /-- The other arguments. -/
  operands : List Text
  /-- What is wrong with the first option that is not understood. -/
  fault : Option OptionFault

namespace Options

/-- Reads the letters of one argument: those in `valued` take the rest of the argument,
or else the next one. -/
def readLetters (valued known : Text) :
    Text → List Text → List (Char × Text) × List Text × Option OptionFault
  | [], rest => ([], rest, none)
  | c :: cs, rest =>
    if valued.contains c then
      if cs.isEmpty then
        match rest with
        | v :: rest => ([(c, v)], rest, none)
        | [] => ([], [], some (.bareLetter c))
      else ([(c, cs)], rest, none)
    else if known.contains c then
      let (ls, rest, bad) := readLetters valued known cs rest
      ((c, []) :: ls, rest, bad)
    else ([], rest, some (.unknownLetter c))

/-- Long names of options, with the letters that they stand for. -/
abbrev LongNames := List (String × Char)

/-- The option that a long name means, which may be cut off where all names that begin so mean
the same. -/
def named (long : LongNames) (body : Text) : Except OptionFault (String × Char) :=
  let name := body.takeWhile (· != '=')
  match long.find? (·.1.toList == name), long.filter (Text.startsWith name ·.1.toList) with
  | some e, _ => .ok e
  | none, [] => .error (.unknownName ('-' :: '-' :: body))
  | none, e :: es =>
    if es.all (·.2 == e.2) then .ok e
    else .error (.severalNames ('-' :: '-' :: body) ((e :: es).map (·.1.toList)))

/-- Reads an argument that begins with two hyphens, without them: a name whose letter is in
`valued` takes a value, one whose letter is in `known` takes none, and any other may have one
behind an equals sign. -/
def readName (long : LongNames) (valued known : Text) (body : Text) (rest : List Text) :
    List (Char × Text) × List Text × Option OptionFault :=
  match named long body with
  | .error f => ([], rest, some f)
  | .ok (full, c) =>
    match Text.cut? ['='] body with
    | some k =>
      if known.contains c then ([], rest, some (.fullName full.toList))
      else ([(c, k.after)], rest, none)
    | none =>
      if !valued.contains c then ([(c, [])], rest, none)
      else
        match rest with
        | v :: rest => ([(c, v)], rest, none)
        | [] => ([], [], some (.bareName full.toList))

/-- Reads arguments: options may stand anywhere before `--`, or only before the first operand if
`areFirst` says so. -/
def readAll (areFirst : Bool) (long : LongNames) (valued known : Text) : (fuel : Nat) →
    List Text → Options
  | 0, args => ⟨[], args, none⟩
  | _, [] => ⟨[], [], none⟩
  | fuel + 1, arg :: rest =>
    let onward (step : List (Char × Text) × List Text × Option OptionFault) : Options :=
      match step.2.2 with
      | some f => ⟨step.1, [], some f⟩
      | none =>
        let more := readAll areFirst long valued known fuel step.2.1
        { more with letters := step.1 ++ more.letters }
    match arg with
    | ['-', '-'] => ⟨[], rest, none⟩
    | '-' :: '-' :: body => onward (readName long valued known body rest)
    | '-' :: c :: cs => onward (readLetters valued known (c :: cs) rest)
    | _ =>
      if areFirst then ⟨[], arg :: rest, none⟩
      else
        let more := readAll areFirst long valued known fuel rest
        { more with operands := arg :: more.operands }

/-- Cuts arguments into options and operands; some letters have long names too. -/
def readWith (long : LongNames) (valued known : String) (args : List Text) : Options :=
  readAll false long valued.toList known.toList (args.length + 1) args

/-- Cuts arguments into options and operands; options stand before the first operand. -/
def readLeading (long : LongNames) (valued known : String) (args : List Text) : Options :=
  readAll true long valued.toList known.toList (args.length + 1) args

/-- Cuts arguments into options and operands. -/
def read (valued known : String) (args : List Text) : Options := readWith [] valued known args

/-- Whether an option was given. -/
def has (o : Options) (c : Char) : Bool := o.letters.any (·.1 == c)

/-- The last value of an option. -/
def value? (o : Options) (c : Char) : Option Text :=
  (o.letters.reverse.find? (·.1 == c)).map (·.2)

/-- All values of an option. -/
def values (o : Options) (c : Char) : List Text :=
  (o.letters.filter (·.1 == c)).map (·.2)

end Options

namespace Call

/-- Cuts the arguments of a call into options and operands. -/
def options (c : Call) (valued known : String) : Options := Options.read valued known c.arguments

/-- Cuts the arguments of a call into options and operands; some letters have long names too. -/
def optionsWith (c : Call) (long : Options.LongNames) (valued known : String) : Options :=
  Options.readWith long valued known c.arguments

/-- Cuts the arguments of a call into options and the operands behind them. -/
def leadingOptionsWith (c : Call) (long : Options.LongNames) (valued known : String) : Options :=
  Options.readLeading long valued known c.arguments

/-- The complaint about an option. -/
def badOption (c : Call) (status : Nat) (f : OptionFault) : Effect :=
  c.refuseWithHint status f.message

end Call
end DocExamples
