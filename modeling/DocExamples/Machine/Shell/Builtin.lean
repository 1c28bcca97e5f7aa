/-
# Commands of the shell itself

The commands that a shell carries out itself because they change its state:
variables, streams, folders, signals and flow.  Those that run other commands are
left to the runner.
-/

import DocExamples.Machine.Program
import DocExamples.Machine.Shell.Expansion
import DocExamples.Machine.Shell.Jobs
import DocExamples.Machine.Utility.Table
import DocExamples.Path.Lexical

namespace DocExamples
namespace Shell

namespace State

/-! ## Variables and arguments -/

/-- A name and perhaps a value, as arguments give them. -/
def definition (a : Text) : Text × Option Text :=
  match Text.cut? ['='] a with
  | some k => (k.before, some k.after)
  | none => (a, none)

/-- Assigns a value, unless the variable keeps its own. -/
def assignChecked (s : State) (name value : Text) : State :=
  if (s.named? name).any (·.fixed) then s.giveUp (name ++ ": is read only".toList)
  else s.assign name value

/-- Assigns a value for a command of the shell, unless the variable keeps its own. -/
def assignFor (s : State) (command name value : Text) : State :=
  if (s.named? name).any (·.fixed) then s.refuseIn command 2 (name ++ ": is read only".toList)
  else s.assign name value

/-- Variables as the commands that make them, in the order of their names. -/
def shownAs (lead : Text) (shown : List Variable) : Text :=
  (shown.mergeSort fun a b => !decide (b.name < a.name)).flatMap fun v =>
    lead ++ v.name ++ ((v.value.map fun t => '=' :: inSingleQuotes t).getD []) ++ ['\n']

/-- Marks variables, and assigns values to them, or shows those that have the mark. -/
def mark (s : State) (command : Text) (args : List Text) (has : Variable → Bool)
    (change : Variable → Variable) : State :=
  s.withOptions command "p" args fun letters operands =>
    if letters.contains 'p' || operands.isEmpty then
      (s.write 1 (shownAs (command ++ [' ']) (s.bindings.filter has))).withStatus 0
    else
      s.forEach operands fun s a =>
        let (name, value) := definition a
        if !isName name then s.refuseIn command 2 (name ++ ": bad variable name".toList)
        else
          let s := match value with
            | some v => s.assignFor command name v
            | none => s
          if s.goesOn then
            s.putVariable (change ((s.named? name).getD ⟨name, none, false, false⟩))
          else s

/-- Forgets variables or functions. -/
def forget (s : State) (args : List Text) : State :=
  let inFunctions := args.head? = some ['-', 'f']
  s.forEach (args.filter fun a => a != ['-', 'f'] && a != ['-', 'v']) fun s a =>
    if inFunctions then { s with functions := s.functions.filter (·.1 != a) }
    else if !isName a then s.refuseIn "unset".toList 2 (a ++ ": bad variable name".toList)
    else if (s.named? a).any (·.fixed) then
      s.refuseIn "unset".toList 2 (a ++ ": is read only".toList)
    else s.unset a

/-- Keeps variables to the function being run. -/
def keepLocal (s : State) (args : List Text) : State :=
  if s.depth = 0 then s.refuseIn "local".toList 2 "not in a function".toList
  else
    s.forEach args fun s a =>
      let (name, value) := definition a
      if a = ['-'] then { s with keptSwitches := s.keptSwitches.or (some s.switches) }
      else if !isName name then s.refuseIn "local".toList 2 (name ++ ": bad variable name".toList)
      else
        let old := (s.named? name).getD ⟨name, none, false, false⟩
        let s := { s with shadowed := old :: s.shadowed }
        match value with
        | some v => s.assignFor "local".toList name v
        | none => s

/-- Drops arguments. -/
def shift (s : State) (args : List Text) : State :=
  match args with
  | [] =>
    if s.arguments.isEmpty then s.refuseIn "shift".toList 2 "can't shift that many".toList
    else { s with arguments := s.arguments.drop 1, status := 0 }
  | a :: _ =>
    match Octet.number? (Octet.trimmed a) with
    | none => s.refuseIn "shift".toList 2 ("Illegal number: ".toList ++ a)
    | some n =>
      if s.arguments.length < n then s.refuseIn "shift".toList 2 "can't shift that many".toList
      else { s with arguments := s.arguments.drop n, status := 0 }

/-- What a setting that is asked for does: a shell without a terminal keeps no control of its
jobs. -/
def withSwitches (s : State) (w : Switches) : State :=
  if w.has "monitor" then
    let said := { s with context := [] }.complain
      "set: can't access tty; job control turned off\n".toList
    { said with context := s.context, switches := w.put "monitor" false }
  else { s with switches := w }

/-- Changes settings by letters; an `o` takes the next of the words that follow as a name. -/
def switchLetters (s : State) (on : Bool) : (letters : Text) → (words : List Text) → State
  | [], _ => s
  | c :: cs, words =>
    if !s.goesOn then s
    else if c = 'o' then
      match words with
      | [] => s.write 1 (if on then s.switches.table else s.switches.commands)
      | name :: words =>
        match s.switches.putNamed? name on with
        | some w => switchLetters (s.withSwitches w) on cs words
        | none => s.refuseIn "set".toList 2 ("Illegal option -o ".toList ++ name)
    else
      match s.switches.putLetter? c on with
      | some w => switchLetters (s.withSwitches w) on cs words
      | none => s.refuseIn "set".toList 2 ("Illegal option -".toList ++ [c])

/-- Changes settings, and the arguments. -/
def setOptions (s : State) : (args : List Text) → State
  | [] => s
  | a :: rest =>
    match a with
    | ['-', '-'] => { s with arguments := rest }
    | ['-'] =>
      let switches := (s.switches.put "xtrace" false).put "verbose" false
      { s with switches, arguments := if rest.isEmpty then s.arguments else rest }
    | sign :: letters =>
      if sign = '-' ∨ sign = '+' then
        let s := s.switchLetters (sign == '-') letters rest
        if s.goesOn then setOptions s (rest.drop (letters.count 'o')) else s
      else { s with arguments := a :: rest }
    | [] => { s with arguments := a :: rest }
termination_by args => args.length
decreasing_by simp only [List.length_cons, List.length_drop]; omega

/-- Changes settings and arguments, or shows all variables. -/
def set (s : State) (args : List Text) : State :=
  if args.isEmpty then s.write 1 (shownAs [] (s.bindings.filter (·.value.isSome)))
  else s.setOptions args

/-! ## Folders -/

/-- A path text without single and double dots, as it is written. -/
def plainPath (s : Text) : Text :=
  let names := (Text.pieces '/' s).foldl
    (fun done n =>
      if n.isEmpty || n = Path.dot then done
      else if n = Path.dotDot then done.drop 1
      else n :: done) ([] : List Text)
  '/' :: Text.joined ['/'] names.reverse

/-- The working folder as the shell names it. -/
def folderText (s : State) : Text :=
  let real := Octet.ofText ('/' :: Text.joined ['/'] s.machine.disk.cwd)
  match s.value? "PWD".toList with
  | some p =>
    match s.machine.disk.locate true (Octet.toText p) with
    | .ok spot =>
      if Text.startsWith ['/'] p && spot.location = s.machine.disk.cwd then p else real
    | .error _ => real
  | none => real

/-- Changes the working folder. -/
def changeFolder (s : State) (command : Text) (args : List Text) : State :=
  let args := args.filter fun a => a != ['-', 'L'] && a != ['-', 'P'] && a != ['-', '-']
  let asked := match args with
    | ['-'] :: _ => (s.value? "OLDPWD".toList).getD []
    | a :: _ => a
    | [] => (s.value? "HOME".toList).getD []
  let here := s.folderText
  let path := plainPath (if Text.startsWith ['/'] asked then asked else here ++ '/' :: asked)
  if asked.isEmpty then s.withStatus 0
  else
    match s.machine.disk.locate true (Octet.toText path) with
    | .ok ⟨l, some .folder⟩ =>
      let s := { s with machine := { s.machine with disk := { s.machine.disk with cwd := l } } }
      let s := ((s.assign "OLDPWD".toList here).assign "PWD".toList path).withStatus 0
      if args.head? = some ['-'] then s.write 1 (path ++ ['\n']) else s
    | _ => s.refuseIn command 2 ("can't cd to ".toList ++ asked)

/-! ## Reading -/

/-- The line at the start of a text, and what follows it; a backslash at its end joins the
next one, if `joins` says so. -/
def readLine (joins : Bool) : Text → Text × Option Text
  | [] => ([], none)
  | '\\' :: '\n' :: s =>
    if joins then readLine joins s else (['\\'], some s)
  | '\\' :: c :: s =>
    let (l, rest) := readLine joins s
    (if joins then c :: l else '\\' :: c :: l, rest)
  | c :: s =>
    if c = '\n' then ([], some s)
    else
      let (l, rest) := readLine joins s
      (c :: l, rest)

/-- A line cut into as many values as there are names; the last takes all that is left. -/
def splitFor (separators : Text) : List Text → Text → List (Text × Text)
  | [], _ => []
  | [name], line =>
    let isBlank (c : Char) : Bool := (c == ' ' || c == '\t' || c == '\n') && separators.contains c
    [(name, ((line.dropWhile isBlank).reverse.dropWhile isBlank).reverse)]
  | name :: names, line =>
    let isBlank (c : Char) : Bool := (c == ' ' || c == '\t' || c == '\n') && separators.contains c
    let line := line.dropWhile isBlank
    let value := line.takeWhile fun c => !separators.contains c
    let rest := (line.drop value.length).dropWhile isBlank
    let rest := match rest with
      | c :: r => if separators.contains c then r else c :: r
      | [] => []
    (name, value) :: splitFor separators names rest

/-- Whether lines are read as they are, and the names behind the options of a reader; the text
that would be shown to a user is left out. -/
def readerOptions (raw : Bool) : List Text → Except Char (Bool × List Text)
  | ['-', '-'] :: names => .ok (raw, names)
  | ['-', 'r'] :: rest => readerOptions true rest
  | ['-', 'p'] :: _ :: rest => readerOptions raw rest
  | ['-', 'r', 'p'] :: _ :: rest => readerOptions true rest
  | ('-' :: 'p' :: _) :: rest => readerOptions raw rest
  | ('-' :: c :: _) :: _ => .error c
  | names => .ok (raw, names)

/-- Reads a line into variables. -/
def readInto (s : State) (args : List Text) : State :=
  match readerOptions false args with
  | .error c => s.refuseIn "read".toList 2 ("Illegal option -".toList ++ [c])
  | .ok (_, []) => s.refuseIn "read".toList 2 "arg count".toList
  | .ok (raw, names) =>
    let (line, rest) := readLine (!raw) s.input
    let s := s.withInput (rest.getD [])
    match names.find? fun n => !isName n with
    | some bad => s.refuseIn "read".toList 2 (bad ++ ": bad variable name".toList)
    | none =>
      let values := splitFor (separatorsOf s) names line
      let free := values.takeWhile fun v => !(s.named? v.1).any (·.fixed)
      let s := free.foldl (fun s v => s.assign v.1 v.2) s
      match values[free.length]? with
      | some (name, value) => s.assignFor "read".toList name value
      | none => s.withStatus (if rest.isSome then 0 else 1)

/-! ## Signals -/

/-- Sets what the shell does on signals, or shows it. -/
def trap (s : State) (args : List Text) : State :=
  s.withOptions "trap".toList "" args fun _ args => match args with
  | [] =>
    let shown := (s.traps.mergeSort fun a b => a.1 ≤ b.1).flatMap fun t =>
      "trap -- ".toList ++ inSingleQuotes t.2 ++ ' ' :: signalName t.1 ++ ['\n']
    (s.write 1 shown).withStatus 0
  | action :: names =>
    let (action, names) :=
      if names.isEmpty then (['-'], [action])
      else if (Octet.number? action).isSome then (['-'], action :: names)
      else (action, names)
    s.forEach names fun s name =>
      match signal? name with
      | some n =>
        let others := s.traps.filter (·.1 != n)
        { s with traps := if action = ['-'] then others else (n, action) :: others }
      | none => (s.write 2 ("trap: ".toList ++ name ++ ": bad trap\n".toList)).withStatus 1

/-! ## Programs by name -/

/-- The search path for programs. -/
def searchPath (s : State) : Text := (s.value? "PATH".toList).getD "/bin:/usr/bin".toList

/-- The state that remembers where a program was found. -/
def noted (s : State) (name : Text) : State :=
  if name.contains '/' || s.found.any (·.1 == name) then s
  else
    match Loaded.find s.machine.disk s.searchPath name with
    | .ok f => { s with found := s.found ++ [(name, f.path)] }
    | .error _ => s

/-- What the shell itself takes a name for. -/
def ownKind? (s : State) (name : Text) : Option Text :=
  if reserved.contains name then some " is a shell keyword".toList
  else if specialNames.contains name then some " is a special shell builtin".toList
  else if s.functions.any (·.1 == name) then some " is a shell function".toList
  else if isBuiltin name then some " is a shell builtin".toList
  else none

/-- The alias that a name stands for where a command starts. -/
def aliasFor? (s : State) (name : Text) : Option Alias :=
  if reserved.contains name then none else Alias.find? s.aliases name

/-- Says what names stand for. -/
def describe (s : State) (names : List Text) : State :=
  s.forEach names fun s n =>
    let kind := match s.aliasFor? n with
      | some a => some (" is an alias for ".toList ++ a.text)
      | none => s.ownKind? n
    match kind with
    | some kind => s.write 1 (n ++ kind ++ ['\n'])
    | none =>
      match s.found.lookup n, Loaded.find s.machine.disk s.searchPath n with
      | some path, _ => s.write 1 (n ++ " is a tracked alias for ".toList ++ path ++ ['\n'])
      | none, .ok f => (s.noted n).write 1 (n ++ " is ".toList ++ f.path ++ ['\n'])
      | none, .error _ => (s.write 1 (n ++ ": not found\n".toList)).withStatus 127

/-- Says where a command is found. -/
def locate (s : State) (name : Text) : State :=
  let s := s.withStatus 0
  match s.aliasFor? name with
  | some a => s.write 1 ("alias ".toList ++ a.shown ++ ['\n'])
  | none =>
    if (s.ownKind? name).isSome then s.write 1 (name ++ ['\n'])
    else
      match Loaded.find s.machine.disk s.searchPath name with
      | .ok f => (s.noted name).write 1 (f.path ++ ['\n'])
      | .error _ => s.withStatus 127

/-- Remembers where programs are found, forgets all of them, or shows them. -/
def remember (s : State) (args : List Text) : State :=
  match args with
  | [] => (s.write 1 (s.found.flatMap fun e => e.2 ++ ['\n'])).withStatus 0
  | ['-', 'r'] :: _ => { s with found := [], status := 0 }
  | ('-' :: c :: _) :: _ => s.refuseIn "hash".toList 2 ("Illegal option -".toList ++ [c])
  | names =>
    s.forEach names fun s n =>
      if (s.ownKind? n).isSome then s
      else
        match Loaded.find s.machine.disk s.searchPath n with
        | .ok _ => s.noted n
        | .error _ => s.refuse 1 ("hash: ".toList ++ n ++ ": not found".toList)

/-! ## Aliases -/

/-- Makes aliases, or shows them. -/
def makeAliases (s : State) (args : List Text) : State :=
  if args.isEmpty then
    (s.write 1 ((Alias.listed s.aliases).flatMap fun a => a.shown ++ ['\n'])).withStatus 0
  else
    s.forEach args fun s a =>
      match Text.cut? ['='] (a.drop 1) with
      | some k => { s with aliases := Alias.put s.aliases ⟨a.take 1 ++ k.before, k.after⟩ }
      | none =>
        match Alias.find? s.aliases a with
        | some a => s.write 1 (a.shown ++ ['\n'])
        | none => (s.write 2 ("alias: ".toList ++ a ++ " not found\n".toList)).withStatus 1

/-- Forgets aliases by their names. -/
def forgetNamed (s : State) (names : List Text) : State :=
  s.forEach names fun s n =>
    if (Alias.find? s.aliases n).isSome then
      { s with aliases := s.aliases.filter (·.name != n) }
    else (s.write 2 ("unalias: ".toList ++ n ++ " not found\n".toList)).withStatus 1

/-- Forgets some aliases, or all of them. -/
def forgetAliases (s : State) (args : List Text) : State :=
  match args with
  | ['-', 'a'] :: _ => { s with aliases := [], status := 0 }
  | ('-' :: c :: _) :: _ =>
    if args.head? = some ['-', '-'] then s.forgetNamed (args.drop 1)
    else s.refuseIn "unalias".toList 2 ("Illegal option -".toList ++ [c])
  | names => s.forgetNamed names

/-! ## Permissions of new files -/

/-- Permissions as letters. -/
def permissionLetters (mode : Nat) : Text :=
  (if mode / 4 % 2 = 1 then ['r'] else []) ++ (if mode / 2 % 2 = 1 then ['w'] else []) ++
    if mode % 2 = 1 then ['x'] else []

/-- The permissions of the three kinds of users, changed by a clause of letters. -/
def changedBy (clause : Text) (modes : List Nat) : Option (List Nat) :=
  let isWho (c : Char) : Bool := "ugoa".toList.contains c
  let who := clause.takeWhile isWho
  match clause.dropWhile isWho with
  | op :: letters =>
    if !"+-=".toList.contains op || !letters.all "rwx".toList.contains then none
    else
      let bit (c : Char) (n : Nat) : Nat := if letters.contains c then n else 0
      let bits := bit 'r' 4 + bit 'w' 2 + bit 'x' 1
      some ((modes.zip "ugo".toList).map fun (mode, user) =>
        if !who.isEmpty && !who.contains 'a' && !who.contains user then mode
        else if op = '=' then bits
        else if op = '+' then mode ||| bits
        else mode - (mode &&& bits))
  | [] => none

/-- The state in which new files do not get some permissions. -/
def withMask (s : State) (mask : Nat) : State :=
  { s with machine := { s.machine with disk := { s.machine.disk with mask } }, status := 0 }

/-- Shows or sets which permissions new files do not get. -/
def umask (s : State) (args : List Text) : State :=
  let mode := 511 - s.machine.disk.mask % 512
  let modes := [mode / 64, mode / 8 % 8, mode % 8]
  match args with
  | [] => (s.write 1 ('0' :: Text.octal 3 s.machine.disk.mask ++ ['\n'])).withStatus 0
  | ['-', 'S'] :: _ =>
    let shown := (modes.zip "ugo".toList).map fun (m, user) => user :: '=' :: permissionLetters m
    (s.write 1 (Text.joined [','] shown ++ ['\n'])).withStatus 0
  | ('-' :: c :: _) :: _ => s.refuseIn "umask".toList 2 ("Illegal option -".toList ++ [c])
  | a :: _ =>
    if a.head?.any Char.isDigit then
      if a.all Octet.isOctal then s.withMask (Octet.ofOctal a % 512)
      else s.refuseIn "umask".toList 2 ("Illegal number: ".toList ++ a)
    else
      match (Text.pieces ',' a).foldl (fun m clause => m.bind (changedBy clause)) (some modes) with
      | some [u, g, o] => s.withMask (511 - (64 * u + 8 * g + o))
      | _ => s.refuseIn "umask".toList 2 ("Illegal mode: ".toList ++ a)

/-! ## Limits -/

/-- Shows how much a process may use: of most things, as much as it likes. -/
def limits (s : State) (args : List Text) : State :=
  s.withOptions "ulimit".toList "HSatfdscmlpnvwr" args fun letters values =>
    let shown := if letters.contains 'c' || letters.contains 'r' then ['0'] else "unlimited".toList
    match values with
    | [] => (s.write 1 (shown ++ ['\n'])).withStatus 0
    | v :: _ =>
      if v = "unlimited".toList || v.all Char.isDigit then s.withStatus 0
      else s.refuseIn "ulimit".toList 2 "bad number".toList

/-! ## Options of a script -/

/-- What stands behind a letter in a list of options: nothing, or a colon for a value. -/
def optionIn? (letter : Char) : Text → Option Bool
  | [] => none
  | c :: ':' :: s => if c = letter then some true else optionIn? letter s
  | c :: s => if c = letter then some false else optionIn? letter s

/-- Reads the next option from arguments into a variable. -/
def nextOption (s : State) (args : List Text) : State :=
  match args with
  | letters :: name :: given =>
    let words := if given.isEmpty then s.arguments else given
    let index := ((s.value? "OPTIND".toList).bind Octet.number?).getD 1
    let index := if given.isEmpty && words.length + 1 < index then 1 else index
    let isQuiet := letters.head? = some ':'
    let inside : Text := match s.optionPlace with
      | some (i, at') => if i = index then ((words[index - 2]?).getD []).drop at' else []
      | none => []
    let put (s : State) (letter : Char) (index : Nat) (left : Text) (status : Nat) : State :=
      let place := if left.isEmpty then none
        else some (index, ((words[index - 2]?).getD []).length - left.length)
      let s := s.assign "OPTIND".toList (Text.decimal index)
      { (s.assign name [letter]).withStatus status with optionPlace := place }
    let letter (c : Char) (rest : Text) (index : Nat) : State :=
      match optionIn? c (if isQuiet then letters.drop 1 else letters) with
      | none =>
        let s := if isQuiet then s.assign "OPTARG".toList [c]
          else (s.write 2 ("Illegal option -".toList ++ [c, '\n'])).unset "OPTARG".toList
        put s '?' index rest 0
      | some false => put (s.assign "OPTARG".toList []) c index rest 0
      | some true =>
        if !rest.isEmpty then put (s.assign "OPTARG".toList rest) c index [] 0
        else
          match words[index - 1]? with
          | some v => put (s.assign "OPTARG".toList v) c (index + 1) [] 0
          | none =>
            if isQuiet then put (s.assign "OPTARG".toList [c]) ':' index [] 0
            else
              let said := s.write 2 ("No arg for -".toList ++ c :: " option\n".toList)
              put (said.unset "OPTARG".toList) '?' index [] 0
    match inside with
    | c :: rest => letter c rest index
    | [] =>
      match words[index - 1]? with
      | some ['-', '-'] => put s '?' (index + 1) [] 1
      | some ('-' :: c :: rest) => letter c rest (index + 1)
      | _ => put s '?' index [] 1
  | _ => s.refuseIn "getopts".toList 2 "Usage: getopts optstring var [arg...]".toList

/-! ## Flow -/

/-- The exit code that an argument asks for, or the one of the last command. -/
def codeFrom (s : State) (name : Text) (args : List Text) (go : State → State) : State :=
  match args with
  | [] => go s
  | a :: _ =>
    match Octet.number? (Octet.trimmed a) with
    | some n => go (s.withStatus (n % 256))
    | none => s.refuseIn name 2 ("Illegal number: ".toList ++ a)

/-- Leaves loops, or goes on with their next round. -/
def leave (s : State) (name : Text) (args : List Text) (flow : Nat → Flow) : State :=
  let count := match args with
    | [] => some 1
    | a :: _ => Octet.number? (Octet.trimmed a)
  match count with
  | none => s.refuseIn name 2 ("Illegal number: ".toList ++ args.headD [])
  | some 0 => s.refuseIn name 2 ("Illegal number: 0".toList)
  | some n =>
    if s.loops = 0 then s.withStatus 0 else { s with status := 0, flow := flow (min n s.loops) }

/-- Carries out a command of the shell that runs no others. -/
def builtin (s : State) (name : Text) (args : List Text) : State :=
  match String.ofList name with
  | ":" => s.withStatus 0
  | "true" => s.withStatus 0
  | "false" => s.withStatus 1
  | "echo" => s.utility name Utility.echo args
  | "printf" => s.utility name Utility.printf args
  | "test" => s.utility name Utility.test args
  | "[" => s.utility name Utility.bracket args
  | "pwd" =>
    if args.contains ['-', 'P'] then s.utility name Utility.pwd args
    else (s.write 1 (s.folderText ++ ['\n'])).withStatus 0
  | "cd" => s.changeFolder name args
  | "chdir" => s.changeFolder name args
  | "read" => s.readInto args
  | "kill" => s.kill args
  | "wait" => s.wait args
  | "trap" => s.trap args
  | "export" => s.mark name args (·.exported) fun v => { v with exported := true }
  | "readonly" => s.mark name args (·.fixed) fun v => { v with fixed := true }
  | "local" => s.keepLocal args
  | "unset" => s.forget args
  | "shift" => s.shift args
  | "set" => (s.withStatus 0).set args
  | "umask" => s.umask args
  | "getopts" => s.nextOption args
  | "type" => s.describe args
  | "alias" => s.makeAliases args
  | "unalias" => s.forgetAliases args
  | "hash" => s.remember args
  | "jobs" => s.showJobs args
  | "fg" => s.takeUp name args
  | "bg" => s.takeUp name args
  | "times" =>
    let none := "0m0.000000s 0m0.000000s\n".toList
    (s.write 1 (none ++ none)).withStatus 0
  | "ulimit" => s.limits args
  | "exit" => s.codeFrom name args fun s => { s with flow := .exits }
  | "return" => s.codeFrom name args fun s => { s with flow := .returns }
  | "break" => s.leave name args .leaves
  | "continue" => s.leave name args .repeats
  | _ => s.withStatus 0

end State
end Shell
end DocExamples
