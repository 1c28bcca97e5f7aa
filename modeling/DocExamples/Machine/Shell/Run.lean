/-
# Running commands

A command is run by recursion with a bound on its depth; a shell that reaches the
bound counts as one that never ends.  Pipelines run their commands one after
another, each on all that the one before it wrote, and a process that is not
waited for runs at once, on a clock of its own.
-/

import DocExamples.Machine.Shell.Builtin
import DocExamples.Machine.Shell.Opening
import DocExamples.Machine.Shell.Surroundings

namespace DocExamples
namespace Shell

namespace State

/-! ## Processes -/

/-- A copy of a shell as a process of its own. -/
def child (s : State) : State :=
  { s with
    machine := { s.machine with next := s.machine.next + 1 }
    process := s.machine.next
    jobs := []
    traps := s.traps.filter (·.2.isEmpty)
    pending := [] }

/-- A shell after a process that it waited for. -/
def rejoin (s done : State) : State :=
  let disk := { done.machine.disk with cwd := s.machine.disk.cwd, mask := s.machine.disk.mask }
  let s := { s with machine := { done.machine with disk } }
  match done.flow with
  | .stuck => { s with flow := .stuck }
  | .killed process signal =>
    if process = done.process ∧ process ≠ s.process then
      (s.write 2 (deathNotice signal)).withStatus (deathStatus signal)
    else { s with flow := .killed process signal, status := deathStatus signal }
  | _ => s.withStatus done.status

/-- How long after the end of a process its output is still read. -/
def drainTime : Nat := 1000

/-- A shell after a process that it did not wait for, made of so many commands. -/
def detach (s done : State) (commands : Nat) : State :=
  let disk := { done.machine.disk with cwd := s.machine.disk.cwd, mask := s.machine.disk.mask }
  let number := s.freeJobNumber
  let job : Job :=
    match done.flow with
    | .stuck => ⟨number, done.process, commands, none, 0, false, false⟩
    | .killed _ signal =>
      ⟨number, done.process, commands, some done.machine.now, deathStatus signal, true, false⟩
    | _ => ⟨number, done.process, commands, some done.machine.now, done.status, false, false⟩
  { s.addJob job with
    machine := { done.machine with disk, now := s.machine.now, deadline := s.machine.deadline }
    lastJob := some done.process
    status := 0 }

/-! ## Redirections -/

/-- Redirects a stream to where a text says; a failure leaves a complaint. -/
def redirectTo (s : State) (r : Redirection) (text : Text) : Except State State :=
  let opened (wording : Fault → Text) (o : Except Fault (State × Channel)) : Except State State :=
    match o with
    | .ok (s, c) => .ok (s.redirect r.stream c)
    | .error f => .error (s.refuse 2 (wording f))
  match r.direction with
  | .input => opened (openFault text) (s.openInput text)
  | .output => opened (createFault text) (s.openOutput text true s.switches.guarded)
  | .replace => opened (createFault text) (s.openOutput text true false)
  | .append => opened (createFault text) (s.openOutput text false false)
  | .both =>
    match s.openOutput text false false with
    | .ok (s, _) => opened (openFault text) (s.openInput text)
    | .error f => .error (s.refuse 2 (createFault text f))
  | .here =>
    let (n, machine) := s.machine.newBuffer text
    .ok ({ s with machine }.redirect r.stream (.buffer n))
  | .copy =>
    if text = ['-'] then .ok (s.close r.stream)
    else
      match Octet.number? text with
      | none => .error (s.giveUp "Syntax error: Bad fd number".toList)
      | some n =>
        match s.channel? n with
        | some c => .ok (s.redirect r.stream c)
        | none => .error (s.refuse 2 (text ++ ": Bad file descriptor".toList))

/-- Carries out redirections. -/
def redirectAll (run : Substitute) : List Redirection → State → Except State State
  | [], s => .ok s
  | r :: rs, s =>
    let (text, s) := expandText run r.word s
    if !s.goesOn then .error s
    else
      match s.redirectTo r text with
      | .ok s => redirectAll run rs s
      | .error s => .error s

/-! ## Assignments -/

/-- Carries out assignments in order, and gives the names and values. -/
def assignAll (run : Substitute) : List Assignment → State → List (Text × Text) × State
  | [], s => ([], s)
  | a :: rest, s =>
    let (v, s) := expandValue run a.word s
    if !s.goesOn then ([], s)
    else
      let s := s.assignChecked a.name v
      if !s.goesOn then ([], s)
      else
        let (more, s) := assignAll run rest s
        ((a.name, v) :: more, s)

/-- The state in which programs see some variables. -/
def exportAll (s : State) (names : List Text) : State :=
  names.foldl
    (fun s n => match s.named? n with
      | some v => s.putVariable { v with exported := true }
      | none => s) s

/-- The words of a command; where it assigns to variables itself, assignments among them stay
whole. -/
def expandCommand (run : Substitute) (ws : List Word) (s : State) : List Text × State :=
  let assigns := match ws with
    | [.plain n] :: _ => ["export", "readonly", "local"].any fun k => k.toList == n
    | _ => false
  if !assigns then expandWords run ws s
  else
    ws.foldl
      (fun (done : List Text × State) w =>
        match assignment? w with
        | some a =>
          let (v, s) := expandValue run a.word done.2
          (done.1 ++ [a.name ++ '=' :: v], s)
        | none =>
          let (vs, s) := expandWords run [w] done.2
          (done.1 ++ vs, s)) ([], s)

/-- The state after source was read, which the shell may show. -/
def reveal (s : State) (source : Source) (text : Unit → Text) : State :=
  if source.visible && s.switches.verbose then s.write 2 (text ()) else s

/-- What stands before a command that is shown: the value of a variable, read as if in double
quotes. -/
def traceLead (run : Substitute) (s : State) : Text :=
  let lead := (s.value? "PS4".toList).getD []
  match partsOf .lines lead with
  | .ok w => (expandText run w { s with switches := s.switches.put "xtrace" false }).1
  | .error _ => lead

/-- The line that shows a command before it is run. -/
def trace (run : Substitute) (s : State) (values : List (Text × Text)) (words : List Text) :
    State :=
  if !s.switches.tracing then s
  else
    s.write 2 (traceLead run s ++
      Text.joined [' '] (values.map (fun v => v.1 ++ '=' :: v.2) ++ words) ++ ['\n'])

/-- The state with variables as another state has them. -/
def restore (s : State) (names : List Text) (old : State) : State :=
  names.foldl
    (fun s n => match old.named? n with
      | some v => s.putVariable v
      | none => s.unset n) s

/-- The state after a command that failed, if it ends the shell. -/
def checked (tested : Bool) (s : State) : State :=
  if s.switches.strict && !tested && s.goesOn && s.status != 0 then { s with flow := .exits } else s

/-- Whether a loop goes on after a round, and the state behind it. -/
def afterRound (s : State) : Bool × State :=
  match s.flow with
  | .next => (true, s)
  | .repeats n =>
    if n ≤ 1 then (true, { s with flow := .next })
    else (false, { s with flow := .repeats (n - 1) })
  | .leaves n => (false, { s with flow := if n ≤ 1 then .next else .leaves (n - 1) })
  | _ => (false, s)

/-- The state after a utility that runs as a process, by the name that it was called by. -/
def runUtility (s : State) (name called : Text) (arguments : List Text) : State :=
  let call : Call := ⟨called, arguments, [], s.inputKind, s.machine.disk⟩
  let reads := Utility.readsInput name call
  match Utility.find? name with
  | none => s.refuse 127 (name ++ ": not found".toList)
  | some u =>
    let effect := u (if reads then { call with input := s.input } else call)
    (if reads then s.withInput [] else s).after effect

/-- The variables that programs see, with so much behind each. -/
def shownVariables (s : State) (ending : Char) : Text :=
  s.exports.reverse.flatMap fun v => v.name ++ '=' :: v.value.getD [] ++ [ending]

/-- The state after a program that starts no other one. -/
def refusedBy (s : State) (r : Refused) : State := (s.write 2 r.text).withStatus r.status

/-- The state in another folder. -/
def inFolder (s : State) (path : Text) : Except Fault State :=
  match s.machine.disk.locate true (Octet.toText path) with
  | .ok ⟨l, some .folder⟩ =>
    .ok { s with machine := { s.machine with disk := { s.machine.disk with cwd := l } } }
  | .ok ⟨_, some _⟩ => .error .notFolder
  | .ok ⟨_, none⟩ => .error .notFound
  | .error f => .error f

/-! ## Starting a shell -/

/-- How a shell is started. -/
structure Start where
  /-- Its settings. -/
  switches : Switches
  /-- Whether its first argument is the source of commands. -/
  fromArgument : Bool
  /-- The arguments behind its options. -/
  rest : List Text
  /-- The complaint about an option. -/
  problem : Option Text

/-- Reads the letters of an option; an `o` takes the next of the words that follow as a name. -/
def Start.letters (st : Start) (on : Bool) : (letters : Text) → (words : List Text) → Start
  | [], _ => st
  | 'c' :: cs, words => Start.letters { st with fromArgument := true } on cs words
  | 'o' :: cs, words =>
    match words with
    | [] => st
    | name :: words =>
      match st.switches.putNamed? name on with
      | some switches => Start.letters { st with switches } on cs words
      | none => { st with problem := some ("Illegal option -o ".toList ++ name) }
  | c :: cs, words =>
    match st.switches.putLetter? c on with
    | some switches => Start.letters { st with switches } on cs words
    | none => { st with problem := some ("Illegal option -".toList ++ [c]) }

/-- Reads the options of a shell. -/
def Start.read (st : Start) : List Text → Start
  | [] => st
  | ['-', '-'] :: rest => { st with rest }
  | ['-'] :: rest => { st with rest }
  | (sign :: c :: cs) :: rest =>
    if sign = '-' ∨ sign = '+' then
      let st := st.letters (sign == '-') (c :: cs) rest
      if st.problem.isSome then st else Start.read st (rest.drop ((c :: cs).count 'o'))
    else { st with rest := (sign :: c :: cs) :: rest }
  | rest => { st with rest }
termination_by args => args.length
decreasing_by simp only [List.length_cons, List.length_drop]; omega

/-- The start that arguments ask for. -/
def Start.ofArguments (args : List Text) : Start :=
  Start.read ⟨⟨[]⟩, false, [], none⟩ args

/-- The variables of a new shell: those that it is given, its own, and the working folder. -/
def firstVariables (s : State) (parent : Nat) : List Variable :=
  let own (name value : String) : Variable := ⟨name.toList, some value.toList, false, false⟩
  let always := [own "IFS" " \t\n", own "OPTIND" "1",
    ⟨"PPID".toList, some (Text.decimal parent), false, false⟩,
    ⟨"PWD".toList, some s.folderText, true, false⟩]
  let otherwise := [own "PATH" "/usr/local/sbin:/usr/local/bin:/usr/sbin:/usr/bin:/sbin:/bin",
    own "PS1" "# ", own "PS2" "> ", own "PS4" "+ "]
  let given := s.exports.filter fun v => !always.any (·.name == v.name)
  always ++ otherwise.filter (fun v => !given.any (·.name == v.name)) ++ given

/-- A new shell in the place of a process, with the variables that programs see. -/
def fresh (s : State) (process : Nat) (name : Text) (switches : Switches) : State :=
  { s with
    process, main := process, name, arguments := []
    bindings := s.firstVariables (if process = s.process then process - 1 else s.process)
    functions := [], aliases := []
    status := 0, substituted := 0, lastJob := none, jobs := [], switches
    traps := s.traps.filter (·.2.isEmpty)
    depth := 0, loops := 0, shadowed := [], keptSwitches := none, line := 0, context := []
    pending := [], found := [], optionPlace := none, flow := .next }

/-- How deep functions may call one another. -/
def callLimit : Nat := 1000

end State

open State

mutual

/-- Runs a command; `tested` says that its failure is expected. -/
def exec : (fuel : Nat) → (tested : Bool) → Command → State → State
  | 0, _, _, s => { s with flow := .stuck }
  | fuel + 1, tested, c, s =>
    if s.switches.idle then s
    else match c with
    | .nothing => s
    | .simple c => settle fuel (checked tested (simple fuel tested c s))
    | .seq a b =>
      let s := exec fuel tested a s
      if s.goesOn then exec fuel tested b s else s
    | .both a b =>
      let s := exec fuel true a s
      if s.goesOn && s.status == 0 then exec fuel tested b s else s
    | .either a b =>
      let s := exec fuel true a s
      if s.goesOn && s.status != 0 then exec fuel tested b s else s
    | .not a =>
      let s := exec fuel true a s
      if s.goesOn then s.withStatus (if s.status = 0 then 1 else 0) else s
    | .background a =>
      let c := s.child.redirect 0 .nowhere
      let later := s.machine.deadline + drainTime
      let done := finish fuel (exec fuel tested a { c with
        machine := { c.machine with deadline := later, now := c.machine.now + 1 } })
      s.detach done a.piped
    | .subshell a =>
      settle fuel (checked tested (s.rejoin (finish fuel (exec fuel tested a s.child))))
    | .pipe a b =>
      let (n, machine) := s.machine.newBuffer []
      let s := { s with machine }
      let left := s.rejoin (finish fuel (exec fuel tested a (s.child.redirect 1 (.buffer n))))
      if !left.goesOn then left
      else
        let right := s.rejoin (finish fuel (exec fuel tested b
          ({ s with machine := left.machine }.child.redirect 0 (.buffer n))))
        settle fuel (checked tested { right with machine := right.machine.dropBuffer n })
    | .branch condition yes no =>
      let s := exec fuel true condition s
      if !s.goesOn then s
      else if s.status = 0 then exec fuel tested yes s
      else
        match no with
        | .nothing => s.withStatus 0
        | no => exec fuel tested no s
    | .loop untilHolds condition body =>
      let s := rounds fuel tested untilHolds condition body 0 { s with loops := s.loops + 1 }
      { s with loops := s.loops - 1 }
    | .each name words body =>
      let (values, s) := match words with
        | some ws => expandWords (substitute fuel) ws s
        | none => (s.arguments, s)
      if !s.goesOn then s
      else
        let s := each fuel tested name body values { s with loops := s.loops + 1, status := 0 }
        { s with loops := s.loops - 1 }
    | .select w arms =>
      let (text, s) := expandText (substitute fuel) w s
      if s.goesOn then select fuel tested text arms (s.withStatus 0) else s
    | .arm .. => s
    | .define name body =>
      ({ s with functions := (name, body) :: s.functions.filter (·.1 != name) }).withStatus 0
    | .redirected line [] body => exec fuel tested body { s with line }
    | .redirected line rs body =>
      match redirectAll (substitute fuel) rs { s with line } with
      | .error s => checked tested s
      | .ok opened =>
        let done := exec fuel tested body opened
        { done with streams := s.streams }

/-- Runs the rounds of a loop; `last` is the exit code of the last round. -/
def rounds : (fuel : Nat) → (tested untilHolds : Bool) → (condition body : Command) →
    (last : Nat) → State → State
  | 0, _, _, _, _, _, s => { s with flow := .stuck }
  | fuel + 1, tested, untilHolds, condition, body, last, s =>
    let (goes, s) := afterRound (exec fuel true condition s)
    if !goes then s
    else if (s.status == 0) == untilHolds then s.withStatus last
    else
      let (goes, s) := afterRound (exec fuel tested body s)
      if goes then rounds fuel tested untilHolds condition body s.status s else s

/-- Runs a command for each of some values. -/
def each : (fuel : Nat) → (tested : Bool) → (name : Text) → (body : Command) → List Text →
    State → State
  | 0, _, _, _, _, s => { s with flow := .stuck }
  | _, _, _, _, [], s => s
  | fuel + 1, tested, name, body, v :: vs, s =>
    let s := s.assignChecked name v
    if !s.goesOn then s
    else
      let (goes, s) := afterRound (exec fuel tested body s)
      if goes then each fuel tested name body vs s else s

/-- Runs the first arm with a pattern that a text matches. -/
def select : (fuel : Nat) → (tested : Bool) → (text : Text) → Command → State → State
  | 0, _, _, _, s => { s with flow := .stuck }
  | fuel + 1, tested, text, arms, s =>
    match arms with
    | .arm patterns body others =>
      let (found, s) := patterns.foldl
        (fun (done : Bool × State) w =>
          if done.1 then done
          else
            let (g, s) := expandPattern (substitute fuel) w done.2
            (g.accepts text, s)) (false, s)
      if found then exec fuel tested body s else select fuel tested text others s
    | _ => s

/-- Runs a simple command. -/
def simple : (fuel : Nat) → (tested : Bool) → Simple → State → State
  | 0, _, _, s => { s with flow := .stuck }
  | fuel + 1, tested, c, s =>
    let run := substitute fuel
    let (words, before) := expandCommand run c.words { s with line := c.line, substituted := 0 }
    if !before.goesOn then before
    else
      let (values, s) := assignAll run c.assignments before
      let names := values.map (·.1)
      if !s.goesOn then s
      else
        let opened := redirectAll run c.redirections (s.trace run values words)
        match words, opened with
        | [], .error s => { s with streams := before.streams }
        | [], .ok s =>
          { s with streams := before.streams, status := s.substituted }
        | name :: args, opened =>
          if specialNames.contains name then
            match opened with
            | .error s => { s with streams := before.streams, flow := .exits }
            | .ok s =>
              let done := special fuel tested name args s
              if name = "exec".toList ∧ args.isEmpty then done
              else { done with streams := before.streams }
          else
            let done := match opened with
              | .error s => s
              | .ok s => command fuel tested name args (s.exportAll names)
            { done.restore names before with streams := before.streams }

/-- Runs a command by its name: a function, a command of the shell or a program. -/
def command : (fuel : Nat) → (tested : Bool) → (name : Text) → (args : List Text) → State → State
  | 0, _, _, _, s => { s with flow := .stuck }
  | fuel + 1, tested, name, args, s =>
    match s.functions.find? (·.1 == name) with
    | some (_, body) => call fuel tested body args s
    | none =>
      if name = "command".toList then direct fuel args s
      else if isBuiltin name then s.builtin name args
      else
        start fuel s.machine.next (name :: args)
          { s.noted name with machine := { s.machine with next := s.machine.next + 1 } }

/-- Runs a command without asking for functions, or says what a name stands for. -/
def direct : (fuel : Nat) → (args : List Text) → State → State
  | 0, _, s => { s with flow := .stuck }
  | fuel + 1, args, s =>
    match args with
    | [] => s.withStatus 0
    | ['-', 'p'] :: args => direct fuel args s
    | ['-', '-'] :: args => direct fuel args s
    | ['-', 'v'] :: names => if names.isEmpty then s.withStatus 0 else s.locate (names.headD [])
    | ['-', 'V'] :: names => s.describe (names.take 1)
    | ('-' :: c :: _) :: _ =>
      s.refuseIn "command".toList 2 ("Illegal option -".toList ++ [c])
    | name :: args =>
      if specialNames.contains name then special fuel false name args s
      else if isBuiltin name then s.builtin name args
      else
        start fuel s.machine.next (name :: args)
          { s.noted name with machine := { s.machine with next := s.machine.next + 1 } }

/-- Runs a special command of the shell. -/
def special : (fuel : Nat) → (tested : Bool) → (name : Text) → (args : List Text) → State → State
  | 0, _, _, _, s => { s with flow := .stuck }
  | fuel + 1, tested, name, args, s =>
    let within (lead : Text) (source : Source) : State :=
      let done := lines fuel tested source { s with status := 0, context := lead ++ ": ".toList }
      { done with context := s.context }
    match String.ofList name with
    | "eval" =>
      if args.isEmpty then s.withStatus 0 else within name (.ofText (Text.joined [' '] args) 1)
    | "." =>
      match args with
      | [] => s.withStatus 0
      | path :: _ =>
        let found := if path.contains '/' then path
          else ((Loaded.folders s.searchPath).map fun f => f ++ '/' :: path).find?
            (s.machine.disk.isThere ·) |>.getD path
        let missing := !path.contains '/' && found = path
        let content := if missing then .error .notFound
          else if s.machine.disk.isFolderAt found then .ok [] else s.machine.disk.read found
        match content with
        | .error f =>
          s.refuseIn name 2 (if missing then path ++ ": not found".toList else openFault path f)
        | .ok source =>
          let done := within path { Source.ofText source 1 with visible := true }
          if done.flow = .returns then { done with flow := .next } else done
    | "exec" =>
      if args.isEmpty then s.withStatus 0
      else
        match Loaded.find s.machine.disk s.searchPath (args.headD []) with
        | .error f =>
          let s := s.refuse (Loaded.shellCode s.machine.disk s.searchPath (args.headD []) f)
            ("exec: ".toList ++ args.headD [] ++ ": ".toList ++ Loaded.shellWording f)
          { s with flow := .exits }
        | .ok _ =>
          let done := start fuel s.process args { s with traps := s.traps.filter (·.2.isEmpty) }
          if done.goesOn then { done with flow := .exits } else done
    | _ => s.builtin name args

/-- Calls a function. -/
def call : (fuel : Nat) → (tested : Bool) → (body : Command) → (args : List Text) → State → State
  | 0, _, _, _, s => { s with flow := .stuck }
  | fuel + 1, tested, body, args, s =>
    if callLimit ≤ s.depth then
      s.giveUp "Maximum function recursion depth (1000) reached".toList
    else
      let done := exec fuel tested body
        { s with
          arguments := args, depth := s.depth + 1, loops := 0, shadowed := []
          keptSwitches := none }
      let back := done.shadowed.foldl
        (fun s v => if v.value.isSome || v.exported then s.putVariable v else s.unset v.name) done
      { back with
        arguments := s.arguments
        depth := s.depth
        loops := s.loops
        shadowed := s.shadowed
        keptSwitches := s.keptSwitches
        switches := done.keptSwitches.getD done.switches
        flow := if done.flow = .returns then .next else done.flow }

/-- Runs the lines of a source. -/
def lines : (fuel : Nat) → (tested : Bool) → Source → State → State
  | 0, _, _, s => { s with flow := .stuck }
  | fuel + 1, tested, source, s =>
    match Shell.readLine { source with aliases := s.aliases } with
    | .error m =>
      let s := s.reveal source fun _ => source.upTo m.line
      { s with line := m.line }.giveUp ("Syntax error: ".toList ++ m.message)
    | .ok .finished => s.reveal source fun _ => source.rest
    | .ok (.command c rest) =>
      let s := s.reveal source fun _ => source.rest.take (source.rest.length - rest.rest.length)
      let s := exec fuel tested c s
      if s.goesOn then lines fuel tested rest s else s

/-- Runs commands, and gives their output. -/
def substitute : (fuel : Nat) → Substitute
  | 0, _, _, s => ([], { s with flow := .stuck })
  | fuel + 1, line, source, s =>
    let (n, machine) := s.machine.newBuffer []
    let s := { s with machine }
    let inner := s.child.redirect 1 (.buffer n)
    let done := s.rejoin (finish fuel (lines fuel false (.ofText source line) inner))
    (done.machine.bufferText n,
      { done with
        machine := done.machine.dropBuffer n
        status := s.status
        substituted := done.status })

/-- Runs the actions for signals that have come. -/
def settle : (fuel : Nat) → State → State
  | 0, s => { s with flow := .stuck }
  | fuel + 1, s =>
    match s.pending with
    | [] => s
    | signal :: more =>
      if !s.goesOn then s
      else
        let action := ((s.traps.find? (·.1 == signal)).map (·.2)).getD []
        let done := lines fuel false (.ofText action 1) { s with pending := more }
        settle fuel (if done.goesOn then done.withStatus s.status else done)

/-- Ends a process: what it does at its end is done. -/
def finish : (fuel : Nat) → State → State
  | 0, s => { s with flow := .stuck }
  | fuel + 1, s =>
    match s.flow, s.traps.find? (·.1 == 0) with
    | .stuck, _ => s
    | .killed .., _ => s
    | _, none => s
    | _, some (_, action) =>
      let done := lines fuel false (.ofText action 1)
        { s with flow := .next, traps := s.traps.filter (·.1 != 0) }
      if done.flow = .next then done.withStatus s.status else done

/-- Starts a program as a process with a number, and waits for it. -/
def start : (fuel : Nat) → (process : Nat) → (words : List Text) → State → State
  | 0, _, _, s => { s with flow := .stuck }
  | fuel + 1, process, words, s =>
    let name := words.headD []
    match Loaded.find s.machine.disk s.searchPath name with
    | .error f => s.refuse (Loaded.shellCode s.machine.disk s.searchPath name f)
      (name ++ ": ".toList ++ Loaded.shellWording f)
    | .ok f => load fuel process f words s

/-- Runs a program that was found. -/
def load : (fuel : Nat) → (process : Nat) → Loaded.Found → (words : List Text) → State → State
  | 0, _, _, _, s => { s with flow := .stuck }
  | fuel + 1, process, f, words, s =>
    let called := words.headD []
    let args := words.drop 1
    match f.program with
    | .commands => shell fuel process (called :: f.path :: args) s
    | .script interpreter argument =>
      start fuel process (interpreter :: argument.toList ++ f.path :: args) s
    | .utility name =>
      match String.ofList name with
      | "sh" => shell fuel process words s
      | "env" => withEnvironment fuel process called args s
      | _ => s.runUtility name called args

/-- Runs another program in the place of one that has something to say if it cannot. -/
def replace : (fuel : Nat) → (process : Nat) → (lead : Text → Text) → (words : List Text) →
    State → State
  | 0, _, _, _, s => { s with flow := .stuck }
  | fuel + 1, process, lead, words, s =>
    let name := words.headD []
    let found := if name.isEmpty then .error .notFound
      else Loaded.find s.machine.disk s.searchPath name
    match found with
    | .ok f => load fuel process f words s
    | .error e =>
      (s.write 2 (lead name ++ ": ".toList ++ e.wording ++ ['\n'])).withStatus
        (Loaded.programCode e)

/-- Runs a program with other variables. -/
def withEnvironment : (fuel : Nat) → (process : Nat) → (called : Text) → (args : List Text) →
    State → State
  | 0, _, _, _, s => { s with flow := .stuck }
  | fuel + 1, process, called, args, s =>
    match Surroundings.ofArguments called args with
    | .error r => s.refusedBy r
    | .ok e =>
      let kept := if e.clears then [] else s.bindings
      let inner := { s with bindings := kept.filter fun v => !e.forgets.contains v.name }
      let inner := e.sets.foldl (fun s v => s.putVariable ⟨v.1, some v.2, true, false⟩) inner
      if e.words.isEmpty then
        (s.write 1 (inner.shownVariables e.ending)).withStatus 0
      else
        let moved := match e.folder with
          | none => Except.ok inner
          | some p => inner.inFolder p
        match moved with
        | .error f =>
          (s.write 2 (called ++ ": cannot change directory to '".toList ++ e.folder.getD [] ++
            "': ".toList ++ f.wording ++ ['\n'])).withStatus 125
        | .ok inner =>
          let named (n : Text) : Text := called ++ ": ".toList ++ Call.inQuotes n
          let done := replace fuel process named e.words inner
          let disk := { done.machine.disk with cwd := s.machine.disk.cwd }
          { done with bindings := s.bindings, machine := { done.machine with disk } }

/-- Runs a shell. -/
def shell : (fuel : Nat) → (process : Nat) → (words : List Text) → State → State
  | 0, _, _, s => { s with flow := .stuck }
  | fuel + 1, process, words, s =>
    let st := Start.ofArguments (words.drop 1)
    let inner := s.fresh process (words.headD []) st.switches
    let run (source : Source) (inner : State) : State :=
      s.rejoin (finish fuel (lines fuel false source inner))
    let shown (source : Text) : Source := { Source.ofText source 1 with visible := true }
    match st.problem with
    | some m => s.rejoin (inner.giveUp m)
    | none =>
      if st.fromArgument then
        match st.rest with
        | [] => s.rejoin (inner.giveUp "-c requires an argument".toList)
        | source :: more =>
          run (.ofText source 1)
            { inner with name := more.headD inner.name, arguments := more.drop 1 }
      else
        match st.rest with
        | path :: args =>
          if st.switches.has "stdin" then run (shown s.input) { inner with arguments := st.rest }
          else
            match s.machine.disk.read path with
            | .ok source =>
              run (shown (source.filter (· != '\x00')))
                { inner with name := path, arguments := args }
            | .error f => s.rejoin (inner.giveUp (openFault path f))
        | [] =>
          run (shown s.input)
            { inner.withInput [] with switches := inner.switches.put "stdin" true }

end

end Shell
end DocExamples
