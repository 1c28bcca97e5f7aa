/-
# How a command of the shell answers

The names of the commands that a shell carries out itself, and how such a command
ends: with an exit code, a complaint, or what a utility would have done.  An error
of a special command ends the shell.
-/

import DocExamples.Machine.Shell.State

namespace DocExamples
namespace Shell

/-- Commands whose errors end the shell. -/
def specialNames : List Text :=
  [":", ".", "break", "continue", "eval", "exec", "exit", "export", "readonly", "return", "set",
    "shift", "times", "trap", "unset", "local"].map String.toList

/-- The other commands of the shell. -/
def plainNames : List Text :=
  ["true", "false", "echo", "printf", "test", "[", "pwd", "cd", "read", "kill", "wait",
    "command", "type", "umask", "jobs", "hash", "alias", "unalias", "ulimit", "getopts", "bg",
    "fg", "chdir"].map String.toList

/-- Whether a command is carried out by the shell itself. -/
def isBuiltin (name : Text) : Bool := specialNames.contains name || plainNames.contains name

namespace State

/-- The state after a complaint of a command of the shell. -/
def refuseIn (s : State) (name : Text) (status : Nat) (message : Text) : State :=
  let said := { s with context := [] }.refuse status (name ++ ": ".toList ++ message)
  { said with context := s.context, flow := if specialNames.contains name then .exits else s.flow }

/-- The state with an exit code. -/
def withStatus (s : State) (status : Nat) : State := { s with status }

/-- The state after the output and the changes of a utility. -/
def after (s : State) (e : Effect) : State :=
  let s := e.writes.foldl (fun s w => s.write w.stream w.text)
    { s with machine := { s.machine with disk := e.disk } }
  ({ s with status := e.status }).pause e.pause

/-- Carries out a utility within the shell. -/
def utility (s : State) (name : Text) (u : Call → Effect) (arguments : List Text) : State :=
  let lead := s.name ++ ": ".toList ++ Text.decimal s.line ++ ": ".toList ++ name
  let e := u ⟨lead, arguments, [], .stream, s.machine.disk⟩
  if e.writes.any fun w => w.stream == 1 && !w.text.isEmpty && (s.channel? 1).isNone then
    s.refuseIn name 1 (name ++ ": I/O error".toList)
  else s.after e

/-- Carries out a step for each argument until the shell stops. -/
def forEach (s : State) (args : List Text) (step : State → Text → State) : State :=
  args.foldl (fun s a => if s.goesOn then step s a else s) (s.withStatus 0)

/-- The letters of the options that arguments begin with, and the arguments behind them, or the
first letter that stands for no option. -/
def leadingOptions (known : String) : List Text → Except Char (Text × List Text)
  | [] => .ok ([], [])
  | ['-', '-'] :: rest => .ok ([], rest)
  | ('-' :: c :: cs) :: rest =>
    match (c :: cs).find? fun c => !known.toList.contains c with
    | some bad => .error bad
    | none => (leadingOptions known rest).map fun r => (c :: cs ++ r.1, r.2)
  | rest => .ok ([], rest)

/-- Carries out a command on its options and operands, if it knows all of the options. -/
def withOptions (s : State) (name : Text) (known : String) (args : List Text)
    (run : Text → List Text → State) : State :=
  match leadingOptions known args with
  | .ok (letters, operands) => run letters operands
  | .error c => s.refuseIn name 2 ("Illegal option -".toList ++ [c])

end State
end Shell
end DocExamples
