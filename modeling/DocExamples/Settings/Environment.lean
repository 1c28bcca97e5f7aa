/-
# Settings from the environment

Three variables set how programs are run; a variable without a usable value
counts as absent.

| variable | meaning | default |
| --- | --- | --- |
| `TESTDOC_INTERPRETER` | the command that runs a program | `npx tsx` |
| `TESTDOC_ARTIFACT_SUFFIX` | the suffix of the program's file | `.ts` |
| `TESTDOC_TIMEOUT_MS` | milliseconds that a program may take | 5000 |
-/

import DocExamples.Settings.Words

namespace DocExamples

/-- The values of the variables, as far as they are set. -/
structure Environment where
  /-- The command that runs a program. -/
  interpreter : Option Text
  /-- The suffix of the program's file. -/
  suffix : Option Text
  /-- The milliseconds that a program may take. -/
  timeout : Option Text

/-- A command that runs programs. -/
structure Interpreter where
  /-- The program and its first arguments. -/
  command : List Text
  /-- The suffix of the files it runs. -/
  suffix : Text
deriving DecidableEq, Repr

/-- All arguments for running a file. -/
def Interpreter.arguments (i : Interpreter) (file : Text) : List Text := i.command ++ [file]

namespace Environment

/-- The variable that holds the command. -/
def interpreterName : String := "TESTDOC_INTERPRETER"

/-- The variable that holds the suffix. -/
def suffixName : String := "TESTDOC_ARTIFACT_SUFFIX"

/-- The variable that holds the time limit. -/
def timeoutName : String := "TESTDOC_TIMEOUT_MS"

/-- The command without any setting. -/
def defaultCommand : List Text := ["npx".toList, "tsx".toList]

/-- The suffix without any setting. -/
def defaultSuffix : Text := ".ts".toList

/-- The time limit without any setting. -/
def defaultTimeout : Int := 5000

/-- The command that the environment sets. -/
def command (e : Environment) : Except Failure (List Text) :=
  let raw := Text.strip (e.interpreter.getD [])
  if raw.isEmpty then .ok defaultCommand else Words.read raw

/-- The suffix that the environment sets; it always begins with a dot. -/
def fileSuffix (e : Environment) : Text :=
  let raw := Text.strip (e.suffix.getD [])
  let suffix := if raw.isEmpty then defaultSuffix else raw
  if Text.startsWith ['.'] suffix then suffix else '.' :: suffix

/-- The interpreter that the environment sets. -/
def interpreterOf (e : Environment) : Except Failure Interpreter := do
  return ⟨← e.command, e.fileSuffix⟩

/-- The time limit that the environment sets: a positive number, or else the default. -/
def timeLimit (e : Environment) : Int :=
  match e.timeout.bind Text.integer? with
  | some n => if 0 < n then n else defaultTimeout
  | none => defaultTimeout

theorem timeLimit_pos (e : Environment) : 0 < e.timeLimit := by
  unfold timeLimit
  split
  · split
    · assumption
    · decide
  · decide

end Environment
end DocExamples
