/-
# A program that starts another one

`env` ends by starting another program, with other variables or in another folder.
Here stands what its arguments ask for; the runner carries it out.
-/

import DocExamples.Machine.Shell.Signals
import DocExamples.Machine.Utility.Escape
import DocExamples.Machine.Utility.Words
import DocExamples.Settings.Words

namespace DocExamples
namespace Shell

/-! ## Arguments -/

/-- Why such a program starts nothing. -/
structure Refused where
  /-- The exit code. -/
  status : Nat
  /-- The lines of complaint. -/
  text : Text

/-- A complaint, and a hint at the help text. -/
def Refused.hinted (program : Text) (status : Nat) (message : Text) : Refused :=
  ⟨status, program ++ ": ".toList ++ message ++ "\nTry '".toList ++ program ++
    " --help' for more information.\n".toList⟩

/-- The refusal of an option that is not known. -/
def Refused.option (program : Text) (status : Nat) (option : Text) : Refused :=
  Refused.hinted program status <|
    match option with
    | '-' :: '-' :: _ => "unrecognized option '".toList ++ option ++ ['\'']
    | _ => "invalid option -- '".toList ++ (option.drop 1).take 1 ++ ['\'']

/-- An option at the start of arguments: its letter, and its value if it takes one. -/
structure Chosen where
  /-- The letter. -/
  letter : Char
  /-- The value. -/
  value : Text
  /-- The arguments behind it. -/
  rest : List Text

/-- Options of a program: those that take a value, those that do not, and the long names of
letters. -/
structure OptionNames where
  /-- The letters with a value. -/
  valued : Text
  /-- The letters without a value. -/
  plain : Text
  /-- The long names. -/
  long : List (String × Char)

/-- Reads one option; nothing if the arguments do not begin with one. -/
def OptionNames.read (names : OptionNames) (program : Text) (status : Nat) :
    List Text → Except Refused (Option Chosen)
  | [] => .ok none
  | arg :: rest =>
    let missing (option : Text) : Refused :=
      Refused.hinted program status ("option requires an argument -- '".toList ++ option ++ ['\''])
    match arg with
    | '-' :: '-' :: name =>
      let cut := (Text.cut? ['='] name).getD ⟨name, []⟩
      let given := name.contains '='
      match names.long.find? fun e => e.1.toList == cut.before with
      | none => if name.isEmpty then .ok none else .error (Refused.option program status arg)
      | some (_, letter) =>
        if !names.valued.contains letter || given then .ok (some ⟨letter, cut.after, rest⟩)
        else
          match rest with
          | v :: rest => .ok (some ⟨letter, v, rest⟩)
          | [] => .error <| Refused.hinted program status
            ("option '".toList ++ arg ++ "' requires an argument".toList)
    | '-' :: letter :: more =>
      if names.valued.contains letter then
        if !more.isEmpty then .ok (some ⟨letter, more, rest⟩)
        else
          match rest with
          | v :: rest => .ok (some ⟨letter, v, rest⟩)
          | [] => .error (missing [letter])
      else if names.plain.contains letter then
        .ok (some ⟨letter, [], if more.isEmpty then rest else ('-' :: more) :: rest⟩)
      else .error (Refused.option program status arg)
    | _ => .ok none

/-! ## Other variables -/

/-- What is changed before a program is started. -/
structure Surroundings where
  /-- Whether all variables are forgotten. -/
  clears : Bool
  /-- The variables that are forgotten. -/
  forgets : List Text
  /-- The variables that are set, in order. -/
  sets : List (Text × Text)
  /-- The folder that the program runs in. -/
  folder : Option Text
  /-- What ends each variable when they are shown. -/
  ending : Char
  /-- The program and its arguments. -/
  words : List Text

namespace Surroundings

/-- No change. -/
def none : Surroundings := ⟨false, [], [], .none, '\n', []⟩

/-- The options. -/
def names : OptionNames :=
  ⟨"uCS".toList, "i0v".toList, [("ignore-environment", 'i'), ("unset", 'u'), ("chdir", 'C'),
    ("split-string", 'S'), ("null", '0'), ("debug", 'v')]⟩

/-- The variables that are set before the program's name. -/
def definitions (s : Surroundings) : List Text → Surroundings
  | [] => s
  | a :: rest =>
    match Text.cut? ['='] a with
    | some k => definitions { s with sets := s.sets ++ [(k.before, k.after)] } rest
    | .none => { s with words := a :: rest }

/-- Reads arguments, so many at most; `called` is the name that complaints begin with. -/
def read (called : Text) : (fuel : Nat) → Surroundings → List Text → Except Refused Surroundings
  | 0, s, args => .ok (s.definitions args)
  | fuel + 1, s, args =>
    match args with
    | ['-'] :: rest => .ok ({ s with clears := true }.definitions rest)
    | ['-', '-'] :: rest => .ok (s.definitions rest)
    | args => do
      match ← names.read called 125 args with
      | .none => return s.definitions args
      | some o =>
        match o.letter with
        | 'i' => read called fuel { s with clears := true } o.rest
        | '0' => read called fuel { s with ending := '\x00' } o.rest
        | 'u' => read called fuel { s with forgets := o.value :: s.forgets } o.rest
        | 'C' => read called fuel { s with folder := some o.value } o.rest
        | 'S' =>
          match Words.read o.value with
          | .ok words => read called fuel s (words ++ o.rest)
          | .error _ => throw ⟨125, called ++ ": no terminating quote in -S string\n".toList⟩
        | _ => read called fuel s o.rest

/-- The changes that arguments ask for. -/
def ofArguments (called : Text) (args : List Text) : Except Refused Surroundings :=
  let size := (args.map List.length).foldl Nat.add args.length
  read called (2 * size + 1) none args

end Surroundings

end Shell
end DocExamples
