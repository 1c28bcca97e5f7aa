/-
# The command line

    testdoc [-v] [--timeout MS] [--dry-run] [--version] [--help] [PATHS]...

The command leaves it to a console to understand its arguments, and to put texts on
its two streams.  The usual console reads arguments like this: options may stand
between paths, and everything behind `--` is a path.  Of an option that is given
several times the last value counts.  `--version` and `--help` answer before any
value is looked at, the first of them first; an argument that cannot be understood
comes before both.  It prints no control sequences.
-/

import DocExamples.Run.Report
import DocExamples.Service
import DocExamples.Text.Control

namespace DocExamples
namespace CommandLine

/-- The name and version that `--version` shows. -/
def version : Text := "testdoc v0.1.0\n".toList

/-- What `--help` shows. -/
def help : Text := "Usage: testdoc [OPTIONS] [PATHS]...

  Run code examples from JSDoc comments as tests.

Arguments:
  [PATHS]...  Files or directories to scan.

Options:
  -v, --verbose      Show verbose output.
  --timeout INTEGER  Per-example timeout in ms (default: 5000).  [x>=1]
  --dry-run          Parse and show examples without running them.
  --version          Show version and exit.
  --help             Show this message and exit.
".toList

/-- What the arguments ask for. -/
structure Request where
  /-- The paths. -/
  paths : List Text
  /-- Whether output is wanted. -/
  verbose : Bool
  /-- How many milliseconds a program may take. -/
  timeout : Option Int
  /-- Whether nothing is to be run. -/
  dryRun : Bool
deriving DecidableEq, Repr

/-- What arguments are understood as. -/
inductive Understood where
  /-- They cannot be understood, or hold a value that cannot be used. -/
  | usage
  /-- A text is to be printed, and nothing more. -/
  | notice (text : Text)
  /-- The command is to be carried out. -/
  | request (r : Request)
deriving DecidableEq, Repr

/-- What stands between the command and those who call it. -/
structure Console where
  /-- What arguments are understood as, where paths are looked at on a disk. -/
  understand : Disk → List Text → Understood
  /-- A text as it is put on a stream. -/
  shown : Text → Text

/-! ### The usual console -/

/-- An option that answers at once. -/
inductive Notice where
  /-- The name and version. -/
  | version
  /-- The help text. -/
  | help
deriving DecidableEq, Repr

/-- Arguments as they were read. -/
structure Arguments where
  /-- The paths, the last one first. -/
  paths : List Text
  /-- Whether output is wanted. -/
  verbose : Bool
  /-- Whether nothing is to be run. -/
  dryRun : Bool
  /-- The last time limit, not yet looked at. -/
  timeout : Option Text
  /-- The first option that answers at once. -/
  notice : Option Notice
deriving DecidableEq, Repr

namespace Arguments

/-- No argument yet. -/
def none : Arguments := ⟨[], false, false, .none, .none⟩

/-- One path more. -/
def withPath (a : Arguments) (p : Text) : Arguments := { a with paths := p :: a.paths }

/-- One notice more; an earlier one counts. -/
def withNotice (a : Arguments) (n : Notice) : Arguments := { a with notice := a.notice <|> some n }

end Arguments

/-- The value of an option that is written with an equals sign. -/
def attached? (option s : Text) : Option Text := Text.after? (option ++ ['=']) s

/-- Reads arguments, after those read already; nothing if one cannot be understood. -/
def readFrom : Arguments → List Text → Option Arguments
  | a, [] => some a
  | a, s :: rest =>
    if s = "--timeout".toList then
      match rest with
      | value :: rest => readFrom { a with timeout := some value } rest
      | [] => none
    else
      match attached? "--timeout".toList s with
      | some value => readFrom { a with timeout := some value } rest
      | none =>
        if s = "--".toList then some { a with paths := rest.reverse ++ a.paths }
        else if s = "--verbose".toList then readFrom { a with verbose := true } rest
        else if s = "--dry-run".toList then readFrom { a with dryRun := true } rest
        else if s = "--version".toList then readFrom (a.withNotice .version) rest
        else if s = "--help".toList then readFrom (a.withNotice .help) rest
        else
          match s with
          | '-' :: c :: cs =>
            if (c :: cs).all (· == 'v') then readFrom { a with verbose := true } rest else none
          | _ => readFrom (a.withPath s) rest

/-- The time limit that was given: nothing is no limit, and a value has to be a
positive number. -/
def limit? (a : Arguments) : Option (Option Int) :=
  match a.timeout with
  | none => some none
  | some s => (Text.count? s).map fun n => some n

/-- A path that is there and may not be read. -/
def isBarred (d : Disk) (p : Text) : Bool :=
  match d.locate true p with
  | .ok ⟨l, some _⟩ => !d.rights.read l
  | _ => false

/-- What arguments that were read are understood as. -/
def Arguments.understood (a : Arguments) (d : Disk) : Understood :=
  match a.notice with
  | some .version => .notice version
  | some .help => .notice help
  | .none =>
    match limit? a with
    | .none => .usage
    | some limit =>
      if a.paths.any fun p => p.contains '\x00' || isBarred d p then .usage
      else .request ⟨a.paths.reverse, a.verbose, limit, a.dryRun⟩

/-- The console that is there by default, with streams that are no terminals. -/
def usual : Console where
  understand d arguments :=
    match readFrom .none arguments with
    | none => .usage
    | some a => a.understood d
  shown := Text.withoutControls

/-! ### The command -/

/-- What the command has written, and its exit code. -/
structure Printed where
  /-- The exit code. -/
  exitCode : Nat
  /-- What was written to standard output. -/
  stdout : Text
  /-- What was written to standard error. -/
  stderr : Text
deriving DecidableEq, Repr

/-- What the command comes to. -/
inductive Answer where
  /-- The arguments cannot be understood. -/
  | usage
  /-- The command was carried out. -/
  | printed (p : Printed)
deriving DecidableEq, Repr

section

variable (c : Console)

/-- A text as a line. -/
def line (s : Text) : Text := c.shown s ++ ['\n']

/-- A diagnostic as a line. -/
def warning (s : Text) : Text := line c ("⚠️  ".toList ++ s)

/-- What the command says it is about to do. -/
def announcement (paths : List Text) : Text :=
  line c ("\nScanning for doc examples in: ".toList ++ Text.joined ", ".toList paths ++ ['\n'])

/-- What is written when the discovery fails. -/
def printedRefusal (paths : List Text) (r : Refusal) : Printed :=
  ⟨1, announcement c paths,
    r.diagnostics.flatMap (warning c) ++ line c ("Error: ".toList ++ r.message)⟩

/-- What is written before examples are run or listed. -/
def foundText (paths : List Text) (h : Harvest) : Text :=
  announcement c paths ++
    line c ("Found ".toList ++ Text.decimal h.examples.length ++ " doc example(s)\n".toList)

/-- What is written when there is nothing to run. -/
def printedNothing (paths : List Text) (h : Harvest) : Printed :=
  ⟨0, announcement c paths ++ line c "No @example blocks found in JSDoc comments.".toList,
    h.errors.flatMap (warning c)⟩

/-- What is written when examples are only listed. -/
def printedListing (paths : List Text) (h : Harvest) : Printed :=
  ⟨0, foundText c paths h ++ line c "Dry run - showing examples without executing:\n".toList ++
    line c (Report.listing h.examples), h.errors.flatMap (warning c)⟩

/-- What is written before the first example is run. -/
def runningText (paths : List Text) (h : Harvest) : Text :=
  foundText c paths h ++ line c "Running doc tests...\n".toList

/-- What is written when examples were run. -/
def printedResults (report : Text) (paths : List Text) (h : Harvest) (results : List Result) :
    Printed :=
  ⟨(Summary.mk results h.errors).exitCode, runningText c paths h ++ line c report,
    h.errors.flatMap (warning c)⟩

/-- What is written when nothing can be run, or nothing be reported. -/
def printedFailure (paths : List Text) (h : Harvest) (f : Failure) : Printed :=
  ⟨1, runningText c paths h,
    h.errors.flatMap (warning c) ++ line c ("Fatal error: ".toList ++ f.message)⟩

variable {σ : Type} [Stack]

/-- Finds, and lists or runs, the examples below paths. -/
def scan (executor : Except Failure (Executor σ)) (d : Disk) (verbose dryRun : Bool)
    (timeout : Int) (paths : List Text) : StateM σ Printed := fun s =>
  match Service.discoverPaths Finder.default d paths with
  | .error r => (printedRefusal c paths r, s)
  | .ok h =>
    if h.examples.isEmpty then (printedNothing c paths h, s)
    else if dryRun then (printedListing c paths h, s)
    else
      match Service.equipped executor d none with
      | .error f => (printedFailure c paths h f, s)
      | .ok (x, folder) =>
        let done := Runner.run ⟨folder, .int timeout⟩ x h.examples s
        match Report.fromHere (x.disk done.2) verbose done.1 with
        | .error f => (printedFailure c paths h f, done.2)
        | .ok report => (printedResults c report paths h done.1, done.2)

/-- The time limit that is asked for, or else the one that the environment sets. -/
def limitOr (env : Environment) (timeout : Option Int) : Int :=
  match timeout with
  | some n => if n = 0 then env.timeLimit else n
  | none => env.timeLimit

/-- Carries out the command on a console. -/
def runOn (env : Environment) (executor : Except Failure (Executor σ)) (d : Disk)
    (arguments : List Text) : StateM σ Answer := fun s =>
  match c.understand d arguments with
  | .usage => (.usage, s)
  | .notice text => (.printed ⟨0, text, []⟩, s)
  | .request r =>
    if r.paths.isEmpty then
      (.printed ⟨1, [], line c "Error: No files or directories specified".toList⟩, s)
    else
      let paths := r.paths.map fun p => (Path.ofText p).text
      let done := scan c executor d r.verbose r.dryRun (limitOr env r.timeout) paths s
      (.printed done.1, done.2)

/-- Carries out the command on the usual console. -/
def run (env : Environment) (executor : Except Failure (Executor σ)) (d : Disk)
    (arguments : List Text) : StateM σ Answer :=
  runOn usual env executor d arguments

end

end CommandLine
end DocExamples
