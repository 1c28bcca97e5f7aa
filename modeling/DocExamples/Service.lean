/-
# The service

The service finds the examples below some paths, and runs them.  It takes paths
and options as JSON values of any shape and refuses what it cannot use; whatever
goes wrong while files are searched and read is a refusal too.  The service fails
without one where an option that it refuses cannot be shown, where the executor
cannot be made, and where the working folder is needed and gone.
-/

import DocExamples.Finder
import DocExamples.Run.Runner
import DocExamples.Settings.Environment

namespace DocExamples

/-- Why the service refuses a request. -/
inductive Refusal where
  /-- The time limit is no positive whole number. -/
  | timeout (got : Json)
  /-- The wish for output is no truth value. -/
  | verbose (got : Json)
  /-- No path was given. -/
  | missingInput
  /-- The paths are no list of texts. -/
  | notPaths
  /-- None of the paths denotes anything. -/
  | notFound (paths errors : List Text)
  /-- The search or the reading failed. -/
  | discovery (failure : Failure)
deriving Repr

namespace Refusal

/-- The code that programs go by. -/
def code : Refusal → Text
  | .timeout _ => "validation_error".toList
  | .verbose _ => "validation_error".toList
  | .missingInput => "missing_input".toList
  | .notPaths => "validation_error".toList
  | .notFound .. => "file_not_found".toList
  | .discovery _ => "internal_error".toList

/-- The message for people. -/
def message : Refusal → Text
  | .timeout got => "'timeout' must be a positive integer number of milliseconds (got ".toList ++
      got.shown ++ [')']
  | .verbose got => "'verbose' must be a boolean (got ".toList ++ got.shown ++ [')']
  | .missingInput => "No files or directories specified".toList
  | .notPaths => "'paths' must be a list of file or directory paths".toList
  | .notFound paths _ => "No such file or directory: ".toList ++ Text.joined ", ".toList paths
  | .discovery f => "Discovery failed: ".toList ++ f.message

/-- The diagnostics that go with the message. -/
def diagnostics : Refusal → List Text
  | .notFound _ errors => errors
  | _ => []

/-- Why the message cannot be made: a value that it shows may be hidden. -/
def hidden? [Stack] : Refusal → Option Failure
  | .timeout got => got.hidden? Stack.values
  | .verbose got => got.hidden? Stack.values
  | _ => none

/-- The JSON of a refusal. -/
def json (r : Refusal) : Json :=
  .record <| [("code", .string r.code), ("message", .string r.message)] ++
    if r.diagnostics.isEmpty then []
    else [("details", .record [("errors", .array (r.diagnostics.map .string))])]

end Refusal

namespace Service

/-- Options as they were given. -/
structure Options where
  /-- Whether output is wanted. -/
  verbose : Json
  /-- How many milliseconds a program may take. -/
  timeout : Json

/-- The time limit, if the options can be used. -/
def checkedTimeout (o : Options) : Except Refusal Int :=
  match o.timeout, o.verbose with
  | .int n, .bool _ => if 0 < n then .ok n else .error (.timeout (.int n))
  | .int n, v => if 0 < n then .error (.verbose v) else .error (.timeout (.int n))
  | t, _ => .error (.timeout t)

/-- The paths, if they can be used. -/
def checkedPaths (paths : Json) : Except Refusal (List Text) :=
  if paths.isEmpty then .error .missingInput
  else
    match paths.texts? with
    | some ps => .ok ps
    | none => .error .notPaths

variable [Stack]

/-- The examples below paths that can be used. -/
def discoverPaths (finder : Finder) (d : Disk) (paths : List Text) : Except Refusal Harvest :=
  match finder.find d paths with
  | .error f => .error (.discovery f)
  | .ok found =>
    if found.resolved = 0 then .error (.notFound paths found.errors)
    else
      match Harvest.ofFiles d (found.files.map (·.text)) with
      | .error f => .error (.discovery f)
      | .ok harvest => .ok { harvest with errors := found.errors ++ harvest.errors }

/-- The examples below paths. -/
def discover (d : Disk) (paths : Json) : Except Refusal Harvest := do
  let ps ← checkedPaths paths
  discoverPaths Finder.default d ps

variable {σ : Type}

/-- What a runner needs: the executor, and then the folder that programs run in. -/
def equipped (executor : Except Failure (Executor σ)) (d : Disk) (workingFolder : Option Text) :
    Except Failure (Executor σ × Path) := do
  let x ← executor
  return (x, ← Runner.folder? d workingFolder)

/-- Discovers and runs the examples below paths.  What a runner needs is made only after the
discovery. -/
def run (executor : Except Failure (Executor σ)) (d : Disk) (workingFolder : Option Text)
    (options : Options) (paths : Json) : StateM σ (Except Failure (Except Refusal Summary)) :=
  fun s =>
    match checkedTimeout options with
    | .error r =>
      match r.hidden? with
      | some f => (.error f, s)
      | none => (.ok (.error r), s)
    | .ok timeout =>
      match discover d paths with
      | .error r => (.ok (.error r), s)
      | .ok harvest =>
        match equipped executor d workingFolder with
        | .error f => (.error f, s)
        | .ok (x, folder) =>
          let done := Runner.run ⟨folder, .int timeout⟩ x harvest.examples s
          (.ok (.ok ⟨done.1, harvest.errors⟩), done.2)

end Service
end DocExamples
