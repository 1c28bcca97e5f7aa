/-
# Tools

Two tools make the library available to programs that speak JSON: one lists the
examples below some paths, one runs them.  A tool takes an object of arguments and
answers with texts.
-/

import DocExamples.Json.Writer
import DocExamples.Run.Report
import DocExamples.Service

namespace DocExamples

/-- The description of a tool's argument. -/
structure Parameter where
  /-- The name of the argument. -/
  name : String
  /-- The JSON schema of its values. -/
  schema : Json

/-- The description of a tool. -/
structure Tool where
  /-- The name that the tool is called by. -/
  name : String
  /-- What the tool does. -/
  description : String
  /-- The arguments that it takes. -/
  parameters : List Parameter
  /-- The arguments that it needs. -/
  required : List String

namespace Tool

/-- A literal as a JSON text. -/
def word (s : String) : Json := .string s.toList

/-- The argument that lists files and folders. -/
def pathsParameter : Parameter where
  name := "paths"
  schema := .record [("type", word "array"), ("items", .record [("type", word "string")]),
    ("description", word "Files or directories to scan")]

/-- The tool that lists examples. -/
def extract : Tool where
  name := "extract_doc_examples"
  description := "Extract the @example code blocks from JSDoc comments in TypeScript and JavaScript files without running them. Returns each example's name, file, line, code and any '// =>' expected output annotation."
  parameters := [pathsParameter]
  required := ["paths"]

/-- The tool that runs examples. -/
def run : Tool where
  name := "run_doc_tests"
  description := "Run the @example code blocks from JSDoc comments as isolated tests. Each example executes in its own process with the documented file's exports and assert/assertEqual helpers in scope. Returns a pass/fail report and a JSON summary."
  parameters := [pathsParameter,
    { name := "timeout"
      schema := .record [("type", word "integer"),
        ("description", word "Per-example timeout in milliseconds (default: 5000)")] },
    { name := "verbose"
      schema := .record [("type", word "boolean"), ("description",
        word "Include captured stdout of every example in the report (default: false)")] }]
  required := ["paths"]

/-- All tools. -/
def all : List Tool := [extract, run]

/-- The JSON of a tool's description. -/
def json (t : Tool) : Json :=
  .record [("name", word t.name), ("description", word t.description),
    ("inputSchema", .record [("type", word "object"),
      ("properties", .record (t.parameters.map fun p => (p.name, p.schema))),
      ("required", .array (t.required.map word))])]

/-- The text of a refusal. -/
def refused (r : Refusal) : Text := "Error: ".toList ++ r.message

/-- The options in the arguments: an absent time limit is the one that the environment
sets, and output is wanted only if the arguments say so. -/
def options (env : Environment) (arguments : Json) : Service.Options where
  verbose := arguments.fieldOr "verbose".toList (.bool false)
  timeout :=
    match arguments.field "timeout".toList with
    | .null => .int env.timeLimit
    | t => t

section

variable [Stack]

/-- The answer of the tool that lists examples. -/
def answerExtract (d : Disk) (arguments : Json) : List Text :=
  match Service.discover d (arguments.field "paths".toList) with
  | .error r => [refused r]
  | .ok harvest => [harvest.json.write .indented]

/-- Whether options wish for output. -/
def isVerbose (o : Service.Options) : Bool :=
  match o.verbose with
  | .bool b => b
  | _ => false

/-- The report of a run and its summary, on the disk that the run has left. -/
def runTexts (d : Disk) (verbose : Bool) (s : Summary) : Except Failure (List Text) := do
  let report ← Report.fromHere d verbose s.results
  return [report, s.json.write .indented]

variable {σ : Type}

/-- The answer of the tool that runs examples. -/
def answerRun (env : Environment) (executor : Except Failure (Executor σ)) (d : Disk)
    (arguments : Json) : StateM σ (Except Failure (List Text)) := fun s =>
  let o := options env arguments
  match Service.run executor d none o (arguments.field "paths".toList) s with
  | (.error f, s) => (.error f, s)
  | (.ok (.error r), s) => (.ok [refused r], s)
  | (.ok (.ok summary), s) =>
    (runTexts (Executor.diskOr executor d s) (isVerbose o) summary, s)

/-- The texts that a call of a tool is answered with. -/
def call (env : Environment) (executor : Except Failure (Executor σ)) (d : Disk) (name : Text)
    (arguments : Json) : StateM σ (Except Failure (List Text)) := fun s =>
  if name = extract.name.toList then (.ok (answerExtract d arguments), s)
  else if name = run.name.toList then answerRun env executor d arguments s
  else (.ok ["Unknown tool: ".toList ++ name], s)

end

end Tool
end DocExamples
