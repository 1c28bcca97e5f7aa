/-
# Examples of files

The examples of several files are collected in the order of the files.  A file
that cannot be read gives a diagnostic in place of examples.
-/

import DocExamples.Disk.Source
import DocExamples.Example
import DocExamples.Json.Value

namespace DocExamples

/-- Examples, and a diagnostic for everything that could not be read. -/
structure Harvest where
  /-- The examples, in the order of the files. -/
  examples : List Example
  /-- The diagnostics. -/
  errors : List Text
deriving DecidableEq, Repr

namespace Harvest

/-- Nothing yet. -/
def empty : Harvest := ⟨[], []⟩

/-- One harvest after another. -/
def append (a b : Harvest) : Harvest := ⟨a.examples ++ b.examples, a.errors ++ b.errors⟩

instance : Append Harvest := ⟨append⟩

/-- The diagnostic for a file that cannot be read. -/
def unreadable (origin : Text) (reason : Unreadable) : Text :=
  "Failed to parse ".toList ++ origin ++ ": ".toList ++ reason.message

/-- The examples of one file. -/
def ofFile (d : Disk) (origin : Text) : Except Failure Harvest :=
  match d.sourceText (Path.ofText origin) with
  | .error f => .error f
  | .ok (.error reason) => .ok ⟨[], [unreadable origin reason]⟩
  | .ok (.ok source) => .ok ⟨Example.ofSource origin source, []⟩

/-- The examples of files. -/
def ofFiles (d : Disk) : List Text → Except Failure Harvest
  | [] => .ok empty
  | origin :: origins => do
    let a ← ofFile d origin
    let b ← ofFiles d origins
    return a ++ b

end Harvest

/-- The JSON of an expected output. -/
def Json.ofOption : Option Text → Json
  | some s => .string s
  | none => .null

/-- An object whose field names are given as literals. -/
def Json.record (fields : List (String × Json)) : Json :=
  .object (fields.map fun f => (f.1.toList, f.2))

/-- The JSON of an example. -/
def Example.json (e : Example) : Json :=
  .record [("name", .string e.name), ("file", .string e.origin), ("line", .int e.line),
    ("code", .string e.code), ("expected_output", .ofOption e.expected)]

/-- The JSON of a harvest. -/
def Harvest.json (h : Harvest) : Json :=
  .record [("total", .int h.examples.length), ("examples", .array (h.examples.map (·.json))),
    ("errors", .array (h.errors.map .string))]

end DocExamples
