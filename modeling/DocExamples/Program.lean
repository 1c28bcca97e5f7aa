/-
# Programs

An example becomes a program of its own: a header that says where it comes from,
a namespace import of the documented module, the example's own imports, the
module's exports as constants, two assertion functions, and the example's other
lines inside an asynchronous function that is called once and fails the process on
any error.
-/

import DocExamples.Example
import DocExamples.Import
import DocExamples.Json.Writer

namespace DocExamples
namespace Program

/-- The name that the documented module is imported under. -/
def moduleAlias : Text := "__testdoc_module".toList

/-- The name of the function around the example. -/
def runnerName : Text := "__runExample".toList

/-- The assertion functions that every program has. -/
def assertions : Text := "function assert(condition, message) \x7b
  if (!condition) \x7b
    throw new Error(message ?? \"Assertion failed\");
  \x7d
\x7d

function assertEqual(actual, expected, message) \x7b
  if (actual !== expected) \x7b
    throw new Error(
      message ?? `Expected $\x7bJSON.stringify(expected)\x7d, got $\x7bJSON.stringify(actual)\x7d`
    );
  \x7d
\x7d".toList

/-- The exports that the example does not bind itself. -/
def ambient (imports exports : List Text) : List Text :=
  let bound := imports.flatMap Import.boundNames
  exports.filter fun n => !bound.contains n

/-- The line that binds exports of the module, if there are any to bind. -/
def bindings (names : List Text) : List Text :=
  if names.isEmpty then []
  else [[], "const \x7b ".toList ++ Text.joined ", ".toList names ++ " \x7d = ".toList ++
    moduleAlias ++ ";".toList]

/-- Everything before the wrapped example, where `modulePath` is the path of the
documented module. -/
def prelude (e : Example) (modulePath : Text) (imports exports : List Text) : Text :=
  Text.unlines <|
    ["// Auto-generated test for: ".toList ++ e.name,
      "// From: ".toList ++ e.location,
      [],
      "import * as ".toList ++ moduleAlias ++ " from ".toList ++ Json.writeText modulePath ++
        ";".toList] ++
    imports ++ bindings (ambient imports exports) ++ [[], assertions]

/-- A line inside the function: two spaces further in, or empty if it is blank. -/
def indented (line : Text) : Text :=
  if Text.isBlankLine line then [] else ' ' :: ' ' :: line

/-- Lines inside a function that is called once and whose failure ends the process
with code 1. -/
def wrapped (body : List Text) : Text :=
  Text.unlines <|
    ["async function ".toList ++ runnerName ++ "() \x7b".toList] ++ body.map indented ++
    ["\x7d".toList, [], runnerName ++ "().catch((err) => \x7b".toList,
      "  console.error(err);".toList, "  process.exit(1);".toList, "\x7d);".toList]

/-- The program of an example. -/
def ofExample (cwd modulePath : Text) (exports : List Text) (e : Example) : Text :=
  let lines := Text.lines e.code
  prelude e modulePath (Import.statements cwd e.origin lines) exports ++ "\n\n".toList ++
    wrapped (Import.divide lines).others ++ ['\n']

end Program
end DocExamples
