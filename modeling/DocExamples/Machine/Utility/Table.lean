/-
# The utilities

All utilities by their names, and which calls of them read standard input.  There are
those that show, search and change texts and files, as runs of examples ask for them.
-/

import DocExamples.Machine.Utility.Editor
import DocExamples.Machine.Utility.Excerpt
import DocExamples.Machine.Utility.Listing
import DocExamples.Machine.Utility.Order
import DocExamples.Machine.Utility.Predicate
import DocExamples.Machine.Utility.Printing
import DocExamples.Machine.Utility.Search
import DocExamples.Machine.Utility.Transliteration
import DocExamples.Machine.Utility.Words

namespace DocExamples
namespace Utility

/-- Succeeds. -/
def succeed (c : Call) : Effect := c.exit 0

/-- Fails. -/
def fail (c : Call) : Effect := c.exit 1

/-- Shows the working folder. -/
def pwd (c : Call) : Effect :=
  let o := c.optionsWith [("logical", 'L'), ("physical", 'P')] "" "LP"
  match o.fault with
  | some f => c.badOption 1 f
  | none =>
    let warned := if o.operands.isEmpty then []
      else [c.complaint "ignoring non-option arguments".toList]
    let shown := Octet.ofText ('/' :: Text.joined ['/'] c.disk.cwd) ++ ['\n']
    { c.exit 0 with writes := warned ++ [⟨1, shown⟩] }

/-- The utilities that read standard input where no file is named. -/
def filters : List (String × (Call → Effect)) :=
  [("cat", cat), ("head", head), ("tail", tail), ("wc", wc), ("sort", sort), ("tr", tr),
    ("tee", tee), ("grep", grep), ("sed", sed)]

/-- The other utilities. -/
def makers : List (String × (Call → Effect)) :=
  [("true", succeed), ("false", fail), ("echo", plainEcho), ("printf", printfProgram),
    ("basename", basename), ("dirname", dirname), ("sleep", sleep), ("test", testProgram),
    ("[", bracketProgram), ("pwd", pwd), ("ls", ls), ("mkdir", mkdir), ("rmdir", rmdir),
    ("rm", rm), ("touch", touch), ("cp", cp), ("mv", mv), ("ln", ln), ("chmod", chmod)]

/-- A utility by its name. -/
def find? (name : Text) : Option (Call → Effect) :=
  ((filters ++ makers).find? fun u => u.1.toList == name).map (·.2)

/-- Whether a utility may read standard input. -/
def isFilter (name : Text) : Bool := filters.any fun u => u.1.toList == name

/-- How many operands of a call name no file. -/
def leadingOperands (utility : Text) (c : Call) : Nat :=
  let isSearch := utility = "grep".toList ∨ utility = "sed".toList
  if isSearch && !c.arguments.any (Text.startsWith ['-', 'e']) then 1 else 0

/-- The option letters of a utility that take a value. -/
def valuedOptions (name : Text) : String :=
  let table : List (String × String) :=
    [("head", "nc"), ("tail", "ncs"), ("sort", "ktoST"), ("grep", "eABCmfdD"), ("sed", "elf")]
  (table.lookup (String.ofList name)).getD ""

/-- Whether a call of a utility reads standard input. -/
def readsInput (utility : Text) (c : Call) : Bool :=
  if !isFilter utility then false
  else if utility = "tr".toList ∨ utility = "tee".toList then true
  else
    let letters := "abcdefghijklmnopqrstuvwxyzABCDEFGHIJKLMNOPQRSTUVWXYZ0123456789"
    let older :=
      if utility = "tail".toList then Excerpt.olderEnd c.arguments
      else if utility = "head".toList then Excerpt.olderStart c.arguments
      else .ok (Excerpt.usual, c.arguments)
    let arguments := (older.toOption.map (·.2)).getD c.arguments
    let files := (Options.read (valuedOptions utility) letters arguments).operands.drop
      (leadingOperands utility c)
    files.isEmpty || files.contains ['-']

end Utility
end DocExamples
