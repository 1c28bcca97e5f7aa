/-
# Reports

A report has for each result a line with its mark, name and duration, a line with
its place, and, two spaces further in, the first lines of its error; where output
is wanted, four spaces further in, the first lines of its output.  A rule and a
line of counts end the report.
-/

import DocExamples.Disk.RealPath
import DocExamples.Run.Outcome

namespace DocExamples
namespace Report

/-- The mark of a passed example. -/
def passMark : Char := '✓'

/-- The mark of a failed example. -/
def failMark : Char := '✗'

/-- How many lines of an error or an output are shown. -/
def lineLimit : Nat := 10

/-- How long the rule before the counts is. -/
def ruleWidth : Nat := 50

/-- The first lines of a text, line feeds at its end left out. -/
def excerpt (s : Text) : List Text := (Text.lines (Text.withoutFinal '\n' s)).take lineLimit

/-- The lines about one result, where `place` is the path to show. -/
def resultLines (verbose : Bool) (place : Text) (r : Result) : List Text :=
  let mark := if r.passed then passMark else failMark
  let error := match r.passed, r.error with
    | false, some e => if e.isEmpty then [] else (excerpt e).map ("  ".toList ++ ·)
    | _, _ => []
  let output :=
    if verbose && !Text.isBlankLine r.output then
      "  output:".toList :: (excerpt r.output).map ("    ".toList ++ ·)
    else []
  [mark :: ' ' :: r.source.name ++ " (".toList ++ Text.integer r.duration ++ "ms)".toList,
    "  ".toList ++ place ++ ':' :: Text.integer r.source.line] ++ error ++ output ++ [[]]

/-- How many results of a report have passed and failed. -/
structure Tally where
  /-- How many have passed. -/
  passed : Nat
  /-- How many have failed. -/
  failed : Nat
deriving DecidableEq, Repr

/-- A tally with one more result. -/
def Tally.add (t : Tally) (r : Result) : Tally :=
  if r.passed then { t with passed := t.passed + 1 } else { t with failed := t.failed + 1 }

/-- The tally of results. -/
def Tally.ofResults (rs : List Result) : Tally := rs.foldl Tally.add ⟨0, 0⟩

/-- The line of counts. -/
def countLine (t : Tally) (total : Nat) : Text :=
  Text.decimal t.passed ++ " passed, ".toList ++ Text.decimal t.failed ++ " failed, ".toList ++
    Text.decimal total ++ " total".toList

/-- The report of results, with places relative to the folder `start`. -/
def results (cwd start : Text) (verbose : Bool) (rs : List Result) : Text :=
  Text.unlines <|
    (rs.flatMap fun r => resultLines verbose (Lexical.relative cwd start r.source.origin) r) ++
    [List.replicate ruleWidth '─', countLine (Tally.ofResults rs) rs.length]

/-- The report of results, with places relative to the working folder.  Where there are any, the
folder has to be there. -/
def fromHere (d : Disk) (verbose : Bool) (rs : List Result) : Except Failure Text :=
  if rs.isEmpty then .ok (results d.cwdText d.cwdText verbose rs)
  else d.whereabouts.map fun cwd => results cwd cwd verbose rs

/-- A listing of examples with their code. -/
def listing (es : List Example) : Text :=
  Text.unlines <| es.flatMap fun e =>
    ["─── ".toList ++ e.name ++ " (".toList ++ e.location ++ ") ───".toList, e.code, []]

end Report
end DocExamples
