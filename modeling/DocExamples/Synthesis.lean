/-
# Programs from a disk

Making a program of an example asks the disk twice: for the names that the
documented file exports, and for the real path under which it is imported.
-/

import DocExamples.Disk.RealPath
import DocExamples.Disk.Source
import DocExamples.Program

namespace DocExamples
namespace Synthesis

/-- The names that a file exports; none, if it cannot be read. -/
def exportsOf (d : Disk) (origin : Text) : Except Failure (List Text) :=
  match d.sourceText (Path.ofText origin) with
  | .error f => .error f
  | .ok (.error _) => .ok []
  | .ok (.ok source) => .ok (Export.names source)

/-- The path under which a program imports the documented file. -/
def modulePath (d : Disk) (origin : Text) : Except Failure Text :=
  match d.realPath (Path.ofText origin) with
  | .error f => .error f
  | .ok p => .ok (Lexical.slashed p.text)

/-- The program of an example whose module exports the given names. -/
def programWith (d : Disk) (exports : List Text) (e : Example) : Except Failure Text := do
  let path ← modulePath d e.origin
  return Program.ofExample d.cwdText path exports e

/-- The program of an example. -/
def program (d : Disk) (e : Example) : Except Failure Text := do
  let exports ← exportsOf d e.origin
  programWith d exports e

end Synthesis
end DocExamples
