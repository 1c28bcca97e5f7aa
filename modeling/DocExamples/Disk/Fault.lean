/-
# Faults

A disk refuses an operation for one of a few reasons, each with a number and a
wording.  Above them stand the failures of a whole operation: a fault at a path,
or an input that no disk is asked about.
-/

import DocExamples.Text.Quoted

namespace DocExamples

/-- Why a disk refuses an operation. -/
inductive Fault where
  /-- Nothing has this name. -/
  | notFound
  /-- The file is no program. -/
  | notProgram
  /-- The entry may not be run. -/
  | denied
  /-- Something has this name already. -/
  | alreadyThere
  /-- A name is looked up in something that is no folder. -/
  | notFolder
  /-- A folder stands where a file is needed. -/
  | isFolder
  /-- A name or a path is too long. -/
  | tooLong
  /-- The folder still holds something. -/
  | notEmpty
  /-- Too many links lead to one another. -/
  | tooManyLinks
deriving DecidableEq, Repr

namespace Fault

/-- The number of a fault. -/
def number : Fault → Nat
  | .notFound => 2
  | .notProgram => 8
  | .denied => 13
  | .alreadyThere => 17
  | .notFolder => 20
  | .isFolder => 21
  | .tooLong => 36
  | .notEmpty => 39
  | .tooManyLinks => 40

/-- The wording of a fault. -/
def wording : Fault → Text
  | .notFound => "No such file or directory".toList
  | .notProgram => "Exec format error".toList
  | .denied => "Permission denied".toList
  | .alreadyThere => "File exists".toList
  | .notFolder => "Not a directory".toList
  | .isFolder => "Is a directory".toList
  | .tooLong => "File name too long".toList
  | .notEmpty => "Directory not empty".toList
  | .tooManyLinks => "Too many levels of symbolic links".toList

/-- Whether a fault only says that a path denotes nothing. -/
def isAbsence : Fault → Bool
  | .notFound => true
  | .notFolder => true
  | .tooManyLinks => true
  | _ => false

end Fault

/-- Why an operation fails as a whole. -/
inductive Failure where
  /-- The disk refuses a path; without one, the place of the working folder is asked for. -/
  | disk (fault : Fault) (path : Option Text)
  /-- A path holds the character NUL. -/
  | nulInPath
  /-- Links at a path lead back to themselves. -/
  | linkLoop (path : Text)
  /-- A quote in a command line is not closed. -/
  | unclosedQuote
  /-- A command line ends with a backslash. -/
  | danglingEscape
  /-- A time limit is beyond every clock. -/
  | limitTooLarge
  /-- A time limit is no number; `kind` says what it is. -/
  | limitNotNumber (kind : Text)
  /-- A whole number has too many digits to be shown. -/
  | tooManyDigits
  /-- Something is nested too deep for an activity. -/
  | tooDeep (activity : Text)
  /-- The stack has no room left. -/
  | stackFull
  /-- A failure that some executor reports in its own words. -/
  | reported (message : Text)
deriving DecidableEq, Repr

/-- The wording of a failure. -/
def Failure.message : Failure → Text
  | .disk f p => "[Errno ".toList ++ Text.decimal f.number ++ "] ".toList ++ f.wording ++
      match p with
      | some p => ": ".toList ++ Text.quoted p
      | none => []
  | .nulInPath => "embedded null byte".toList
  | .linkLoop p => "Symlink loop from ".toList ++ Text.quoted p
  | .unclosedQuote => "No closing quotation".toList
  | .danglingEscape => "No escaped character".toList
  | .limitTooLarge => "integer division result too large for a float".toList
  | .limitNotNumber kind =>
      "unsupported operand type(s) for /: '".toList ++ kind ++ "' and 'int'".toList
  | .tooManyDigits =>
      "Exceeds the limit (4300 digits) for integer string conversion; ".toList ++
        "use sys.set_int_max_str_digits() to increase the limit".toList
  | .tooDeep activity => "maximum recursion depth exceeded while ".toList ++ activity
  | .stackFull => "maximum recursion depth exceeded".toList
  | .reported m => m

end DocExamples
