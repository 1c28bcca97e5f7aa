/-
# Words as values of options

The value of some options is one of a few words, several of which may mean the same.  A
word may be cut off where what is left of it can only mean one thing.
-/

import DocExamples.Machine.Utility.Call

namespace DocExamples
namespace Utility

/-- A long option whose value is one of some words. -/
structure Choice (α : Type) where
  /-- The name of the option. -/
  name : String
  /-- The words of each meaning. -/
  words : List (List String × α)

namespace Choice

/-- The meanings that a word may have. -/
def meanings {α : Type} (k : Choice α) (word : Text) : List (List String × α) :=
  match k.words.find? fun e => e.1.any (·.toList == word) with
  | some e => [e]
  | none => k.words.filter fun e => e.1.any (Text.startsWith word ·.toList)

/-- What is said about a word without a meaning, or with too many. -/
def complaint {α : Type} (k : Choice α) (adjective : String) (word : Text) : Text :=
  let shown (ws : List String) : Text :=
    "  - ".toList ++ Text.joined ", ".toList (ws.map fun w => Call.inQuotes w.toList)
  Text.joined ['\n']
    ((adjective.toList ++ " argument ".toList ++ Call.inQuotes word ++ " for ".toList ++
      Call.inQuotes ("--".toList ++ k.name.toList)) :: "Valid arguments are:".toList ::
        k.words.map fun e => shown e.1)

/-- The meaning of a word, or what is said about it. -/
def read {α : Type} (k : Choice α) (word : Text) : Except Text α :=
  match k.meanings word with
  | [e] => .ok e.2
  | [] => .error (k.complaint "invalid" word)
  | _ => .error (k.complaint "ambiguous" word)

end Choice
end Utility
end DocExamples
