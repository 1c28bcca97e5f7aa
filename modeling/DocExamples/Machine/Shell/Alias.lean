/-
# Aliases

An alias stands for source text where a command starts.  The text is read in place
of the name, so that it may hold anything that source holds: a word, a list of
commands, or a part of either.  Within its own text the name stands for itself.
-/

import DocExamples.Machine.Shell.Syntax

namespace DocExamples
namespace Shell

/-- A name that stands for source text where a command starts. -/
structure Alias where
  /-- The name. -/
  name : Text
  /-- The text. -/
  text : Text
deriving DecidableEq, Repr

/-- What follows within single quotes, or within the double quotes that single ones stand in. -/
def quotedFrom : (inSingle : Bool) → Text → Text
  | true, [] => ['\'']
  | false, [] => ['"']
  | true, c :: s =>
    if c = '\'' then '\'' :: '"' :: c :: quotedFrom false s else c :: quotedFrom true s
  | false, c :: s =>
    if c = '\'' then c :: quotedFrom false s else '"' :: '\'' :: c :: quotedFrom true s

/-- A text as a word that stands for it. -/
def inSingleQuotes (s : Text) : Text := '\'' :: quotedFrom true s

example : inSingleQuotes "a''b".toList = "'a'\"''\"'b'".toList := by decide +kernel

example : inSingleQuotes "end'".toList = "'end'\"'\"".toList := by decide +kernel

namespace Alias

/-- The definition of an alias. -/
def shown (a : Alias) : Text := a.name ++ '=' :: inSingleQuotes a.text

/-- The group that an alias is listed with: the codes of the name's characters, the first of
them counted sixteen times more, as a remainder. -/
def group (a : Alias) : Nat :=
  ((a.name.head?.elim 0 fun c => 16 * c.toNat) + (a.name.map Char.toNat).foldl Nat.add 0) % 39

/-- Aliases in the order in which they are listed: by their groups, and within a group in the
order in which they were made. -/
def listed (aliases : List Alias) : List Alias := aliases.mergeSort fun a b => a.group ≤ b.group

/-- An alias by its name. -/
def find? (aliases : List Alias) (name : Text) : Option Alias := aliases.find? (·.name == name)

/-- Aliases with one more, which takes the place of another of its name. -/
def put (aliases : List Alias) (a : Alias) : List Alias :=
  if (find? aliases a.name).isSome then aliases.map fun b => if b.name = a.name then a else b
  else aliases ++ [a]

/-- How much source aliases can stand for. -/
def size (aliases : List Alias) : Nat := (aliases.map fun a => a.text.length + 1).foldl Nat.add 0

end Alias

end Shell
end DocExamples
