/-
# Commands of the shell

A command is a tree of simple commands, pipelines, lists and compound commands.
The words of a simple command are lists of parts: literal text, and places where
the value of a parameter, the output of a command or the value of an arithmetic
expression goes.  What stands inside such a place is kept as source text and read
when it is needed, so that neither words nor commands contain each other.
-/

import DocExamples.Text.Basic

namespace DocExamples
namespace Shell

/-- How the value of a parameter is used. -/
inductive Usage where
  /-- The value. -/
  | value
  /-- The number of its characters. -/
  | length
  /-- Another word if the parameter is not set, or also if it is empty. -/
  | orElse (orEmpty : Bool) (word : Text)
  /-- The same, and the word is kept as the parameter's value. -/
  | orAssign (orEmpty : Bool) (word : Text)
  /-- A complaint if the parameter is not set, or also if it is empty. -/
  | orFail (orEmpty : Bool) (word : Text)
  /-- Another word if the parameter is set, or only if it is not empty. -/
  | ifSet (orEmpty : Bool) (word : Text)
  /-- The value without a start that a pattern matches. -/
  | withoutStart (longest : Bool) (pattern : Text)
  /-- The value without an end that a pattern matches. -/
  | withoutEnd (longest : Bool) (pattern : Text)
  /-- A use that the shell does not know. -/
  | bad
deriving DecidableEq, Repr

/-- A part of a word. -/
inductive Part where
  /-- Text without quotes. -/
  | plain (s : Text)
  /-- Text in quotes. -/
  | quoted (s : Text)
  /-- The value of a parameter. -/
  | parameter (name : Text) (usage : Usage) (inQuotes : Bool)
  /-- The output of commands, and the number of their first line; nothing if their lines are
  counted from one. -/
  | command (source : Text) (line : Option Nat) (inQuotes : Bool)
  /-- The value of an arithmetic expression. -/
  | arithmetic (source : Text) (inQuotes : Bool)
deriving DecidableEq, Repr

/-- A word. -/
abbrev Word := List Part

/-- A word that was read from a line on. -/
def Word.fromLine (n : Nat) (w : Word) : Word := w.map fun
  | .command source line inQuotes => .command source (line.map (n + ·)) inQuotes
  | p => p

/-- Where a redirected stream leads. -/
inductive Direction where
  /-- Reads a file. -/
  | input
  /-- Writes a file from its start. -/
  | output
  /-- The same, even if files that are there are not overwritten. -/
  | replace
  /-- Writes a file from its end. -/
  | append
  /-- Reads and writes a file. -/
  | both
  /-- Goes where another stream goes. -/
  | copy
  /-- Reads the text that is given. -/
  | here
deriving DecidableEq, Repr

/-- A redirection of a stream. -/
structure Redirection where
  /-- The number of the stream. -/
  stream : Nat
  /-- Where it leads. -/
  direction : Direction
  /-- The name of a file or the number of a stream, or the text itself. -/
  word : Word
deriving DecidableEq, Repr

/-- An assignment to a variable. -/
structure Assignment where
  /-- The name of the variable. -/
  name : Text
  /-- The word assigned. -/
  word : Word
deriving DecidableEq, Repr

/-- A simple command. -/
structure Simple where
  /-- The number of its line. -/
  line : Nat
  /-- The assignments before it. -/
  assignments : List Assignment
  /-- Its words. -/
  words : List Word
  /-- Its redirections. -/
  redirections : List Redirection
deriving DecidableEq, Repr

/-- A command. -/
inductive Command where
  /-- A simple command. -/
  | simple (c : Simple)
  /-- Two commands, the output of one being the input of the other. -/
  | pipe (a b : Command)
  /-- One command, and then another. -/
  | seq (a b : Command)
  /-- A command, and another if it succeeds. -/
  | both (a b : Command)
  /-- A command, and another if it fails. -/
  | either (a b : Command)
  /-- A command that succeeds if another fails. -/
  | not (a : Command)
  /-- A command that is not waited for. -/
  | background (a : Command)
  /-- A command in a shell of its own. -/
  | subshell (a : Command)
  /-- A choice between two commands. -/
  | branch (condition yes no : Command)
  /-- A command repeated while a condition holds, or until it does. -/
  | loop (untilHolds : Bool) (condition body : Command)
  /-- A command for each of some words, or for each argument. -/
  | each (name : Text) (words : Option (List Word)) (body : Command)
  /-- A choice by a word. -/
  | select (word : Word) (arms : Command)
  /-- One arm of such a choice, and the others. -/
  | arm (patterns : List Word) (body others : Command)
  /-- The definition of a function. -/
  | define (name : Text) (body : Command)
  /-- A command with redirections. -/
  | redirected (line : Nat) (redirections : List Redirection) (body : Command)
  /-- No command. -/
  | nothing
deriving Repr

/-- How many commands a command joins, the output of one being the input of the next. -/
def Command.piped : Command → Nat
  | .pipe a b => a.piped + b.piped
  | _ => 1

/-- Whether a text can be the name of a variable. -/
def isName (s : Text) : Bool :=
  match s with
  | c :: cs => (c.isAlpha || c == '_') && cs.all fun c => c.isAlphanum || c == '_'
  | [] => false

/-- The words with a meaning of their own at the start of a command. -/
def reserved : List Text :=
  ["if", "then", "else", "elif", "fi", "while", "until", "for", "do", "done", "case", "esac",
    "in", "!", "\x7b", "\x7d"].map String.toList

end Shell
end DocExamples
