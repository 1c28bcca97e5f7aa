/-
# Resolving paths

A path text is resolved name by name.  A double dot leads to the folder above the
one reached so far, a link is replaced by the names of its target, and what is no
folder has nothing below it.  A slash at the end asks for a folder.  Names are
looked up only in folders that may be searched.  At most forty links are followed
in one resolution, a name has at most 255 octets and a path text fewer than 4096.
-/

import DocExamples.Disk.Basic
import DocExamples.Disk.Fault
import DocExamples.Path.Basic

namespace DocExamples
namespace Disk

/-- The place that a path leads to: in a folder that exists, perhaps empty. -/
structure Spot where
  /-- The location. -/
  location : Location
  /-- The entry there, if there is one. -/
  entry : Option Entry
deriving DecidableEq, Repr

/-- How many links one resolution follows. -/
def linkLimit : Nat := 40

/-- How many octets a name may have. -/
def nameLimit : Nat := 255

/-- How many octets a path text has to stay below. -/
def pathLimit : Nat := 4096

/-- The names to look up for a path text: empty ones are dropped, except behind a
slash at the end. -/
def steps (s : Text) : List Text :=
  let names := (Text.pieces '/' s).filter (!·.isEmpty)
  if s.getLast? = some '/' && !names.isEmpty then names ++ [[]] else names

/-- The location that a path text starts from. -/
def start (cwd : Location) (s : Text) : Location :=
  if Text.startsWith ['/'] s then [] else cwd

/-- Looks names up from the folder at a location, which counts as a folder even if it is
a working folder that is no longer there.  At a link, `jump` goes on from the start of
the target with the target's names and the names left; a link at the very end is
followed only if `follow` says so. -/
def walk (d : Disk) (jump : Location → List Text → Except Fault Spot) (follow : Bool) :
    Location → List Text → Except Fault Spot
  | here, [] => .ok ⟨here, some .folder⟩
  | here, name :: rest =>
    if name.isEmpty then walk d jump follow here rest
    else if !d.rights.search here then .error .denied
    else if name = Path.dot then walk d jump follow here rest
    else if name = Path.dotDot then walk d jump follow here.dropLast rest
    else if nameLimit < (Utf8.encode name).length then .error .tooLong
    else
      let there := here ++ [name]
      match d.at? there with
      | none => if rest.isEmpty then .ok ⟨there, none⟩ else .error .notFound
      | some .folder => walk d jump follow there rest
      | some (.link target) =>
        if rest.isEmpty && !follow then .ok ⟨there, some (.link target)⟩
        else jump (start here target) (steps target ++ rest)
      | some e => if rest.isEmpty then .ok ⟨there, some e⟩ else .error .notFolder

/-- Looks names up, following so many links at most. -/
def resolve (d : Disk) (follow : Bool) : (links : Nat) → Location → List Text → Except Fault Spot
  | 0, here, names => walk d (fun _ _ => .error .tooManyLinks) follow here names
  | links + 1, here, names => walk d (resolve d follow links) follow here names

/-- The spot that a path text leads to. -/
def locate (d : Disk) (follow : Bool) (s : Text) : Except Fault Spot :=
  if s.isEmpty then .error .notFound
  else if pathLimit ≤ (Utf8.encode s).length then .error .tooLong
  else resolve d follow linkLimit (start d.cwd s) (steps s)

/-- The entry that a path text leads to, links followed. -/
def stat (d : Disk) (s : Text) : Except Fault Entry := do
  match (← d.locate true s).entry with
  | some e => return e
  | none => throw .notFound

/-- The entry that a path text leads to, a link at the end not followed. -/
def lstat (d : Disk) (s : Text) : Except Fault Entry := do
  match (← d.locate false s).entry with
  | some e => return e
  | none => throw .notFound

/-- Asks a disk about a path, which may not hold the character NUL. -/
def ask {α : Type} (path : Text) (answer : Except Fault α) : Except Failure α :=
  if path.contains '\x00' then .error .nulInPath
  else
    match answer with
    | .ok a => .ok a
    | .error f => .error (.disk f path)

/-- Whether a path leads to an entry of some kind.  A path that denotes nothing does
not, but one that cannot be looked up at all is a failure. -/
def leadsTo (d : Disk) (kind : Entry → Bool) (path : Text) : Except Failure Bool :=
  if path.contains '\x00' then .ok false
  else
    match d.stat path with
    | .ok e => .ok (kind e)
    | .error f => if f.isAbsence then .ok false else .error (.disk f path)


end Disk
end DocExamples
