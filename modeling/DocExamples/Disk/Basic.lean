/-
# Disks

A disk is a list of entries, each at a location: the names that lead to it from
the root folder, which is always there.  A working folder is part of the disk's
state, since relative paths start from it.  So is what the user may do where.

| operation | effect on `at?` |
| --- | --- |
| `put l e` | `e` at `l`, all else unchanged |
| `erase l` | nothing at `l`, all else unchanged |
| `eraseTree l` | nothing at `l` or below, all else unchanged |
-/

import DocExamples.Text.Utf8

namespace DocExamples

/-- The names that lead from the root folder to an entry. -/
abbrev Location := List Text

/-- What stands at a location. -/
inductive Entry where
  /-- A folder. -/
  | folder
  /-- A file, and the permissions for its owner, its group and all others. -/
  | file (content : Octets) (mode : Nat)
  /-- A link to a path. -/
  | link (target : Text)
  /-- A program of the computer. -/
  | utility (name : Text)
  /-- A device of the computer. -/
  | device (name : Text)
deriving DecidableEq, Repr

namespace Entry

/-- Whether an entry is a folder. -/
def isFolder : Entry → Bool
  | .folder => true
  | _ => false

/-- Whether an entry is a file. -/
def isFile : Entry → Bool
  | .file .. => true
  | .utility _ => true
  | _ => false

/-- The permissions of a file that everybody may run. -/
def programMode : Nat := 0o755

/-- Whether permissions let somebody run a file. -/
def mayRun (mode : Nat) : Bool := mode &&& 0o111 != 0

/-- Whether an entry is a link. -/
def isLink : Entry → Bool
  | .link _ => true
  | _ => false

end Entry

/-- What the user of a disk may do at each location, whether something stands there or not. -/
structure Rights where
  /-- Whether the file or the folder there may be read. -/
  read : Location → Bool := fun _ => true
  /-- Whether names may be looked up in the folder there. -/
  search : Location → Bool := fun _ => true
  /-- Whether the file there may be written, or entries be made in the folder and removed. -/
  write : Location → Bool := fun _ => true

/-- The entries of a disk, the folder that relative paths start from, what new files do not
permit, and what the user may do. -/
structure Disk where
  /-- The entries, each at its location. -/
  entries : List (Location × Entry)
  /-- The working folder. -/
  cwd : Location
  /-- The permissions that new files do not get. -/
  mask : Nat := 0o022
  /-- What the user may do. -/
  rights : Rights := {}

namespace Disk

/-- The entry at a location; the root is a folder. -/
def at? (d : Disk) (l : Location) : Option Entry :=
  if l = [] then some .folder else (d.entries.find? fun e => e.1 == l).map (·.2)

/-- A disk without the entry at a location. -/
def erase (d : Disk) (l : Location) : Disk :=
  { d with entries := d.entries.filter fun e => e.1 != l }

/-- A disk with an entry at a location, in place of any other. -/
def put (d : Disk) (l : Location) (e : Entry) : Disk :=
  { d with entries := (l, e) :: (d.erase l).entries }

/-- A disk without the entry at a location and everything below it. -/
def eraseTree (d : Disk) (l : Location) : Disk :=
  { d with entries := d.entries.filter fun e => !l.isPrefixOf e.1 }

/-- The names in the folder at a location, in no order that matters. -/
def namesIn (d : Disk) (l : Location) : List Text :=
  d.entries.filterMap fun e => if e.1.dropLast == l then e.1.getLast? else none

/-- Whether a folder holds nothing. -/
def isEmptyFolder (d : Disk) (l : Location) : Bool := (d.namesIn l).isEmpty

@[simp] theorem at?_nil (d : Disk) : d.at? [] = some .folder := by simp [at?]

theorem at?_put_self (d : Disk) {l : Location} (e : Entry) (h : l ≠ []) :
    (d.put l e).at? l = some e := by
  simp [at?, put, h]

theorem at?_erase_other (d : Disk) {l k : Location} (h : k ≠ l) : (d.erase l).at? k = d.at? k := by
  unfold at? erase
  split
  · rfl
  · congr 1
    rw [List.find?_filter]
    congr 1
    funext e
    by_cases hk : e.1 = k
    · simp [hk, h]
    · simp [hk]

theorem at?_put_other (d : Disk) {l k : Location} (e : Entry) (h : k ≠ l) :
    (d.put l e).at? k = d.at? k := by
  rw [← at?_erase_other d h]
  unfold at? put
  split
  · rfl
  · simp [Ne.symm h]

theorem at?_eraseTree_of_not_below (d : Disk) {l k : Location} (h : ¬ l <+: k) :
    (d.eraseTree l).at? k = d.at? k := by
  unfold at? eraseTree
  split
  · rfl
  · congr 1
    rw [List.find?_filter]
    congr 1
    funext e
    by_cases hk : e.1 = k
    · have hp : l.isPrefixOf k = false := by
        simpa [← List.isPrefixOf_iff_prefix] using h
      simp [hk, hp]
    · simp [hk]

end Disk
end DocExamples
