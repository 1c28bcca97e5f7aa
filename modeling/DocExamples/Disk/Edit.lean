/-
# Changing a disk

Every change names its place by a path text, which is resolved first; a refused
change leaves the disk as it was.
-/

import DocExamples.Disk.Resolve
import DocExamples.Settings.Stack

namespace DocExamples
namespace Disk

/-- Makes a folder. -/
def makeFolder (d : Disk) (s : Text) : Except Fault Disk := do
  let spot ← d.locate false s
  match spot.entry with
  | some _ => throw .alreadyThere
  | none =>
    if d.rights.write spot.location.dropLast then return d.put spot.location .folder
    else throw .denied

/-- A disk after a change that may have stopped half way. -/
structure Made where
  /-- The disk. -/
  disk : Disk
  /-- Why the change stopped, if it did. -/
  failure : Option Failure

/-- Makes a folder that may be there already. -/
def makeFolderAllowed (d : Disk) (p : Path) : Made :=
  match d.makeFolder p.text with
  | .ok d => ⟨d, none⟩
  | .error f =>
    match d.leadsTo Entry.isFolder p.text with
    | .ok true => ⟨d, none⟩
    | .ok false => ⟨d, some (.disk f p.text)⟩
    | .error e => ⟨d, some e⟩

/-- Makes a folder that may be there already, and the missing folders above it, as many with it
as there is room for. -/
def makeFoldersAbove (d : Disk) : (room : Nat) → Path → Made
  | 0, _ => ⟨d, some (.tooDeep "calling a Python object".toList)⟩
  | room + 1, p =>
    match d.makeFolder p.text with
    | .error .notFound =>
      if p.names.isEmpty then ⟨d, some (.disk .notFound p.text)⟩
      else
        let made := d.makeFoldersAbove room p.parent
        if made.failure.isSome then made else made.disk.makeFolderAllowed p
    | _ => d.makeFolderAllowed p

section

variable [Stack]

/-- Makes a folder that may be there already, and the missing folders above it. -/
def makeFoldersAllowed (d : Disk) (p : Path) : Made := d.makeFoldersAbove Stack.parents p

/-- Makes a new folder, and the missing folders above it. -/
def makeFolders (d : Disk) (p : Path) : Made :=
  match d.makeFolder p.text with
  | .ok d => ⟨d, none⟩
  | .error .notFound =>
    if p.names.isEmpty then ⟨d, some (.disk .notFound p.text)⟩
    else
      let made := d.makeFoldersAllowed p.parent
      if made.failure.isSome then made
      else
        match made.disk.makeFolder p.text with
        | .ok d => ⟨d, none⟩
        | .error f => ⟨made.disk, some (.disk f p.text)⟩
  | .error f => ⟨d, some (.disk f p.text)⟩

end

/-- Writes a file; one that is there keeps its place and its mark as a program. -/
def writeFile (d : Disk) (s : Text) (content : Octets) : Except Fault Disk := do
  let spot ← d.locate true s
  match spot.entry with
  | some .folder => throw .isFolder
  | some (.file _ mode) =>
    if d.rights.write spot.location then return d.put spot.location (.file content mode)
    else throw .denied
  | some (.device _) => return d
  | some _ => throw .denied
  | none =>
    if d.rights.write spot.location.dropLast then
      return d.put spot.location (.file content (0o666 - (0o666 &&& d.mask)))
    else throw .denied

/-- The folder at a location can be removed with all that it holds, folders within folders so
many deep at most. -/
structure Yields (d : Disk) (depth : Nat) (l : Location) : Prop where
  /-- The folder that it stands in may be changed. -/
  above : d.rights.write l.dropLast
  /-- It may be read itself. -/
  read : d.rights.read l
  /-- Whatever it holds stands in a folder that may be searched and changed. -/
  changes : ∀ x ∈ d.entries, l <+: x.1 → x.1 ≠ l →
    d.rights.search x.1.dropLast ∧ d.rights.write x.1.dropLast
  /-- Folders in it may be read too, and do not lie too deep. -/
  folders : ∀ x ∈ d.entries, l <+: x.1 → x.1 ≠ l → x.2.isFolder →
    d.rights.read x.1 ∧ x.1.length ≤ l.length + depth

instance {d : Disk} {depth : Nat} {l : Location} : Decidable (d.Yields depth l) :=
  decidable_of_iff (d.rights.write l.dropLast ∧ d.rights.read l ∧
      (∀ x ∈ d.entries, l <+: x.1 → x.1 ≠ l →
        d.rights.search x.1.dropLast ∧ d.rights.write x.1.dropLast) ∧
      ∀ x ∈ d.entries, l <+: x.1 → x.1 ≠ l → x.2.isFolder →
        d.rights.read x.1 ∧ x.1.length ≤ l.length + depth)
    ⟨fun ⟨habove, hread, hopen, hfolders⟩ => ⟨habove, hread, hopen, hfolders⟩,
      fun h => ⟨h.above, h.read, h.changes, h.folders⟩⟩

/-- Whether folders are nested more than so many deep in the folder at a location. -/
def nestsBeyond (d : Disk) (depth : Nat) (l : Location) : Bool :=
  d.entries.any fun x => l.isPrefixOf x.1 && x.2.isFolder && decide (l.length + depth < x.1.length)

/-- What can be removed is not nested too deep. -/
theorem Yields.nestsBeyond_eq {d : Disk} {depth : Nat} {l : Location} (h : d.Yields depth l) :
    d.nestsBeyond depth l = false := by
  refine List.any_eq_false.2 fun x hx hdeep => ?_
  simp only [Bool.and_eq_true, List.isPrefixOf_iff_prefix, decide_eq_true_eq] at hdeep
  obtain ⟨⟨hbelow, hfolder⟩, hlength⟩ := hdeep
  by_cases hne : x.1 = l
  · rw [hne] at hlength
    omega
  · have hle := (h.folders x hx hbelow hne hfolder).2
    omega

/-- Where no folder is in the folder, none is nested too deep. -/
theorem nestsBeyond_of_flat {d : Disk} {l : Location}
    (h : ∀ x ∈ d.entries, l <+: x.1 → x.1 = l ∨ x.2.isFolder = false) (depth : Nat) :
    d.nestsBeyond depth l = false := by
  refine List.any_eq_false.2 fun x hx hdeep => ?_
  simp only [Bool.and_eq_true, List.isPrefixOf_iff_prefix, decide_eq_true_eq] at hdeep
  obtain ⟨⟨hbelow, hfolder⟩, hlength⟩ := hdeep
  rcases h x hx hbelow with he | hno
  · rw [he] at hlength
    omega
  · exact absurd (hno.symm.trans hfolder) Bool.false_ne_true

/-- Removes a folder with all that it holds; what is no folder stays.  Where the folder does
not yield, `halt` says what is left. -/
def removeTree (d : Disk) (depth : Nat) (halt : Location → Disk → Disk) (s : Text) : Disk :=
  match d.locate false s with
  | .ok ⟨location, some .folder⟩ =>
    if d.Yields depth location then d.eraseTree location else halt location d
  | _ => d

/-- Removes a folder that holds nothing; anything else stays. -/
def removeEmptyFolder (d : Disk) (s : Text) : Disk :=
  match d.locate false s with
  | .ok ⟨location, some .folder⟩ =>
    if d.rights.write location.dropLast && d.isEmptyFolder location then d.erase location else d
  | _ => d

end Disk
end DocExamples
