/-
# What is left of a new working folder

A working folder that is not there yet is made for the private folder of the first program,
with all folders that are missing above it.  Only the private folder and `.testdoc` are taken
away again.  So behind a run, all these folders stay, even if no process makes anything.

| the working folder | is left |
| --- | --- |
| cannot be made, because something else is in its way | nothing |
| is missing with more folders than the stack has room for | nothing |
| has a name that is too long | at most the folders up to that name |
| can be made, and no example has a program | nothing |
| can be made, and some example has a program | the working folder and the new folders above it |
-/

import DocExamples.Proofs.Gate
import DocExamples.Proofs.Relinking
import DocExamples.Proofs.Traces
import Mathlib.Data.List.Infix

namespace DocExamples

namespace Path

variable {p : Path} {ns : List Text}

theorem IsRooted.of_prefix (hp : p.IsRooted) (h : ns <+: p.names) :
    (⟨p.root, ns⟩ : Path).IsRooted :=
  ⟨hp.root, fun n hn => hp.names n (h.mem hn)⟩

/-- A path above another has no longer text. -/
theorem IsRooted.length_text_le (hp : p.IsRooted) (h : ns <+: p.names) :
    (Utf8.encode (⟨p.root, ns⟩ : Path).text).length ≤ (Utf8.encode p.text).length := by
  have hjoined := Text.length_encode_joined_le ['/'] h
  rw [hp.text_eq, (hp.of_prefix h).text_eq, Utf8.length_encode_append, Utf8.length_encode_append]
  exact Nat.add_le_add_left hjoined _

end Path

namespace Disk
open Lexical (LeadsDown)

/-! ### More folders -/

/-- A disk on which folders stand all along a way, and otherwise what stood there before. -/
structure Grows (d : Disk) (way : Location) (d' : Disk) : Prop where
  /-- Every entry stands in a folder. -/
  tree : d'.IsTree
  /-- There are folders along the way, and nothing else is new. -/
  at_eq : ∀ l, d'.at? l = if l <+: way then some .folder else d.at? l
  /-- Nothing is lost. -/
  keeps : d.Extends d'
  /-- The working folder stays. -/
  cwd : d'.cwd = d.cwd
  /-- There are as many links. -/
  depth : d'.linkDepth = d.linkDepth

variable {d d' d'' : Disk} {way way' k rest : Location} {n : Text} {p : Path} {l : Location}
  {follow : Bool}

theorem Grows.at?_way (h : d.Grows way d') : d'.at? way = some .folder := by
  rw [h.at_eq, if_pos List.prefix_rfl]

/-- Along a way to a folder, there are folders already. -/
theorem IsTree.grows (hd : d.IsTree) (hway : d.at? way = some .folder) : d.Grows way d where
  tree := hd
  at_eq l := by
    split
    · next hl => exact hd.folder_above hway hl
    · rfl
  keeps := ⟨fun _ _ h => h, rfl⟩
  cwd := rfl
  depth := rfl

/-- One folder more. -/
theorem Grows.put (h : d.Grows way d') (hn : IsProper n) (hfree : d'.at? (way ++ [n]) = none) :
    d.Grows (way ++ [n]) (d'.put (way ++ [n]) .folder) where
  tree := h.tree.putFolder h.at?_way hn hfree
  at_eq l := by
    by_cases hl : l = way ++ [n]
    · rw [hl, at?_put_self _ _ (by simp), if_pos List.prefix_rfl]
    · have hsame : l <+: way ++ [n] ↔ l <+: way := by
        rw [List.prefix_concat_iff]
        exact or_iff_right hl
      rw [at?_put_other _ _ hl, h.at_eq]
      simp only [hsame]
  keeps := h.keeps.trans (extends_put hfree _)
  cwd := h.cwd
  depth := by
    have hentries : (d'.put (way ++ [n]) .folder).entries =
        (way ++ [n], .folder) :: d'.entries := by
      rw [Disk.put, erase_eq_self (by simp) hfree]
    have hcwd : (d'.put (way ++ [n]) .folder).cwd = d'.cwd := rfl
    rw [linkDepth, hentries, hcwd, List.countP_cons_of_neg Bool.false_ne_true]
    exact h.depth

/-- Folders along two ways, of which one leads on from the other, are folders along the longer
one. -/
theorem Grows.trans (h : d.Grows way d') (h' : d'.Grows way' d'')
    (hways : way <+: way' ∨ way' <+: way) :
    ∃ whole, way <+: whole ∧ (whole = way ∨ whole = way') ∧ way' <+: whole ∧ d.Grows whole d'' := by
  have hcwd := h'.cwd.trans h.cwd
  have hdepth := h'.depth.trans h.depth
  rcases hways with hways | hways
  · refine ⟨way', hways, .inr rfl, List.prefix_rfl, h'.tree, fun l => ?_, h.keeps.trans h'.keeps,
      hcwd, hdepth⟩
    rw [h'.at_eq]
    split
    · rfl
    · next hl => rw [h.at_eq, if_neg fun hl' => hl (hl'.trans hways)]
  · refine ⟨way, List.prefix_rfl, .inl rfl, hways, h'.tree, fun l => ?_, h.keeps.trans h'.keeps,
      hcwd, hdepth⟩
    rw [h'.at_eq, h.at_eq]
    split
    · next hl => rw [if_pos (hl.trans hways)]
    · rfl

/-- New folders are no links. -/
theorem Grows.sameLinks (h : d.Grows way d') (hd : d.IsHome) : SameLinks d d' where
  left := hd
  right := ⟨h.tree, hd.free.of_extends h.keeps, h.cwd ▸ h.keeps.keeps _ _ hd.cwd⟩
  cwd := h.cwd
  links l target := by
    refine ⟨fun hlink => ?_, h.keeps.keeps l _⟩
    rw [h.at_eq] at hlink
    split at hlink
    · exact nomatch hlink
    · exact hlink

/-! ### Paths below a folder -/

/-- The first location on a way where no folder stands. -/
theorem exists_first_missing (hway : d.at? way ≠ some .folder) :
    ∃ k n rest, way = k ++ n :: rest ∧ d.at? k = some .folder ∧
      d.at? (k ++ [n]) ≠ some .folder := by
  induction way using List.reverseRecOn with
  | nil => exact absurd (at?_nil d) hway
  | append_singleton way m ih =>
    by_cases habove : d.at? way = some .folder
    · exact ⟨way, m, [], rfl, habove, hway⟩
    · obtain ⟨k, n, rest, rfl, hk, hn⟩ := ih habove
      exact ⟨k, n, rest ++ [m], by simp, hk, hn⟩

section

variable (hd : d.IsTree) (hfree : d.IsFree) (hp : p.IsRooted)
  (hshort : (Utf8.encode p.text).length < pathLimit) (hk : d.at? k = some .folder)
  (hnames : p.names = k ++ n :: rest)
include hd hfree hp hshort hk hnames

/-- A path is looked up from any folder on its way. -/
theorem exists_locate_eq_walk (follow : Bool) :
    ∃ jump, d.locate follow p.text = d.walk jump follow k (n :: rest) := by
  obtain ⟨jump, hwalk⟩ := resolve_eq_walk d follow linkLimit
  rw [locate_text hp, if_neg (Nat.not_le.2 hshort), hnames,
    resolve_append (fun _ hm => hd.isProper hk hm) fun _ hm =>
      hfree.isOpen (hd.folder_above hk hm), hwalk]
  exact ⟨jump, rfl⟩

theorem locate_of_long (hdown : LeadsDown n) (hlong : ¬ IsProper n) (follow : Bool) :
    d.locate follow p.text = .error .tooLong := by
  obtain ⟨jump, hwalk⟩ := exists_locate_eq_walk hd hfree hp hshort hk hnames follow
  have hlength : nameLimit < (Utf8.encode n).length :=
    Nat.not_le.1 fun h => hlong ⟨hdown.ne_nil, hdown.ne_dot, hdown.ne_dotDot, h⟩
  rw [hwalk, walk_long hdown.ne_dot hdown.ne_dotDot (hfree.search k) hlength]

theorem locate_of_missing (hn : IsProper n) (hnone : d.at? (k ++ [n]) = none) (follow : Bool) :
    d.locate follow p.text = if rest.isEmpty then .ok ⟨k ++ [n], none⟩ else .error .notFound := by
  obtain ⟨jump, hwalk⟩ := exists_locate_eq_walk hd hfree hp hshort hk hnames follow
  rw [hwalk, walk_cons (hfree.search k) hn, hnone]

/-- What is neither a folder nor a link is in the way of longer paths. -/
theorem locate_of_blocked {e : Entry} (hn : d.at? (k ++ [n]) = some e) (hfolder : e ≠ .folder)
    (hlink : ∀ target, e ≠ .link target) (hrest : rest ≠ []) (follow : Bool) :
    d.locate follow p.text = .error .notFolder := by
  obtain ⟨jump, hwalk⟩ := exists_locate_eq_walk hd hfree hp hshort hk hnames follow
  have hproper : IsProper n := hd.isProper hn (by simp)
  rw [hwalk, walk_cons (hfree.search k) hproper, hn]
  cases e with
  | folder => exact absurd rfl hfolder
  | link target => exact absurd rfl (hlink target)
  | _ => exact if_neg (by simpa using hrest)

end

/-! ### Folders with all folders above them -/

/-- A folder that is not found is made in the folder above it, once that is made. -/
theorem makeFoldersAbove_of_notFound (hne : p.names ≠ [])
    (h : d.locate false p.text = .error .notFound) (room : Nat) :
    d.makeFoldersAbove (room + 1) p =
      if (d.makeFoldersAbove room p.parent).failure.isSome then d.makeFoldersAbove room p.parent
      else (d.makeFoldersAbove room p.parent).disk.makeFolderAllowed p := by
  have hempty : p.names.isEmpty = false := List.isEmpty_eq_false_iff.2 hne
  rw [makeFoldersAbove, makeFolder_of_error h, hempty]
  rfl

theorem makeFolders_of_notFound [Stack] (hne : p.names ≠ [])
    (h : d.locate false p.text = .error .notFound) :
    d.makeFolders p =
      if (d.makeFoldersAllowed p.parent).failure.isSome then d.makeFoldersAllowed p.parent
      else
        match (d.makeFoldersAllowed p.parent).disk.makeFolder p.text with
        | .ok d' => ⟨d', none⟩
        | .error f => ⟨(d.makeFoldersAllowed p.parent).disk, some (.disk f p.text)⟩ := by
  have hempty : p.names.isEmpty = false := List.isEmpty_eq_false_iff.2 hne
  rw [makeFolders, makeFolder_of_error h, hempty]
  rfl

theorem IsFree.makeFolder_eq (hfree : d.IsFree) (h : d.locate false p.text = .ok ⟨l, none⟩) :
    d.makeFolder p.text = .ok (d.put l .folder) := by
  rw [makeFolder_of_free h, if_pos (hfree.write l.dropLast)]

theorem IsFree.makeFolderAllowed_eq (hfree : d.IsFree)
    (h : d.locate false p.text = .ok ⟨l, none⟩) :
    d.makeFolderAllowed p = ⟨d.put l .folder, none⟩ := by
  rw [makeFolderAllowed, hfree.makeFolder_eq h]

/-- A folder whose path is refused as too long is not made. -/
theorem makeFolderAllowed_of_tooLong (h : ∀ follow, d.locate follow p.text = .error .tooLong) :
    (d.makeFolderAllowed p).disk = d ∧ (d.makeFolderAllowed p).failure.isSome = true := by
  have hmade := makeFolder_of_error (h false)
  refine ⟨disk_makeFolderAllowed hmade, ?_⟩
  have hstat : d.stat p.text = .error .tooLong := by
    rw [stat, h true]
    rfl
  rw [makeFolderAllowed, hmade, leadsTo, hstat]
  by_cases hnul : p.text.contains '\x00' = true
  · rw [if_pos hnul]
    rfl
  · rw [if_neg hnul]
    rfl

/-- Folders are made along a way that is missing behind a folder on it: all of it, or else some
of it, because a name is too long or there is no room for so many. -/
def MadeAlong (d : Disk) (k way : Location) (room : Nat) (made : Made) : Prop :=
  made.failure = none ∧ d.Grows way made.disk ∨
    made.failure.isSome = true ∧ (∃ part, part <+: way ∧ d.Grows part made.disk) ∧
      ((∃ n ∈ way, ¬ IsProper n) ∨ k.length + room < way.length)

/-- Without room, nothing is made. -/
theorem madeAlong_of_no_room (hd : d.IsTree) (hnames : p.names = k ++ n :: rest) :
    d.MadeAlong k p.names 0 (d.makeFoldersAbove 0 p) :=
  .inr ⟨rfl, ⟨[], List.nil_prefix, hd.grows (at?_nil d)⟩, .inr (by simp [hnames])⟩

/-- **All missing folders above a folder are made with it**, up to a name that is too long, if
there is room for so many. -/
theorem madeAlong_makeFoldersAbove (hd : d.IsTree) (hfree : d.IsFree) (hp : p.IsRooted)
    (hdown : ∀ m ∈ p.names, LeadsDown m) (hshort : (Utf8.encode p.text).length < pathLimit)
    (hk : d.at? k = some .folder) (hnames : p.names = k ++ n :: rest) (hn : IsProper n)
    (hnone : d.at? (k ++ [n]) = none) (room : Nat) :
    d.MadeAlong k p.names room (d.makeFoldersAbove room p) := by
  have hne : p.names ≠ [] := by simp [hnames]
  induction rest using List.reverseRecOn generalizing p room with
  | nil =>
    cases room with
    | zero => exact madeAlong_of_no_room hd hnames
    | succ room =>
      have hlocate := locate_of_missing hd hfree hp hshort hk hnames hn hnone false
      rw [makeFoldersAbove_of_ok (hfree.makeFolder_eq hlocate), hnames]
      exact .inl ⟨rfl, (hd.grows hk).put hn hnone⟩
  | append_singleton rest m ih =>
    cases room with
    | zero => exact madeAlong_of_no_room hd hnames
    | succ room =>
    have hnames' : p.names = (k ++ n :: rest) ++ [m] := by simp [hnames]
    have hparent : p.parent.names = k ++ n :: rest := by
      rw [Path.parent, hnames', List.dropLast_concat]
    have habove : p.parent.names <+: p.names := by
      rw [hnames', hparent]
      exact List.prefix_append _ _
    have hlocate := locate_of_missing hd hfree hp hshort hk hnames hn hnone false
    rw [if_neg (by simp)] at hlocate
    rw [makeFoldersAbove_of_notFound hne hlocate]
    rcases ih (p := p.parent) (hp.of_prefix habove) (fun x hx => hdown x (habove.mem hx))
      (Nat.lt_of_le_of_lt (hp.length_text_le habove) hshort) hparent room (by simp [hparent]) with
      ⟨hfailure, hgrows⟩ | ⟨hfailure, ⟨part, hpart, hgrows⟩, hwhy⟩
    · rw [hfailure, if_neg (by decide)]
      rw [hparent] at hgrows
      have hfree' := hfree.of_extends hgrows.keeps
      have hwhole : p.names = (k ++ n :: rest) ++ m :: [] := hnames'
      by_cases hm : IsProper m
      · have hmore :
            (d.makeFoldersAbove room p.parent).disk.at? ((k ++ n :: rest) ++ [m]) = none := by
          rw [hgrows.at_eq, if_neg fun h => absurd h.length_le (by simp)]
          refine hd.at?_eq_none hnone ⟨rest ++ [m], by simp⟩
        have hplace := locate_of_missing hgrows.tree hfree' hp hshort hgrows.at?_way hwhole hm hmore
          false
        rw [hfree'.makeFolderAllowed_eq hplace, hnames']
        exact .inl ⟨rfl, hgrows.put hm hmore⟩
      · have hlast := hdown m (by simp [hnames'])
        obtain ⟨hdisk, hsome⟩ := makeFolderAllowed_of_tooLong
          (locate_of_long hgrows.tree hfree' hp hshort hgrows.at?_way hwhole hlast hm)
        refine .inr ⟨hsome, ⟨_, ?_, hdisk ▸ hgrows⟩, .inl ⟨m, by simp [hnames'], hm⟩⟩
        rw [hnames']
        exact List.prefix_append _ _
    · rw [if_pos hfailure]
      refine .inr ⟨hfailure, ⟨part, hpart.trans habove, hgrows⟩, ?_⟩
      rcases hwhy with ⟨x, hx, hlong⟩ | hroom
      · exact .inl ⟨x, habove.mem hx, hlong⟩
      · rw [hparent] at hroom
        rw [hnames', List.length_append, List.length_singleton]
        exact .inr (by omega)

end Disk

/-- A host whose processes change nothing on the disk. -/
def Host.IsIdle (host : Host) : Prop :=
  ∀ asked d p, host.spawn asked d = .ok p → p.disk = d

namespace Workspace

open Disk (IsProper IsTree IsHome)
open Lexical (LeadsDown)

variable {d d' : Disk} {w : Path} {k rest : Location} {n : Text} {stamp : Stamp} {suffix : Text}
  {host : Host} {i : Interpreter} {job : Job}

/-! ### A program in a folder that is there -/

theorem disk_launch_idle (hidle : host.IsIdle) (i : Interpreter) (l : Layout) (timeout : Json)
    (d : Disk) : (launch host i l timeout d).disk = d := by
  rw [disk_launch]
  cases hstarted : started? host i l timeout d with
  | none => rfl
  | some p =>
    unfold started? at hstarted
    simp only at hstarted
    split at hstarted
    · exact nomatch hstarted
    · cases hspawn : host.spawn (launchOf i l timeout) d with
      | error f =>
        rw [hspawn] at hstarted
        exact nomatch hstarted
      | ok q =>
        rw [hspawn] at hstarted
        obtain rfl := Option.some.inj hstarted
        exact hidle _ _ _ hspawn

/-- Without `.testdoc` before, there is none behind, and nothing else has changed. -/
theorem disk_run_idle [Stack] (hidle : host.IsIdle) (hd : Grounded d w) (hfree : d.IsFree)
    (hreal : d.realPath job.workingFolder = .ok w) (hshelf : d.at? (shelfAt w) = none)
    (stamp : Stamp) : (run host i stamp job d).disk = d := by
  have hnothing : swept w d = d := swept_eq_self (by simp [hshelf])
  rcases housed?_cases host hd hreal stamp with
    ⟨-, hdisk | ⟨-, huse, -⟩⟩ | ⟨base, place, h, hhoused⟩
  · exact hdisk
  · exact absurd ⟨hfree.search _, hfree.write _⟩ huse
  · have hread := hfree.read place
    rw [disk_run host hhoused]
    rcases runInside_cases host i (layout w stamp i.suffix) job (base.put place .folder) with
      ⟨written, hwritten, hinside⟩ | ⟨-, -, hinside⟩
    · obtain ⟨hsearch, hwrite, n, mode, -, rfl⟩ := h.written?_eq_some hd hwritten
      rw [hinside, disk_launch_idle hidle, h.cleared_written hread hd host hsearch hwrite, hnothing]
    · rw [hinside, h.cleared_made hread hd host, hnothing]

/-! ### A program in a folder that is missing -/

/-- A working folder that can be made for a private folder. -/
structure Makeable [Stack] (d : Disk) (w : Path) (stamp : Stamp) (suffix : Text) : Prop where
  /-- The path of the private folder is short enough. -/
  fits : (Utf8.encode (layout w stamp suffix).folder.text).length < Disk.pathLimit
  /-- So are the names of the working folder. -/
  proper : ∀ n ∈ w.names, IsProper n
  /-- There is nothing in its way. -/
  clear : ∀ k, k <+: w.names → d.at? k = some .folder ∨ d.at? k = none
  /-- The stack has room for all folders that are missing, and for the one above the private
  folder. -/
  room : ∀ k, k <+: w.names → d.at? k = none → w.names.length + 1 < k.length + Stack.parents

theorem prefix_folder (w : Path) (stamp : Stamp) (suffix : Text) :
    w.names <+: (layout w stamp suffix).folder.names := by
  rw [folder_eq, List.append_assoc]
  exact List.prefix_append _ _

/-- What making the private folder comes to where the working folder is missing: as if that had
been made before, or else some of the folders on its way. -/
def MakesMissing [Stack] (d : Disk) (w : Path) (stamp : Stamp) (suffix : Text) : Prop :=
  (∃ d', d.Grows w.names d' ∧ d.makeFolders (layout w stamp suffix).folder =
      d'.makeFolders (layout w stamp suffix).folder) ∨
    ¬ Makeable d w stamp suffix ∧
      (d.makeFolders (layout w stamp suffix).folder).failure.isSome = true ∧
      ∃ way, way <+: w.names ∧ d.Grows way (d.makeFolders (layout w stamp suffix).folder).disk

/-- Where the path of the private folder is refused for another reason than a missing folder,
nothing is made. -/
theorem makesMissing_of_refused [Stack] (hd : d.IsTree) (hnot : ¬ Makeable d w stamp suffix) {f : Fault}
    (hf : f ≠ .notFound)
    (h : d.locate false (layout w stamp suffix).folder.text = .error f) :
    MakesMissing d w stamp suffix := by
  have hmade : d.makeFolders (layout w stamp suffix).folder =
      ⟨d, some (.disk f (layout w stamp suffix).folder.text)⟩ := by
    rw [Disk.makeFolders, Disk.makeFolder_of_error h]
    cases f <;> first | exact absurd rfl hf | rfl
  refine .inr ⟨hnot, by rw [hmade]; rfl, [], List.nil_prefix, ?_⟩
  rw [hmade]
  exact hd.grows (Disk.at?_nil d)

/-- The missing folders are made from the first of them on. -/
theorem makesMissing_of_free [Stack] (hd : d.IsTree) (hfree : d.IsFree) (hw : w.IsRooted)
    (hdown : ∀ m ∈ w.names, LeadsDown m) (hmissing : d.at? w.names = none)
    (hfits : (Utf8.encode (layout w stamp suffix).folder.text).length < Disk.pathLimit)
    (hnames : w.names = k ++ n :: rest) (hk : d.at? k = some .folder) (hn : IsProper n)
    (hnone : d.at? (k ++ [n]) = none) : MakesMissing d w stamp suffix := by
  have hfolder := isRooted_folder stamp suffix hw
  have hshelf := isRooted_shelf stamp suffix hw
  have hfolderNe : (layout w stamp suffix).folder.names ≠ [] := by simp [folder_eq]
  have hshelfNe : (layout w stamp suffix).shelf.names ≠ [] := by simp [shelf_eq]
  have hparent : (layout w stamp suffix).shelf.parent = w := by
    rw [shelf_eq, Path.parent, List.dropLast_concat]
  -- Neither the private folder nor the one above it is found.
  have hfolderNames : (layout w stamp suffix).folder.names =
      k ++ n :: (rest ++ [shelfName, folderName stamp]) := by simp [folder_eq, hnames]
  have hshelfNames : (layout w stamp suffix).shelf.names = k ++ n :: (rest ++ [shelfName]) := by
    simp [shelf_eq, hnames]
  have hshort := length_shelf_le stamp suffix hw
  have hmade := Disk.makeFolders_of_notFound hfolderNe ((Disk.locate_of_missing hd hfree hfolder
    hfits hk hfolderNames hn hnone false).trans (if_neg (by simp)))
  have hfirst : k ++ [n] <+: w.names := by
    rw [hnames]
    exact (List.prefix_append_right_inj k).2 (List.prefix_append [n] rest)
  rw [parent_folder, Disk.makeFoldersAllowed] at hmade
  -- One call is for the folder above the private one, and the others are for the working folder.
  cases hparents : Stack.parents with
  | zero =>
    have hnot : ¬ Makeable d w stamp suffix := fun h => by
      have hroom := h.room _ hfirst hnone
      have hle := hfirst.length_le
      omega
    rw [hparents] at hmade
    refine .inr ⟨hnot, by rw [hmade]; rfl, [], List.nil_prefix, ?_⟩
    rw [hmade]
    exact hd.grows (Disk.at?_nil d)
  | succ room =>
  have hall := Disk.makeFoldersAbove_of_notFound hshelfNe ((Disk.locate_of_missing hd hfree hshelf
    (Nat.lt_of_le_of_lt hshort hfits) hk hshelfNames hn hnone false).trans (if_neg (by simp))) room
  rw [hparent, ← hparents] at hall
  rcases Disk.madeAlong_makeFoldersAbove hd hfree hw hdown
    (Nat.lt_of_le_of_lt (hfolder.length_text_le (prefix_folder w stamp suffix)) hfits)
    hk hnames hn hnone room with ⟨hfailure, hgrows⟩ | ⟨hfailure, ⟨way, hway, hgrows⟩, hwhy⟩
  · -- The folder above comes into the working folder, whether that is new or not.
    refine .inl ⟨_, hgrows, ?_⟩
    have hgrounded : Grounded (d.makeFoldersAbove room w).disk w :=
      ⟨hgrows.tree, hw, hgrows.at?_way⟩
    have hfree' := hfree.of_extends hgrows.keeps
    have hshelfNone : (d.makeFoldersAbove room w).disk.at? (shelfAt w) = none := by
      rw [hgrows.at_eq, if_neg fun h => absurd h.length_le (by simp [shelfAt])]
      exact hd.at?_eq_none hmissing (List.prefix_append _ _)
    have hplace := locate_shelf hw hgrounded.isProper
      (fun _ h => hfree'.isOpen (hgrounded.folder_above h)) hfits
    rw [hshelfNone] at hplace
    have hbelow : (layout w stamp suffix).folder.names =
      w.names ++ shelfName :: [folderName stamp] := by simp [folder_eq]
    have hmade' := Disk.makeFolders_of_notFound hfolderNe ((Disk.locate_of_missing hgrows.tree
      hfree' hfolder hfits hgrows.at?_way hbelow isProper_shelfName hshelfNone false).trans
        (if_neg (by simp)))
    have hsame : d.makeFoldersAbove Stack.parents (layout w stamp suffix).shelf =
        (d.makeFoldersAbove room w).disk.makeFoldersAllowed (layout w stamp suffix).shelf := by
      rw [hall, hfailure, Disk.makeFoldersAllowed, hparents,
        Disk.makeFoldersAbove_of_ok (hfree'.makeFolder_eq hplace),
        ← hfree'.makeFolderAllowed_eq hplace]
      exact if_neg (by decide)
    rw [hmade, hmade', parent_folder, hsame]
  · rw [if_pos hfailure] at hall
    rw [hall, if_pos hfailure] at hmade
    have hnot : ¬ Makeable d w stamp suffix := fun h => by
      rcases hwhy with ⟨m, hm, hlong⟩ | hroom
      · exact hlong (h.proper m hm)
      · have hmore := h.room _ hfirst hnone
        rw [List.length_append, List.length_singleton, hparents] at hmore
        omega
    refine .inr ⟨hnot, ?_, way, hway, ?_⟩
    · rw [hmade]
      exact hfailure
    · rw [hmade]
      exact hgrows

/-- **The first program makes its working folder**, or fails to. -/
theorem makesMissing [Stack] (hd : d.IsTree) (hfree : d.IsFree) (hw : w.IsRooted)
    (hdown : ∀ m ∈ w.names, LeadsDown m) (hdirect : Direct w d) (hmissing : d.at? w.names = none)
    (stamp : Stamp) (suffix : Text) : MakesMissing d w stamp suffix := by
  have hfolder := isRooted_folder stamp suffix hw
  by_cases hfits : (Utf8.encode (layout w stamp suffix).folder.text).length < Disk.pathLimit
  case neg =>
    refine makesMissing_of_refused hd (fun h => hfits h.fits) (f := .tooLong) Fault.noConfusion ?_
    rw [Disk.locate_text hfolder, if_pos (Nat.not_lt.1 hfits)]
  obtain ⟨k, n, rest, hnames, hk, hfirst⟩ :=
    Disk.exists_first_missing (show d.at? w.names ≠ some .folder by simp [hmissing])
  have hpath : k ++ [n] <+: w.names := by
    rw [hnames]
    exact (List.prefix_append_right_inj k).2 (List.prefix_append [n] rest)
  have hmem : n ∈ w.names := hpath.mem (by simp)
  have hfolderNames : (layout w stamp suffix).folder.names =
      k ++ n :: (rest ++ [shelfName, folderName stamp]) := by simp [folder_eq, hnames]
  cases hthere : d.at? (k ++ [n]) with
  | some e =>
    have hblocked := Disk.locate_of_blocked hd hfree hfolder hfits hk hfolderNames hthere
      (fun h => hfirst (hthere.trans (congrArg some h)))
      (fun target h => hdirect.plain _ hpath target (hthere.trans (congrArg some h))) (by simp) false
    refine makesMissing_of_refused hd (fun h => ?_) Fault.noConfusion hblocked
    rcases h.clear _ hpath with h | h
    · exact hfirst h
    · exact nomatch hthere.symm.trans h
  | none =>
    by_cases hn : IsProper n
    · exact makesMissing_of_free hd hfree hw hdown hmissing hfits hnames hk hn hthere
    · exact makesMissing_of_refused hd (fun h => hn (h.proper n hmem)) Fault.noConfusion
        (Disk.locate_of_long hd hfree hfolder hfits hk hfolderNames (hdown n hmem) hn false)

/-- Of the disk, a run looks at the real path of the working folder, and at what making the
private folder comes to. -/
theorem run_congr [Stack] (hreal : d.realPath job.workingFolder = .ok w)
    (hreal' : d'.realPath job.workingFolder = .ok w)
    (hmade : d.makeFolders (layout w stamp i.suffix).folder =
      d'.makeFolders (layout w stamp i.suffix).folder) :
    run host i stamp job d = run host i stamp job d' := by
  rw [run, run, hreal, hreal']
  simp only [hmade]

/-- Real paths stay real where only folders are new. -/
theorem realPath_of_grows {p : Path} {way : Location} (hd : d.IsHome)
    (hreal : d.realPath p = .ok w) (hdirect : Direct w d) (h : d.Grows way d') :
    d'.realPath p = .ok w := by
  have hsame := h.sameLinks hd
  refine hsame.realPath_eq h.depth hreal fun ns hns target hlink => ?_
  have hbase : d'.base w = [] := by
    rw [Disk.base, if_neg]
    rcases (Disk.isRooted_of_realPath hreal).root with h | h <;>
      rw [h] <;> exact List.cons_ne_nil _ _
  rw [hbase, Lexical.foldl_visit_of_leadsDown fun n hn =>
    Disk.leadsDown_of_realPath hreal n (hns.mem hn), List.nil_append, hsame.links] at hlink
  exact hdirect.plain ns hns target hlink

/-- **One program leaves the folders that it makes above its private folder.** -/
theorem grows_run [Stack] (hidle : host.IsIdle) (hd : d.IsHome)
    (hreal : d.realPath job.workingFolder = .ok w) (hdirect : Direct w d)
    (hmissing : d.at? w.names = none) (stamp : Stamp) :
    ∃ way, way <+: w.names ∧ d.Grows way (run host i stamp job d).disk ∧
      (Makeable d w stamp i.suffix → way = w.names) := by
  have hw := Disk.isRooted_of_realPath hreal
  rcases makesMissing hd.tree hd.free hw (Disk.leadsDown_of_realPath hreal) hdirect hmissing stamp
    i.suffix with ⟨d', hgrows, hmade⟩ | ⟨hnot, hfailure, way, hway, hgrows⟩
  · have hreal' := realPath_of_grows hd hreal hdirect hgrows
    have hshelf : d'.at? (shelfAt w) = none := by
      rw [hgrows.at_eq, if_neg fun h => absurd h.length_le (by simp [shelfAt])]
      exact hd.tree.at?_eq_none hmissing (List.prefix_append _ _)
    refine ⟨w.names, List.prefix_rfl, ?_, fun _ => rfl⟩
    rw [run_congr hreal hreal' hmade,
      disk_run_idle hidle ⟨hgrows.tree, hw, hgrows.at?_way⟩ (hd.free.of_extends hgrows.keeps)
        hreal' hshelf]
    exact hgrows
  · obtain ⟨f, hf⟩ := Option.isSome_iff_exists.1 hfailure
    refine ⟨way, hway, ?_, fun h => absurd h hnot⟩
    rw [run, hreal]
    simp only [hf]
    exact hgrows

end Workspace

namespace Runner

open Workspace (Direct Makeable)

variable {r : Runner} {host : Host} {i : Interpreter} {d : Disk} {w : Path}

/-! ### A whole run -/

section

variable [Stack]

/-- What is left behind one example: nothing has changed, or its job was done. -/
theorem disk_runOne (r : Runner) (host : Host) (i : Interpreter) (e : Example) (s : Site) :
    (r.runOne (Workspace.executor host i) e s).2.disk =
      match r.job? s.disk e with
      | none => s.disk
      | some job => (Workspace.run host i (host.stamp (s.serial + 1)) job s.disk).disk := by
  have hdisk : (Workspace.executor host i).disk ⟨s.disk, s.serial + 1⟩ = s.disk := rfl
  have hclock (s : Site) :
      (Workspace.executor host i).clock s = (host.time s.serial, ⟨s.disk, s.serial + 1⟩) := rfl
  simp only [runOne_eq, hclock, carryOut, job?, hdisk]
  cases Synthesis.program s.disk e <;> rfl

/-- A disk as it may be behind some examples: folders were made on the way of the working
folder. -/
structure Behind (d : Disk) (w : Path) (way : Location) (s : Site) : Prop where
  grows : d.Grows way s.disk
  above : way <+: w.names

section

variable (hidle : host.IsIdle) (hd : d.IsHome) (hreal : d.realPath r.workingFolder = .ok w)
  (hdirect : Direct w d) (hmissing : d.at? w.names = none)
include hidle hd hreal hdirect hmissing

/-- **One example** makes at most more folders on the way of the working folder. -/
theorem Behind.runOne {way : Location} {s : Site} (h : Behind d w way s) (e : Example) :
    ∃ way', way <+: way' ∧ Behind d w way' (r.runOne (Workspace.executor host i) e s).2 := by
  have hone := disk_runOne r host i e s
  cases hjob : r.job? s.disk e with
  | none =>
    rw [hjob] at hone
    exact ⟨way, List.prefix_rfl, hone ▸ h.grows, h.above⟩
  | some job =>
    rw [hjob] at hone
    obtain ⟨hfolder, -⟩ := job?_eq_some hjob
    have hsame := h.grows.sameLinks hd
    have hreal' : s.disk.realPath job.workingFolder = .ok w := by
      rw [hfolder]
      exact Workspace.realPath_of_grows hd hreal hdirect h.grows
    cases hthere : s.disk.at? w.names with
    | none =>
      have hdirect' : Direct w s.disk := ⟨fun k hk target hlink =>
        hdirect.plain k hk target ((hsame.links k target).1 hlink),
        fun k _ => hsame.right.free.search k⟩
      obtain ⟨more, hmore, hgrows, -⟩ := Workspace.grows_run (i := i) hidle hsame.right hreal'
        hdirect' hthere (host.stamp (s.serial + 1))
      obtain ⟨whole, hway, hwhole, -, hgrows'⟩ := h.grows.trans hgrows
        (List.prefix_or_prefix_of_prefix h.above hmore)
      refine ⟨whole, hway, hone ▸ hgrows', ?_⟩
      rcases hwhole with rfl | rfl
      · exact h.above
      · exact hmore
    | some entry =>
      -- The working folder was made before, so that nothing is left besides.
      have hall : w.names <+: way := by
        rw [h.grows.at_eq] at hthere
        split at hthere
        · assumption
        · exact nomatch hmissing.symm.trans hthere
      have hfolder' : s.disk.at? w.names = some .folder := by rw [h.grows.at_eq, if_pos hall]
      have hshelf : s.disk.at? (Workspace.shelfAt w) = none := by
        rw [h.grows.at_eq, if_neg fun hl => absurd (hl.trans h.above).length_le
          (by simp [Workspace.shelfAt])]
        exact hd.tree.at?_eq_none hmissing (List.prefix_append _ _)
      have hdisk := Workspace.disk_run_idle (i := i) hidle
        ⟨h.grows.tree, Disk.isRooted_of_realPath hreal, hfolder'⟩ hsame.right.free hreal' hshelf
        (host.stamp (s.serial + 1))
      exact ⟨way, List.prefix_rfl, (hone.trans hdisk) ▸ h.grows, h.above⟩

/-- **All examples** together do no more. -/
theorem Behind.run {way : Location} {s : Site} (h : Behind d w way s) (es : List Example) :
    ∃ way', way <+: way' ∧ Behind d w way' (r.run (Workspace.executor host i) es s).2 := by
  induction es generalizing way s with
  | nil => exact ⟨way, List.prefix_rfl, h⟩
  | cons e es ih =>
    obtain ⟨way', hway, hone⟩ := h.runOne (i := i) hidle hd hreal hdirect hmissing e
    obtain ⟨way'', hway', hrun⟩ := ih hone
    exact ⟨way'', hway.trans hway', hrun⟩

/-- **The first program** makes the working folder, and all examples leave it. -/
theorem behind_run_of_job {es : List Example} {s : Site} (hdisk : s.disk = d)
    (hjobs : ∃ e ∈ es, (r.job? d e).isSome = true)
    (hmake : ∀ moment, Makeable d w (host.stamp moment) i.suffix) :
    Behind d w w.names (r.run (Workspace.executor host i) es s).2 := by
  induction es generalizing s with
  | nil =>
    obtain ⟨e, he, -⟩ := hjobs
    exact absurd he List.not_mem_nil
  | cons e es ih =>
    have hone := disk_runOne r host i e s
    rw [hdisk] at hone
    simp only [run_cons]
    cases hjob : r.job? d e with
    | none =>
      rw [hjob] at hone
      obtain ⟨e', he', hsome⟩ := hjobs
      have hmem : e' ∈ es := (List.mem_cons.1 he').resolve_left fun h => by simp [h, hjob] at hsome
      exact ih hone ⟨e', hmem, hsome⟩
    | some job =>
      rw [hjob] at hone
      obtain ⟨hfolder, -⟩ := job?_eq_some hjob
      obtain ⟨way, -, hgrows, hall⟩ := Workspace.grows_run (i := i) hidle hd
        (hfolder.symm ▸ hreal) hdirect hmissing (host.stamp (s.serial + 1))
      obtain rfl := hall (hmake _)
      have hfirst : Behind d w w.names (r.runOne (Workspace.executor host i) e s).2 :=
        ⟨hone ▸ hgrows, List.prefix_rfl⟩
      obtain ⟨way, hway, hbehind⟩ := hfirst.run (i := i) hidle hd hreal hdirect hmissing es
      obtain rfl := hway.eq_of_length_le hbehind.above.length_le
      exact hbehind

end

/-- Examples without programs change nothing. -/
theorem disk_run_of_jobless (r : Runner) (host : Host) (i : Interpreter) {es : List Example}
    {s : Site} (h : ∀ e ∈ es, r.job? s.disk e = none) :
    (r.run (Workspace.executor host i) es s).2.disk = s.disk := by
  induction es generalizing s with
  | nil => rfl
  | cons e es ih =>
    obtain ⟨he, hes⟩ := List.forall_mem_cons.1 h
    have hone := disk_runOne r host i e s
    rw [he] at hone
    exact (ih (hone ▸ hes)).trans hone

/-- **The folders made for a working folder stay.**  Where the working folder is missing, the user
may do everything and no process changes anything, what is new behind a run are folders on the way of the working folder,
and nothing else.  If no example has a program, nothing is new.  If some example has one and the
working folder can be made, it is left behind with all folders that were missing above it. -/
theorem run_remains (r : Runner) {host : Host} (hidle : host.IsIdle) (i : Interpreter)
    (es : List Example) {s : Site} {w : Path} (htree : s.disk.IsTree) (hfree : s.disk.IsFree)
    (hcwd : s.disk.at? s.disk.cwd = some .folder)
    (hreal : s.disk.realPath r.workingFolder = .ok w) (hdirect : Direct w s.disk)
    (hmissing : s.disk.at? w.names = none) :
    let after := (r.run (Workspace.executor host i) es s).2.disk
    ((∀ e ∈ es, r.job? s.disk e = none) → after = s.disk) ∧
      ∃ way, way <+: w.names ∧
        (∀ l, after.at? l = if l <+: way then some .folder else s.disk.at? l) ∧
        ((∃ e ∈ es, (r.job? s.disk e).isSome = true) →
          (∀ moment, Makeable s.disk w (host.stamp moment) i.suffix) → way = w.names) := by
  intro after
  have hd : s.disk.IsHome := ⟨htree, hfree, hcwd⟩
  have hnone : Behind s.disk w [] s := ⟨htree.grows (Disk.at?_nil _), List.nil_prefix⟩
  refine ⟨fun hjobless => disk_run_of_jobless r host i hjobless, ?_⟩
  by_cases hmade : (∃ e ∈ es, (r.job? s.disk e).isSome = true) ∧
      ∀ moment, Makeable s.disk w (host.stamp moment) i.suffix
  · have hbehind := behind_run_of_job (i := i) hidle hd hreal hdirect hmissing rfl hmade.1 hmade.2
    exact ⟨w.names, List.prefix_rfl, hbehind.grows.at_eq, fun _ _ => rfl⟩
  · obtain ⟨way, -, hbehind⟩ := hnone.run (i := i) hidle hd hreal hdirect hmissing es
    exact ⟨way, hbehind.above, hbehind.grows.at_eq, fun hjobs hmake => absurd ⟨hjobs, hmake⟩ hmade⟩

end

theorem isIdle_idle : Workspace.idle.IsIdle := by
  rintro asked d p h
  obtain rfl := Except.ok.inj h
  rfl

/-- A runner for a working folder two levels below one that is there. -/
def nested : Runner := ⟨Path.ofText "a/b".toList, .int 5000⟩

/-- The path of that working folder. -/
def nestedFolder : Path := ⟨['/'], ["w".toList, "a".toList, "b".toList]⟩

/-- What stands on the way there: the outer folder, and nothing further down. -/
theorem clear_nestedFolder {k : Location} (hk : k <+: nestedFolder.names) :
    Workspace.bare.at? k = some .folder ∨ Workspace.bare.at? k = none :=
  (show ∀ k ∈ nestedFolder.names.inits,
    Workspace.bare.at? k = some .folder ∨ Workspace.bare.at? k = none by decide) k
      ((List.mem_inits k _).2 hk)

/-- Its private folders have short paths, whatever they are named after. -/
theorem makeable_nestedFolder (stamp : Stamp) :
    Makeable Workspace.bare nestedFolder stamp Workspace.shell.suffix where
  fits := by
    have hrooted : nestedFolder.IsRooted := ⟨.inl rfl, by decide⟩
    have hname := (Workspace.isProper_folderName stamp).short
    have habove : (Utf8.encode (Workspace.layout nestedFolder stamp
        Workspace.shell.suffix).shelf.text).length = 15 := by
      rw [Workspace.shelf_eq]
      decide +kernel
    have hslash : (Utf8.encode ['/']).length = 1 := by decide
    have hlimits : 16 + Disk.nameLimit < Disk.pathLimit := by decide
    rw [Workspace.text_folder stamp _ hrooted, Utf8.length_encode_append,
      Utf8.length_encode_append, habove, hslash]
    omega
  proper := by decide
  clear _ := clear_nestedFolder
  room k _ _ := Nat.lt_add_left k.length (by decide)

theorem run_remains_nested :
    Workspace.bare.IsTree ∧ Workspace.bare.IsFree ∧
      Workspace.bare.at? Workspace.bare.cwd = some .folder ∧
      Workspace.bare.realPath nested.workingFolder = .ok nestedFolder ∧
      Direct nestedFolder Workspace.bare ∧ Workspace.bare.at? nestedFolder.names = none ∧
      (nested.job? Workspace.bare codeless).isSome = true ∧
      (∀ moment, Makeable Workspace.bare nestedFolder (Workspace.idle.stamp moment)
        Workspace.shell.suffix) ∧
      (nested.run (Workspace.executor Workspace.idle Workspace.shell) [codeless]
        ⟨Workspace.bare, 0⟩).2.disk.at? nestedFolder.names = some .folder := by
  have hdirect : Direct nestedFolder Workspace.bare := by
    refine ⟨fun k hk target hlink => ?_, fun _ _ => rfl⟩
    rcases clear_nestedFolder hk with h | h <;> exact nomatch h.symm.trans hlink
  have hreal : Workspace.bare.realPath nested.workingFolder = .ok nestedFolder := rfl
  have hmissing : Workspace.bare.at? nestedFolder.names = none := rfl
  have hjob : (nested.job? Workspace.bare codeless).isSome = true := by decide +kernel
  have hmake : ∀ moment, Makeable Workspace.bare nestedFolder (Workspace.idle.stamp moment)
      Workspace.shell.suffix := fun _ => makeable_nestedFolder _
  obtain ⟨-, way, -, hat, hall⟩ := run_remains nested isIdle_idle Workspace.shell [codeless]
    (s := ⟨Workspace.bare, 0⟩) Workspace.isTree_bare rfl rfl hreal hdirect hmissing
  obtain rfl := hall ⟨codeless, List.mem_cons_self, hjob⟩ hmake
  refine ⟨Workspace.isTree_bare, rfl, rfl, hreal, hdirect, hmissing, hjob, hmake, ?_⟩
  rw [hat, if_pos List.prefix_rfl]

end Runner
end DocExamples
