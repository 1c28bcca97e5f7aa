/-
# No trace of the private folder

Whatever becomes of a program, its private folder is gone afterwards, and `.testdoc` with it
if that is a folder which then holds nothing.  All else is as the process left it, or as it was
before if there was no process.  A link in the place of `.testdoc` stays, whatever it leads to,
and where the private folder cannot be made, nothing changes at all.

A process may do what it likes with the disk, except put something else in the place of its
private folder or lock that up.  Where it puts a link in the place of the working folder, or of
one above it, `.testdoc` is what its path then leads to.

| what the user may not do | what stays |
| --- | --- |
| change the working folder | `.testdoc`, even if it is empty |
| use a new folder `.testdoc` | that, with nothing in it |
| read a new private folder | what cannot be removed of it |
-/

import DocExamples.Proofs.Housing

namespace DocExamples
namespace Workspace

open Disk (IsProper IsTree)

variable {d base left : Disk} {w : Path} {stamp : Stamp} {suffix : Text} {place : Location}

/-! ### Clearing -/

section

variable {depth : Nat} {halt : Location → Disk → Disk} {l : Layout}

theorem home?_eq_some_iff :
    home? l left = some place ↔ left.locate false l.folder.text = .ok ⟨place, some .folder⟩ := by
  unfold home?
  generalize left.locate false l.folder.text = answer
  rcases answer with f | ⟨location, _ | e⟩
  · simp
  · simp
  · cases e <;> simp

theorem removeTree_of_home? (h : home? l left = some place) (hyields : left.Yields depth place) :
    left.removeTree depth halt l.folder.text = left.eraseTree place := by
  rw [Disk.removeTree, home?_eq_some_iff.1 h]
  exact if_pos hyields

theorem removeTree_of_homeless (h : home? l left = none) :
    left.removeTree depth halt l.folder.text = left := by
  unfold Disk.removeTree
  split
  · next location hlocate => cases h.symm.trans (home?_eq_some_iff.2 hlocate)
  · rfl

variable [Stack]

theorem clogged_iff (host : Host) : clogged host l left = true ↔
    ∃ place, home? l left = some place ∧ left.nestsBeyond Stack.removals place = true ∧
      host.full place left = true := by
  unfold clogged
  split
  · next location hlocate =>
    have hhome := home?_eq_some_iff.2 hlocate
    simp [hhome]
  · next hlocate =>
    refine ⟨fun h => absurd h Bool.false_ne_true, fun ⟨place, hhome, _⟩ => ?_⟩
    exact absurd (home?_eq_some_iff.1 hhome) (hlocate place)

/-- The stack has room where no folders are nested too deep. -/
theorem clogged_of_home? (host : Host) (h : home? l left = some place)
    (hnests : left.nestsBeyond Stack.removals place = false) : clogged host l left = false := by
  refine Bool.eq_false_iff.2 fun hclogged => ?_
  obtain ⟨place', hplace, hbeyond, -⟩ := (clogged_iff host).1 hclogged
  obtain rfl := Option.some.inj (h.symm.trans hplace)
  exact absurd (hnests.symm.trans hbeyond) Bool.false_ne_true

theorem cleared_of_home? (host : Host) (h : home? l left = some place)
    (hyields : left.Yields Stack.removals place) :
    cleared host l left = (left.eraseTree place).removeEmptyFolder l.shelf.text := by
  have hclear := clogged_of_home? host h hyields.nestsBeyond_eq
  rw [cleared, removeTree_of_home? h hyields]
  exact if_neg (Bool.eq_false_iff.1 hclear)

theorem cleared_of_homeless (host : Host) (h : home? l left = none) :
    cleared host l left = left.removeEmptyFolder l.shelf.text := by
  have hclear : ¬ clogged host l left = true := by
    rw [clogged_iff, h]
    rintro ⟨place, hplace, -⟩
    cases hplace
  rw [cleared, removeTree_of_homeless h]
  exact if_neg hclear

end

/-- There is no link in the place of the working folder or of one above it, and names may be
looked up there. -/
structure Direct (w : Path) (left : Disk) : Prop where
  /-- No link stands on the way. -/
  plain : ∀ k, k <+: w.names → ∀ target, left.at? k ≠ some (.link target)
  /-- Each folder on the way may be searched. -/
  search : ∀ k, k <+: w.names → left.rights.search k = true

/-- A disk without `.testdoc`, if that is an empty folder and the working folder may be
changed. -/
def swept (w : Path) (d : Disk) : Disk :=
  if d.rights.write w.names then d.withoutEmpty (shelfAt w) else d

theorem swept_eq_self (h : d.at? (shelfAt w) ≠ some .folder) : swept w d = d := by
  rw [swept, Disk.withoutEmpty_eq_self h, ite_self]

theorem Awaits.direct (hd : Grounded d w) (h : Awaits w stamp suffix d base place) :
    Direct w base where
  plain k hk target := by
    rw [(h.grounded hd).folder_above hk]
    exact nofun
  search k hk := (h.isOpen hd k hk).search

theorem Direct.eraseTree (h : Direct w left) (l : Location) : Direct w (left.eraseTree l) where
  plain k hk target hlink := h.plain k hk target (Disk.at?_of_eraseTree hlink)
  search := h.search

/-- The path of the folder above leads nowhere without the working folder. -/
theorem locate_shelf_blocked (hw : w.IsRooted) (hproper : ∀ n ∈ w.names, IsProper n)
    (hdirect : Direct w left) (hblocked : ∃ k, k <+: w.names ∧ ¬ left.IsOpen k)
    (hfits : (Utf8.encode (layout w stamp suffix).folder.text).length < Disk.pathLimit) :
    ∃ f, left.locate false (layout w stamp suffix).shelf.text = .error f := by
  have hlength := length_shelf_le stamp suffix hw
  obtain ⟨jump, hwalk⟩ := Disk.resolve_eq_walk left false Disk.linkLimit
  rw [Disk.locate_text (isRooted_shelf stamp suffix hw), if_neg (by omega), shelf_eq, hwalk]
  exact Disk.walk_blocked hproper isProper_shelfName.ne_nil (Disk.at?_nil left) hdirect.plain hblocked

/-- The folder above is removed if it is a folder and holds nothing. -/
theorem removeEmptyFolder_shelf (hw : w.IsRooted) (hproper : ∀ n ∈ w.names, IsProper n)
    (htree : left.IsTree) (hdirect : Direct w left)
    (hfits : (Utf8.encode (layout w stamp suffix).folder.text).length < Disk.pathLimit) :
    left.removeEmptyFolder (layout w stamp suffix).shelf.text = swept w left := by
  by_cases hblocked : ∃ k, k <+: w.names ∧ ¬ left.IsOpen k
  · -- Nothing is removed, and on a tree there is no folder at the location either.
    obtain ⟨f, hf⟩ := locate_shelf_blocked hw hproper hdirect hblocked hfits
    obtain ⟨k, hk, hno⟩ := hblocked
    have hnone : left.at? (shelfAt w) ≠ some .folder := fun hshelf =>
      hno ⟨htree.folder_above hshelf (hk.trans (List.prefix_append w.names [shelfName])),
        hdirect.search k hk⟩
    rw [Disk.removeEmptyFolder, hf, swept_eq_self hnone]
  · have hopen : ∀ k, k <+: w.names → left.IsOpen k :=
      fun k hk => Classical.not_not.1 fun hno => hblocked ⟨k, hk, hno⟩
    have hdrop : (shelfAt w).dropLast = w.names := List.dropLast_concat
    rw [Disk.removeEmptyFolder, locate_shelf hw hproper hopen hfits, swept, Disk.withoutEmpty]
    cases left.at? (shelfAt w) with
    | none => simp
    | some e =>
      cases e with
      | folder => cases hwrite : left.rights.write w.names <;> simp [hdrop, hwrite]
      | _ => simp

/-- Clearing takes back what was made, on a disk on which only that was made. -/
theorem Awaits.cleared_eq [Stack] (hd : Grounded d w) (host : Host)
    (h : Awaits w stamp suffix d base place) (hext : base.Extends left)
    (hplace : left.at? place = some .folder) (hyields : left.Yields Stack.removals place)
    (herase : left.eraseTree place = base) :
    cleared host (layout w stamp suffix) left = swept w d := by
  have hbase := h.grounded hd
  rw [cleared_of_home? host (h.home?_eq hd hext hplace) hyields, herase,
    removeEmptyFolder_shelf hd.rooted hd.isProper hbase.tree (h.direct hd) h.fits]
  rcases h.disk with rfl | ⟨hnone, hwrite, rfl⟩
  · rfl
  · rw [swept, Disk.rights_put, if_pos hwrite,
      hd.tree.withoutEmpty_put (by simp [shelfAt]) hnone, swept_eq_self (by simp [hnone])]

/-- The path of the private folder leads to it and it can be removed with all that it holds, or
else the path leads to no folder and nothing is left in its place: so it is if a process neither
puts something else there nor locks it up. -/
def Spares [Stack] (l : Layout) (place : Location) (left : Disk) : Prop :=
  home? l left = some place ∧ left.Yields Stack.removals place ∨
    home? l left = none ∧ ∀ k, place <+: k → left.at? k = none

/-- What only adds to a disk with the private folder, and does not lock that up, spares it. -/
theorem Awaits.spares [Stack] (hd : Grounded d w) (h : Awaits w stamp suffix d base place)
    (hext : (base.put place .folder).Extends left) (hyields : left.Yields Stack.removals place) :
    Spares (layout w stamp suffix) place left := by
  have hbase : base.Extends left :=
    (Disk.extends_put (h.at?_eq_none hd place (List.prefix_refl place)) .folder).trans hext
  have hplace := hext.keeps _ _ (Disk.at?_put_self base .folder (h.ne_nil hd))
  exact .inl ⟨h.home?_eq hd hbase hplace, hyields⟩

/-- Clearing takes away the private folder and then, if it is empty, the folder above. -/
theorem Spares.cleared_eq [Stack] {l : Layout} (h : Spares l place left) (host : Host) :
    cleared host l left = (left.eraseTree place).removeEmptyFolder l.shelf.text := by
  rcases h with ⟨hhome, hyields⟩ | ⟨hhome, hgone⟩
  · exact cleared_of_home? host hhome hyields
  · rw [cleared_of_homeless host hhome, Disk.eraseTree_eq_self hgone]

/-- Nothing is in a new private folder. -/
theorem Awaits.below_made (hd : Grounded d w) (h : Awaits w stamp suffix d base place) :
    ∀ x ∈ (base.put place .folder).entries, place <+: x.1 → x.1 = place := by
  intro x hx hplace
  rcases List.mem_cons.1 hx with rfl | hx
  · rfl
  · exact absurd (h.at?_eq_none hd x.1 hplace) (Disk.at?_ne_none (List.mem_filter.1 hx).1)

theorem Awaits.at?_file_eq_none (hd : Grounded d w) (h : Awaits w stamp suffix d base place)
    (n : Text) : (base.put place .folder).at? (place ++ [n]) = none := by
  rw [Disk.at?_put_other base _ (by simp)]
  exact h.at?_eq_none hd _ (List.prefix_append _ _)

/-- Once it is written, the program's file is all that is in it. -/
theorem Awaits.below_written (hd : Grounded d w) (h : Awaits w stamp suffix d base place) (n : Text)
    (content : Octets) (mode : Nat) :
    ∀ x ∈ ((base.put place .folder).put (place ++ [n]) (.file content mode)).entries,
      place <+: x.1 → x.1 = place ∨ x = (place ++ [n], .file content mode) := by
  intro x hx hplace
  rcases List.mem_cons.1 hx with rfl | hx
  · exact .inr rfl
  · exact .inl (h.below_made hd x (List.mem_filter.1 hx).1 hplace)

section

variable (h : Awaits w stamp suffix d base place) (hread : d.rights.read place = true)
include h hread

/-- A private folder that may be read can be removed as long as only the program's file is in
it. -/
theorem Awaits.yields (depth : Nat) {left : Disk} (hrights : left.rights = base.rights)
    (hbelow : ∀ x ∈ left.entries, place <+: x.1 → x.1 ≠ place → x.2.isFolder = false ∧
      x.1.dropLast = place ∧ base.rights.search place = true ∧ base.rights.write place = true) :
    left.Yields depth place where
  above := by
    rw [hrights]
    exact h.writable
  read := by
    rw [hrights, h.rights_eq]
    exact hread
  changes x hx hplace hne := by
    obtain ⟨-, hdrop, hsearch, hwrite⟩ := hbelow x hx hplace hne
    rw [hrights, hdrop]
    exact ⟨hsearch, hwrite⟩
  folders x hx hplace hne hfolder := by
    obtain ⟨hno, -⟩ := hbelow x hx hplace hne
    exact absurd (hno.symm.trans hfolder) (by decide)

variable [Stack] (hd : Grounded d w) (host : Host)
include hd

/-- Clearing takes back a private folder in which nothing was run. -/
theorem Awaits.cleared_made :
    cleared host (layout w stamp suffix) (base.put place .folder) = swept w d := by
  have hnone := h.at?_eq_none hd
  refine h.cleared_eq hd host (Disk.extends_put (hnone place (List.prefix_refl place)) _)
    (Disk.at?_put_self base _ (h.ne_nil hd)) (h.yields hread _ rfl ?_) ?_
  · exact fun x hx hplace hne => absurd (h.below_made hd x hx hplace) hne
  · rw [Disk.eraseTree_put base (List.prefix_refl place)]
    exact Disk.eraseTree_eq_self hnone

/-- Clearing takes back a private folder with the program's file. -/
theorem Awaits.cleared_written (hsearch : base.rights.search place = true)
    (hwrite : base.rights.write place = true) (n : Text) (content : Octets) (mode : Nat) :
    cleared host (layout w stamp suffix)
      ((base.put place .folder).put (place ++ [n]) (.file content mode)) = swept w d := by
  have hnone := h.at?_eq_none hd
  have hfree := h.at?_file_eq_none hd n
  refine h.cleared_eq hd host
    ((Disk.extends_put (hnone place (List.prefix_refl place)) _).trans (Disk.extends_put hfree _))
    ?_ (h.yields hread _ rfl ?_) ?_
  · rw [Disk.at?_put_other _ _ (by simp)]
    exact Disk.at?_put_self base _ (h.ne_nil hd)
  · intro x hx hplace hne
    rcases h.below_written hd n content mode x hx hplace with he | rfl
    · exact absurd he hne
    · exact ⟨rfl, List.dropLast_concat, hsearch, hwrite⟩
  · rw [Disk.eraseTree_put _ (List.prefix_append place [n]),
      Disk.eraseTree_put base (List.prefix_refl place)]
    exact Disk.eraseTree_eq_self hnone

end

/-! ### The whole course -/

section

variable [Stack]

/-- What happens to a disk when a program is run in a private folder, once that has been
made. -/
structure Clears (host : Host) (i : Interpreter) (stamp : Stamp) (job : Job) (d : Disk) (w : Path)
    (l : Layout) (made base : Disk) (place : Location) : Prop where
  /-- The folder above the private one can be new. -/
  above : base = d ∨ d.at? (shelfAt w) = none ∧ base = d.put (shelfAt w) .folder
  /-- The private folder comes to a free place in some folder. -/
  fresh : ∃ k, place = k ++ [folderName stamp] ∧ base.at? k = some .folder ∧
    base.at? place = none
  /-- It is all that is made besides. -/
  made_eq : made = base.put place .folder
  /-- Its path leads to it. -/
  home : home? l made = some place
  /-- The file comes directly into the private folder, under the one name that it is given. -/
  file : ∀ written, written? l job made = some written →
    ∃ n mode, Path.namesOf (fileStem ++ i.suffix) = [n] ∧
      written = made.put (place ++ [n]) (.file (Utf8.encode job.program) mode)
  /-- Without a process, the disk is as it was before, less an empty folder `.testdoc` that may
  be removed.  The private folder has to be read for that. -/
  unstarted : spawned? host i stamp job d = none → d.rights.read place = true →
    (run host i stamp job d).disk = swept w d
  /-- Whatever only adds to the disk, and does not lock the private folder up, spares it. -/
  spares : ∀ left, made.Extends left → left.Yields Stack.removals place → Spares l place left
  /-- With a process that spares it, the disk is as that left it, less the private folder and
  all below it, and then less what the path of `.testdoc` leads to, if that is an empty
  folder. -/
  leaves : ∀ p, spawned? host i stamp job d = some p → Spares l place p.disk →
    (run host i stamp job d).disk = (p.disk.eraseTree place).removeEmptyFolder l.shelf.text
  /-- That is `.testdoc` in the working folder, unless the process has put a link in the place
  of the working folder or of one above it, or has locked one of these up. -/
  leaves_direct : ∀ p, spawned? host i stamp job d = some p → Spares l place p.disk →
    p.disk.IsTree → Direct w p.disk →
      (run host i stamp job d).disk = swept w (p.disk.eraseTree place)

variable {host : Host} {i : Interpreter} {job : Job}

/-- The private folder is made, or else nothing changes, unless the folder above it is made and
may not be used. -/
theorem housed?_cases (host : Host) (hd : Grounded d w)
    (hreal : d.realPath job.workingFolder = .ok w) (stamp : Stamp) :
    (housed? i stamp job d = none ∧ ((run host i stamp job d).disk = d ∨
        d.at? (shelfAt w) = none ∧
          ¬ (d.rights.search (shelfAt w) = true ∧ d.rights.write (shelfAt w) = true) ∧
          (run host i stamp job d).disk = d.put (shelfAt w) .folder)) ∨
      ∃ base place, Awaits w stamp i.suffix d base place ∧
        housed? i stamp job d = some (layout w stamp i.suffix, base.put place .folder) := by
  have hmakes := makes_makeFolders hd stamp i.suffix
  simp only [housed?, run, hreal]
  cases hmade : d.makeFolders (layout w stamp i.suffix).folder with
  | mk disk failure =>
    rw [hmade] at hmakes
    cases hmakes with
    | nothing => exact .inl ⟨rfl, .inl rfl⟩
    | above hnone huse => exact .inl ⟨rfl, .inr ⟨hnone, huse, rfl⟩⟩
    | folder h => exact .inr ⟨_, _, h, rfl⟩

/-- Without a process, at most an empty folder `.testdoc` goes. -/
theorem Awaits.disk_run_of_unstarted (host : Host) (hd : Grounded d w)
    (h : Awaits w stamp i.suffix d base place)
    (hhoused : housed? i stamp job d = some (layout w stamp i.suffix, base.put place .folder))
    (hspawned : spawned? host i stamp job d = none) (hread : d.rights.read place = true) :
    (run host i stamp job d).disk = swept w d := by
  rw [disk_run host hhoused]
  rcases disk_runInside host hhoused with ⟨p, hp, -⟩ | ⟨-, hdisk | ⟨written, hwritten, hdisk⟩⟩
  · rw [hspawned] at hp
    exact nomatch hp
  · rw [hdisk]
    exact h.cleared_made hread hd host
  · obtain ⟨hsearch, hwrite, n, mode, -, hput⟩ := h.written?_eq_some hd hwritten
    rw [hdisk, hput]
    exact h.cleared_written hread hd host hsearch hwrite n _ mode

/-- With a process that spares the private folder, that goes and perhaps the folder above. -/
theorem disk_run_of_spawned {l : Layout} {made : Disk} {p : ProcessRun}
    (hhoused : housed? i stamp job d = some (l, made))
    (hspawned : spawned? host i stamp job d = some p) (hspares : Spares l place p.disk) :
    (run host i stamp job d).disk = (p.disk.eraseTree place).removeEmptyFolder l.shelf.text := by
  rw [disk_run host hhoused]
  rcases disk_runInside host hhoused with ⟨q, hq, hdisk⟩ | ⟨hnone, -⟩
  · rw [hspawned] at hq
    rw [hdisk, ← Option.some.inj hq]
    exact hspares.cleared_eq host
  · rw [hspawned] at hnone
    exact nomatch hnone

/-- **Only a process can leave what is nested too deep to be removed.** -/
theorem Awaits.exists_spawned_of_clogs (hd : Grounded d w)
    (h : Awaits w stamp i.suffix d base place)
    (hhoused : housed? i stamp job d = some (layout w stamp i.suffix, base.put place .folder))
    (hclogs : clogs host i stamp job d = true) :
    ∃ p, spawned? host i stamp job d = some p ∧
      ∃ k, home? (layout w stamp i.suffix) p.disk = some k ∧
        p.disk.nestsBeyond Stack.removals k = true ∧ host.full k p.disk = true := by
  rw [clogs_of_housed? host hhoused] at hclogs
  -- Without a process, there is no folder in the private folder.
  have hflat {left : Disk} (hext : base.Extends left) (hplace : left.at? place = some .folder)
      (hbelow : ∀ x ∈ left.entries, place <+: x.1 → x.1 = place ∨ x.2.isFolder = false) :
      clogged host (layout w stamp i.suffix) left = false :=
    clogged_of_home? host (h.home?_eq hd hext hplace) (Disk.nestsBeyond_of_flat hbelow _)
  have hmade := Disk.extends_put (h.at?_eq_none hd place (List.prefix_refl place)) .folder
  have hthere := Disk.at?_put_self base .folder (h.ne_nil hd)
  rcases disk_runInside host hhoused with ⟨p, hp, hdisk⟩ | ⟨-, hdisk | ⟨written, hwritten, hdisk⟩⟩
  · rw [hdisk] at hclogs
    exact ⟨p, hp, (clogged_iff host).1 hclogs⟩
  · rw [hdisk, hflat hmade hthere fun x hx hplace => .inl (h.below_made hd x hx hplace)] at hclogs
    exact absurd hclogs Bool.false_ne_true
  · obtain ⟨-, -, n, mode, -, rfl⟩ := h.written?_eq_some hd hwritten
    have hfree := h.at?_file_eq_none hd n
    rw [hdisk, hflat (hmade.trans (Disk.extends_put hfree _))
      ((Disk.at?_put_other _ _ (by simp)).trans hthere) fun x hx hplace =>
        (h.below_written hd n _ mode x hx hplace).imp_right fun hfile => by rw [hfile]; rfl] at hclogs
    exact absurd hclogs Bool.false_ne_true

theorem Awaits.clears (host : Host) (hd : Grounded d w) (h : Awaits w stamp i.suffix d base place)
    (hhoused : housed? i stamp job d = some (layout w stamp i.suffix, base.put place .folder)) :
    Clears host i stamp job d w (layout w stamp i.suffix) (base.put place .folder) base
      place where
  above := h.disk.imp_right fun ⟨hnone, _, hput⟩ => ⟨hnone, hput⟩
  fresh := h.exists_folder hd
  made_eq := rfl
  home := h.home?_eq hd (Disk.extends_put (h.at?_eq_none hd place (List.prefix_refl place)) _)
    (Disk.at?_put_self base _ (h.ne_nil hd))
  file _ hwritten := (h.written?_eq_some hd hwritten).2.2
  unstarted := h.disk_run_of_unstarted host hd hhoused
  spares _ := h.spares hd
  leaves _ := disk_run_of_spawned hhoused
  leaves_direct p hspawned hspares htree hdirect := by
    rw [disk_run_of_spawned hhoused hspawned hspares]
    exact removeEmptyFolder_shelf hd.rooted hd.isProper (htree.eraseTree place)
      (hdirect.eraseTree place) h.fits

/-- **Running a program leaves no trace of its private folder.**  On a disk that is a tree, for
a working folder that is there: if the private folder cannot be made, nothing changes, unless a
new folder `.testdoc` may not be used.  Otherwise it is made at a place that was free, the
program's file comes directly into it or is not written, and afterwards the private folder with
all that it holds is gone, and `.testdoc` too if that is a folder and then empty and the user
may remove it.  All else is as the process left it, whatever its limit, or as it was before if
there was no process. -/
theorem run_traceless (host : Host) (i : Interpreter) (stamp : Stamp) (job : Job) {d : Disk}
    {w : Path} (htree : d.IsTree) (hreal : d.realPath job.workingFolder = .ok w)
    (hthere : d.at? w.names = some .folder) :
    (housed? i stamp job d = none → (run host i stamp job d).disk = d ∨
        d.at? (shelfAt w) = none ∧
          ¬ (d.rights.search (shelfAt w) = true ∧ d.rights.write (shelfAt w) = true) ∧
          (run host i stamp job d).disk = d.put (shelfAt w) .folder) ∧
      ∀ l made, housed? i stamp job d = some (l, made) →
        ∃ base place, Clears host i stamp job d w l made base place := by
  have hd : Grounded d w := ⟨htree, Disk.isRooted_of_realPath hreal, hthere⟩
  rcases housed?_cases host hd hreal stamp with ⟨hnone, hrun⟩ | ⟨base, place, h, hhoused⟩
  · refine ⟨fun _ => hrun, fun l made hsome => ?_⟩
    rw [hnone] at hsome
    exact nomatch hsome
  · refine ⟨fun hnone => ?_, fun l made hsome => ⟨base, place, ?_⟩⟩
    · rw [hhoused] at hnone
      exact nomatch hnone
    · rw [hhoused] at hsome
      obtain ⟨rfl, rfl⟩ := Prod.mk.inj (Option.some.inj hsome)
      exact h.clears host hd hhoused

end

/-- A working folder with nothing in it. -/
def bare : Disk where
  entries := [(["w".toList], .folder)]
  cwd := ["w".toList]

/-- A program to run in the working folder. -/
def task : Job := ⟨"echo".toList, Path.ofText Path.dot, .int 5000⟩

/-- A command with a suffix. -/
def shell : Interpreter := ⟨["sh".toList], ".sh".toList⟩

/-- Processes that leave an empty file in the working folder and end. -/
def writer : Host where
  spawn _ d := .ok ⟨.exited 0, [], [], d.put ["w".toList, "out".toList] (.file [] 0o644), none⟩

/-- What some private folder is named after. -/
def someStamp : Stamp := ⟨1700000000000, 0⟩

theorem isTree_bare : bare.IsTree := by
  constructor
  · simp [bare]
  · intro x hx n hn
    obtain rfl := List.mem_singleton.1 hx
    obtain rfl := List.mem_singleton.1 hn
    exact ⟨by decide, by decide, by decide, by decide⟩

theorem run_traceless_writer :
    bare.IsTree ∧ bare.realPath task.workingFolder = .ok ⟨['/'], ["w".toList]⟩ ∧
      bare.at? ["w".toList] = some .folder ∧
      (spawned? writer shell someStamp task bare).isSome = true ∧
      (∀ l made, housed? shell someStamp task bare = some (l, made) →
        ∃ base place, Clears writer shell someStamp task bare ⟨['/'], ["w".toList]⟩ l made base
          place) ∧
      (run writer shell someStamp task bare).disk.entries =
        [(["w".toList, "out".toList], .file [] 0o644), (["w".toList], .folder)] :=
  ⟨isTree_bare, rfl, rfl, by decide +kernel,
    (run_traceless writer shell someStamp task isTree_bare rfl rfl).2, by decide +kernel⟩

/-! ### Folders that stay -/

/-- Whether a path leads to a folder that holds nothing. -/
def leadsToEmpty (d : Disk) (s : Text) : Bool :=
  match d.locate true s with
  | .ok ⟨l, some .folder⟩ => d.isEmptyFolder l
  | _ => false

/-- Processes that end at once. -/
def idle : Host where
  spawn _ d := .ok ⟨.exited 0, [], [], d, none⟩

/-- A working folder in which `.testdoc` is a link to an empty folder. -/
def linked : Disk where
  entries := [(["w".toList], .folder), (["w".toList, "elsewhere".toList], .folder),
    (["w".toList, shelfName], .link "elsewhere".toList)]
  cwd := ["w".toList]

/-- The names of a working folder whose path is almost as long as a path may be. -/
def deepNames : Location := List.replicate 16 ('a' :: List.replicate 63 '𝒶')

/-- A working folder far down, with an empty folder `.testdoc`. -/
def deep : Disk where
  entries := (deepNames ++ [shelfName], .folder) ::
    (List.range deepNames.length).map fun n => (deepNames.take (n + 1), .folder)
  cwd := deepNames

/-- An empty folder that `.testdoc` leads to stays where `.testdoc` is a link, and where the
private folder cannot be made because its path is too long. -/
theorem leadsToEmpty_run :
    leadsToEmpty (run idle shell someStamp task linked).disk shelfName = true ∧
      leadsToEmpty (run idle shell someStamp task deep).disk shelfName = true := by
  decide +kernel

end Workspace
end DocExamples
