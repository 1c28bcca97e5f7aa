/-
# Making the private folder

The private folder of a program is made below the folder `.testdoc` of the working folder.
On a disk that is a tree, there are two ways for this to end.  Nothing at all has changed, or
one new folder stands at the place that its path leads to, and `.testdoc` above it may be new
as well.  The program's file then comes into the new folder and nowhere else.

| `.testdoc` is | the private folder |
| --- | --- |
| absent | stands in a new folder `.testdoc` |
| a folder, or a link to one | stands in that folder |
| anything else | is not made |
-/

import DocExamples.Proofs.Course
import DocExamples.Proofs.Lookup
import DocExamples.Proofs.Numerals

namespace DocExamples

/-! ### The names on the way -/

theorem Utf8.length_encode_le (s : Text) : (encode s).length ≤ 4 * s.length := by
  have hchar (c : Char) : (encodeChar c).length ≤ 4 := by
    simp only [encodeChar]
    split
    · simp
    · split
      · simp
      · split <;> simp
  induction s with
  | nil => exact Nat.le_refl 0
  | cons c s ih =>
    have hc := hchar c
    rw [encode] at ih ⊢
    rw [List.flatMap_cons, List.length_append, List.length_cons]
    omega

namespace Workspace

open Disk (IsProper)

theorem isName_shelfName : Path.IsName shelfName := ⟨by decide, by decide, by decide⟩

theorem isProper_shelfName : IsProper shelfName :=
  ⟨by decide, by decide, by decide, by decide⟩

theorem head?_folderName (stamp : Stamp) : (folderName stamp).head? = some 't' := rfl

theorem isName_folderName (stamp : Stamp) : Path.IsName (folderName stamp) where
  ne_nil h := by simpa [h] using head?_folderName stamp
  ne_dot h := by simpa [h, Path.dot] using head?_folderName stamp
  slash_notMem h := by
    rcases List.mem_append.1 h with h | h
    · rcases List.mem_append.1 h with h | h
      · exact absurd h (by decide)
      · exact Text.notMem_decimal (by decide) _ h
    · rcases List.mem_cons.1 h with h | h
      · exact absurd h (by decide)
      · exact Text.notMem_hexadecimal (by decide) _ _ h

theorem isProper_folderName (stamp : Stamp) : IsProper (folderName stamp) where
  ne_nil := (isName_folderName stamp).ne_nil
  ne_dot := (isName_folderName stamp).ne_dot
  ne_dotDot h := by simpa [h, Path.dotDot] using head?_folderName stamp
  short := by
    have htime : (Text.decimal stamp.time.toNat).length ≤ 20 :=
      Nat.toDigits_length 10 _ 20 (by decide) (Nat.lt_of_lt_of_le stamp.time.toNat_lt (by decide))
    have hmark : (Text.hexadecimal 8 stamp.mark.toNat).length ≤ 8 :=
      Text.length_hexadecimal_le (by decide) stamp.mark.toNat_lt
    have hlength : (folderName stamp).length ≤ 34 := by
      have hname : folderName stamp = ("test-".toList ++ Text.decimal stamp.time.toNat) ++
        '-' :: Text.hexadecimal 8 stamp.mark.toNat := rfl
      have htest : "test-".toList.length = 5 := by decide
      rw [hname, List.length_append, List.length_append, List.length_cons, htest]
      omega
    have hoctets := Utf8.length_encode_le (folderName stamp)
    have hlimit : Disk.nameLimit = 255 := rfl
    omega

/-- The names for the program's file begin with one that begins like its stem. -/
theorem exists_namesOf_file (suffix : Text) :
    ∃ n ns, Path.namesOf (fileStem ++ suffix) = n :: ns ∧ n.head? = some 't' := by
  have hstem : fileStem ++ suffix = 't' :: ("est".toList ++ suffix) := rfl
  rw [hstem, Path.namesOf, Text.pieces_cons, if_neg (by decide), List.filter_cons_of_pos]
  · exact ⟨_, _, rfl, rfl⟩
  · simp [Path.dot]

/-! ### The paths of a layout -/

section

variable (w : Path) (stamp : Stamp) (suffix : Text)

theorem rootOf_shelfName : Path.rootOf shelfName = [] := rfl

theorem rootOf_folderName : Path.rootOf (folderName stamp) = [] := rfl

theorem rootOf_fileName : Path.rootOf (fileStem ++ suffix) = [] := rfl

theorem shelf_eq : (layout w stamp suffix).shelf = ⟨w.root, w.names ++ [shelfName]⟩ := by
  rw [← Path.namesOf_of_isName isName_shelfName]
  exact Path.join_of_rootOf_eq_nil w rootOf_shelfName

theorem folder_eq : (layout w stamp suffix).folder =
    ⟨w.root, (w.names ++ [shelfName]) ++ [folderName stamp]⟩ := by
  rw [← Path.namesOf_of_isName (isName_folderName stamp)]
  have hfolder := Path.join_of_rootOf_eq_nil (layout w stamp suffix).shelf
    (rootOf_folderName stamp)
  rw [shelf_eq] at hfolder
  rw [← hfolder, ← shelf_eq w stamp suffix]
  rfl

theorem file_eq : (layout w stamp suffix).file = ⟨w.root,
    (w.names ++ [shelfName]) ++ folderName stamp :: Path.namesOf (fileStem ++ suffix)⟩ := by
  have hfile := Path.join_of_rootOf_eq_nil (layout w stamp suffix).folder
    (rootOf_fileName suffix)
  rw [folder_eq, List.append_assoc _ [folderName stamp], List.singleton_append] at hfile
  rw [← hfile, ← folder_eq w stamp suffix]
  rfl

variable {w}

theorem isRooted_shelf (hw : w.IsRooted) : (layout w stamp suffix).shelf.IsRooted :=
  hw.join rootOf_shelfName

theorem isRooted_folder (hw : w.IsRooted) : (layout w stamp suffix).folder.IsRooted :=
  (isRooted_shelf stamp suffix hw).join (rootOf_folderName stamp)

theorem isRooted_file (hw : w.IsRooted) : (layout w stamp suffix).file.IsRooted :=
  (isRooted_folder stamp suffix hw).join (rootOf_fileName suffix)

theorem text_folder (hw : w.IsRooted) : (layout w stamp suffix).folder.text =
    (layout w stamp suffix).shelf.text ++ (['/'] ++ folderName stamp) := by
  have hjoined := Text.joined_concat ['/'] (show w.names ++ [shelfName] ≠ [] by simp)
    (folderName stamp)
  rw [(isRooted_shelf stamp suffix hw).text_eq, (isRooted_folder stamp suffix hw).text_eq,
    shelf_eq, folder_eq]
  exact (congrArg (w.root ++ ·) hjoined).trans (List.append_assoc _ _ _).symm

/-- Where the text of the private folder's path is short enough, so is that of the folder
above it. -/
theorem length_shelf_le (hw : w.IsRooted) :
    (Utf8.encode (layout w stamp suffix).shelf.text).length ≤
      (Utf8.encode (layout w stamp suffix).folder.text).length := by
  rw [text_folder stamp suffix hw, Utf8.encode, Utf8.encode, List.flatMap_append,
    List.length_append]
  exact Nat.le_add_right _ _

end

end Workspace

/-! ### New folders -/

namespace Disk

variable {d : Disk} {s : Text} {l : Location} {p : Path}

theorem makeFolder_of_free (h : d.locate false s = .ok ⟨l, none⟩) :
    d.makeFolder s =
      if d.rights.write l.dropLast then .ok (d.put l .folder) else .error .denied := by
  rw [makeFolder, h]
  rfl

theorem makeFolder_of_taken {e : Entry} (h : d.locate false s = .ok ⟨l, some e⟩) :
    d.makeFolder s = .error .alreadyThere := by
  rw [makeFolder, h]
  rfl

theorem makeFolder_of_error {f : Fault} (h : d.locate false s = .error f) :
    d.makeFolder s = .error f := by
  rw [makeFolder, h]
  rfl

theorem disk_makeFolderAllowed {f : Fault} (h : d.makeFolder p.text = .error f) :
    (d.makeFolderAllowed p).disk = d := by
  unfold makeFolderAllowed
  rw [h]
  simp only
  split <;> rfl

theorem writeFile_of_free {content : Octets} (h : d.locate true s = .ok ⟨l, none⟩) :
    d.writeFile s content =
      if d.rights.write l.dropLast then
        .ok (d.put l (.file content (0o666 - (0o666 &&& d.mask))))
      else .error .denied := by
  rw [writeFile, h]
  rfl

theorem writeFile_of_error {content : Octets} {f : Fault} (h : d.locate true s = .error f) :
    d.writeFile s content = .error f := by
  rw [writeFile, h]
  rfl

theorem eq_ok_of_ask {α : Type} {answer : Except Fault α} {a : α} (h : ask s answer = .ok a) :
    answer = .ok a := by
  unfold ask at h
  split at h
  · exact nomatch h
  · split at h
    · exact congrArg Except.ok (Except.ok.inj h)
    · exact nomatch h

/-- A folder that can be made at once is made, as long as there is room for any. -/
theorem makeFoldersAbove_of_ok {made : Disk} (h : d.makeFolder p.text = .ok made) (room : Nat) :
    d.makeFoldersAbove (room + 1) p = ⟨made, none⟩ := by
  rw [makeFoldersAbove, h]
  simp only [makeFolderAllowed, h]

/-- Where a folder is refused and no folder above it is missing, nothing is made. -/
theorem disk_makeFoldersAbove_of_error {f : Fault} (h : d.makeFolder p.text = .error f)
    (hf : f ≠ .notFound) (room : Nat) : (d.makeFoldersAbove room p).disk = d := by
  cases room with
  | zero => rfl
  | succ room =>
    rw [makeFoldersAbove, h]
    split
    · next hmissing => exact absurd (Except.error.inj hmissing) hf
    · exact disk_makeFolderAllowed h

end Disk

namespace Workspace

open Disk (IsProper IsTree)

/-- A working folder on a disk that is a tree. -/
structure Grounded (d : Disk) (w : Path) : Prop where
  /-- The disk is a tree. -/
  tree : d.IsTree
  /-- The path is absolute. -/
  rooted : w.IsRooted
  /-- There is a folder. -/
  folder : d.at? w.names = some .folder

/-- The location of the folder that holds private folders. -/
def shelfAt (w : Path) : Location := w.names ++ [shelfName]

/-- The private folder of a program can come to a place on a disk `base`, which is the disk
before, perhaps with a new folder to hold the private folder. -/
structure Awaits (w : Path) (stamp : Stamp) (suffix : Text) (d base : Disk) (place : Location) :
    Prop where
  /-- Only the folder above can be new, if the working folder may be changed. -/
  disk : base = d ∨ d.at? (shelfAt w) = none ∧ d.rights.write w.names = true ∧
    base = d.put (shelfAt w) .folder
  /-- The path of the private folder leads to the place, and it is not taken. -/
  located : base.locate false (layout w stamp suffix).folder.text = .ok ⟨place, none⟩
  /-- The folder that it comes into may be changed. -/
  writable : base.rights.write place.dropLast = true

variable {d base : Disk} {w : Path} {stamp : Stamp} {suffix : Text} {place : Location}

theorem Grounded.isProper (hd : Grounded d w) : ∀ n ∈ w.names, IsProper n :=
  fun _ hn => hd.tree.isProper hd.folder hn

theorem Grounded.folder_above (hd : Grounded d w) {k : Location} (hk : k <+: w.names) :
    d.at? k = some .folder := hd.tree.folder_above hd.folder hk

/-- The path of the folder that holds private folders leads to its location. -/
theorem locate_shelf {b : Disk} (hw : w.IsRooted) (hproper : ∀ n ∈ w.names, IsProper n)
    (hopen : ∀ k, k <+: w.names → b.IsOpen k)
    (hfits : (Utf8.encode (layout w stamp suffix).folder.text).length < Disk.pathLimit) :
    b.locate false (layout w stamp suffix).shelf.text = .ok ⟨shelfAt w, b.at? (shelfAt w)⟩ := by
  have hlength := length_shelf_le stamp suffix hw
  rw [Disk.locate_text (isRooted_shelf stamp suffix hw), if_neg (by omega), shelf_eq]
  exact Disk.resolve_concat hproper hopen isProper_shelfName

theorem locate_folder (hw : w.IsRooted) (b : Disk)
    (hfits : (Utf8.encode (layout w stamp suffix).folder.text).length < Disk.pathLimit) :
    b.locate false (layout w stamp suffix).folder.text =
      b.resolve false Disk.linkLimit [] (shelfAt w ++ [folderName stamp]) := by
  rw [Disk.locate_text (isRooted_folder stamp suffix hw), if_neg (by omega), folder_eq]
  rfl

/-- Where the path of the private folder is looked up, the folders on the way to the working
folder may be searched, unless there is a link among them or one is missing. -/
theorem isOpen_of_locate {b : Disk} {answer : Except Fault Disk.Spot} (hd : Grounded b w)
    (hlocate : b.locate false (layout w stamp suffix).folder.text = answer)
    (hfits : (Utf8.encode (layout w stamp suffix).folder.text).length < Disk.pathLimit)
    (hanswer : answer ≠ .error .denied) : ∀ k, k <+: w.names → b.IsOpen k := by
  refine fun k hk => ⟨hd.folder_above hk, ?_⟩
  rw [← Bool.not_eq_false]
  intro hbarred
  obtain ⟨jump, hwalk⟩ := Disk.resolve_eq_walk b false Disk.linkLimit
  rw [locate_folder hd.rooted b hfits, hwalk, shelfAt, List.append_assoc] at hlocate
  exact hanswer (hlocate.symm.trans (Disk.walk_locked hd.isProper isProper_shelfName.ne_nil
    (fun k hk => hd.folder_above hk) ⟨k, hk, hbarred⟩))

/-- The folder that holds private folders can be put on the disk. -/
theorem Grounded.putShelf (hd : Grounded d w) (h : d.at? (shelfAt w) = none) :
    Grounded (d.put (shelfAt w) .folder) w where
  tree := hd.tree.putFolder hd.folder isProper_shelfName h
  rooted := hd.rooted
  folder := (Disk.extends_put h _).keeps _ _ hd.folder

section

variable (hd : Grounded d w) (h : Awaits w stamp suffix d base place)
include h

theorem Awaits.rights_eq : base.rights = d.rights := by
  rcases h.disk with rfl | ⟨-, -, rfl⟩ <;> rfl

/-- The text of the private folder's path is short enough. -/
theorem Awaits.fits : (Utf8.encode (layout w stamp suffix).folder.text).length < Disk.pathLimit :=
  Disk.length_lt_of_locate h.located

include hd

theorem Awaits.grounded : Grounded base w := by
  rcases h.disk with rfl | ⟨hnone, -, rfl⟩
  · exact hd
  · exact hd.putShelf hnone

/-- The folders on the way to the working folder may be searched. -/
theorem Awaits.isOpen : ∀ k, k <+: w.names → base.IsOpen k :=
  isOpen_of_locate (h.grounded hd) h.located h.fits nofun

/-- The names of the path lead on to the place. -/
theorem Awaits.leads : base.LeadsOn (folderName stamp) place Disk.linkLimit [] (shelfAt w) :=
  Disk.leadsOn_of_resolve (isProper_folderName stamp)
    ((locate_folder hd.rooted base h.fits).symm.trans h.located)

end

theorem parent_folder (w : Path) (stamp : Stamp) (suffix : Text) :
    (layout w stamp suffix).folder.parent = (layout w stamp suffix).shelf := by
  rw [folder_eq, shelf_eq, Path.parent, List.dropLast_concat]

/-- In a new folder that may be searched, the place of the private folder is free. -/
theorem locate_folder_put (hd : Grounded d w) (hopen : ∀ k, k <+: w.names → d.IsOpen k)
    (hfits : (Utf8.encode (layout w stamp suffix).folder.text).length < Disk.pathLimit)
    (h : d.at? (shelfAt w) = none) :
    (d.put (shelfAt w) .folder).locate false (layout w stamp suffix).folder.text =
      if d.rights.search (shelfAt w) then .ok ⟨shelfAt w ++ [folderName stamp], none⟩
      else .error .denied := by
  have hbase := (hd.putShelf h).tree
  have hself : (d.put (shelfAt w) .folder).at? (shelfAt w) = some .folder :=
    Disk.at?_put_self d _ (by simp [shelfAt])
  have hfree : (d.put (shelfAt w) .folder).at? (shelfAt w ++ [folderName stamp]) = none := by
    rw [Disk.at?_put_other d _ (by simp)]
    exact hd.tree.at?_eq_none h (List.prefix_append _ _)
  have hproper : ∀ n ∈ shelfAt w, IsProper n := fun n hn => hbase.isProper hself hn
  have hfolders : ∀ k, k <+: shelfAt w → (d.put (shelfAt w) .folder).at? k = some .folder :=
    fun k hk => hbase.folder_above hself hk
  rw [locate_folder hd.rooted _ hfits]
  cases hsearch : d.rights.search (shelfAt w) with
  | false =>
    obtain ⟨jump, hwalk⟩ := Disk.resolve_eq_walk (d.put (shelfAt w) .folder) false Disk.linkLimit
    rw [hwalk]
    exact Disk.walk_locked hproper (isProper_folderName stamp).ne_nil hfolders
      ⟨shelfAt w, List.prefix_refl _, hsearch⟩
  | true =>
    have hall : ∀ k, k <+: shelfAt w → (d.put (shelfAt w) .folder).IsOpen k := by
      refine fun k hk => ⟨hfolders k hk, ?_⟩
      rcases List.prefix_concat_iff.1 hk with rfl | hk
      · exact hsearch
      · exact (hopen k hk).search
    rw [Disk.resolve_concat hproper hall (isProper_folderName stamp), hfree]
    rfl

/-- What making the private folder comes to. -/
inductive Makes (d : Disk) (w : Path) (stamp : Stamp) (suffix : Text) : Disk.Made → Prop
  /-- Nothing is made. -/
  | nothing {f : Failure} : Makes d w stamp suffix ⟨d, some f⟩
  /-- Only the folder above it is made, and that may not be used. -/
  | above {f : Failure} : d.at? (shelfAt w) = none →
      ¬ (d.rights.search (shelfAt w) = true ∧ d.rights.write (shelfAt w) = true) →
      Makes d w stamp suffix ⟨d.put (shelfAt w) .folder, some f⟩
  /-- It is made. -/
  | folder {base : Disk} {place : Location} : Awaits w stamp suffix d base place →
      Makes d w stamp suffix ⟨base.put place .folder, none⟩

/-- The private folder is not found, so that the folder above it may have to be made. -/
theorem makes_of_notFound [Stack] (hd : Grounded d w)
    (hfits : (Utf8.encode (layout w stamp suffix).folder.text).length < Disk.pathLimit)
    (h : d.locate false (layout w stamp suffix).folder.text = .error .notFound) :
    Makes d w stamp suffix (d.makeFolders (layout w stamp suffix).folder) := by
  have hmade := Disk.makeFolder_of_error h
  have hnames : (layout w stamp suffix).folder.names.isEmpty = false := by simp [folder_eq]
  have hopen := isOpen_of_locate hd h hfits (by decide)
  have hshelf := locate_shelf hd.rooted hd.isProper hopen hfits
  -- Where the folder above is not made, the second attempt fails like the first.
  have hagain {f : Fault}
      (hrefused : d.makeFolder (layout w stamp suffix).shelf.text = .error f) (hf : f ≠ .notFound) :
      Makes d w stamp suffix (d.makeFolders (layout w stamp suffix).folder) := by
    have hdisk : (d.makeFoldersAllowed (layout w stamp suffix).shelf).disk = d :=
      Disk.disk_makeFoldersAbove_of_error hrefused hf _
    rw [Disk.makeFolders, hmade, hnames, parent_folder]
    generalize d.makeFoldersAllowed (layout w stamp suffix).shelf = made at hdisk ⊢
    obtain ⟨disk, failure⟩ := made
    obtain rfl : disk = d := hdisk
    cases failure with
    | none =>
      simp only [hmade]
      exact .nothing
    | some f => exact .nothing
  cases hthere : d.at? (shelfAt w) with
  | some e =>
    rw [hthere] at hshelf
    exact hagain (Disk.makeFolder_of_taken hshelf) nofun
  | none =>
    rw [hthere] at hshelf
    have hfree := Disk.makeFolder_of_free hshelf
    have hdrop : (shelfAt w).dropLast = w.names := List.dropLast_concat
    rw [hdrop] at hfree
    cases hwrite : d.rights.write w.names with
    | false =>
      rw [hwrite] at hfree
      exact hagain hfree nofun
    | true =>
      rw [hwrite, if_pos rfl] at hfree
      have hplace := locate_folder_put hd hopen hfits hthere
      rw [Disk.makeFolders, hmade, hnames, parent_folder, Disk.makeFoldersAllowed]
      cases Stack.parents with
      | zero => exact .nothing
      | succ room =>
      rw [Disk.makeFoldersAbove_of_ok hfree]
      simp only [Option.isSome_none, Bool.false_eq_true, if_false]
      split at hplace
      · next hsearch =>
        have hlast : (shelfAt w ++ [folderName stamp]).dropLast = shelfAt w := List.dropLast_concat
        have hlastFree := Disk.makeFolder_of_free hplace
        rw [hlast, Disk.rights_put] at hlastFree
        split at hlastFree
        · next hused =>
          rw [hlastFree]
          exact .folder ⟨.inr ⟨hthere, hwrite, rfl⟩, hplace, by rwa [hlast]⟩
        · next hno =>
          rw [hlastFree]
          exact .above hthere fun huse => hno huse.2
      · next hno =>
        rw [Disk.makeFolder_of_error hplace]
        exact .above hthere fun huse => hno huse.1

/-- **Making the private folder changes nothing, or makes just it**, unless the folder above it
has to be made and may not be used. -/
theorem makes_makeFolders [Stack] (hd : Grounded d w) (stamp : Stamp) (suffix : Text) :
    Makes d w stamp suffix (d.makeFolders (layout w stamp suffix).folder) := by
  by_cases hfits : (Utf8.encode (layout w stamp suffix).folder.text).length < Disk.pathLimit
  · cases hresult : d.locate false (layout w stamp suffix).folder.text with
    | ok spot =>
      obtain ⟨place, entry⟩ := spot
      cases entry with
      | some e =>
        rw [Disk.makeFolders, Disk.makeFolder_of_taken hresult]
        exact .nothing
      | none =>
        have hfree := Disk.makeFolder_of_free hresult
        rw [Disk.makeFolders, hfree]
        cases hwrite : d.rights.write place.dropLast with
        | false => exact .nothing
        | true => exact .folder ⟨.inl rfl, hresult, hwrite⟩
    | error f =>
      by_cases hf : f = .notFound
      · exact makes_of_notFound hd hfits (hf ▸ hresult)
      · rw [Disk.makeFolders, Disk.makeFolder_of_error hresult]
        cases f <;> first | exact absurd rfl hf | exact .nothing
  · have hlong : d.locate false (layout w stamp suffix).folder.text = .error .tooLong := by
      rw [Disk.locate_text (isRooted_folder stamp suffix hd.rooted), if_pos (by omega)]
    rw [Disk.makeFolders, Disk.makeFolder_of_error hlong]
    exact .nothing

/-! ### What stands where, once it is made -/

/-- Where the private folder stands, if its path leads to a folder. -/
def home? (l : Layout) (d : Disk) : Option Location :=
  match d.locate false l.folder.text with
  | .ok ⟨location, some .folder⟩ => some location
  | _ => none

section

variable (hd : Grounded d w) (h : Awaits w stamp suffix d base place)
include hd h

/-- The place of the private folder is free, in a folder of the disk, and nothing stands
below it. -/
theorem Awaits.exists_folder :
    ∃ k, place = k ++ [folderName stamp] ∧ base.at? k = some .folder ∧ base.at? place = none := by
  obtain ⟨k, hk, hopen, hnone⟩ :=
    (h.leads hd).exists_folder (h.grounded hd).tree (Disk.at?_nil base)
  exact ⟨k, hk, hopen.folder, hnone⟩

theorem Awaits.ne_nil : place ≠ [] := by
  obtain ⟨k, hk, -⟩ := h.exists_folder hd
  rw [hk]
  simp

theorem Awaits.at?_eq_none : ∀ m, place <+: m → base.at? m = none := by
  obtain ⟨-, -, -, hnone⟩ := h.exists_folder hd
  exact fun m hm => (h.grounded hd).tree.at?_eq_none hnone hm

/-- The path of the private folder leads to its place as long as there is a folder and the
rest of the disk is kept. -/
theorem Awaits.home?_eq {b : Disk} (hext : base.Extends b) (hplace : b.at? place = some .folder) :
    home? (layout w stamp suffix) b = some place := by
  obtain ⟨jump, hwalk⟩ :=
    (h.leads hd).resolve_eq_walk hext (isProper_folderName stamp) hplace false []
  rw [home?, locate_folder hd.rooted b h.fits, hwalk, Disk.walk]

/-- The path of the program's file leads to a free place in the private folder, which may be
searched, or cannot be looked up. -/
theorem Awaits.locate_file :
    (∃ f, (base.put place .folder).locate true (layout w stamp suffix).file.text = .error f) ∨
      base.rights.search place = true ∧ ∃ n, Path.namesOf (fileStem ++ suffix) = [n] ∧
        (base.put place .folder).locate true (layout w stamp suffix).file.text =
          .ok ⟨place ++ [n], none⟩ := by
  have hnone := h.at?_eq_none hd
  have hplace : (base.put place .folder).at? place = some .folder :=
    Disk.at?_put_self base _ (h.ne_nil hd)
  obtain ⟨n, ns, hnames, hhead⟩ := exists_namesOf_file suffix
  obtain ⟨jump, hwalk⟩ := (h.leads hd).resolve_eq_walk
    (Disk.extends_put (hnone place (List.prefix_refl place)) .folder)
    (isProper_folderName stamp) hplace true (n :: ns)
  have hnil : n ≠ [] := fun hn => by simp [hn] at hhead
  have hdot : n ≠ Path.dot := fun hn => by simp [hn, Path.dot] at hhead
  have hdotDot : n ≠ Path.dotDot := fun hn => by simp [hn, Path.dotDot] at hhead
  have hfile : (layout w stamp suffix).file.names = shelfAt w ++ folderName stamp :: n :: ns := by
    rw [file_eq, hnames]
    rfl
  rw [Disk.locate_text (isRooted_file stamp suffix hd.rooted), hfile, hwalk, hnames]
  by_cases hlong : Disk.pathLimit ≤ (Utf8.encode (layout w stamp suffix).file.text).length
  · rw [if_pos hlong]
    exact .inl ⟨_, rfl⟩
  · rw [if_neg hlong]
    cases hsearch : base.rights.search place with
    | false => exact .inl ⟨_, Disk.walk_barred hnil hsearch⟩
    | true =>
      by_cases hname : Disk.nameLimit < (Utf8.encode n).length
      · exact .inl ⟨_, Disk.walk_long hdot hdotDot hsearch hname⟩
      · have hfree : (base.put place .folder).at? (place ++ [n]) = none := by
          rw [Disk.at?_put_other base _ (by simp)]
          exact hnone _ (List.prefix_append _ _)
        rw [Disk.walk_cons (d := base.put place .folder) hsearch
          ⟨hnil, hdot, hdotDot, Nat.not_lt.1 hname⟩, hfree]
        cases ns with
        | nil => exact .inr ⟨rfl, n, rfl, rfl⟩
        | cons n' ns => exact .inl ⟨_, rfl⟩

end

theorem writeFile_of_written? {l : Layout} {job : Job} {written : Disk}
    (h : written? l job d = some written) :
    d.writeFile l.file.text (Utf8.encode job.program) = .ok written := by
  unfold written? at h
  cases hask : Disk.ask l.file.text (d.writeFile l.file.text (Utf8.encode job.program)) with
  | error f =>
    rw [hask] at h
    exact nomatch h
  | ok a =>
    rw [hask] at h
    obtain rfl := Option.some.inj h
    exact Disk.eq_ok_of_ask hask

/-- **The program's file comes into the private folder, under a name of its own, or nowhere.**
Then the private folder may be searched and changed. -/
theorem Awaits.written?_eq_some (hd : Grounded d w) (h : Awaits w stamp suffix d base place)
    {job : Job} {written : Disk}
    (hwritten : written? (layout w stamp suffix) job (base.put place .folder) = some written) :
    base.rights.search place = true ∧ base.rights.write place = true ∧
      ∃ n mode, Path.namesOf (fileStem ++ suffix) = [n] ∧
        written = (base.put place .folder).put (place ++ [n])
          (.file (Utf8.encode job.program) mode) := by
  have hfile := writeFile_of_written? hwritten
  rcases h.locate_file hd with ⟨f, hlocate⟩ | ⟨hsearch, n, hnames, hlocate⟩
  · rw [Disk.writeFile_of_error hlocate] at hfile
    exact nomatch hfile
  · rw [Disk.writeFile_of_free hlocate, List.dropLast_concat] at hfile
    split at hfile
    · next hwrite => exact ⟨hsearch, hwrite, n, _, hnames, (Except.ok.inj hfile).symm⟩
    · exact nomatch hfile

end Workspace
end DocExamples
