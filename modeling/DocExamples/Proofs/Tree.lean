/-
# Disks that are trees

On a disk that is a tree, whatever stands somewhere stands in a folder, and has a name that
is looked up as it is.  So every location on the way to an entry is a folder, and nothing
stands below a location where nothing stands.

| disk | stays a tree | holds |
| --- | --- | --- |
| with a new folder in a folder | yes | the folder too |
| without what is at or below a location | | all else |
| without a folder if it is empty | | all else |
-/

import DocExamples.Disk.Resolve
import Mathlib.Data.List.Induction

namespace DocExamples
namespace Disk

/-- A name that is looked up as it is. -/
structure IsProper (n : Text) : Prop where
  ne_nil : n ≠ []
  ne_dot : n ≠ Path.dot
  ne_dotDot : n ≠ Path.dotDot
  short : (Utf8.encode n).length ≤ nameLimit

instance {n : Text} : Decidable (IsProper n) :=
  decidable_of_iff (n ≠ [] ∧ n ≠ Path.dot ∧ n ≠ Path.dotDot ∧
      (Utf8.encode n).length ≤ nameLimit)
    ⟨fun ⟨hnil, hdot, hdotDot, hshort⟩ => ⟨hnil, hdot, hdotDot, hshort⟩,
      fun h => ⟨h.ne_nil, h.ne_dot, h.ne_dotDot, h.short⟩⟩

/-- A disk where every entry stands in a folder, under a proper name. -/
structure IsTree (d : Disk) : Prop where
  /-- What an entry stands in is a folder. -/
  above : ∀ x ∈ d.entries, d.at? x.1.dropLast = some .folder
  /-- The names on the way to an entry are proper. -/
  proper : ∀ x ∈ d.entries, ∀ n ∈ x.1, IsProper n

instance {d : Disk} : Decidable d.IsTree :=
  decidable_of_iff ((∀ x ∈ d.entries, d.at? x.1.dropLast = some .folder) ∧
      ∀ x ∈ d.entries, ∀ n ∈ x.1, IsProper n)
    ⟨fun ⟨habove, hproper⟩ => ⟨habove, hproper⟩, fun h => ⟨h.above, h.proper⟩⟩

/-- A disk without a folder, if that is there and holds nothing. -/
def withoutEmpty (d : Disk) (l : Location) : Disk :=
  if d.at? l = some .folder ∧ d.isEmptyFolder l = true then d.erase l else d

/-- All that stands on one disk stands on another, for a user who may do the same. -/
structure Extends (d d' : Disk) : Prop where
  /-- What stands somewhere stands there too. -/
  keeps : ∀ k e, d.at? k = some e → d'.at? k = some e
  /-- The user may do the same. -/
  rights : d'.rights = d.rights

/-- The user may do everything. -/
def IsFree (d : Disk) : Prop :=
  d.rights = {}

variable {d : Disk} {l k : Location} {e : Entry}

theorem IsFree.read (h : d.IsFree) (l : Location) : d.rights.read l = true := by
  rw [show d.rights = {} from h]

theorem IsFree.search (h : d.IsFree) (l : Location) : d.rights.search l = true := by
  rw [show d.rights = {} from h]

theorem IsFree.write (h : d.IsFree) (l : Location) : d.rights.write l = true := by
  rw [show d.rights = {} from h]

theorem IsFree.of_extends {d' : Disk} (h : d.IsFree) (hext : d.Extends d') : d'.IsFree :=
  hext.rights.trans h

/-! ### Entries and locations -/

theorem mem_of_at? (h : d.at? l = some e) (hl : l ≠ []) : (l, e) ∈ d.entries := by
  rw [at?, if_neg hl] at h
  obtain ⟨x, hx, rfl⟩ := Option.map_eq_some_iff.1 h
  have hlocation : x.1 = l := by simpa using List.find?_some hx
  rw [← hlocation]
  exact List.mem_of_find?_eq_some hx

theorem at?_ne_none {x : Location × Entry} (hx : x ∈ d.entries) : d.at? x.1 ≠ none := by
  rw [at?]
  split
  · exact Option.some_ne_none _
  · intro h
    have hnone := List.find?_eq_none.1 (Option.map_eq_none_iff.1 h) x hx
    simp at hnone

theorem isEmptyFolder_iff : d.isEmptyFolder l = true ↔ ∀ n, d.at? (l ++ [n]) = none := by
  rw [isEmptyFolder, List.isEmpty_iff, namesIn, List.filterMap_eq_nil_iff]
  constructor
  · intro h n
    rw [Option.eq_none_iff_forall_ne_some]
    intro e he
    have hx := h _ (mem_of_at? he (by simp))
    simp at hx
  · intro h x hx
    split
    · next hl =>
      rw [List.getLast?_eq_none_iff]
      by_cases hnil : x.1 = []
      · exact hnil
      · have hlast : l ++ [x.1.getLast hnil] = x.1 := by
          rw [← beq_iff_eq.1 hl, List.dropLast_concat_getLast]
        exact absurd (hlast ▸ h (x.1.getLast hnil)) (at?_ne_none hx)
    · rfl

/-! ### What stands where on a tree -/

theorem IsTree.at?_dropLast (hd : d.IsTree) (h : d.at? l = some e) :
    d.at? l.dropLast = some .folder := by
  by_cases hl : l = []
  · simp [hl]
  · exact hd.above _ (mem_of_at? h hl)

/-- Whatever stands below a location, a folder stands there. -/
theorem IsTree.at?_of_append (hd : d.IsTree) {m : Location} (hm : m ≠ [])
    (h : d.at? (k ++ m) = some e) : d.at? k = some .folder := by
  induction m using List.reverseRecOn generalizing e with
  | nil => exact absurd rfl hm
  | append_singleton m n ih =>
    rw [← List.append_assoc] at h
    have habove := hd.at?_dropLast h
    rw [List.dropLast_concat] at habove
    by_cases hnil : m = []
    · rwa [hnil, List.append_nil] at habove
    · exact ih hnil habove

/-- All locations on the way to a folder are folders. -/
theorem IsTree.folder_above (hd : d.IsTree) (h : d.at? l = some .folder) (hk : k <+: l) :
    d.at? k = some .folder := by
  obtain ⟨m, rfl⟩ := hk
  by_cases hm : m = []
  · rwa [hm, List.append_nil] at h
  · exact hd.at?_of_append hm h

/-- Nothing stands below a location where nothing stands. -/
theorem IsTree.at?_eq_none (hd : d.IsTree) (h : d.at? k = none) (hk : k <+: l) :
    d.at? l = none := by
  obtain ⟨m, rfl⟩ := hk
  by_cases hm : m = []
  · rwa [hm, List.append_nil]
  · rw [Option.eq_none_iff_forall_ne_some]
    intro e he
    rw [hd.at?_of_append hm he] at h
    exact nomatch h

theorem IsTree.isProper (hd : d.IsTree) (h : d.at? l = some e) {n : Text} (hn : n ∈ l) :
    IsProper n :=
  hd.proper _ (mem_of_at? h (List.ne_nil_of_mem hn)) n hn

/-! ### Changes -/

@[simp] theorem rights_put (d : Disk) (l : Location) (e : Entry) :
    (d.put l e).rights = d.rights := rfl

@[simp] theorem rights_eraseTree (d : Disk) (l : Location) :
    (d.eraseTree l).rights = d.rights := rfl

theorem extends_put (h : d.at? l = none) (e : Entry) : d.Extends (d.put l e) where
  keeps k e' hk := by
    rw [at?_put_other d e fun hkl => by rw [hkl, h] at hk; exact nomatch hk]
    exact hk
  rights := rfl

theorem Extends.trans {d₁ d₂ d₃ : Disk} (h : d₁.Extends d₂) (h' : d₂.Extends d₃) :
    d₁.Extends d₃ := ⟨fun k e hk => h'.keeps k e (h.keeps k e hk), h'.rights.trans h.rights⟩

/-- A tree with a new folder in a folder is a tree. -/
theorem IsTree.putFolder (hd : d.IsTree) (hk : d.at? k = some .folder) {n : Text}
    (hn : IsProper n) (hnone : d.at? (k ++ [n]) = none) : (d.put (k ++ [n]) .folder).IsTree := by
  have hext := extends_put hnone .folder
  constructor
  · intro x hx
    rcases List.mem_cons.1 hx with rfl | hx
    · rw [List.dropLast_concat]
      exact hext.keeps _ _ hk
    · exact hext.keeps _ _ (hd.above x (List.mem_filter.1 hx).1)
  · intro x hx
    rcases List.mem_cons.1 hx with rfl | hx
    · intro m hm
      rcases List.mem_append.1 hm with hm | hm
      · exact hd.isProper hk hm
      · exact List.mem_singleton.1 hm ▸ hn
    · exact hd.proper x (List.mem_filter.1 hx).1

theorem erase_eq_self (hl : l ≠ []) (h : d.at? l = none) : d.erase l = d := by
  have hentries : d.entries.filter (fun x => x.1 != l) = d.entries := by
    rw [List.filter_eq_self]
    intro x hx
    rw [bne_iff_ne]
    rintro rfl
    exact at?_ne_none hx h
  rw [erase, hentries]

theorem eraseTree_eq_self (h : ∀ m, l <+: m → d.at? m = none) : d.eraseTree l = d := by
  have hentries : d.entries.filter (fun x => !l.isPrefixOf x.1) = d.entries := by
    rw [List.filter_eq_self]
    intro x hx
    rw [Bool.not_eq_true', Bool.eq_false_iff]
    exact fun hp => at?_ne_none hx (h _ (List.isPrefixOf_iff_prefix.1 hp))
  rw [eraseTree, hentries]

/-- What was put below a location goes with the location. -/
theorem eraseTree_put (d : Disk) (h : l <+: k) (e : Entry) :
    (d.put k e).eraseTree l = d.eraseTree l := by
  have hentries : (d.put k e).entries.filter (fun x => !l.isPrefixOf x.1) =
      d.entries.filter fun x => !l.isPrefixOf x.1 := by
    rw [put, List.filter_cons_of_neg (by simpa using h), erase, List.filter_filter]
    congr 1
    funext x
    by_cases hx : x.1 = k
    · simp [hx, h]
    · simp [hx]
  rw [eraseTree, hentries]
  rfl

/-- What is kept where a location and all below it goes. -/
theorem mem_eraseTree {x : Location × Entry} :
    x ∈ (d.eraseTree l).entries ↔ x ∈ d.entries ∧ ¬ l <+: x.1 := by
  rw [eraseTree, List.mem_filter, Bool.not_eq_true', Bool.eq_false_iff, ne_eq,
    List.isPrefixOf_iff_prefix]

/-- Nothing comes to stand anywhere where something goes. -/
theorem at?_of_eraseTree (h : (d.eraseTree l).at? k = some e) : d.at? k = some e := by
  by_cases hk : k = []
  · rwa [hk, at?_nil] at h ⊢
  · have hnot := (mem_eraseTree.1 (mem_of_at? h hk)).2
    rwa [at?_eraseTree_of_not_below d hnot] at h

/-- A tree without what is at or below a location is a tree. -/
theorem IsTree.eraseTree (hd : d.IsTree) (l : Location) : (d.eraseTree l).IsTree := by
  constructor
  · intro x hx
    obtain ⟨hentry, hnot⟩ := mem_eraseTree.1 hx
    have habove : ¬ l <+: x.1.dropLast := fun hl => hnot (hl.trans (List.dropLast_prefix x.1))
    rw [at?_eraseTree_of_not_below d habove]
    exact hd.above x hentry
  · exact fun x hx => hd.proper x (mem_eraseTree.1 hx).1

theorem withoutEmpty_eq_self (h : d.at? l ≠ some .folder) : d.withoutEmpty l = d :=
  if_neg fun hl => h hl.1

/-- A new folder that is taken away again leaves nothing behind. -/
theorem IsTree.withoutEmpty_put (hd : d.IsTree) (hl : l ≠ []) (h : d.at? l = none) :
    (d.put l .folder).withoutEmpty l = d := by
  have hempty : (d.put l .folder).isEmptyFolder l = true := by
    rw [isEmptyFolder_iff]
    intro n
    rw [at?_put_other d _ (by simp)]
    exact hd.at?_eq_none h (List.prefix_append l [n])
  rw [withoutEmpty, if_pos ⟨at?_put_self d _ hl, hempty⟩]
  have herase : d.erase l = d := erase_eq_self hl h
  have htwice : (d.put l .folder).erase l = d.erase l := by
    simp [put, erase, List.filter_filter]
  rw [htwice, herase]

end Disk
end DocExamples
