/-
# What stands below a folder

On a disk as it may be found, a path to a folder that is followed by the name of something in
it leads to what stands there, unless it is a link, the folder may not be searched, or the path
has become too long.  So paths below a folder and locations below it keep step, name by name, as
long as no link leads to a folder.

A disk lists its entries in some order.  What stands where, and what a path leads to, does
not depend on it.
-/

import DocExamples.Proofs.Expansion
import DocExamples.Proofs.Lookup
import Mathlib.Data.List.Nodup

namespace DocExamples

namespace Path

/-- The path of what some names lead to from the folder at a path. -/
def below (p : Path) (way : List Text) : Path := { p with names := p.names ++ way }

theorem below_nil (p : Path) : p.below [] = p := by rw [below, List.append_nil]

theorem below_cons (p : Path) (n : Text) (way : List Text) :
    p.below (n :: way) = (p.child n).below way := by simp [below, child]

theorem below_concat (p : Path) (way : List Text) (n : Text) :
    p.below (way ++ [n]) = (p.below way).child n := by simp [below, child]

/-- The text of a path holds no NUL if none of its names does. -/
theorem IsRead.nul_notMem_text {p : Path} (hp : p.IsRead) (h : ∀ n ∈ p.names, '\x00' ∉ n) :
    '\x00' ∉ p.text := by
  rw [text]
  split
  · decide
  · rw [List.mem_append, not_or]
    refine ⟨?_, fun hmem => ?_⟩
    · rcases hp.root with h | h | h <;> rw [h] <;> decide
    · rcases Text.mem_joined hmem with hsep | ⟨n, hn, hnul⟩
      · exact absurd hsep (by decide)
      · exact h n hn hnul

end Path

namespace Disk

/-- A disk as it may be found: a tree with one entry at each location, where every name can
stand in a path text. -/
structure IsSound (d : Disk) : Prop where
  /-- Every entry stands in a folder. -/
  tree : d.IsTree
  /-- No location has two entries. -/
  distinct : d.Distinct
  /-- Names have no slash and no NUL. -/
  named : ∀ x ∈ d.entries, ∀ n ∈ x.1, Path.IsName n ∧ '\x00' ∉ n

instance {d : Disk} : Decidable d.Distinct := List.nodupDecidable _

instance {d : Disk} : Decidable d.IsSound :=
  decidable_of_iff (d.IsTree ∧ d.Distinct ∧
      ∀ x ∈ d.entries, ∀ n ∈ x.1, Path.IsName n ∧ '\x00' ∉ n)
    ⟨fun ⟨htree, hdistinct, hnamed⟩ => ⟨htree, hdistinct, hnamed⟩,
      fun h => ⟨h.tree, h.distinct, h.named⟩⟩

/-- A path leads to the folder at a location, and no link below it leads to a folder. -/
structure Stands (d : Disk) (q : Path) (l : Location) : Prop where
  /-- The path is read from a text. -/
  read : q.IsRead
  /-- Its names hold no NUL. -/
  plain : ∀ n ∈ q.names, '\x00' ∉ n
  /-- It leads to the folder. -/
  located : d.locate true q.text = .ok ⟨l, some .folder⟩
  /-- The folder is there. -/
  folder : d.at? l = some .folder
  /-- No link below leads to a folder. -/
  direct : ∀ way target, d.at? (l ++ way) = some (.link target) →
    d.leads Entry.isFolder (q.below way).text = false

/-- The folder that a path stands for may be listed if it may be read. -/
theorem Stands.lists_iff {d : Disk} {q : Path} {l : Location} (hq : d.Stands q l) :
    d.Lists q.text ↔ d.rights.read l = true := by
  rw [Lists, hq.located]

/-- At a location stands a file, or else a link, the path of which leads to a file. -/
def HoldsFile (d : Disk) (l : Location) (p : Path) : Prop :=
  ∃ e, d.at? l = some e ∧
    (e.isFile = true ∨ e.isLink = true ∧ d.leads Entry.isFile p.text = true)

variable {d d' : Disk} {q : Path} {l : Location} {n : Text} {e : Entry} {path : Text} {i : Nat}

/-- Whether a link leads to a folder is seen from the entries of the disk. -/
theorem direct_of_entries (h : ∀ x ∈ d.entries, x.2.isLink = true → l <+: x.1 →
    d.leads Entry.isFolder (q.below (x.1.drop l.length)).text = false) (way : Location)
    (target : Text) (htarget : d.at? (l ++ way) = some (.link target)) :
    d.leads Entry.isFolder (q.below way).text = false := by
  by_cases hnil : l ++ way = []
  · rw [hnil, at?_nil] at htarget
    exact nomatch htarget
  · have hway := h _ (mem_of_at? htarget hnil) rfl (List.prefix_append l way)
    rwa [List.drop_left] at hway

theorem mem_namesIn : n ∈ d.namesIn l ↔ d.at? (l ++ [n]) ≠ none := by
  rw [namesIn, List.mem_filterMap]
  constructor
  · rintro ⟨x, hx, hn⟩
    rw [← eq_concat_of_name hn]
    exact at?_ne_none hx
  · intro h
    obtain ⟨e, he⟩ := Option.ne_none_iff_exists'.1 h
    exact ⟨_, mem_of_at? he (by simp), by simp⟩

/-! ### Paths to folders -/

/-- A path leads to the folder at a location, and lookups go on from there with so many links
left. -/
structure Opens (d : Disk) (q : Path) (l : Location) (i : Nat) : Prop where
  /-- The path is read from a text. -/
  read : q.IsRead
  /-- Its names hold no NUL. -/
  plain : ∀ n ∈ q.names, '\x00' ∉ n
  /-- It leads to the location. -/
  located : d.locate true q.text = .ok ⟨l, some .folder⟩
  /-- At the location there is a folder. -/
  folder : d.at? l = some .folder
  /-- Longer paths lead on from there. -/
  onward : ∀ rest,
    d.resolve true linkLimit (d.base q) (q.names ++ rest) = d.resolve true i l rest

theorem Opens.leads (ho : d.Opens q l i) : d.leads Entry.isFolder q.text = true := by
  refine leads_iff.2 ⟨ho.read.nul_notMem_text ho.plain, .folder, ?_, rfl⟩
  rw [stat, ho.located]
  rfl

/-- A path that leads to a folder leads on from it. -/
theorem exists_opens (hread : q.IsRead) (hplain : ∀ n ∈ q.names, '\x00' ∉ n)
    (h : d.locate true q.text = .ok ⟨l, some .folder⟩) (hfolder : d.at? l = some .folder) :
    ∃ i ≤ linkLimit, d.Opens q l i := by
  by_cases hsome : q.root = [] → q.names ≠ []
  · have hresolve := h
    rw [locate_read hread hsome] at hresolve
    split at hresolve
    · cases hresolve
    · obtain ⟨i, hi, honward⟩ := resolve_beyond hresolve
      exact ⟨i, hi, hread, hplain, h, hfolder, honward⟩
  · -- A single dot leads to the working folder, and other paths on from there.
    obtain ⟨hroot, hnames⟩ : q.root = [] ∧ q.names = [] := by simpa using hsome
    have htext : q.text = Path.dot := by simp [Path.text, hroot, hnames]
    have hcwd := h
    rw [htext, locate_dot] at hcwd
    split at hcwd
    · obtain ⟨rfl, -⟩ := Spot.mk.inj (Except.ok.inj hcwd)
      refine ⟨linkLimit, Nat.le_refl _, hread, hplain, h, hfolder, fun rest => ?_⟩
      rw [hnames, List.nil_append, base, if_pos hroot]
    · cases hcwd

theorem Stands.exists_opens (hq : d.Stands q l) : ∃ i ≤ linkLimit, d.Opens q l i :=
  Disk.exists_opens hq.read hq.plain hq.located hq.folder

theorem Stands.leads (hq : d.Stands q l) : d.leads Entry.isFolder q.text = true := by
  obtain ⟨_, -, ho⟩ := hq.exists_opens
  exact ho.leads

/-! ### One name below a folder -/

/-- The name of what stands somewhere can be read in a path. -/
theorem IsSound.isRead_child (hd : d.IsSound) (hq : q.IsRead) (hn : d.at? (l ++ [n]) = some e) :
    (q.child n).IsRead where
  root := hq.root
  names := List.forall_mem_append.2 ⟨hq.names, fun m hm =>
    (hd.named _ (mem_of_at? hn (by simp)) m (List.mem_append_right _ hm)).1⟩

theorem IsSound.plain_child (hd : d.IsSound) (hq : ∀ m ∈ q.names, '\x00' ∉ m)
    (hn : d.at? (l ++ [n]) = some e) : ∀ m ∈ (q.child n).names, '\x00' ∉ m :=
  List.forall_mem_append.2 ⟨hq, fun m hm =>
    (hd.named _ (mem_of_at? hn (by simp)) m (List.mem_append_right _ hm)).2⟩

section

variable (hd : d.IsSound) (ho : d.Opens q l i) (hn : d.at? (l ++ [n]) = some e)
include hd ho hn

theorem Opens.nul_notMem_child : '\x00' ∉ (q.child n).text :=
  (hd.isRead_child ho.read hn).nul_notMem_text (hd.plain_child ho.plain hn)

/-- A name in a folder is looked up from there. -/
theorem Opens.locate_child : d.locate true (q.child n).text =
    if pathLimit ≤ (Utf8.encode (q.child n).text).length then .error .tooLong
    else d.resolve true i l [n] := by
  rw [locate_read (hd.isRead_child ho.read hn) (fun _ => by simp [Path.child]), ← ho.onward]
  rfl

/-- It leads to what stands there, unless it is a link. -/
theorem Opens.locate_child_direct (hlink : e.isLink = false) : d.locate true (q.child n).text =
    if pathLimit ≤ (Utf8.encode (q.child n).text).length then .error .tooLong
    else if d.rights.search l then .ok ⟨l ++ [n], some e⟩ else .error .denied := by
  have hproper : IsProper n := hd.tree.isProper hn (by simp)
  obtain ⟨jump, hwalk⟩ := resolve_eq_walk d true i
  have hspot : d.resolve true i l [n] =
      if d.rights.search l then .ok ⟨l ++ [n], some e⟩ else .error .denied := by
    rw [hwalk]
    cases hsearch : d.rights.search l with
    | false => exact walk_barred hproper.ne_nil hsearch
    | true =>
      rw [walk_cons hsearch hproper, hn]
      cases e with
      | link target => cases hlink
      | _ => rfl
  rw [ho.locate_child hd hn, hspot]

/-- Where its path can be looked up, what stands in a folder is led to. -/
theorem Opens.locate_child_of_answers (hlink : e.isLink = false)
    (hanswers : d.Answers (q.child n).text) :
    d.locate true (q.child n).text = .ok ⟨l ++ [n], some e⟩ := by
  have hlocate := ho.locate_child_direct hd hn hlink
  have hno {fault : Fault} (hfault : d.locate true (q.child n).text = .error fault) :
      fault.isAbsence = true := by
    refine hanswers (ho.nul_notMem_child hd hn) fault ?_
    rw [stat, hfault]
    rfl
  split at hlocate
  · exact absurd (hno hlocate) (by decide)
  · split at hlocate
    · exact hlocate
    · exact absurd (hno hlocate) (by decide)

theorem Opens.stat_child (hlink : e.isLink = false) (hanswers : d.Answers (q.child n).text) :
    d.stat (q.child n).text = .ok e := by
  rw [stat, ho.locate_child_of_answers hd hn hlink hanswers]
  rfl

theorem Opens.leads_child_iff (hlink : e.isLink = false) {kind : Entry → Bool} :
    d.leads kind (q.child n).text = true ↔ d.Answers (q.child n).text ∧ kind e = true := by
  constructor
  · intro h
    obtain ⟨-, e', hstat, hkind⟩ := leads_iff.1 h
    rw [ho.stat_child hd hn hlink (answers_of_leads h)] at hstat
    exact ⟨answers_of_leads h, Except.ok.inj hstat ▸ hkind⟩
  · rintro ⟨hanswers, hkind⟩
    exact leads_iff.2 ⟨ho.nul_notMem_child hd hn, e, ho.stat_child hd hn hlink hanswers, hkind⟩

end

section

variable (hd : d.IsSound) (hq : d.Stands q l)
include hd hq

/-- A path to a folder in the folder leads to what stands there. -/
theorem Stands.child (hn : d.at? (l ++ [n]) = some .folder)
    (hanswers : d.Answers (q.child n).text) : d.Stands (q.child n) (l ++ [n]) where
  read := hd.isRead_child hq.read hn
  plain := hd.plain_child hq.plain hn
  located := by
    obtain ⟨_, -, ho⟩ := hq.exists_opens
    exact ho.locate_child_of_answers hd hn rfl hanswers
  folder := hn
  direct way target htarget := by
    rw [List.append_assoc] at htarget
    rw [← Path.below_cons]
    exact hq.direct _ target htarget

/-- What the path of a name leads to as a folder stands there as a folder. -/
theorem Stands.child_of_leads (hn : d.at? (l ++ [n]) ≠ none)
    (hfolder : d.leads Entry.isFolder (q.child n).text = true) :
    d.Stands (q.child n) (l ++ [n]) := by
  obtain ⟨e, he⟩ := Option.ne_none_iff_exists'.1 hn
  obtain ⟨_, -, ho⟩ := hq.exists_opens
  cases hlink : e.isLink with
  | true =>
    cases e with
    | link target =>
      have hno := hq.direct [n] target he
      rw [Path.below_cons, Path.below_nil] at hno
      exact absurd (hno.symm.trans hfolder) (by decide)
    | _ => exact nomatch hlink
  | false =>
    obtain ⟨hanswers, hkind⟩ := (ho.leads_child_iff hd he hlink).1 hfolder
    cases e with
    | folder => exact hq.child hd he hanswers
    | _ => exact nomatch hkind

/-- The path of a name that can be looked up leads to a file exactly if it holds one. -/
theorem Stands.leads_isFile_iff (hn : d.at? (l ++ [n]) ≠ none)
    (hanswers : d.Answers (q.child n).text) :
    d.leads Entry.isFile (q.child n).text = true ↔ d.HoldsFile (l ++ [n]) (q.child n) := by
  obtain ⟨e, he⟩ := Option.ne_none_iff_exists'.1 hn
  obtain ⟨_, -, ho⟩ := hq.exists_opens
  have honly : d.HoldsFile (l ++ [n]) (q.child n) ↔
      e.isFile = true ∨ e.isLink = true ∧ d.leads Entry.isFile (q.child n).text = true := by
    simp [HoldsFile, he]
  rw [honly]
  cases hlink : e.isLink with
  | true =>
    cases e with
    | link target => simp [Entry.isFile]
    | _ => cases hlink
  | false =>
    rw [ho.leads_child_iff hd he hlink]
    simp [hanswers]

end

/-! ### The order of the entries -/

theorem Distinct.at?_eq_some_iff (hd : d.Distinct) (hl : l ≠ []) :
    d.at? l = some e ↔ (l, e) ∈ d.entries := by
  refine ⟨fun h => mem_of_at? h hl, fun h => ?_⟩
  obtain ⟨e', he'⟩ := Option.ne_none_iff_exists'.1 (at?_ne_none h)
  obtain ⟨-, rfl⟩ := Prod.mk.inj (List.inj_on_of_nodup_map hd h (mem_of_at? he' hl) rfl)
  exact he'

theorem at?_of_perm (hd : d.Distinct) (hentries : d'.entries.Perm d.entries) (l : Location) :
    d'.at? l = d.at? l := by
  have hd' : d'.Distinct := (hentries.map _).nodup_iff.2 hd
  by_cases hl : l = []
  · rw [hl, at?_nil, at?_nil]
  · refine Option.ext fun e => ?_
    rw [hd'.at?_eq_some_iff hl, hd.at?_eq_some_iff hl, hentries.mem_iff]

section

variable (hat : ∀ l, d'.at? l = d.at? l) (hrights : d'.rights = d.rights)
include hat hrights

theorem walk_congr (jump : Location → List Text → Except Fault Spot) (follow : Bool)
    (here : Location) (names : List Text) :
    d'.walk jump follow here names = d.walk jump follow here names := by
  induction names generalizing here with
  | nil => rfl
  | cons n names ih => simp only [walk, hat, hrights, ih]

theorem resolve_congr (follow : Bool) (links : Nat) :
    d'.resolve follow links = d.resolve follow links := by
  induction links with
  | zero =>
    funext here names
    exact walk_congr hat hrights _ follow here names
  | succ links ih =>
    funext here names
    rw [resolve, resolve, ih]
    exact walk_congr hat hrights _ follow here names

variable (hcwd : d'.cwd = d.cwd)
include hcwd

theorem locate_congr (follow : Bool) (path : Text) :
    d'.locate follow path = d.locate follow path := by
  rw [locate, locate, resolve_congr hat hrights, hcwd]

theorem leadsTo_congr (kind : Entry → Bool) (path : Text) :
    d'.leadsTo kind path = d.leadsTo kind path := by
  rw [leadsTo, leadsTo, stat, stat, locate_congr hat hrights hcwd]

end

end Disk

end DocExamples
