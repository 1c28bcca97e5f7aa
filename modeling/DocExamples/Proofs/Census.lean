/-
# A folder and the files below it

What a search finds below a folder is said here by what stands there on the disk: the entries
below the location that the path of the folder leads to.  Each is reached by one way, the
names from the folder down.

| what stands on a way | what becomes of it |
| --- | --- |
| a folder | it is entered, unless it is hidden or ignored |
| a file, or a link to one | it is found if it has the suffix of a source |
| another link, a device | nothing |

A link may not lead to a folder here: such a folder is entered too, and what is found in it
stands elsewhere.  The order in which the disk lists its entries makes no difference.

There are obstacles.  Some paths are refused as too long or as locked, some folders may not be
listed, and some lie deeper than the stack has room for.  If the search comes across one of them,
perhaps a link to a name that no file can have, it finds nothing and passes the refusal on.
-/

import DocExamples.Proofs.Discovery
import DocExamples.Proofs.Standing

namespace DocExamples
namespace Finder
open Disk

/-- A search comes across what stands on a way where it enters all folders: none of them is
hidden or ignored. -/
structure Meets (f : Finder) (d : Disk) (l way : Location) : Prop where
  /-- The way leads on from the folder. -/
  ne_nil : way ≠ []
  /-- Something stands there. -/
  stands : d.at? (l ++ way) ≠ none
  /-- The folders on the way are entered. -/
  entered : ∀ n ∈ way.dropLast, n.head? ≠ some '.' ∧ n ∉ f.ignored

/-- What a search of a folder is refused for, with room for so many folders within folders. -/
inductive Obstacle (f : Finder) (d : Disk) (q : Path) (l : Location) (room : Nat) : Failure → Prop
  /-- A folder that is entered may not be listed. -/
  | locked {way : Location} : d.at? (l ++ way) = some .folder → (∀ n ∈ way, f.enters n = true) →
      d.rights.read (l ++ way) = false →
      Obstacle f d q l room (.disk .denied (q.below way).text)
  /-- Something cannot be looked up. -/
  | unanswered {way : Location} {fault : Fault} : f.Meets d l way →
      d.stat (q.below way).text = .error fault → fault.isAbsence = false →
      Obstacle f d q l room (.disk fault (q.below way).text)
  /-- Something stands too deep. -/
  | deep {way : Location} : f.Meets d l way → room < way.length →
      Obstacle f d q l room (.tooDeep "calling a Python object".toList)

/-- All that is found below a folder is a source file there, and the other way round. -/
structure Census (f : Finder) (d : Disk) (q : Path) (l : Location) (found : Found) : Prop where
  /-- The files that are found. -/
  files : ∀ p, p ∈ found.files ↔ ∃ way, p = q.below way ∧ f.Meets d l way ∧
    d.HoldsFile (l ++ way) p ∧ p.suffix ∈ f.suffixes
  /-- They are listed in the order of the names on the way, by code points. -/
  ordered : found.files.Pairwise fun p r => p.names < r.names
  /-- Each is listed once. -/
  nodup : found.files.Nodup
  /-- The folder is there. -/
  counted : found.errors = [] ∧ found.resolved = 1

variable {f : Finder} {d d' : Disk} {q r p : Path} {l : Location} {way : Location} {n : Text}
variable {room : Nat} {failure : Failure}

/-- That there is no obstacle is seen from the entries of the disk. -/
theorem not_obstacle_of_entries (hopen : ∀ k, d.rights.read k = true)
    (h : ∀ x ∈ d.entries, l <+: x.1 → d.Answers (q.below (x.1.drop l.length)).text ∧
      x.1.length ≤ l.length + room) (hnul : ∀ x ∈ d.entries, l <+: x.1 →
        '\x00' ∉ (q.below (x.1.drop l.length)).text) : ¬ Obstacle f d q l room failure := by
  have hmeets {way : Location} (hway : f.Meets d l way) : d.Answers (q.below way).text ∧
      '\x00' ∉ (q.below way).text ∧ way.length ≤ room := by
    obtain ⟨e, he⟩ := Option.ne_none_iff_exists'.1 hway.stands
    have hmem := mem_of_at? he (by simp [hway.ne_nil])
    have hentry := h _ hmem (List.prefix_append l way)
    have hplain := hnul _ hmem (List.prefix_append l way)
    rw [List.drop_left] at hentry hplain
    rw [List.length_append] at hentry
    exact ⟨hentry.1, hplain, Nat.le_of_add_le_add_left hentry.2⟩
  rintro (⟨-, -, hlocked⟩ | ⟨hway, hstat, habsence⟩ | ⟨hway, hdeep⟩)
  · exact absurd ((hopen _).symm.trans hlocked) (by decide)
  · obtain ⟨hanswers, hplain, -⟩ := hmeets hway
    exact absurd ((hanswers hplain _ hstat).symm.trans habsence) (by decide)
  · exact Nat.not_lt.2 (hmeets hway).2.2 hdeep

theorem enters_iff : f.enters n = true ↔ n.head? ≠ some '.' ∧ n ∉ f.ignored := by
  have hdot : Text.startsWith ['.'] n = true ↔ n.head? = some '.' := by
    rw [Text.startsWith, Option.isSome_iff_exists, List.head?_eq_some_iff]
    exact exists_congr fun t => Text.after?_eq_some_iff
  rw [enters, Bool.and_eq_true, Bool.not_eq_true', Bool.not_eq_true', Bool.eq_false_iff, ne_eq,
    hdot, Bool.eq_false_iff, ne_eq, List.contains_iff_mem]

theorem meets_concat_iff : f.Meets d l (way ++ [n]) ↔
    d.at? ((l ++ way) ++ [n]) ≠ none ∧ ∀ m ∈ way, f.enters m = true := by
  simp only [enters_iff]
  constructor
  · rintro ⟨-, hstands, hentered⟩
    rw [List.dropLast_concat] at hentered
    exact ⟨List.append_assoc l way [n] ▸ hstands, hentered⟩
  · rintro ⟨hstands, hentered⟩
    refine ⟨by simp, List.append_assoc l way [n] ▸ hstands, ?_⟩
    rwa [List.dropLast_concat]

/-- The path of a folder that is asked about stands for it. -/
theorem stands_ofText {s : Text} (hs : '\x00' ∉ s)
    (hfolder : d.locate true (Path.ofText s).text = .ok ⟨l, some .folder⟩)
    (hthere : d.at? l = some .folder)
    (hdirect : ∀ way target, d.at? (l ++ way) = some (.link target) →
      d.leads Entry.isFolder ((Path.ofText s).below way).text = false) :
    d.Stands (Path.ofText s) l where
  read := Path.isRead_ofText s
  plain _ hn hnul := hs (Text.mem_of_mem_pieces (List.mem_filter.1 hn).1 hnul)
  located := hfolder
  folder := hthere
  direct := hdirect

/-! ### Ways and entered folders -/

section

variable (hd : d.IsSound)
include hd

/-- A folder that is entered stands on a way. -/
theorem Enters.exists_way (hq : d.Stands q l) (h : Enters f d q r) :
    ∃ way, r = q.below way ∧ d.Stands r (l ++ way) ∧ ∀ n ∈ way, f.enters n = true := by
  induction h generalizing l with
  | here q => exact ⟨[], (q.below_nil).symm, by rwa [List.append_nil], by simp⟩
  | @there q r n hname hfolder henters _ ih =>
    rw [namesAt, hq.located] at hname
    obtain ⟨way, rfl, hr, hway⟩ := ih (hq.child_of_leads hd (mem_namesIn.1 hname) hfolder)
    refine ⟨n :: way, (q.below_cons n way).symm, ?_, List.forall_mem_cons.2 ⟨henters, hway⟩⟩
    rwa [List.append_assoc] at hr

/-- A folder on a way is entered, if the search gets through. -/
theorem enters_below (hq : d.Stands q l) (hsearch : Searchable f d room q)
    (hway : d.at? (l ++ way) = some .folder) (hall : ∀ n ∈ way, f.enters n = true) :
    Enters f d q (q.below way) ∧ d.Stands (q.below way) (l ++ way) := by
  induction way generalizing q l room with
  | nil =>
    rw [Path.below_nil, List.append_nil]
    exact ⟨.here q, hq⟩
  | cons n way ih =>
    obtain ⟨hn, hall⟩ := List.forall_mem_cons.1 hall
    have hbelow : l ++ n :: way = (l ++ [n]) ++ way := by simp
    rw [hbelow] at hway ⊢
    have hfolder : d.at? (l ++ [n]) = some .folder :=
      hd.tree.folder_above hway (List.prefix_append _ _)
    have hname : n ∈ d.namesAt q.text := by
      rw [namesAt, hq.located]
      exact mem_namesIn.2 (by rw [hfolder]; simp)
    obtain ⟨_, -, ho⟩ := hq.exists_opens
    have hanswers := (hsearch q (.here q)).answers n hname
    have hleads : d.leads Entry.isFolder (q.child n).text = true :=
      (ho.leads_child_iff hd hfolder rfl).2 ⟨hanswers, rfl⟩
    obtain ⟨room, rfl⟩ := hsearch.exists_eq_succ hname
    obtain ⟨henters, hstands⟩ :=
      ih (hq.child hd hfolder hanswers) (hsearch.child hname hleads hn) hway hall
    rw [Path.below_cons]
    exact ⟨.there hname hleads hn henters, hstands⟩

/-- What stands on a way is a name in a folder that is entered, if the search gets through. -/
theorem Meets.exists_enters (hq : d.Stands q l) (hsearch : Searchable f d room q)
    (h : f.Meets d l way) : ∃ front n, way = front ++ [n] ∧ Enters f d q (q.below front) ∧
      d.Stands (q.below front) (l ++ front) ∧ n ∈ d.namesAt (q.below front).text := by
  obtain ⟨front, n, rfl⟩ := (List.eq_nil_or_concat' way).resolve_left h.ne_nil
  obtain ⟨hn, hall⟩ := meets_concat_iff.1 h
  obtain ⟨e, he⟩ := Option.ne_none_iff_exists'.1 hn
  have hfolder : d.at? (l ++ front) = some .folder := hd.tree.at?_of_append (by simp) he
  obtain ⟨henters, hstands⟩ := enters_below hd hq hsearch hfolder hall
  refine ⟨front, n, rfl, henters, hstands, ?_⟩
  rw [namesAt, hstands.located]
  exact mem_namesIn.2 hn

/-- A name in a folder that is entered stands on a way. -/
theorem Enters.exists_meets (hq : d.Stands q l) (h : Enters f d q r) (hn : n ∈ d.namesAt r.text) :
    ∃ way, r = q.below way ∧ d.Stands r (l ++ way) ∧ d.at? ((l ++ way) ++ [n]) ≠ none ∧
      f.Meets d l (way ++ [n]) := by
  obtain ⟨way, rfl, hr, hall⟩ := h.exists_way hd hq
  rw [namesAt, hr.located] at hn
  have hstands := mem_namesIn.1 hn
  exact ⟨way, rfl, hr, hstands, meets_concat_iff.2 ⟨hstands, hall⟩⟩

/-- What a search is refused for at a folder that it enters is an obstacle. -/
theorem Refuses.obstacle (hq : d.Stands q l) (hr : Enters f d q r)
    (h : Refuses d (q.names.length + room) r failure) : Obstacle f d q l room failure := by
  obtain ⟨way, rfl, hstands, hall⟩ := hr.exists_way hd hq
  cases h with
  | locked hlists =>
    rw [hstands.lists_iff, Bool.not_eq_true] at hlists
    exact .locked hstands.folder hall hlists
  | unanswered hname hnul hstat habsence =>
    rw [← Path.below_concat] at hstat ⊢
    rw [namesAt, hstands.located] at hname
    exact .unanswered (meets_concat_iff.2 ⟨mem_namesIn.1 hname, hall⟩) hstat habsence
  | deep hsome hdeep =>
    obtain ⟨n, hn⟩ := List.exists_mem_of_ne_nil _ hsome
    rw [namesAt, hstands.located] at hn
    have hmeets : f.Meets d l (way ++ [n]) := meets_concat_iff.2 ⟨mem_namesIn.1 hn, hall⟩
    refine .deep hmeets ?_
    rw [Path.below, List.length_append] at hdeep
    rw [List.length_append, List.length_singleton]
    omega

/-- A search gets through exactly if there is no obstacle. -/
theorem searchable_iff (hq : d.Stands q l) :
    Searchable f d room q ↔ ∀ failure, ¬ Obstacle f d q l room failure := by
  constructor
  · rintro h failure (@⟨way, hfolder, hall, hlocked⟩ | @⟨way, fault, hway, hstat, habsence⟩ |
      @⟨way, hway, hdeep⟩)
    · obtain ⟨henters, hstands⟩ := enters_below hd hq h hfolder hall
      have hread := hstands.lists_iff.1 (h _ henters).lists
      exact absurd (hread.symm.trans hlocked) (by decide)
    · obtain ⟨front, n, rfl, henters, hstands, hn⟩ := hway.exists_enters hd hq h
      obtain ⟨_, -, ho⟩ := hstands.exists_opens
      rw [namesAt, hstands.located] at hn
      obtain ⟨e, he⟩ := Option.ne_none_iff_exists'.1 (mem_namesIn.1 hn)
      have hnul := ho.nul_notMem_child hd he
      rw [Path.below_concat] at hstat
      have hname : n ∈ d.namesAt (q.below front).text := by rwa [namesAt, hstands.located]
      exact absurd (((h _ henters).answers n hname hnul _ hstat).symm.trans habsence) (by decide)
    · obtain ⟨front, n, rfl, henters, hstands, hn⟩ := hway.exists_enters hd hq h
      have hroom := (h _ henters).room.resolve_left (List.ne_nil_of_mem hn)
      rw [Path.below, List.length_append] at hroom
      rw [List.length_append, List.length_singleton] at hdeep
      omega
  · intro h r hr
    refine Decidable.byContradiction fun hno => ?_
    obtain ⟨failure, hrefuses⟩ := exists_refuses hno
    exact h failure (hrefuses.obstacle hd hq hr)

theorem Meets.answers (hq : d.Stands q l) (hsearch : Searchable f d room q)
    (h : f.Meets d l way) : d.Answers (q.below way).text := by
  obtain ⟨front, n, rfl, henters, -, hn⟩ := h.exists_enters hd hq hsearch
  rw [Path.below_concat]
  exact (hsearch _ henters).answers n hn

/-- What is found are the source files that stand on ways. -/
theorem finds_iff (hq : d.Stands q l) (hsearch : Searchable f d room q) :
    Finds f d q p ↔ ∃ way, p = q.below way ∧ f.Meets d l way ∧ d.HoldsFile (l ++ way) p ∧
      p.suffix ∈ f.suffixes := by
  constructor
  · rintro ⟨r, n, hr, hn, hfile, hsource, rfl⟩
    obtain ⟨way, rfl, hstands, hsome, hmeets⟩ := hr.exists_meets hd hq hn
    have hanswers := hmeets.answers hd hq hsearch
    rw [Path.below_concat] at hanswers
    refine ⟨way ++ [n], (q.below_concat way n).symm, hmeets, ?_, List.contains_iff_mem.1 hsource⟩
    rw [← List.append_assoc]
    exact (hstands.leads_isFile_iff hd hsome hanswers).1 hfile
  · rintro ⟨way, rfl, hmeets, hholds, hsource⟩
    have hanswers := hmeets.answers hd hq hsearch
    obtain ⟨front, n, rfl, henters, hstands, hn⟩ := hmeets.exists_enters hd hq hsearch
    have hsome := hn
    rw [namesAt, hstands.located] at hsome
    rw [Path.below_concat] at hanswers hholds hsource ⊢
    rw [← List.append_assoc] at hholds
    exact ⟨_, n, henters, hn,
      (hstands.leads_isFile_iff hd (mem_namesIn.1 hsome) hanswers).2 hholds,
      List.contains_iff_mem.2 hsource, rfl⟩

/-- The source files below a folder, as far as a search gets through. -/
theorem census_walked (hq : d.Stands q l) (hsearch : Searchable f d room q) :
    Census f d q l ⟨walked f d room q, [], 1⟩ := by
  have hordered : (walked f d room q).Pairwise fun p r => p.names < r.names :=
    pairwise_walked hd.distinct room q
  refine ⟨fun p => ?_, hordered, hordered.imp fun hlt he => ?_, rfl, rfl⟩
  · rw [mem_walked hsearch, finds_iff hd hq hsearch]
  · exact List.lt_irrefl _ (he ▸ hlt)

end

/-! ### The order of the entries -/

section

variable [Stack]

/-- A list of entries in another order makes no difference to a search. -/
theorem find_of_perm (hd : d.Distinct) (hentries : d'.entries.Perm d.entries)
    (hcwd : d'.cwd = d.cwd) (hrights : d'.rights = d.rights) (ss : List Text) :
    f.find d' ss = f.find d ss := by
  have hat := at?_of_perm hd hentries
  have hlisting (q : Path) : listing d' q = listing d q := by
    have hnames (k : Location) : sorted (d'.namesIn k) = sorted (d.namesIn k) :=
      sorted_of_perm (hentries.filterMap _)
    simp only [listing, locate_congr hat hrights hcwd, hrights, hnames]
  have hwalk (room : Nat) (q : Path) : walk f d' room q = walk f d room q := by
    induction room generalizing q with
    | zero => simp only [walk, hlisting]
    | succ room ih => simp only [walk, hlisting, ih, leadsTo_congr hat hrights hcwd]
  have hexpand (s : Text) : f.expand d' s = f.expand d s := by
    simp only [expand, below, hwalk, leadsTo_congr hat hrights hcwd]
  induction ss with
  | nil => rfl
  | cons s ss ih => rw [find, find, hexpand, ih]

/-! ### Several paths -/

theorem find_append (ps qs : List Text) : f.find d (ps ++ qs) = do
    let a ← f.find d ps
    let b ← f.find d qs
    return ⟨a.files ++ b.files, a.errors ++ b.errors, a.resolved + b.resolved⟩ := by
  induction ps with
  | nil =>
    rw [List.nil_append]
    cases hqs : f.find d qs <;> simp [find, nothing, bind, Except.bind, pure, Except.pure]
  | cons s ps ih =>
    rw [List.cons_append, find, find, ih]
    cases f.expand d s with
    | error failure => rfl
    | ok first =>
      cases f.find d ps with
      | error failure => rfl
      | ok a =>
        cases f.find d qs with
        | error failure => rfl
        | ok b => simp [bind, Except.bind, pure, Except.pure, Nat.add_assoc]

/-- Each path is there or gives one diagnostic. -/
theorem resolved_add_length_errors {ps : List Text} {found : Found} (h : f.find d ps = .ok found) :
    found.resolved + found.errors.length = ps.length := by
  rw [find_eq_ok (answered_of_find h)] at h
  obtain rfl := Except.ok.inj h
  rw [List.length_map, List.countP_eq_length_filter]
  exact (List.length_eq_length_filter_add d.denotes).symm

/-! ### A folder -/

/-- A search that gets through gives what it walks over. -/
theorem find_eq_ok_of_searchable {s : Text}
    (hleads : d.leads Entry.isFolder (Path.ofText s).text = true)
    (hsearch : Searchable f d Stack.folders (Path.ofText s)) :
    f.find d [s] = .ok ⟨walked f d Stack.folders (Path.ofText s), [], 1⟩ := by
  have hall : ∀ t ∈ [s], Answered f d t := by
    intro t ht
    obtain rfl := List.mem_singleton.1 ht
    exact ⟨answers_of_leads hleads, fun _ => hsearch⟩
  simp [find_eq_ok hall, filesOf, denotes, hleads]

/-- A search that does not get through is refused at a folder that it enters. -/
theorem exists_refuses_of_find {s : Text}
    (hleads : d.leads Entry.isFolder (Path.ofText s).text = true)
    (h : ¬ Searchable f d Stack.folders (Path.ofText s)) :
    ∃ r failure, Enters f d (Path.ofText s) r ∧
      Refuses d ((Path.ofText s).names.length + Stack.folders) r failure ∧
      f.find d [s] = .error failure := by
  cases hwalk : walk f d Stack.folders (Path.ofText s) with
  | ok files => exact absurd (searchable_of_walk hleads hwalk) h
  | error failure =>
    obtain ⟨r, hr, hrefuses⟩ := exists_refuses_of_walk hleads hwalk
    have hgiven : d.leadsTo Entry.isFolder (Path.ofText s).text = .ok true :=
      leadsTo_eq_ok_iff.2 ⟨answers_of_leads hleads, hleads⟩
    refine ⟨r, failure, hr, hrefuses, ?_⟩
    rw [find, expand, hgiven, below, hwalk]
    rfl

/-- **The search of a folder is a census of the source files below it**, where there is no
obstacle.  Otherwise it is refused for one of the obstacles.  The order in which the disk lists
its entries makes no difference.  What is found below more paths follows on what is found below
the first, and each path is there or gives one diagnostic. -/
theorem find_census (f : Finder) {d : Disk} {s : Text} {l : Location} (hd : d.IsSound)
    (hs : '\x00' ∉ s) (hfolder : d.locate true (Path.ofText s).text = .ok ⟨l, some .folder⟩)
    (hthere : d.at? l = some .folder)
    (hdirect : ∀ way target, d.at? (l ++ way) = some (.link target) →
      d.leads Entry.isFolder ((Path.ofText s).below way).text = false) :
    let Blocked := Obstacle f d (Path.ofText s) l Stack.folders
    ((∀ failure, ¬ Blocked failure) →
        ∃ found, f.find d [s] = .ok found ∧ Census f d (Path.ofText s) l found) ∧
      ((∃ failure, Blocked failure) → ∃ failure, Blocked failure ∧ f.find d [s] = .error failure) ∧
      (∀ d', d'.entries.Perm d.entries → d'.cwd = d.cwd → d'.rights = d.rights →
        f.find d' [s] = f.find d [s]) ∧
      (∀ ps qs, f.find d (ps ++ qs) = do
        let a ← f.find d ps
        let b ← f.find d qs
        return ⟨a.files ++ b.files, a.errors ++ b.errors, a.resolved + b.resolved⟩) ∧
      ∀ ps found, f.find d ps = .ok found → found.resolved + found.errors.length = ps.length := by
  have hq := stands_ofText hs hfolder hthere hdirect
  refine ⟨fun hclear => ?_, fun ⟨failure, hblocked⟩ => ?_,
    fun d' hentries hcwd hrights => find_of_perm hd.distinct hentries hcwd hrights [s], find_append,
    fun _ _ => resolved_add_length_errors⟩
  · have hsearch := (searchable_iff hd hq).2 hclear
    exact ⟨_, find_eq_ok_of_searchable hq.leads hsearch, census_walked hd hq hsearch⟩
  · obtain ⟨r, failure', hr, hrefuses, hfind⟩ := exists_refuses_of_find hq.leads
      fun hsearch => (searchable_iff hd hq).1 hsearch failure hblocked
    exact ⟨failure', hrefuses.obstacle hd hq hr, hfind⟩

end

/-- Folders with a file beside a folder of almost the same name, a folder with the name of a
source, a hidden folder and a hidden file, and links. -/
def mixed : Disk where
  entries := [(["src".toList], .folder),
    (["src".toList, "a.ts".toList], .file [] 0o644),
    (["src".toList, "a".toList], .folder),
    (["src".toList, "a".toList, "b.ts".toList], .file [] 0o644),
    (["src".toList, "x.ts".toList], .folder),
    (["src".toList, "x.ts".toList, "notes.md".toList], .file [] 0o644),
    (["src".toList, ".git".toList], .folder),
    (["src".toList, ".git".toList, "c.ts".toList], .file [] 0o644),
    (["src".toList, ".d.ts".toList], .file [] 0o644),
    (["src".toList, "gone.ts".toList], .link "nowhere".toList),
    (["src".toList, "link.ts".toList], .link "a/b.ts".toList)]
  cwd := []

theorem find_census_mixed :
    mixed.IsSound ∧ '\x00' ∉ "src".toList ∧
      mixed.locate true (Path.ofText "src".toList).text = .ok ⟨["src".toList], some .folder⟩ ∧
      ∃ found, default.find mixed ["src".toList] = .ok found ∧
        Census default mixed (Path.ofText "src".toList) ["src".toList] found ∧
        Path.ofText "src/a/b.ts".toList ∈ found.files ∧
        Path.ofText "src/link.ts".toList ∈ found.files := by
  have hd : mixed.IsSound := by decide +kernel
  have hs : '\x00' ∉ "src".toList := by decide
  have hfolder : mixed.locate true (Path.ofText "src".toList).text =
      .ok ⟨["src".toList], some .folder⟩ := by decide +kernel
  obtain ⟨found, hfound, hcensus⟩ :=
    (find_census default hd hs hfolder (by decide +kernel)
      (direct_of_entries (by decide +kernel))).1
      fun _ => not_obstacle_of_entries (fun _ => rfl) (by decide +kernel) (by decide +kernel)
  refine ⟨hd, hs, hfolder, found, hfound, hcensus, ?_, ?_⟩
  · exact (hcensus.files _).2 ⟨["a".toList, "b.ts".toList], by decide,
      ⟨by decide, by decide +kernel, by decide +kernel⟩,
      ⟨.file [] 0o644, by decide +kernel, .inl rfl⟩, by decide +kernel⟩
  · exact (hcensus.files _).2 ⟨["link.ts".toList], by decide,
      ⟨by decide, by decide +kernel, by decide +kernel⟩,
      ⟨.link "a/b.ts".toList, by decide +kernel, .inr ⟨rfl, by decide +kernel⟩⟩, by decide +kernel⟩

/-- The order of names is not that of path texts. -/
example : ["src".toList, "a".toList, "b.ts".toList] < ["src".toList, "a.ts".toList] ∧
    "src/a.ts".toList < "src/a/b.ts".toList := by
  decide

/-- A folder with a link to a name that is longer than any file can have. -/
def overlong : Disk where
  entries := [(["src".toList], .folder),
    (["src".toList, "x.ts".toList], .link (List.replicate 256 'a'))]
  cwd := []

/-- No link on the disk leads to a folder, and yet the search of the folder is refused. -/
example : overlong.IsSound ∧
    default.find overlong ["src".toList] = .error (.disk .tooLong "src/x.ts".toList) := by
  decide +kernel

end Finder
end DocExamples
