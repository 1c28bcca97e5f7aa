/-
# Folders that are visited more than once

A search follows links to folders and keeps no record of where it has been.  What it visits are
paths, each of them once, and a folder is visited under every path that leads to it.  A link to
a folder above leads round in a circle, which ends when one lookup may follow no more links.

| what leads to a folder | how often it is visited for that |
| --- | --- |
| the path that was asked about | once |
| its name in a folder that is visited | as often as that folder |
| a link to it in a folder that is visited | as often as that folder |

So a folder is visited once if and only if no link leads into what is visited anyway.
-/

import DocExamples.Proofs.Census
import Mathlib.Data.List.Perm.Subperm

namespace DocExamples

theorem Path.child_inj {p r : Path} {n m : Text} (h : p.child n = r.child m) : p = r ∧ n = m := by
  obtain ⟨hroot, hnames⟩ := Path.mk.inj h
  obtain ⟨hfront, hlast⟩ := List.append_inj' hnames rfl
  obtain ⟨root, names⟩ := p
  obtain rfl : root = r.root := hroot
  obtain rfl : names = r.names := hfront
  exact ⟨rfl, (List.cons.inj hlast).1⟩

namespace Disk

variable {d : Disk} {q : Path} {l m : Location} {n target : Text} {e : Entry} {i : Nat}

/-! ### Links to folders -/

section

variable (hsearch : d.rights.search l = true) (hn : IsProper n)
variable (hlink : d.at? (l ++ [n]) = some (.link target))
include hsearch hn hlink

theorem resolve_zero_link (rest : List Text) :
    d.resolve true 0 l (n :: rest) = .error .tooManyLinks := by
  rw [resolve, walk_cons hsearch hn, hlink]
  simp

/-- A link is one of those that may be followed. -/
theorem resolve_succ_link (i : Nat) (rest : List Text) : d.resolve true (i + 1) l (n :: rest) =
    d.resolve true i (start l target) (steps target ++ rest) := by
  rw [resolve, walk_cons hsearch hn, hlink]
  simp

end

theorem exists_locate_of_leads {path : Text} (h : d.leads Entry.isFolder path = true) :
    ∃ l, d.locate true path = .ok ⟨l, some .folder⟩ := by
  obtain ⟨⟨l, entry⟩, hlocate⟩ := located_of_leads h
  obtain ⟨-, e, hstat, hkind⟩ := leads_iff.1 h
  rw [stat, hlocate] at hstat
  cases entry with
  | none => cases hstat
  | some e' =>
    obtain rfl := Except.ok.inj hstat
    cases e' with
    | folder => exact ⟨l, hlocate⟩
    | _ => exact Bool.noConfusion hkind

/-- **What a name in a folder leads to as a folder** is the folder of that name, or else a link
of that name leads there, and one link less is left. -/
theorem Opens.child_cases (hd : d.IsSound) (ho : d.Opens q l i) (hn : d.at? (l ++ [n]) = some e)
    (h : d.locate true (q.child n).text = .ok ⟨m, some .folder⟩) :
    (e.isLink = false ∧ m = l ++ [n] ∧ d.Opens (q.child n) m i) ∨
      e.isLink = true ∧ ∃ j < i, d.Opens (q.child n) m j := by
  have hproper : IsProper n := hd.tree.isProper hn (by simp)
  have hread := hd.isRead_child ho.read hn
  have hplain := hd.plain_child ho.plain hn
  have hmore (rest : List Text) : d.resolve true linkLimit (d.base (q.child n))
      ((q.child n).names ++ rest) = d.resolve true i l (n :: rest) := by
    rw [← ho.onward, Path.child, List.append_assoc]
    rfl
  cases hlink : e.isLink with
  | false =>
    have hlocate := h
    rw [ho.locate_child_direct hd hn hlink] at hlocate
    split at hlocate
    · cases hlocate
    split at hlocate
    · next hsearch =>
      obtain ⟨rfl, he⟩ := Spot.mk.inj (Except.ok.inj hlocate)
      obtain rfl := Option.some.inj he
      obtain ⟨jump, hwalk⟩ := resolve_eq_walk d true i
      refine .inl ⟨rfl, rfl, hread, hplain, h, hn, fun rest => ?_⟩
      rw [hmore, hwalk, hwalk, walk_cons hsearch hproper, hn]
    · cases hlocate
  | true =>
    cases e with
    | link target =>
      have hlocate := h
      rw [ho.locate_child hd hn] at hlocate
      split at hlocate
      · cases hlocate
      have hsearch := search_of_resolve hproper.ne_nil hlocate
      cases i with
      | zero =>
        rw [resolve_zero_link hsearch hproper hn] at hlocate
        cases hlocate
      | succ i =>
        rw [resolve_succ_link hsearch hproper hn, List.append_nil] at hlocate
        have hfolder := hd.tree.at?_of_resolve (at?_start ho.folder target) hlocate
        obtain ⟨j, hj, hrest⟩ := resolve_beyond hlocate
        refine .inr ⟨rfl, j, Nat.lt_succ_of_le hj, hread, hplain, h, hfolder, fun rest => ?_⟩
        rw [hmore, resolve_succ_link hsearch hproper hn, hrest]
    | _ => cases hlink

/-- What a name in a folder leads to as a file is a file, or a link to one. -/
theorem Opens.isFile_or_isLink (hd : d.IsSound) (ho : d.Opens q l i)
    (hn : d.at? (l ++ [n]) = some e) (h : d.leads Entry.isFile (q.child n).text = true) :
    (e.isFile || e.isLink) = true := by
  rw [Bool.or_eq_true, or_iff_not_imp_right, Bool.not_eq_true]
  exact fun hlink => ((ho.leads_child_iff hd hn hlink).1 h).2

/-- Where an entry stands: in the folder that the path without its last name leads to. -/
def entryOf (d : Disk) (p : Path) : Location :=
  match d.locate true p.parent.text with
  | .ok spot => spot.location ++ [p.name]
  | .error _ => []

theorem Opens.entryOf_child (ho : d.Opens q l i) (n : Text) : d.entryOf (q.child n) = l ++ [n] := by
  have hparent : (q.child n).parent = q := by
    rw [Path.parent, Path.child, List.dropLast_concat]
  have hname : (q.child n).name = n := by
    rw [Path.name, Path.child, List.getLast?_concat]
    rfl
  rw [entryOf, hparent, ho.located, hname]

end Disk

namespace Finder
open Disk

variable {f : Finder} {d : Disk} {q r r' p p' : Path} {l m m' way : Location} {n : Text}
variable {k k' room : Nat}

/-! ### Visits -/

/-- The paths under which a search visits folders, the location of the folder, and how many links
to folders it has entered on the way. -/
inductive Visits (f : Finder) (d : Disk) (q : Path) : Path → Location → Nat → Prop
  /-- The path that was asked about. -/
  | start {l : Location} : d.locate true q.text = .ok ⟨l, some .folder⟩ →
      d.at? l = some .folder → Visits f d q q l 0
  /-- What is entered from a folder that is visited. -/
  | next {r : Path} {m m' : Location} {n : Text} {e : Entry} {k : Nat} : Visits f d q r m k →
      d.at? (m ++ [n]) = some e → f.enters n = true →
      d.locate true (r.child n).text = .ok ⟨m', some .folder⟩ →
      Visits f d q (r.child n) m' (k + if e.isLink then 1 else 0)

/-- The paths where a search sets out, or goes on behind a link. -/
inductive Lands (f : Finder) (d : Disk) (q : Path) : Path → Location → Prop
  /-- The path that was asked about. -/
  | start {l : Location} : d.locate true q.text = .ok ⟨l, some .folder⟩ →
      d.at? l = some .folder → Lands f d q q l
  /-- A link to a folder that is entered from a folder that is visited. -/
  | link {r : Path} {m m' : Location} {n : Text} {e : Entry} {k : Nat} : Visits f d q r m k →
      d.at? (m ++ [n]) = some e → e.isLink = true → f.enters n = true →
      d.locate true (r.child n).text = .ok ⟨m', some .folder⟩ → Lands f d q (r.child n) m'

/-- A path of a source file in a folder that is visited. -/
def Listed (f : Finder) (d : Disk) (q p : Path) : Prop :=
  ∃ r m k n, Visits f d q r m k ∧ d.at? (m ++ [n]) ≠ none ∧
    d.leads Entry.isFile (r.child n).text = true ∧ f.isSource (r.child n) = true ∧ p = r.child n

/-- No folder is visited under two paths. -/
def Once (f : Finder) (d : Disk) (q : Path) : Prop :=
  ∀ r r' m k k', Visits f d q r m k → Visits f d q r' m k' → r = r'

/-- No link leads to a folder that is visited anyway: what one path where the search goes on
leads to is not what another one leads to, nor is it entered from there. -/
def Apart (f : Finder) (d : Disk) (q : Path) : Prop :=
  ∀ p p' m way, Lands f d q p m → Lands f d q p' (m ++ way) →
    (∀ n ∈ way, f.enters n = true) → p = p'

theorem Visits.length_le (h : Visits f d q r m k) : q.names.length ≤ r.names.length := by
  induction h with
  | start => exact Nat.le_refl _
  | next _ _ _ _ ih =>
    rw [Path.child, List.length_append]
    exact Nat.le_add_right_of_le ih

theorem Lands.exists_visits (h : Lands f d q p m) : ∃ k, Visits f d q p m k := by
  cases h with
  | start hq hfolder => exact ⟨0, .start hq hfolder⟩
  | link hr hn hlink henters hlocate => exact ⟨_, .next hr hn henters hlocate⟩

theorem Enters.concat (h : Enters f d q r) (hn : n ∈ d.namesAt r.text)
    (hfolder : d.leads Entry.isFolder (r.child n).text = true) (henters : f.enters n = true) :
    Enters f d q (r.child n) := by
  induction h with
  | here q => exact .there hn hfolder henters (.here _)
  | there hname hchild hchildEnters _ ih => exact .there hname hchild hchildEnters (ih hn hfolder)

section

variable (hd : d.IsSound) (hread : q.IsRead) (hplain : ∀ n ∈ q.names, '\x00' ∉ n)
include hd hread hplain

/-- **A path that is visited leads to its folder**, with as many links less as were entered. -/
theorem Visits.exists_opens (h : Visits f d q r m k) :
    ∃ i, i + k ≤ linkLimit ∧ d.Opens r m i := by
  induction h with
  | start hq hfolder =>
    obtain ⟨i, hi, ho⟩ := Disk.exists_opens hread hplain hq hfolder
    exact ⟨i, hi, ho⟩
  | @next r m m' n e k _ hn _ hlocate ih =>
    obtain ⟨i, hi, ho⟩ := ih
    rcases ho.child_cases hd hn hlocate with ⟨hlink, -, ho'⟩ | ⟨hlink, j, hj, ho'⟩
    · exact ⟨i, by simpa [hlink] using hi, ho'⟩
    · refine ⟨j, ?_, ho'⟩
      rw [hlink, if_pos rfl]
      omega

theorem Visits.location_eq (h : Visits f d q r m k) (h' : Visits f d q r m' k') : m = m' := by
  obtain ⟨_, -, ho⟩ := h.exists_opens hd hread hplain
  obtain ⟨_, -, ho'⟩ := h'.exists_opens hd hread hplain
  exact (Spot.mk.inj (Except.ok.inj (ho.located.symm.trans ho'.located))).1

theorem Visits.mem_namesAt_iff (h : Visits f d q r m k) :
    n ∈ d.namesAt r.text ↔ d.at? (m ++ [n]) ≠ none := by
  obtain ⟨_, -, ho⟩ := h.exists_opens hd hread hplain
  rw [namesAt, ho.located]
  exact mem_namesIn

/-- What is visited is entered. -/
theorem Visits.enters (h : Visits f d q r m k) : Enters f d q r := by
  induction h with
  | start => exact .here q
  | @next r m m' n e k hr hn henters hlocate ih =>
    have hstep : Visits f d q (r.child n) m' (k + if e.isLink then 1 else 0) :=
      .next hr hn henters hlocate
    obtain ⟨_, -, ho⟩ := hstep.exists_opens hd hread hplain
    refine ih.concat ((hr.mem_namesAt_iff hd hread hplain).2 ?_) ho.leads henters
    rw [hn]
    exact Option.some_ne_none e

/-- What is entered from a folder that is visited is visited. -/
theorem Visits.exists_of_enters (h : Visits f d q r m k) (henters : Enters f d r r') :
    ∃ m' k', Visits f d q r' m' k' := by
  induction henters generalizing m k with
  | here => exact ⟨m, k, h⟩
  | @there r r' n hn hfolder hname _ ih =>
    obtain ⟨e, he⟩ := Option.ne_none_iff_exists'.1 ((h.mem_namesAt_iff hd hread hplain).1 hn)
    obtain ⟨m', hlocate⟩ := exists_locate_of_leads hfolder
    exact ih (.next h he hname hlocate)

/-! ### Folders below what a search goes on from -/

/-- Behind the last link that was entered, a path goes from folder to folder. -/
theorem Visits.exists_lands (h : Visits f d q r m k) :
    ∃ p m₀ way, Lands f d q p m₀ ∧ r = p.below way ∧ m = m₀ ++ way ∧
      ∀ n ∈ way, f.enters n = true := by
  induction h with
  | @start l hq hfolder =>
    exact ⟨q, l, [], .start hq hfolder, q.below_nil.symm, (List.append_nil l).symm, by simp⟩
  | @next r m m' n e k hr hn henters hlocate ih =>
    obtain ⟨_, -, ho⟩ := hr.exists_opens hd hread hplain
    rcases ho.child_cases hd hn hlocate with ⟨-, rfl, -⟩ | ⟨hlink, -⟩
    · obtain ⟨p, m₀, way, hp, rfl, rfl, hway⟩ := ih
      refine ⟨p, m₀, way ++ [n], hp, (p.below_concat way n).symm, List.append_assoc m₀ way [n], ?_⟩
      exact List.forall_mem_append.2 ⟨hway, fun x hx => List.mem_singleton.1 hx ▸ henters⟩
    · exact ⟨r.child n, m', [], .link hr hn hlink henters hlocate, (Path.below_nil _).symm,
        (List.append_nil m').symm, by simp⟩

/-- The folders below a folder that is visited are visited, if all can be looked up. -/
theorem Visits.down (hsearch : Searchable f d room q) (h : Visits f d q r m k)
    (hway : d.at? (m ++ way) = some .folder) (hall : ∀ n ∈ way, f.enters n = true) :
    Visits f d q (r.below way) (m ++ way) k := by
  induction way generalizing r m with
  | nil =>
    rw [Path.below_nil, List.append_nil]
    exact h
  | cons n way ih =>
    obtain ⟨hn, hall⟩ := List.forall_mem_cons.1 hall
    have hmore : m ++ n :: way = (m ++ [n]) ++ way := by simp
    rw [hmore] at hway ⊢
    have hfolder : d.at? (m ++ [n]) = some .folder :=
      hd.tree.folder_above hway (List.prefix_append _ _)
    obtain ⟨_, -, ho⟩ := h.exists_opens hd hread hplain
    have hname : n ∈ d.namesAt r.text :=
      (h.mem_namesAt_iff hd hread hplain).2 (by rw [hfolder]; exact Option.some_ne_none _)
    have hanswers := (hsearch r (h.enters hd hread hplain)).answers n hname
    have hlocate := ho.locate_child_of_answers hd hfolder rfl hanswers
    rw [Path.below_cons]
    exact ih (.next h hfolder hn hlocate) hway hall

/-- Two paths that a search goes on from lead to the same folders only if they are one path. -/
theorem Apart.below_eq (h : Apart f d q) {m₀ m₁ way' : Location} (hp : Lands f d q p m₀)
    (hp' : Lands f d q p' m₁) (habove : m₀ <+: m₁) (hm : m₀ ++ way = m₁ ++ way')
    (hway : ∀ n ∈ way, f.enters n = true) : p.below way = p'.below way' := by
  obtain ⟨more, rfl⟩ := habove
  rw [List.append_assoc, List.append_cancel_left_eq] at hm
  obtain rfl := h p p' m₀ more hp hp' fun n hn => hway n (hm ▸ List.mem_append_left way' hn)
  obtain ⟨_, hvisits⟩ := hp.exists_visits
  obtain ⟨_, hvisits'⟩ := hp'.exists_visits
  have hsame := hvisits.location_eq hd hread hplain hvisits'
  obtain rfl := List.self_eq_append_right.1 hsame
  rw [hm, List.nil_append]

/-- A path that the search goes on from is not also reached from folder to folder. -/
theorem Lands.eq_of_below (hsearch : Searchable f d room q) (h : Lands f d q p m)
    (h' : Lands f d q p' (m ++ way)) (hway : ∀ n ∈ way, f.enters n = true)
    (hp : p' = p.below way) : p = p' := by
  obtain ⟨k, hvisits⟩ := h.exists_visits
  obtain ⟨_, hvisits'⟩ := h'.exists_visits
  obtain ⟨_, -, ho'⟩ := hvisits'.exists_opens hd hread hplain
  rcases way.eq_nil_or_concat with rfl | ⟨front, n, rfl⟩
  · rw [hp, Path.below_nil]
  · -- The last name would be that of a folder, and that of a link.
    rw [List.concat_eq_append] at *
    rw [Path.below_concat] at hp
    have hfolder := ho'.folder
    rw [← List.append_assoc] at hfolder
    have hfront := hvisits.down hd hread hplain hsearch
      (hd.tree.folder_above hfolder (List.prefix_append _ _))
      fun x hx => hway x (List.mem_append_left _ hx)
    cases h' with
    | start =>
      have hlength := hfront.length_le
      rw [congrArg Path.names hp, Path.child, List.length_append, List.length_singleton] at hlength
      omega
    | link hr hn hlink =>
      obtain ⟨rfl, rfl⟩ := Path.child_inj hp
      obtain rfl := hfront.location_eq hd hread hplain hr
      obtain rfl := Option.some.inj (hn.symm.trans hfolder)
      exact Bool.noConfusion hlink

/-- **Folders are visited once exactly if links lead apart.** -/
theorem once_iff_apart (hsearch : Searchable f d room q) : Once f d q ↔ Apart f d q := by
  constructor
  · intro honce p p' m way hp hp' hway
    obtain ⟨k, hvisits⟩ := hp.exists_visits
    obtain ⟨k', hvisits'⟩ := hp'.exists_visits
    obtain ⟨_, -, ho'⟩ := hvisits'.exists_opens hd hread hplain
    have hdown := hvisits.down hd hread hplain hsearch ho'.folder hway
    exact hp.eq_of_below hd hread hplain hsearch hp' hway (honce _ _ _ _ _ hvisits' hdown)
  · intro hapart r r' m k k' hr hr'
    obtain ⟨p, m₀, way, hp, rfl, rfl, hway⟩ := hr.exists_lands hd hread hplain
    obtain ⟨p', m₁, way', hp', rfl, hm, hway'⟩ := hr'.exists_lands hd hread hplain
    rcases List.prefix_or_prefix_of_prefix (List.prefix_append m₀ way)
      (hm ▸ List.prefix_append m₁ way') with habove | habove
    · exact hapart.below_eq hd hread hplain hp hp' habove hm hway
    · exact (hapart.below_eq hd hread hplain hp' hp habove hm.symm hway').symm

variable (hq : d.locate true q.text = .ok ⟨l, some .folder⟩) (hfolder : d.at? l = some .folder)
include hq hfolder

/-- A search gets through exactly if no folder that is visited refuses it. -/
theorem searchable_iff_visits : Searchable f d room q ↔ ∀ r m k failure, Visits f d q r m k →
    ¬ Refuses d (q.names.length + room) r failure := by
  constructor
  · intro h r m k failure hr hrefuses
    exact hrefuses.not_passes (h r (hr.enters hd hread hplain))
  · intro h r hr
    refine Decidable.byContradiction fun hno => ?_
    obtain ⟨failure, hrefuses⟩ := exists_refuses hno
    obtain ⟨m, k, hvisits⟩ := Visits.exists_of_enters hd hread hplain (.start hq hfolder) hr
    exact h r m k failure hvisits hrefuses

/-- What is found are the source files in the folders that are visited. -/
theorem finds_iff_listed : Finds f d q p ↔ Listed f d q p := by
  constructor
  · rintro ⟨r, n, hr, hn, hfile, hsource, rfl⟩
    obtain ⟨m, k, hvisits⟩ := Visits.exists_of_enters hd hread hplain (.start hq hfolder) hr
    have hstands := (hvisits.mem_namesAt_iff hd hread hplain).1 hn
    exact ⟨r, m, k, n, hvisits, hstands, hfile, hsource, rfl⟩
  · rintro ⟨r, m, k, n, hvisits, hn, hfile, hsource, rfl⟩
    exact ⟨r, n, hvisits.enters hd hread hplain, (hvisits.mem_namesAt_iff hd hread hplain).2 hn,
      hfile, hsource, rfl⟩

end

/-! ### Tours of a given disk -/

/-- The folders that are entered from a folder, with the paths that they are entered under. -/
def entered (f : Finder) (d : Disk) (x : Path × Location) : List (Path × Location) :=
  (d.namesIn x.2).filterMap fun n =>
    match d.locate true (x.1.child n).text with
    | .ok ⟨m, some .folder⟩ => if f.enters n then some (x.1.child n, m) else none
    | _ => none

/-- What holds the start and all that is entered from what it holds holds all visits. -/
theorem Visits.mem_of_closed (xs : List (Path × Location)) (hstart : (q, l) ∈ xs)
    (hq : d.locate true q.text = .ok ⟨l, some .folder⟩)
    (hnext : ∀ x ∈ xs, ∀ y ∈ entered f d x, y ∈ xs) (h : Visits f d q r m k) : (r, m) ∈ xs := by
  induction h with
  | start hl _ =>
    obtain ⟨rfl, -⟩ := Spot.mk.inj (Except.ok.inj (hq.symm.trans hl))
    exact hstart
  | @next r m m' n e k _ hn henters hlocate ih =>
    refine hnext (r, m) ih _ (List.mem_filterMap.2 ⟨n, mem_namesIn.2 ?_, ?_⟩)
    · rw [hn]
      exact Option.some_ne_none e
    · simp [hlocate, henters]

/-- Whether a folder refuses the search is seen from what holds all visits. -/
theorem not_refuses_of_visits (deepest : Nat) {xs : List (Path × Location)}
    (hall : ∀ {r m k}, Visits f d q r m k → (r, m) ∈ xs) (h : ∀ x ∈ xs, Passes d deepest x.1) :
    ∀ r m k failure, Visits f d q r m k → ¬ Refuses d deepest r failure :=
  fun r m _ _ hr hrefuses => hrefuses.not_passes (h (r, m) (hall hr))

/-! ### What is listed -/

/-- What a search finds below a folder, and how often. -/
structure Tour (f : Finder) (d : Disk) (q : Path) (found : Found) : Prop where
  /-- The files are the source files in the folders that are visited. -/
  files : ∀ p, p ∈ found.files ↔ Listed f d q p
  /-- No path is listed twice. -/
  nodup : found.files.Nodup
  /-- Folders are visited once exactly if links lead apart. -/
  once : Once f d q ↔ Apart f d q
  /-- Then no entry is listed under two paths. -/
  entries : Apart f d q → (found.files.map d.entryOf).Nodup
  /-- And no more files are listed than there are files and links. -/
  count : Apart f d q →
    found.files.length ≤ d.entries.countP fun x => x.2.isFile || x.2.isLink

section

variable (hd : d.IsSound) (hread : q.IsRead) (hplain : ∀ n ∈ q.names, '\x00' ∉ n)
include hd hread hplain

theorem tour_walked (hq : d.locate true q.text = .ok ⟨l, some .folder⟩)
    (hfolder : d.at? l = some .folder) (hsearch : Searchable f d room q) :
    Tour f d q ⟨walked f d room q, [], 1⟩ := by
  have hfiles (p : Path) : p ∈ walked f d room q ↔ Listed f d q p := by
    rw [mem_walked hsearch, finds_iff_listed hd hread hplain hq hfolder]
  have hordered : (walked f d room q).Pairwise fun p r => p.names < r.names :=
    pairwise_walked hd.distinct room q
  have hnodup : (walked f d room q).Nodup := by
    refine hordered.imp fun hlt he => ?_
    exact List.lt_irrefl _ (he ▸ hlt)
  have honce := once_iff_apart (f := f) hd hread hplain hsearch
  have hentries (hapart : Apart f d q) : ((walked f d room q).map d.entryOf).Nodup := by
    refine hnodup.map_on fun p hp p' hp' he => ?_
    obtain ⟨r, m, k, n, hr, -, -, -, rfl⟩ := (hfiles p).1 hp
    obtain ⟨r', m', k', n', hr', -, -, -, rfl⟩ := (hfiles p').1 hp'
    obtain ⟨_, -, ho⟩ := hr.exists_opens hd hread hplain
    obtain ⟨_, -, ho'⟩ := hr'.exists_opens hd hread hplain
    rw [ho.entryOf_child, ho'.entryOf_child] at he
    obtain ⟨rfl, hn⟩ := List.append_inj' he rfl
    rw [(List.cons.inj hn).1, honce.2 hapart r r' m k k' hr hr']
  refine ⟨hfiles, hnodup, honce, hentries, fun hapart => ?_⟩
  have hsubset : (walked f d room q).map d.entryOf ⊆
      (d.entries.filter fun x => x.2.isFile || x.2.isLink).map (·.1) := by
    intro k hk
    obtain ⟨p, hp, rfl⟩ := List.mem_map.1 hk
    obtain ⟨r, m, _, n, hr, hn, hfile, -, rfl⟩ := (hfiles p).1 hp
    obtain ⟨_, -, ho⟩ := hr.exists_opens hd hread hplain
    obtain ⟨e, he⟩ := Option.ne_none_iff_exists'.1 hn
    rw [ho.entryOf_child]
    exact List.mem_map.2 ⟨(m ++ [n], e), List.mem_filter.2
      ⟨mem_of_at? he (by simp), ho.isFile_or_isLink hd he hfile⟩, rfl⟩
  have hlength := ((hentries hapart).subperm hsubset).length_le
  rwa [List.length_map, List.length_map, ← List.countP_eq_length_filter] at hlength

end

/-- **A search visits a folder once for each path to it.**  No path has more links to folders on
it than one lookup may follow, and all are short, so that the search ends whatever the links lead
to.  It is refused exactly if a folder that it visits may not be listed, holds a name that cannot
be looked up, or lies too deep, and then for one of these reasons.  Otherwise it lists the source
files of the folders that it visits, no path twice.  No folder is visited under two paths exactly
if no link leads to a folder that is visited anyway.  Then no file is listed under two paths, and
no more files are listed than there are files and links on the disk. -/
theorem find_tour [Stack] (f : Finder) {d : Disk} {s : Text} {l : Location} (hd : d.IsSound)
    (hs : '\x00' ∉ s) (hfolder : d.locate true (Path.ofText s).text = .ok ⟨l, some .folder⟩)
    (hthere : d.at? l = some .folder) :
    let q := Path.ofText s
    let deepest := q.names.length + Stack.folders
    (∀ r m k, Visits f d q r m k → k ≤ linkLimit ∧ (Utf8.encode r.text).length < pathLimit) ∧
      ((∃ r m k failure, Visits f d q r m k ∧ Refuses d deepest r failure) →
        ∃ r m k failure, Visits f d q r m k ∧ Refuses d deepest r failure ∧
          f.find d [s] = .error failure) ∧
      ((∀ r m k failure, Visits f d q r m k → ¬ Refuses d deepest r failure) →
        ∃ found, f.find d [s] = .ok found ∧ Tour f d q found) := by
  have hread := Path.isRead_ofText s
  have hplain : ∀ n ∈ (Path.ofText s).names, '\x00' ∉ n := fun n hn hnul =>
    hs (Text.mem_of_mem_pieces (List.mem_filter.1 hn).1 hnul)
  obtain ⟨_, -, hopens⟩ := exists_opens hread hplain hfolder hthere
  refine ⟨fun r m k hr => ?_, fun ⟨r, m, k, failure, hr, hrefuses⟩ => ?_, fun hclear => ?_⟩
  · obtain ⟨i, hi, ho⟩ := hr.exists_opens hd hread hplain
    exact ⟨Nat.le_of_add_left_le hi, length_lt_of_locate ho.located⟩
  · obtain ⟨r', failure', hr', hrefuses', hfind⟩ := exists_refuses_of_find (f := f) hopens.leads
      fun hsearch => hrefuses.not_passes (hsearch r (hr.enters hd hread hplain))
    obtain ⟨m', k', hvisits⟩ := Visits.exists_of_enters hd hread hplain (.start hfolder hthere) hr'
    exact ⟨r', m', k', failure', hvisits, hrefuses', hfind⟩
  · have hsearch := (searchable_iff_visits hd hread hplain hfolder hthere).2 hclear
    exact ⟨_, find_eq_ok_of_searchable hopens.leads hsearch,
      tour_walked hd hread hplain hfolder hthere hsearch⟩

/-- A folder with a file and a link to a folder beside it. -/
def sided : Disk where
  entries := [(["src".toList], .folder),
    (["src".toList, "a.ts".toList], .file [] 0o644),
    (["src".toList, "lib".toList], .link "../lib".toList),
    (["lib".toList], .folder),
    (["lib".toList, "b.ts".toList], .file [] 0o644)]
  cwd := []

theorem find_tour_sided :
    sided.IsSound ∧ '\x00' ∉ "src".toList ∧
      sided.locate true (Path.ofText "src".toList).text = .ok ⟨["src".toList], some .folder⟩ ∧
      sided.at? ["src".toList] = some .folder ∧
      ∃ found, default.find sided ["src".toList] = .ok found ∧
        Tour default sided (Path.ofText "src".toList) found ∧
        Path.ofText "src/lib/b.ts".toList ∈ found.files := by
  have hd : sided.IsSound := by decide +kernel
  have hs : '\x00' ∉ "src".toList := by decide
  have hfolder : sided.locate true (Path.ofText "src".toList).text =
      .ok ⟨["src".toList], some .folder⟩ := by decide +kernel
  have hthere : sided.at? ["src".toList] = some .folder := by decide +kernel
  have hclear := not_refuses_of_visits (1 + Stack.folders) (Visits.mem_of_closed (f := default)
    [(Path.ofText "src".toList, ["src".toList]), (Path.ofText "src/lib".toList, ["lib".toList])]
    (by decide) hfolder (by decide +kernel)) (by decide +kernel)
  obtain ⟨found, hfound, htour⟩ := (find_tour default hd hs hfolder hthere).2.2 hclear
  refine ⟨hd, hs, hfolder, hthere, found, hfound, htour, (htour.files _).2 ?_⟩
  have hbeside : Visits default sided (Path.ofText "src".toList)
      ((Path.ofText "src".toList).child "lib".toList) ["lib".toList] 1 :=
    .next (e := .link "../lib".toList) (.start hfolder hthere) (by decide +kernel) (by decide +kernel)
      (by decide +kernel)
  exact ⟨_, _, _, "b.ts".toList, hbeside, by decide +kernel, by decide +kernel, by decide +kernel,
    by decide⟩

/-- A folder with a file and a link that leads round to the folder itself. -/
def looped : Disk where
  entries := [(["src".toList], .folder),
    (["src".toList, "a.ts".toList], .file [] 0o644),
    (["src".toList, "loop".toList], .link ".".toList)]
  cwd := []

/-- The folder is visited again under the path of the link, its one file is listed under two
paths, and more files are listed than there are files and links. -/
theorem find_looped :
    looped.IsSound ∧
      looped.locate true (Path.ofText "src".toList).text = .ok ⟨["src".toList], some .folder⟩ ∧
      ¬ Once default looped (Path.ofText "src".toList) ∧
      ∃ found, default.find looped ["src".toList] = .ok found ∧
        (∃ p ∈ found.files, ∃ p' ∈ found.files, p ≠ p' ∧ looped.entryOf p = looped.entryOf p') ∧
        looped.entries.countP (fun x => x.2.isFile || x.2.isLink) < found.files.length := by
  have hd : looped.IsSound := by decide +kernel
  have hread := Path.isRead_ofText "src".toList
  have hplain : ∀ n ∈ (Path.ofText "src".toList).names, '\x00' ∉ n := by decide
  have hfolder : looped.locate true (Path.ofText "src".toList).text =
      .ok ⟨["src".toList], some .folder⟩ := by decide +kernel
  have hthere : looped.at? ["src".toList] = some .folder := by decide +kernel
  have hleads : looped.leads Entry.isFolder (Path.ofText "src".toList).text = true := by
    decide +kernel
  -- Each round takes one of the links that a lookup may follow.
  have hclear := not_refuses_of_visits (1 + Stack.folders) (Visits.mem_of_closed (f := default)
    ((List.range (linkLimit + 1)).map fun k =>
      ((Path.ofText "src".toList).below (List.replicate k "loop".toList), ["src".toList]))
    (by decide +kernel) hfolder (by decide +kernel)) (by decide +kernel)
  have hsearch := (searchable_iff_visits hd hread hplain hfolder hthere).2 hclear
  have htour := tour_walked hd hread hplain hfolder hthere hsearch
  have h₀ : Visits default looped (Path.ofText "src".toList) _ _ _ := .start hfolder hthere
  have hround {r : Path} {k : Nat} (hr : Visits default looped (Path.ofText "src".toList) r
      ["src".toList] k) (hlocate : looped.locate true (r.child "loop".toList).text =
        .ok ⟨["src".toList], some .folder⟩) : Visits default looped (Path.ofText "src".toList)
      (r.child "loop".toList) ["src".toList] (k + 1) :=
    hr.next (e := .link ".".toList) (by decide +kernel) (by decide +kernel) hlocate
  have h₁ := hround h₀ (by decide +kernel)
  have h₂ := hround h₁ (by decide +kernel)
  have hfile {r : Path} {k : Nat} (hr : Visits default looped (Path.ofText "src".toList) r
      ["src".toList] k) (hleads : looped.leads Entry.isFile (r.child "a.ts".toList).text = true)
      (hsource : isSource default (r.child "a.ts".toList) = true) :
      r.child "a.ts".toList ∈ walked default looped Stack.folders (Path.ofText "src".toList) :=
    (htour.files _).2 ⟨r, _, k, _, hr, by decide +kernel, hleads, hsource, rfl⟩
  have hf₀ := hfile h₀ (by decide +kernel) (by decide +kernel)
  have hf₁ := hfile h₁ (by decide +kernel) (by decide +kernel)
  have hf₂ := hfile h₂ (by decide +kernel) (by decide +kernel)
  refine ⟨hd, hfolder, fun honce => ?_, _, find_eq_ok_of_searchable hleads hsearch,
    ⟨_, hf₀, _, hf₁, by decide, by decide +kernel⟩, ?_⟩
  · exact absurd (honce _ _ _ _ _ h₀ h₁) (by decide)
  · have hsubset := List.cons_subset.2
      ⟨hf₀, List.cons_subset.2 ⟨hf₁, List.cons_subset.2 ⟨hf₂, List.nil_subset _⟩⟩⟩
    have hlength := (List.Nodup.subperm (by decide) hsubset).length_le
    exact Nat.lt_of_lt_of_le (by decide) hlength

end Finder
end DocExamples
