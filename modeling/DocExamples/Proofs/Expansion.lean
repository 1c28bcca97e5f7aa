/-
# What a search through folders finds

A search enters the folder that it is asked about, and from each folder that it has entered
the folders in it that are neither hidden nor ignored.  It finds the source files in the
folders that it has entered: all of them and nothing else, in the order of their names.

| a folder that is entered | the search |
| --- | --- |
| may not be listed | is refused |
| holds a name of which the disk does not say what stands there, or that nothing does | is refused |
| holds something, and lies deeper than there is room for | is refused |
| any other | goes on |
-/

import DocExamples.Finder
import DocExamples.Proofs.Searching

namespace DocExamples

namespace Path

/-- The path of what has a name in the folder at a path. -/
def child (p : Path) (name : Text) : Path := { p with names := p.names ++ [name] }

theorem length_names_child (p : Path) (name : Text) :
    (p.child name).names.length = p.names.length + 1 := List.length_append

end Path

/-! ### Questions to a disk -/

namespace Disk

/-- Whether a path leads to an entry of some kind, as far as it can be looked up. -/
def leads (d : Disk) (kind : Entry → Bool) (path : Text) : Bool :=
  !path.contains '\x00' &&
    match d.stat path with
    | .ok e => kind e
    | .error _ => false

/-- A path can be looked up, or else it only denotes nothing. -/
def Answers (d : Disk) (path : Text) : Prop :=
  '\x00' ∉ path → ∀ f, d.stat path = .error f → f.isAbsence = true

theorem answers_iff {d : Disk} {path : Text} :
    d.Answers path ↔ '\x00' ∈ path ∨
      (match d.stat path with
        | .ok _ => true
        | .error f => f.isAbsence) = true := by
  unfold Answers
  cases d.stat path with
  | ok e => simp
  | error f => simp [Decidable.or_iff_not_imp_left]

instance {d : Disk} {path : Text} : Decidable (d.Answers path) := decidable_of_iff' _ answers_iff

/-- The names in the folder at a path. -/
def namesAt (d : Disk) (path : Text) : List Text :=
  match d.locate true path with
  | .ok spot => d.namesIn spot.location
  | .error _ => []

/-- The folder at a path may be listed. -/
def Lists (d : Disk) (path : Text) : Prop :=
  match d.locate true path with
  | .ok spot => d.rights.read spot.location = true
  | .error _ => True

instance {d : Disk} {path : Text} : Decidable (d.Lists path) := by
  unfold Lists
  split <;> infer_instance

/-- At every location of a disk there is one entry at most. -/
def Distinct (d : Disk) : Prop := (d.entries.map (·.1)).Nodup

variable {d : Disk} {kind : Entry → Bool} {path : Text}

theorem leads_iff :
    d.leads kind path = true ↔ '\x00' ∉ path ∧ ∃ e, d.stat path = .ok e ∧ kind e = true := by
  cases h : d.stat path <;> simp [leads, h]

theorem leadsTo_eq (h : d.Answers path) (kind : Entry → Bool) :
    d.leadsTo kind path = .ok (d.leads kind path) := by
  by_cases hnul : '\x00' ∈ path
  · simp [leadsTo, leads, hnul]
  · cases hstat : d.stat path with
    | error f => simp [leadsTo, leads, hnul, hstat, h hnul f hstat]
    | ok e => simp [leadsTo, leads, hnul, hstat]

/-- A disk says whether a path leads to something exactly if the path can be looked up. -/
theorem leadsTo_eq_ok_iff {b : Bool} :
    d.leadsTo kind path = .ok b ↔ d.Answers path ∧ d.leads kind path = b := by
  refine ⟨fun h => ?_, fun ⟨hanswers, hleads⟩ => hleads ▸ leadsTo_eq hanswers kind⟩
  have hanswers : d.Answers path := by
    intro hnul f hf
    simp only [leadsTo, List.contains_iff_mem, hnul, if_false, hf] at h
    split at h
    · assumption
    · exact nomatch h
  exact ⟨hanswers, Except.ok.inj ((leadsTo_eq hanswers kind).symm.trans h)⟩

theorem not_answers_iff : ¬ d.Answers path ↔
    '\x00' ∉ path ∧ ∃ fault, d.stat path = .error fault ∧ fault.isAbsence = false := by
  unfold Answers
  cases d.stat path <;> simp

/-- A path that leads to something can be looked up. -/
theorem answers_of_leads (h : d.leads kind path = true) : d.Answers path := by
  obtain ⟨-, e, hstat, -⟩ := leads_iff.1 h
  exact fun _ _ hfault => nomatch hstat.symm.trans hfault

/-- No path leads to a folder and to a file. -/
theorem leads_isFile_of_isFolder (h : d.leads Entry.isFolder path = true) :
    d.leads Entry.isFile path = false := by
  obtain ⟨hnul, e, hstat, hfolder⟩ := leads_iff.1 h
  cases e with
  | folder => simp [leads, hstat, Entry.isFile]
  | _ => exact absurd hfolder Bool.false_ne_true

/-- A path that leads to something is located. -/
theorem located_of_leads (h : d.leads kind path = true) : ∃ spot, d.locate true path = .ok spot := by
  obtain ⟨-, e, hstat, -⟩ := leads_iff.1 h
  cases hlocate : d.locate true path with
  | error f =>
    rw [stat, hlocate] at hstat
    exact nomatch hstat
  | ok spot => exact ⟨spot, rfl⟩

/-- What has a name in a folder stands at the location of the folder, one name further. -/
theorem eq_concat_of_name {l k : Location} {name : Text}
    (h : (if l.dropLast == k then l.getLast? else none) = some name) : l = k ++ [name] := by
  split at h
  · next hl =>
    obtain ⟨front, rfl⟩ := List.getLast?_eq_some_iff.1 h
    rw [← beq_iff_eq.1 hl, List.dropLast_concat]
  · exact nomatch h

/-- A folder holds a name only once. -/
theorem nodup_namesIn (hd : d.Distinct) (k : Location) : (d.namesIn k).Nodup := by
  have hnames : d.namesIn k = (d.entries.map (·.1)).filterMap fun l =>
      if l.dropLast == k then l.getLast? else none := by
    rw [List.filterMap_map]
    rfl
  rw [hnames]
  refine List.Pairwise.filterMap _ (fun l m hlm name hname last hlast he => hlm ?_) hd
  rw [eq_concat_of_name hname, eq_concat_of_name hlast, he]

theorem nodup_namesAt (hd : d.Distinct) (path : Text) : (d.namesAt path).Nodup := by
  unfold namesAt
  split
  · exact nodup_namesIn hd _
  · exact List.nodup_nil

end Disk

/-! ### Questions one after another -/

section

variable {ε α β : Type}

theorem bind_eq_ok {x : Except ε α} {g : α → Except ε β} {b : β} :
    x >>= g = .ok b ↔ ∃ a, x = .ok a ∧ g a = .ok b := by
  cases x with
  | error e => exact ⟨nofun, fun ⟨_, h, _⟩ => nomatch h⟩
  | ok a => exact ⟨fun h => ⟨a, rfl, h⟩, fun ⟨_, h, hb⟩ => Except.ok.inj h ▸ hb⟩

theorem mapM_eq_ok {g : α → Except ε β} {h : α → β} {as : List α}
    (hok : ∀ a ∈ as, g a = .ok (h a)) : as.mapM g = .ok (as.map h) := by
  induction as with
  | nil => rfl
  | cons a as ih =>
    rw [List.mapM_cons, hok a List.mem_cons_self,
      ih fun b hb => hok b (List.mem_cons_of_mem _ hb)]
    rfl

theorem error_of_map {g : α → β} {x : Except ε α} {e : ε} (h : g <$> x = .error e) :
    x = .error e := by
  cases x with
  | error e' => exact congrArg _ (Except.error.inj h)
  | ok a => exact nomatch h

theorem exists_of_mapM_eq_error {g : α → Except ε β} {as : List α} {e : ε}
    (h : as.mapM g = .error e) : ∃ a ∈ as, g a = .error e := by
  induction as with
  | nil => exact nomatch h
  | cons a as ih =>
    rw [List.mapM_cons] at h
    cases ha : g a with
    | error e' =>
      rw [ha] at h
      exact ⟨a, List.mem_cons_self, ha.trans (congrArg _ (Except.error.inj h))⟩
    | ok b =>
      cases has : as.mapM g with
      | error e' =>
        rw [ha, has] at h
        obtain ⟨c, hc, hgc⟩ := ih (has.trans (congrArg _ (Except.error.inj h)))
        exact ⟨c, List.mem_cons_of_mem _ hc, hgc⟩
      | ok bs =>
        rw [ha, has] at h
        exact nomatch h

theorem exists_of_mapM_eq_ok {g : α → Except ε β} {as : List α} {bs : List β}
    (h : as.mapM g = .ok bs) {a : α} (ha : a ∈ as) : ∃ b, g a = .ok b := by
  induction as generalizing bs with
  | nil => exact absurd ha List.not_mem_nil
  | cons c as ih =>
    rw [List.mapM_cons] at h
    obtain ⟨b, hc, h⟩ := bind_eq_ok.1 h
    obtain ⟨bs', has, -⟩ := bind_eq_ok.1 h
    rcases List.mem_cons.1 ha with rfl | ha
    · exact ⟨b, hc⟩
    · exact ih has ha

end

/-! ### The search -/

namespace Finder

/-- The folders that a search enters which was asked about a folder. -/
inductive Enters (f : Finder) (d : Disk) : Path → Path → Prop
  /-- The folder itself. -/
  | here (q : Path) : Enters f d q q
  /-- What is entered from a folder in it. -/
  | there {q r : Path} {name : Text} : name ∈ d.namesAt q.text →
      d.leads Entry.isFolder (q.child name).text = true → f.enters name = true →
      Enters f d (q.child name) r → Enters f d q r

/-- A source file in a folder that a search enters. -/
def Finds (f : Finder) (d : Disk) (q p : Path) : Prop :=
  ∃ r name, Enters f d q r ∧ name ∈ d.namesAt r.text ∧
    d.leads Entry.isFile (r.child name).text = true ∧ f.isSource (r.child name) = true ∧
    p = r.child name

/-- A search gets through a folder that has so many names on the way to it at most, if it holds
something. -/
structure Passes (d : Disk) (deepest : Nat) (r : Path) : Prop where
  /-- The folder may be listed. -/
  lists : d.Lists r.text
  /-- Every name in it can be looked up. -/
  answers : ∀ name ∈ d.namesAt r.text, d.Answers (r.child name).text
  /-- It holds nothing, or lies no deeper than there is room for. -/
  room : d.namesAt r.text = [] ∨ r.names.length < deepest

instance {d : Disk} {deepest : Nat} {r : Path} : Decidable (Passes d deepest r) :=
  decidable_of_iff (d.Lists r.text ∧ (∀ name ∈ d.namesAt r.text, d.Answers (r.child name).text) ∧
      (d.namesAt r.text = [] ∨ r.names.length < deepest))
    ⟨fun ⟨hlists, hanswers, hroom⟩ => ⟨hlists, hanswers, hroom⟩,
      fun h => ⟨h.lists, h.answers, h.room⟩⟩

/-- Why a search is refused at a folder. -/
inductive Refuses (d : Disk) (deepest : Nat) (r : Path) : Failure → Prop
  /-- The folder may not be listed. -/
  | locked : ¬ d.Lists r.text → Refuses d deepest r (.disk .denied r.text)
  /-- A name in it cannot be looked up. -/
  | unanswered {name : Text} {fault : Fault} : name ∈ d.namesAt r.text →
      '\x00' ∉ (r.child name).text → d.stat (r.child name).text = .error fault →
      fault.isAbsence = false → Refuses d deepest r (.disk fault (r.child name).text)
  /-- It holds something, and lies too deep. -/
  | deep : d.namesAt r.text ≠ [] → deepest ≤ r.names.length →
      Refuses d deepest r (.tooDeep "calling a Python object".toList)

theorem Refuses.not_passes {d : Disk} {deepest : Nat} {r : Path} {failure : Failure}
    (h : Refuses d deepest r failure) : ¬ Passes d deepest r := by
  intro hpasses
  cases h with
  | locked hlists => exact hlists hpasses.lists
  | unanswered hname hnul hstat habsence =>
    exact absurd (hpasses.answers _ hname hnul _ hstat) (by simp [habsence])
  | deep hsome hdeep => exact hpasses.room.elim hsome (Nat.not_lt.2 hdeep)

/-- A folder that a search does not get through refuses it. -/
theorem exists_refuses {d : Disk} {deepest : Nat} {r : Path} (h : ¬ Passes d deepest r) :
    ∃ failure, Refuses d deepest r failure := by
  by_cases hlists : d.Lists r.text
  · by_cases hanswers : ∀ name ∈ d.namesAt r.text, d.Answers (r.child name).text
    · have hroom : ¬ (d.namesAt r.text = [] ∨ r.names.length < deepest) :=
        fun hroom => h ⟨hlists, hanswers, hroom⟩
      obtain ⟨hsome, hdeep⟩ := not_or.1 hroom
      exact ⟨_, .deep hsome (Nat.not_lt.1 hdeep)⟩
    · obtain ⟨name, hno⟩ := Classical.not_forall.1 hanswers
      obtain ⟨hname, hno⟩ := Classical.not_imp.1 hno
      obtain ⟨hnul, fault, hstat, habsence⟩ := Disk.not_answers_iff.1 hno
      exact ⟨_, .unanswered hname hnul hstat habsence⟩
  · exact ⟨_, .locked hlists⟩

/-- A search with room for so many folders within folders gets through all that it enters. -/
def Searchable (f : Finder) (d : Disk) (room : Nat) (q : Path) : Prop :=
  ∀ r, Enters f d q r → Passes d (q.names.length + room) r

/-- Below a folder that holds no other, only the folder itself has to be passed. -/
theorem searchable_of_flat {f : Finder} {d : Disk} {room : Nat} {q : Path}
    (hq : Passes d (q.names.length + room) q)
    (h : ∀ name ∈ d.namesAt q.text, d.leads Entry.isFolder (q.child name).text = false) :
    Searchable f d room q := by
  rintro r (_ | ⟨hname, hfolder, -, -⟩)
  · exact hq
  · exact absurd ((h _ hname).symm.trans hfolder) Bool.false_ne_true

/-- The source files at the path of a name: what is below it if it is a folder to enter, and
the file itself if it is a source file. -/
def part (f : Finder) (d : Disk) (below : Path → List Path) (name : Text) (p : Path) : List Path :=
  if d.leads Entry.isFolder p.text then
    if f.enters name then below p else []
  else if d.leads Entry.isFile p.text then
    if f.isSource p then [p] else []
  else []

/-- The source files below the folder at a path, so many folders deep at most, as far as
names can be looked up. -/
def walked (f : Finder) (d : Disk) : (room : Nat) → Path → List Path
  | 0, _ => []
  | room + 1, q =>
    (sorted (d.namesAt q.text)).flatMap fun name => part f d (walked f d room) name (q.child name)

theorem mem_sorted {name : Text} {names : List Text} : name ∈ sorted names ↔ name ∈ names :=
  List.mem_mergeSort

variable {f : Finder} {d : Disk} {q : Path} {room : Nat}

/-- A folder in the folder may be searched with room for one folder less. -/
theorem Searchable.child (h : Searchable f d (room + 1) q) {name : Text}
    (hname : name ∈ d.namesAt q.text)
    (hfolder : d.leads Entry.isFolder (q.child name).text = true) (henters : f.enters name = true) :
    Searchable f d room (q.child name) := by
  intro r hr
  have hpasses := h r (.there hname hfolder henters hr)
  rwa [Path.length_names_child, Nat.add_right_comm]

/-- Where a folder holds a name, there is room. -/
theorem Searchable.exists_eq_succ (h : Searchable f d room q) {name : Text}
    (hname : name ∈ d.namesAt q.text) : ∃ less, room = less + 1 := by
  have hroom := (h q (.here q)).room.resolve_left (List.ne_nil_of_mem hname)
  exact Nat.exists_eq_add_one.2 (by omega)

/-- Without room, nothing may be held by the folder. -/
theorem Searchable.namesAt_eq_nil (h : Searchable f d 0 q) : d.namesAt q.text = [] :=
  (h q (.here q)).room.resolve_right (Nat.lt_irrefl _)

theorem mem_part {below : Path → List Path} {name : Text} {p r : Path} :
    r ∈ part f d below name p ↔
      (d.leads Entry.isFolder p.text = true ∧ f.enters name = true ∧ r ∈ below p) ∨
        (d.leads Entry.isFile p.text = true ∧ f.isSource p = true ∧ r = p) := by
  unfold part
  by_cases hfolder : d.leads Entry.isFolder p.text = true
  · have hfile := Disk.leads_isFile_of_isFolder hfolder
    by_cases henters : f.enters name = true <;> simp [hfolder, hfile, henters]
  · by_cases hfile : d.leads Entry.isFile p.text = true
    · by_cases hsource : f.isSource p = true <;> simp [hfolder, hfile, hsource]
    · simp [hfolder, hfile]

/-- Whatever is found is a file. -/
theorem leads_isFile_of_mem_walked {p : Path} (hp : p ∈ walked f d room q) :
    d.leads Entry.isFile p.text = true := by
  induction room generalizing q with
  | zero => exact absurd hp List.not_mem_nil
  | succ room ih =>
    obtain ⟨name, -, hp⟩ := List.mem_flatMap.1 hp
    rcases mem_part.1 hp with ⟨-, -, hp⟩ | ⟨hfile, -, rfl⟩
    · exact ih hp
    · exact hfile

/-- What a search does at the path of a name. -/
def visit (f : Finder) (d : Disk) (room : Nat) (name : Text) (p : Path) :
    Except Failure (List Path) := do
  if ← d.leadsTo Entry.isFolder p.text then
    if f.enters name then walk f d room p else return []
  else if ← d.leadsTo Entry.isFile p.text then
    return if f.isSource p then [p] else []
  else return []

/-- A folder is listed in order, if it may be. -/
theorem listing_eq (hfolder : d.leads Entry.isFolder q.text = true) : listing d q =
    if d.Lists q.text then .ok (sorted (d.namesAt q.text)) else .error (.disk .denied q.text) := by
  obtain ⟨spot, hspot⟩ := Disk.located_of_leads hfolder
  simp only [listing, Disk.Lists, Disk.namesAt, hspot]

theorem isEmpty_sorted {names : List Text} : (sorted names).isEmpty = names.isEmpty := by
  rw [Bool.eq_iff_iff, List.isEmpty_iff, List.isEmpty_iff, List.eq_nil_iff_forall_not_mem,
    List.eq_nil_iff_forall_not_mem]
  exact forall_congr' fun _ => not_congr mem_sorted

/-- A search without room gives up at a folder that holds something. -/
theorem walk_zero (hfolder : d.leads Entry.isFolder q.text = true) (hlists : d.Lists q.text) :
    walk f d 0 q = if d.namesAt q.text = [] then .ok []
      else .error (.tooDeep "calling a Python object".toList) := by
  rw [walk, listing_eq hfolder, if_pos hlists]
  simp only [bind, Except.bind, isEmpty_sorted, List.isEmpty_iff]
  rfl

/-- A search visits the names in its folder in order. -/
theorem walk_succ (room : Nat) (hfolder : d.leads Entry.isFolder q.text = true)
    (hlists : d.Lists q.text) : walk f d (room + 1) q =
      (·.flatten) <$> (sorted (d.namesAt q.text)).mapM fun name =>
        visit f d room name (q.child name) := by
  rw [walk, listing_eq hfolder, if_pos hlists]
  rfl

theorem walk_locked (room : Nat) (hfolder : d.leads Entry.isFolder q.text = true)
    (hlists : ¬ d.Lists q.text) : walk f d room q = .error (.disk .denied q.text) := by
  cases room <;> rw [walk, listing_eq hfolder, if_neg hlists] <;> rfl

theorem visit_eq_ok {name : Text} {p : Path} (h : d.Answers p.text)
    (hwalk : d.leads Entry.isFolder p.text = true → f.enters name = true →
      walk f d room p = .ok (walked f d room p)) :
    visit f d room name p = .ok (part f d (walked f d room) name p) := by
  unfold visit part
  simp only [Disk.leadsTo_eq h, bind, Except.bind]
  split
  · next hfolder =>
    split
    · next henters => exact hwalk hfolder henters
    · rfl
  · split <;> rfl

/-- A search that gets through all that it enters succeeds. -/
theorem walk_eq_ok (room : Nat) (hfolder : d.leads Entry.isFolder q.text = true)
    (h : Searchable f d room q) : walk f d room q = .ok (walked f d room q) := by
  induction room generalizing q with
  | zero => rw [walk_zero hfolder (h q (.here q)).lists, if_pos h.namesAt_eq_nil, walked]
  | succ room ih =>
    have hq := h q (.here q)
    have hvisit : ∀ name ∈ sorted (d.namesAt q.text), visit f d room name (q.child name) =
        .ok (part f d (walked f d room) name (q.child name)) := by
      intro name hname
      have hmem := mem_sorted.1 hname
      exact visit_eq_ok (hq.answers name hmem) fun hchild henters =>
        ih hchild (h.child hmem hchild henters)
    rw [walk_succ room hfolder hq.lists, mapM_eq_ok hvisit, walked, List.flatMap_def]
    rfl

/-! ### What is found -/

/-- A visit that succeeds could look up its path, and the search below it succeeds. -/
theorem answers_of_visit {name : Text} {p : Path} {files : List Path}
    (h : visit f d room name p = .ok files) : d.Answers p.text ∧
      (d.leads Entry.isFolder p.text = true → f.enters name = true →
        walk f d room p = .ok files) := by
  obtain ⟨b, hleads, hrest⟩ := bind_eq_ok.1 h
  obtain ⟨hanswers, rfl⟩ := Disk.leadsTo_eq_ok_iff.1 hleads
  refine ⟨hanswers, fun hfolder henters => ?_⟩
  simpa [hfolder, henters] using hrest

/-- A visit of a path that can be looked up is refused for the search below it. -/
theorem walk_of_visit_eq_error {name : Text} {p : Path} {failure : Failure}
    (hanswers : d.Answers p.text) (h : visit f d room name p = .error failure) :
    d.leads Entry.isFolder p.text = true ∧ f.enters name = true ∧
      walk f d room p = .error failure := by
  simp only [visit, Disk.leadsTo_eq hanswers, bind, Except.bind] at h
  split at h
  · next hfolder =>
    split at h
    · next henters => exact ⟨hfolder, henters, h⟩
    · exact nomatch h
  · split at h <;> exact nomatch h

/-- A search that succeeds could list its folder, and had room unless there was nothing. -/
theorem lists_of_walk {files : List Path} (hfolder : d.leads Entry.isFolder q.text = true)
    (h : walk f d room q = .ok files) :
    d.Lists q.text ∧ (d.namesAt q.text = [] ∨ 0 < room) := by
  have hlists : d.Lists q.text := Decidable.byContradiction fun hlocked =>
    nomatch h.symm.trans (walk_locked room hfolder hlocked)
  refine ⟨hlists, ?_⟩
  cases room with
  | succ room => exact .inr (Nat.succ_pos room)
  | zero =>
    rw [walk_zero hfolder hlists] at h
    split at h
    · next hnone => exact .inl hnone
    · exact nomatch h

/-- **A search that is refused is refused at a folder that it enters.** -/
theorem exists_refuses_of_walk {failure : Failure}
    (hfolder : d.leads Entry.isFolder q.text = true) (h : walk f d room q = .error failure) :
    ∃ r, Enters f d q r ∧ Refuses d (q.names.length + room) r failure := by
  by_cases hlists : d.Lists q.text
  case neg =>
    obtain rfl := Except.error.inj ((walk_locked room hfolder hlists).symm.trans h)
    exact ⟨q, .here q, .locked hlists⟩
  induction room generalizing q with
  | zero =>
    rw [walk_zero hfolder hlists] at h
    split at h
    · exact nomatch h
    · next hsome =>
      obtain rfl := Except.error.inj h
      exact ⟨q, .here q, .deep hsome (Nat.le_refl _)⟩
  | succ room ih =>
    rw [walk_succ room hfolder hlists] at h
    obtain ⟨name, hname, hvisit⟩ := exists_of_mapM_eq_error (error_of_map h)
    have hmem := mem_sorted.1 hname
    by_cases hanswers : d.Answers (q.child name).text
    · obtain ⟨hchild, henters, hwalk⟩ := walk_of_visit_eq_error hanswers hvisit
      by_cases hopen : d.Lists (q.child name).text
      · obtain ⟨r, hr, hrefuses⟩ := ih hchild hwalk hopen
        rw [Path.length_names_child, Nat.add_right_comm] at hrefuses
        exact ⟨r, .there hmem hchild henters hr, hrefuses⟩
      · obtain rfl := Except.error.inj ((walk_locked room hchild hopen).symm.trans hwalk)
        exact ⟨_, .there hmem hchild henters (.here _), .locked hopen⟩
    · obtain ⟨hnul, fault, hstat, habsence⟩ := Disk.not_answers_iff.1 hanswers
      obtain rfl : Failure.disk fault (q.child name).text = failure := by
        simpa [visit, Disk.leadsTo, hnul, hstat, habsence, bind, Except.bind] using hvisit
      exact ⟨q, .here q, .unanswered hmem hnul hstat habsence⟩

theorem exists_visit_of_walk {files : List Path}
    (hfolder : d.leads Entry.isFolder q.text = true) (h : walk f d room q = .ok files)
    {name : Text} (hname : name ∈ d.namesAt q.text) :
    ∃ less part, room = less + 1 ∧ visit f d less name (q.child name) = .ok part := by
  obtain ⟨hlists, hroom⟩ := lists_of_walk hfolder h
  obtain ⟨room, rfl⟩ := Nat.exists_eq_add_one.2 (hroom.resolve_left (List.ne_nil_of_mem hname))
  rw [walk_succ room hfolder hlists, map_eq_pure_bind] at h
  obtain ⟨parts, hparts, -⟩ := bind_eq_ok.1 h
  obtain ⟨part, hpart⟩ := exists_of_mapM_eq_ok hparts (mem_sorted.2 hname)
  exact ⟨room, part, rfl, hpart⟩

/-- A search that succeeds got through all that it entered. -/
theorem searchable_of_walk {files : List Path} (hfolder : d.leads Entry.isFolder q.text = true)
    (h : walk f d room q = .ok files) : Searchable f d room q := by
  intro r hr
  induction hr generalizing room files with
  | here q =>
    obtain ⟨hlists, hroom⟩ := lists_of_walk hfolder h
    refine ⟨hlists, fun name hname => ?_, hroom.imp_right (Nat.lt_add_of_pos_right ·)⟩
    obtain ⟨_, part, -, hvisit⟩ := exists_visit_of_walk hfolder h hname
    exact (answers_of_visit hvisit).1
  | there hname hchild henters _ ih =>
    obtain ⟨room, part, rfl, hvisit⟩ := exists_visit_of_walk hfolder h hname
    have hpasses := ih hchild ((answers_of_visit hvisit).2 hchild henters)
    rwa [Path.length_names_child, Nat.add_right_comm] at hpasses

/-- **A search finds all source files in the folders that it enters, and nothing else.** -/
theorem mem_walked (h : Searchable f d room q) {p : Path} :
    p ∈ walked f d room q ↔ Finds f d q p := by
  constructor
  · intro hp
    induction room generalizing q with
    | zero => exact absurd hp List.not_mem_nil
    | succ room ih =>
      obtain ⟨name, hname, hp⟩ := List.mem_flatMap.1 hp
      have hmem := mem_sorted.1 hname
      rcases mem_part.1 hp with ⟨hchild, henters, hp⟩ | ⟨hfile, hsource, rfl⟩
      · obtain ⟨r, last, hr, hfound⟩ := ih (h.child hmem hchild henters) hp
        exact ⟨r, last, .there hmem hchild henters hr, hfound⟩
      · exact ⟨q, name, .here q, hmem, hfile, hsource, rfl⟩
  · -- The induction follows the way down; there is room wherever a folder holds a name.
    rintro ⟨r, last, hr, hlast, hfile, hsource, rfl⟩
    induction hr generalizing room with
    | here q =>
      cases room with
      | zero => exact absurd hlast (by simp [h.namesAt_eq_nil])
      | succ room =>
        exact List.mem_flatMap.2
          ⟨last, mem_sorted.2 hlast, mem_part.2 (.inr ⟨hfile, hsource, rfl⟩)⟩
    | there hname hchild henters _ ih =>
      cases room with
      | zero => exact absurd hname (by simp [h.namesAt_eq_nil])
      | succ room =>
        have hbelow := ih (h.child hname hchild henters) hlast hfile hsource
        exact List.mem_flatMap.2
          ⟨_, mem_sorted.2 hname, mem_part.2 (.inl ⟨hchild, henters, hbelow⟩)⟩

/-! ### Order -/

/-- What is found at the path of a name has a path that begins with it. -/
theorem names_of_mem_part {name : Text} {p r : Path}
    (hr : r ∈ part f d (walked f d room) name p) : ∃ rest, r.names = p.names ++ rest := by
  induction room generalizing name p with
  | zero =>
    rcases mem_part.1 hr with ⟨-, -, hr⟩ | ⟨-, -, rfl⟩
    · exact absurd hr List.not_mem_nil
    · exact ⟨[], (List.append_nil _).symm⟩
  | succ room ih =>
    rcases mem_part.1 hr with ⟨-, -, hr⟩ | ⟨-, -, rfl⟩
    · obtain ⟨next, -, hr⟩ := List.mem_flatMap.1 hr
      obtain ⟨rest, hrest⟩ := ih hr
      exact ⟨next :: rest, by simpa [Path.child] using hrest⟩
    · exact ⟨[], (List.append_nil _).symm⟩

/-- No name is sorted behind a greater one. -/
theorem pairwise_sorted_not_lt (names : List Text) : (sorted names).Pairwise fun a b => ¬ b < a := by
  refine (List.pairwise_mergeSort (fun a b c hab hbc => ?_) (fun a b => ?_) names).imp ?_
  · simp only [Bool.not_eq_true', decide_eq_false_iff_not, List.not_lt] at hab hbc ⊢
    exact List.le_trans hab hbc
  · simp only [Bool.or_eq_true, Bool.not_eq_true', decide_eq_false_iff_not, List.not_lt]
    exact List.le_total a b
  · simp only [Bool.not_eq_true', decide_eq_false_iff_not]
    exact id

theorem eq_of_not_lt {a b : Text} (hab : ¬ b < a) (hba : ¬ a < b) : a = b :=
  List.le_antisymm (List.not_lt.1 hab) (List.not_lt.1 hba)

theorem pairwise_sorted {names : List Text} (h : names.Nodup) :
    (sorted names).Pairwise (· < ·) := by
  have hne : (sorted names).Nodup := (List.mergeSort_perm names _).nodup_iff.2 h
  refine (List.pairwise_and_iff.2 ⟨pairwise_sorted_not_lt names, hne⟩).imp fun {a b} hab => ?_
  obtain ⟨hab, hne⟩ := hab
  exact Classical.byContradiction fun hlt => hne (eq_of_not_lt hab hlt)

/-- Only the names count, not the order that they are listed in. -/
theorem sorted_of_perm {names others : List Text} (h : names.Perm others) :
    sorted names = sorted others := by
  have hperm : (sorted names).Perm (sorted others) :=
    (List.mergeSort_perm names _).trans (h.trans (List.mergeSort_perm others _).symm)
  exact hperm.eq_of_pairwise (fun a b _ _ => eq_of_not_lt) (pairwise_sorted_not_lt names)
    (pairwise_sorted_not_lt others)

/-- **What a search finds is in the order of the names on the way there.** -/
theorem pairwise_walked (hd : d.Distinct) (room : Nat) (q : Path) :
    (walked f d room q).Pairwise fun p r => p.names < r.names := by
  induction room generalizing q with
  | zero => exact List.Pairwise.nil
  | succ room ih =>
    refine List.pairwise_flatMap.2 ⟨fun name _ => ?_, ?_⟩
    · unfold part
      split
      · split
        · exact ih _
        · exact List.Pairwise.nil
      · split
        · split
          · exact List.pairwise_singleton _ _
          · exact List.Pairwise.nil
        · exact List.Pairwise.nil
    · -- Two parts differ first in the names that they are the parts of.
      refine (pairwise_sorted (Disk.nodup_namesAt hd q.text)).imp fun {a b} hab p hp r hr => ?_
      obtain ⟨x, hx⟩ := names_of_mem_part hp
      obtain ⟨y, hy⟩ := names_of_mem_part hr
      rw [hx, hy]
      simp only [Path.child, List.append_assoc]
      exact List.append_left_lt (List.Lex.rel hab)

end Finder
end DocExamples
