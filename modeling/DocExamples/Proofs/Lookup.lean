/-
# Looking up paths

The text of an absolute path is looked up name by name, as the names stand in the path.
Names that lead through folders which may be searched lead on from the last of them.  A path
whose last name is not taken leads to a place in a folder that is there, links on the way
followed; once a folder stands at that place, longer paths lead through it.

These are laws of `walk`, which looks names up and leaves links to a function, and carry
over to `resolve` by induction on the number of links that may still be followed.
-/

import DocExamples.Disk.RealPath
import DocExamples.Proofs.PathText
import DocExamples.Proofs.Tree

namespace DocExamples

/-! ### The names in a path text -/

namespace Path

/-- An absolute path. -/
structure IsRooted (p : Path) : Prop where
  /-- It begins with a slash, or with exactly two. -/
  root : p.root = ['/'] ∨ p.root = ['/', '/']
  /-- Its names are such as are read from texts. -/
  names : ∀ n ∈ p.names, IsName n

theorem rootOf_ne_nil {s : Text} (h : s.head? = some '/') : rootOf s ≠ [] := by
  obtain ⟨t, rfl⟩ := List.head?_eq_some_iff.1 h
  unfold rootOf
  split <;> simp_all

theorem isRooted_ofText {s : Text} (h : s.head? = some '/') : (ofText s).IsRooted where
  root := (rootOf_eq s).resolve_left (rootOf_ne_nil h)
  names _ := isName_of_mem_namesOf

theorem namesOf_of_isName {n : Text} (h : IsName n) : namesOf n = [n] := by
  have hnames : namesOf (Text.joined ['/'] [n]) = [n] :=
    namesOf_joined fun m hm => List.mem_singleton.1 hm ▸ h
  simpa [Text.joined, List.intercalate] using hnames

theorem join_of_rootOf_eq_nil (p : Path) {s : Text} (h : rootOf s = []) :
    p.join s = { p with names := p.names ++ namesOf s } := by
  rw [join, h]
  rfl

theorem IsRooted.join {p : Path} (hp : p.IsRooted) {s : Text} (h : rootOf s = []) :
    (p.join s).IsRooted := by
  rw [join_of_rootOf_eq_nil p h]
  exact ⟨hp.root, List.forall_mem_append.2 ⟨hp.names, fun _ => isName_of_mem_namesOf⟩⟩

theorem IsRooted.text_eq {p : Path} (hp : p.IsRooted) :
    p.text = p.root ++ Text.joined ['/'] p.names := by
  rw [text]
  rcases hp.root with h | h <;> simp [h]

/-- Joined names do not end with a slash. -/
theorem getLast?_joined {ns : List Text} (hne : ns ≠ []) (h : ∀ n ∈ ns, IsName n) :
    ∃ c, (Text.joined ['/'] ns).getLast? = some c ∧ c ≠ '/' := by
  induction ns with
  | nil => exact absurd rfl hne
  | cons n ns ih =>
    obtain ⟨hn, hns⟩ := List.forall_mem_cons.1 h
    by_cases hnil : ns = []
    · rw [hnil, Text.joined, List.intercalate_singleton]
      refine ⟨n.getLast hn.ne_nil, List.getLast?_eq_some_getLast hn.ne_nil, fun hc => ?_⟩
      exact hn.slash_notMem (hc ▸ List.getLast_mem hn.ne_nil)
    · obtain ⟨c, hc, hslash⟩ := ih hnil hns
      refine ⟨c, ?_, hslash⟩
      rw [Text.joined_cons_of_ne_nil _ _ hnil]
      simp [List.getLast?_cons, hc]

/-- Joined names behind a root are looked up one by one. -/
theorem steps_joined {root : Text} (hroot : root = [] ∨ root = ['/'] ∨ root = ['/', '/'])
    {ns : List Text} (hns : ∀ n ∈ ns, IsName n) :
    Disk.steps (root ++ Text.joined ['/'] ns) = ns := by
  have hpieces : (Text.pieces '/' (root ++ Text.joined ['/'] ns)).filter (!·.isEmpty) = ns := by
    have hjoined : (Text.pieces '/' (Text.joined ['/'] ns)).filter (!·.isEmpty) = ns := by
      by_cases hnil : ns = []
      · rw [hnil]
        rfl
      · rw [Text.pieces_joined hnil fun n hn => (hns n hn).slash_notMem, List.filter_eq_self]
        intro n hn
        simpa using (hns n hn).ne_nil
    rcases hroot with h | h | h <;> rw [h] <;> exact hjoined
  unfold Disk.steps
  rw [hpieces]
  by_cases hnil : ns = []
  · simp [hnil]
  · obtain ⟨c, hc, hslash⟩ := getLast?_joined hnil hns
    have hlast : (root ++ Text.joined ['/'] ns).getLast? = some c := by simp [hc]
    simp [hlast, hslash]

/-- A path that some text stands for. -/
structure IsRead (p : Path) : Prop where
  /-- It begins with no slash, with one or with exactly two. -/
  root : p.root = [] ∨ p.root = ['/'] ∨ p.root = ['/', '/']
  /-- Its names are such as are read from texts. -/
  names : ∀ n ∈ p.names, IsName n

theorem isRead_ofText (s : Text) : (ofText s).IsRead where
  root := rootOf_eq s
  names _ := isName_of_mem_namesOf

theorem IsRooted.isRead {p : Path} (hp : p.IsRooted) : p.IsRead := ⟨.inr hp.root, hp.names⟩

end Path

namespace Lexical

theorem head?_normal {s : Text} (h : s.head? = some '/') : (normal s).head? = some '/' := by
  rcases (Path.rootOf_eq s).resolve_left (Path.rootOf_ne_nil h) with hroot | hroot <;>
    simp [normal, hroot]

theorem head?_join {folder : Text} (h : folder.head? = some '/') (s : Text) :
    (join folder s).head? = some '/' := by
  rw [join]
  split
  · next hs =>
    obtain ⟨rest, hrest⟩ := Option.isSome_iff_exists.1 hs
    rw [Text.after?_eq_some_iff.1 hrest]
    rfl
  · obtain ⟨folder, rfl⟩ := List.head?_eq_some_iff.1 h
    split <;> rfl

theorem head?_absolute {cwd : Text} (h : cwd.head? = some '/') (s : Text) :
    (absolute cwd s).head? = some '/' := by
  have hs : (if Text.startsWith ['/'] s then s else join cwd s) = join cwd s := by
    split
    · next hs => rw [join, if_pos hs]
    · rfl
  rw [absolute, hs]
  exact head?_normal (head?_join h s)

end Lexical

namespace Disk

/-- A folder in which names may be looked up. -/
structure IsOpen (d : Disk) (l : Location) : Prop where
  /-- There is a folder. -/
  folder : d.at? l = some .folder
  /-- It may be searched. -/
  search : d.rights.search l = true

/-- Names looked up from a folder, with a last name behind them, lead to a place that is not
taken.  So many links are followed on the way at most. -/
inductive LeadsOn (d : Disk) (m : Text) (l : Location) : Nat → Location → List Text → Prop
  | last {i : Nat} {k : Location} : d.rights.search k = true → d.at? (k ++ [m]) = none →
      k ++ [m] = l → LeadsOn d m l i k []
  | skip {i : Nat} {k : Location} {ns : List Text} : LeadsOn d m l i k ns →
      LeadsOn d m l i k ([] :: ns)
  | stay {i : Nat} {k : Location} {ns : List Text} : d.rights.search k = true →
      LeadsOn d m l i k ns → LeadsOn d m l i k (Path.dot :: ns)
  | up {i : Nat} {k : Location} {ns : List Text} : d.rights.search k = true →
      LeadsOn d m l i k.dropLast ns → LeadsOn d m l i k (Path.dotDot :: ns)
  | down {i : Nat} {k : Location} {n : Text} {ns : List Text} : d.rights.search k = true →
      IsProper n → d.at? (k ++ [n]) = some .folder → LeadsOn d m l i (k ++ [n]) ns →
      LeadsOn d m l i k (n :: ns)
  | link {i : Nat} {k : Location} {n target : Text} {ns : List Text} :
      d.rights.search k = true → IsProper n → d.at? (k ++ [n]) = some (.link target) →
      LeadsOn d m l i (start k target) (steps target ++ ns) → LeadsOn d m l (i + 1) k (n :: ns)

theorem IsFree.isOpen {d : Disk} (h : d.IsFree) {l : Location} (hl : d.at? l = some .folder) :
    d.IsOpen l := ⟨hl, h.search l⟩

variable {d d' : Disk} {follow : Bool} {links : Nat} {here l : Location} {names rest : List Text}
variable {m n : Text} {jump : Location → List Text → Except Fault Spot}

theorem eq_absolute_of_absoluteText {s t : Text} (h : d.absoluteText s = .ok t) :
    t = Lexical.absolute d.cwdText s := by
  unfold absoluteText whereabouts at h
  split at h
  · exact (Except.ok.inj h).symm
  · split at h
    · exact (Except.ok.inj h).symm
    · exact nomatch h

theorem head?_absoluteText {s t : Text} (h : d.absoluteText s = .ok t) : t.head? = some '/' :=
  eq_absolute_of_absoluteText h ▸ Lexical.head?_absolute rfl s

/-- The real path of a path is absolute. -/
theorem isRooted_of_realPath {p real : Path} (h : d.realPath p = .ok real) : real.IsRooted := by
  rw [realPath] at h
  cases htext : d.realText p with
  | error f => simp [htext, bind, Except.bind] at h
  | ok t =>
    have hhead : t.head? = some '/' := by
      rw [realText] at htext
      cases hunlink : unlink d d.linkDepth [] [] p.text with
      | error f => simp [hunlink, bind, Except.bind] at htext
      | ok u =>
        simp only [hunlink, bind, Except.bind] at htext
        exact head?_absoluteText htext
    have hreal : real = Path.ofText t := by
      simp only [htext, bind, Except.bind] at h
      split at h
      · exact nomatch h
      · split at h
        · exact nomatch h
        · exact (Except.ok.inj h).symm
    rw [hreal]
    exact Path.isRooted_ofText hhead

theorem resolve_eq_walk (d : Disk) (follow : Bool) (links : Nat) :
    ∃ jump, ∀ here names, d.resolve follow links here names = d.walk jump follow here names := by
  cases links with
  | zero => exact ⟨_, fun _ _ => rfl⟩
  | succ links => exact ⟨_, fun _ _ => rfl⟩

/-- The folder that the names of a path are looked up from. -/
def base (d : Disk) (p : Path) : Location := if p.root = [] then d.cwd else []

/-- A single dot leads to the working folder, if that may be searched. -/
theorem locate_dot (d : Disk) (follow : Bool) : d.locate follow Path.dot =
    if d.rights.search d.cwd then .ok ⟨d.cwd, some .folder⟩ else .error .denied := by
  obtain ⟨jump, hwalk⟩ := resolve_eq_walk d follow linkLimit
  have hlocate : d.locate follow Path.dot = d.walk jump follow d.cwd [Path.dot] :=
    hwalk d.cwd [Path.dot]
  rw [hlocate]
  cases hsearch : d.rights.search d.cwd <;> simp [walk, hsearch, Path.dot]

/-- A path that is no single dot is looked up by its names, unless its text is too long. -/
theorem locate_read {p : Path} (hp : p.IsRead) (hsome : p.root = [] → p.names ≠ []) (d : Disk)
    (follow : Bool) : d.locate follow p.text =
      if pathLimit ≤ (Utf8.encode p.text).length then .error .tooLong
      else d.resolve follow linkLimit (d.base p) p.names := by
  have hempty : ¬ (p.root = [] ∧ p.names = []) := fun h => hsome h.1 h.2
  have htext : p.text = p.root ++ Text.joined ['/'] p.names := by
    simp only [Path.text, Bool.and_eq_true, List.isEmpty_iff, hempty, if_false]
  have hne : p.text.isEmpty = false := by
    rw [htext]
    rcases hp.root with h | h | h
    · obtain ⟨n, ns, hnames⟩ := List.exists_cons_of_ne_nil (hsome h)
      obtain ⟨c, m, hn⟩ :=
        List.exists_cons_of_ne_nil (hp.names n (hnames ▸ List.mem_cons_self)).ne_nil
      rw [h, hnames, hn, Text.joined_cons]
      rfl
    · rw [h]
      rfl
    · rw [h]
      rfl
  have hstart : start d.cwd p.text = d.base p := by
    rw [htext, start, base]
    rcases hp.root with h | h | h
    · have hhead := Path.head?_joined hp.names
      rw [h, List.nil_append, if_pos rfl]
      refine if_neg fun hslash => ?_
      obtain ⟨t, ht⟩ := Option.isSome_iff_exists.1 hslash
      rw [Text.after?_eq_some_iff.1 ht] at hhead
      exact hhead rfl
    · rw [h]
      rfl
    · rw [h]
      rfl
  rw [locate, hne, hstart, htext, Path.steps_joined hp.root hp.names]
  rfl

theorem locate_text {p : Path} (hp : p.IsRooted) (d : Disk) (follow : Bool) :
    d.locate follow p.text =
      if pathLimit ≤ (Utf8.encode p.text).length then .error .tooLong
      else d.resolve follow linkLimit [] p.names := by
  have hroot : p.root ≠ [] := by
    rcases hp.root with h | h <;> rw [h] <;> exact List.cons_ne_nil _ _
  rw [locate_read hp.isRead (fun h => absurd h hroot), base, if_neg hroot]

/-! ### One name after another -/

/-- What may become of a name that is looked up in a folder. -/
inductive Asks (d : Disk) (here : Location) : Text → Prop
  | skip : Asks d here []
  | barred {n : Text} : n ≠ [] → d.rights.search here = false → Asks d here n
  | stay : d.rights.search here = true → Asks d here Path.dot
  | up : d.rights.search here = true → Asks d here Path.dotDot
  | long {n : Text} : n ≠ Path.dot → n ≠ Path.dotDot → d.rights.search here = true →
      nameLimit < (Utf8.encode n).length → Asks d here n
  | proper {n : Text} : d.rights.search here = true → IsProper n → Asks d here n

theorem asks (d : Disk) (here : Location) (n : Text) : d.Asks here n := by
  by_cases hnil : n = []
  · exact hnil ▸ .skip
  · cases hsearch : d.rights.search here with
    | false => exact .barred hnil hsearch
    | true =>
      by_cases hdot : n = Path.dot
      · exact hdot ▸ .stay hsearch
      · by_cases hdotDot : n = Path.dotDot
        · exact hdotDot ▸ .up hsearch
        · by_cases hlong : nameLimit < (Utf8.encode n).length
          · exact .long hdot hdotDot hsearch hlong
          · exact .proper hsearch ⟨hnil, hdot, hdotDot, Nat.not_lt.1 hlong⟩

@[simp] theorem walk_skip :
    d.walk jump follow here ([] :: rest) = d.walk jump follow here rest := rfl

theorem walk_barred (hn : n ≠ []) (hsearch : d.rights.search here = false) :
    d.walk jump follow here (n :: rest) = .error .denied := by
  rw [walk, if_neg (mt List.isEmpty_iff.1 hn), hsearch]
  rfl

theorem walk_dot (hsearch : d.rights.search here = true) :
    d.walk jump follow here (Path.dot :: rest) = d.walk jump follow here rest := by
  rw [walk, hsearch]
  rfl

theorem walk_dotDot (hsearch : d.rights.search here = true) :
    d.walk jump follow here (Path.dotDot :: rest) = d.walk jump follow here.dropLast rest := by
  rw [walk, hsearch]
  rfl

theorem walk_long (hdot : n ≠ Path.dot) (hdotDot : n ≠ Path.dotDot)
    (hsearch : d.rights.search here = true) (hlong : nameLimit < (Utf8.encode n).length) :
    d.walk jump follow here (n :: rest) = .error .tooLong := by
  have hnil : ¬ n.isEmpty = true := fun h => by simp [List.isEmpty_iff.1 h, Utf8.encode] at hlong
  rw [walk, if_neg hnil, hsearch, if_neg (by decide), if_neg hdot, if_neg hdotDot, if_pos hlong]

/-- A proper name is looked up in the folder reached so far. -/
theorem walk_cons (hsearch : d.rights.search here = true) (hm : IsProper m) :
    d.walk jump follow here (m :: rest) =
      match d.at? (here ++ [m]) with
      | none => if rest.isEmpty then .ok ⟨here ++ [m], none⟩ else .error .notFound
      | some .folder => d.walk jump follow (here ++ [m]) rest
      | some (.link target) =>
        if rest.isEmpty && !follow then .ok ⟨here ++ [m], some (.link target)⟩
        else jump (start here target) (steps target ++ rest)
      | some e => if rest.isEmpty then .ok ⟨here ++ [m], some e⟩ else .error .notFolder := by
  rw [walk, if_neg (mt List.isEmpty_iff.1 hm.ne_nil), hsearch]
  exact (if_neg hm.ne_dot).trans
    ((if_neg hm.ne_dotDot).trans (if_neg (Nat.not_lt.2 hm.short)))

theorem prefixes_below {p : Location → Prop} (h : ∀ k, k <+: n :: names → p (here ++ k)) :
    ∀ k, k <+: names → p ((here ++ [n]) ++ k) := fun k hk => by
  rw [List.append_assoc]
  exact h _ ((List.prefix_cons_inj n).2 hk)

/-- Names that lead through open folders lead on from the last of them. -/
theorem walk_append (hproper : ∀ n ∈ names, IsProper n)
    (hopen : ∀ k, k <+: names → d.IsOpen (here ++ k)) :
    d.walk jump follow here (names ++ rest) = d.walk jump follow (here ++ names) rest := by
  induction names generalizing here with
  | nil => rw [List.nil_append, List.append_nil]
  | cons n names ih =>
    obtain ⟨hn, hnames⟩ := List.forall_mem_cons.1 hproper
    have hhere := hopen [] List.nil_prefix
    rw [List.append_nil] at hhere
    rw [List.cons_append, walk_cons hhere.search hn,
      (hopen [n] (List.prefix_append [n] names)).folder]
    simpa using ih hnames (prefixes_below hopen)

theorem resolve_append (hproper : ∀ n ∈ names, IsProper n)
    (hopen : ∀ k, k <+: names → d.IsOpen k) :
    d.resolve follow links [] (names ++ rest) = d.resolve follow links names rest := by
  obtain ⟨jump, hwalk⟩ := resolve_eq_walk d follow links
  rw [hwalk, hwalk]
  exact walk_append hproper hopen

/-- Names that do not lead through open folders lead nowhere, unless there is a link among
them. -/
theorem walk_blocked (hproper : ∀ n ∈ names, IsProper n) (hm : m ≠ [])
    (hhere : d.at? here = some .folder)
    (hdirect : ∀ k, k <+: names → ∀ target, d.at? (here ++ k) ≠ some (.link target))
    (hblocked : ∃ k, k <+: names ∧ ¬ d.IsOpen (here ++ k)) :
    ∃ f, d.walk jump follow here (names ++ m :: rest) = .error f := by
  induction names generalizing here with
  | nil =>
    obtain ⟨k, hk, hne⟩ := hblocked
    rw [List.prefix_nil.1 hk, List.append_nil] at hne
    have hsearch := Bool.eq_false_iff.2 fun hsearch => hne ⟨hhere, hsearch⟩
    exact ⟨_, walk_barred hm hsearch⟩
  | cons n names ih =>
    obtain ⟨hn, hnames⟩ := List.forall_mem_cons.1 hproper
    rw [List.cons_append]
    cases hsearch : d.rights.search here with
    | false => exact ⟨_, walk_barred hn.ne_nil hsearch⟩
    | true =>
      have hmore : (names ++ m :: rest).isEmpty = false := by simp
      rw [walk_cons hsearch hn, hmore]
      cases hthere : d.at? (here ++ [n]) with
      | none => exact ⟨_, rfl⟩
      | some e =>
        cases e with
        | folder =>
          refine ih hnames hthere
            (prefixes_below (p := fun l => ∀ target, d.at? l ≠ some (.link target)) hdirect) ?_
          obtain ⟨k, hk, hne⟩ := hblocked
          cases k with
          | nil =>
            rw [List.append_nil] at hne
            exact absurd ⟨hhere, hsearch⟩ hne
          | cons m k =>
            obtain ⟨rfl, htail⟩ := List.cons_prefix_cons.1 hk
            rw [List.append_cons] at hne
            exact ⟨k, htail, hne⟩
        | link target => exact absurd hthere (hdirect [n] (List.prefix_append [n] names) target)
        | file content mode => exact ⟨_, rfl⟩
        | utility name => exact ⟨_, rfl⟩
        | device name => exact ⟨_, rfl⟩

/-- Names that lead through folders of which one may not be searched are refused as locked. -/
theorem walk_locked (hproper : ∀ n ∈ names, IsProper n) (hm : m ≠ [])
    (hfolders : ∀ k, k <+: names → d.at? (here ++ k) = some .folder)
    (hlocked : ∃ k, k <+: names ∧ d.rights.search (here ++ k) = false) :
    d.walk jump follow here (names ++ m :: rest) = .error .denied := by
  induction names generalizing here with
  | nil =>
    obtain ⟨k, hk, hsearch⟩ := hlocked
    rw [List.prefix_nil.1 hk, List.append_nil] at hsearch
    exact walk_barred hm hsearch
  | cons n names ih =>
    obtain ⟨hn, hnames⟩ := List.forall_mem_cons.1 hproper
    rw [List.cons_append]
    cases hsearch : d.rights.search here with
    | false => exact walk_barred hn.ne_nil hsearch
    | true =>
      rw [walk_cons hsearch hn, hfolders [n] (List.prefix_append [n] names)]
      refine ih hnames (prefixes_below (p := fun l => d.at? l = some .folder) hfolders) ?_
      obtain ⟨k, hk, hbarred⟩ := hlocked
      cases k with
      | nil =>
        rw [List.append_nil] at hbarred
        exact absurd (hsearch.symm.trans hbarred) (by decide)
      | cons m k =>
        obtain ⟨rfl, htail⟩ := List.cons_prefix_cons.1 hk
        rw [List.append_cons] at hbarred
        exact ⟨k, htail, hbarred⟩

/-- The last name of a path, where all names before it lead through open folders. -/
theorem resolve_concat (hproper : ∀ n ∈ names, IsProper n)
    (hopen : ∀ k, k <+: names → d.IsOpen k) (hm : IsProper m) :
    d.resolve false links [] (names ++ [m]) = .ok ⟨names ++ [m], d.at? (names ++ [m])⟩ := by
  obtain ⟨jump, hwalk⟩ := resolve_eq_walk d false links
  rw [resolve_append hproper hopen, hwalk,
    walk_cons (hopen names (List.prefix_refl names)).search hm]
  split
  · next h => simp [h]
  · next h => simp [walk, h]
  · next h => simp [h]
  · next h => simp [h]

/-! ### Places that are not taken -/

/-- A place that a lookup ends at, and that is not taken, was led to.  At a link, the law is
assumed of the lookup that goes on from there. -/
theorem leadsOn_of_walk (hm : IsProper m)
    (hjump : ∀ here n names target, d.rights.search here = true → IsProper n →
      d.at? (here ++ [n]) = some (.link target) →
      jump (start here target) ((steps target ++ names) ++ [m]) = .ok ⟨l, none⟩ →
      LeadsOn d m l links here (n :: names))
    (h : d.walk jump false here (names ++ [m]) = .ok ⟨l, none⟩) : LeadsOn d m l links here names := by
  induction names generalizing here with
  | nil =>
    rw [List.nil_append] at h
    cases hsearch : d.rights.search here with
    | false =>
      rw [walk_barred hm.ne_nil hsearch] at h
      exact nomatch h
    | true =>
      rw [walk_cons hsearch hm] at h
      split at h
      · next hnone =>
        obtain ⟨rfl, -⟩ := Spot.mk.inj (Except.ok.inj h)
        exact .last hsearch hnone rfl
      · exact nomatch (Spot.mk.inj (Except.ok.inj h)).2
      · exact nomatch h
      · exact nomatch h
  | cons n names ih =>
    rw [List.cons_append] at h
    cases d.asks here n with
    | skip => exact .skip (ih h)
    | barred hnil hsearch =>
      rw [walk_barred hnil hsearch] at h
      exact nomatch h
    | stay hsearch =>
      rw [walk_dot hsearch] at h
      exact .stay hsearch (ih h)
    | up hsearch =>
      rw [walk_dotDot hsearch] at h
      exact .up hsearch (ih h)
    | long hdot hdotDot hsearch hlong =>
      rw [walk_long hdot hdotDot hsearch hlong] at h
      exact nomatch h
    | proper hsearch hn =>
      have hmore : (names ++ [m]).isEmpty = false := by simp
      rw [walk_cons hsearch hn, hmore] at h
      split at h
      · exact nomatch h
      · next hfolder => exact .down hsearch hn hfolder (ih h)
      · next target htarget =>
        rw [← List.append_assoc] at h
        exact hjump here n names target hsearch hn htarget h
      · exact nomatch h

theorem leadsOn_of_resolve (hm : IsProper m)
    (h : d.resolve false links here (names ++ [m]) = .ok ⟨l, none⟩) :
    LeadsOn d m l links here names := by
  induction links generalizing here names with
  | zero => exact leadsOn_of_walk hm (fun _ _ _ _ _ _ _ hjump => by cases hjump) h
  | succ links ih =>
    exact leadsOn_of_walk hm
      (fun _ _ _ _ hsearch hn htarget hjump => .link hsearch hn htarget (ih hjump)) h

/-- A link in a folder is followed from there or from the top. -/
theorem at?_start (hhere : d.at? here = some .folder) (target : Text) :
    d.at? (start here target) = some .folder := by
  unfold start
  split
  · exact at?_nil d
  · exact hhere

/-- The place is in an open folder, under the last name, and is not taken. -/
theorem LeadsOn.exists_folder (hd : d.IsTree) (h : LeadsOn d m l links here names)
    (hhere : d.at? here = some .folder) :
    ∃ k, l = k ++ [m] ∧ d.IsOpen k ∧ d.at? l = none := by
  induction h with
  | last hsearch hnone hl =>
    subst hl
    exact ⟨_, rfl, ⟨hhere, hsearch⟩, hnone⟩
  | skip _ ih => exact ih hhere
  | stay _ _ ih => exact ih hhere
  | up _ _ ih => exact ih (hd.at?_dropLast hhere)
  | down _ _ hfolder _ ih => exact ih hfolder
  | link _ _ _ _ ih => exact ih (at?_start hhere _)

/-- Once a folder stands at the place, longer paths lead through it. -/
theorem LeadsOn.resolve_eq_walk (hext : d.Extends d') (hm : IsProper m)
    (hl : d'.at? l = some .folder) (h : LeadsOn d m l links here names) (follow : Bool)
    (rest : List Text) :
    ∃ jump, d'.resolve follow links here (names ++ m :: rest) = d'.walk jump follow l rest := by
  have hopen {k : Location} (hsearch : d.rights.search k = true) : d'.rights.search k = true :=
    hext.rights ▸ hsearch
  induction h with
  | @last links here hsearch _ hplace =>
    subst hplace
    obtain ⟨jump, hwalk⟩ := Disk.resolve_eq_walk d' follow links
    exact ⟨jump, by rw [hwalk, List.nil_append, walk_cons (hopen hsearch) hm, hl]⟩
  | @skip links here names _ ih =>
    obtain ⟨jump, hjump⟩ := ih
    obtain ⟨jump', hwalk⟩ := Disk.resolve_eq_walk d' follow links
    exact ⟨jump, by rw [← hjump, hwalk, hwalk, List.cons_append, walk_skip]⟩
  | @stay links here names hsearch _ ih =>
    obtain ⟨jump, hjump⟩ := ih
    obtain ⟨jump', hwalk⟩ := Disk.resolve_eq_walk d' follow links
    exact ⟨jump, by rw [← hjump, hwalk, hwalk, List.cons_append, walk_dot (hopen hsearch)]⟩
  | @up links here names hsearch _ ih =>
    obtain ⟨jump, hjump⟩ := ih
    obtain ⟨jump', hwalk⟩ := Disk.resolve_eq_walk d' follow links
    exact ⟨jump, by rw [← hjump, hwalk, hwalk, List.cons_append, walk_dotDot (hopen hsearch)]⟩
  | @down links here n names hsearch hn hfolder _ ih =>
    obtain ⟨jump, hjump⟩ := ih
    obtain ⟨jump', hwalk⟩ := Disk.resolve_eq_walk d' follow links
    refine ⟨jump, ?_⟩
    rw [← hjump, hwalk, hwalk, List.cons_append, walk_cons (hopen hsearch) hn,
      hext.keeps _ _ hfolder]
  | @link links here n target names hsearch hn htarget _ ih =>
    obtain ⟨jump, hjump⟩ := ih
    have hmore : (names ++ m :: rest).isEmpty = false := by simp
    refine ⟨jump, ?_⟩
    rw [← hjump, resolve, List.cons_append, walk_cons (hopen hsearch) hn,
      hext.keeps _ _ htarget, hmore]
    simp

/-! ### Beyond a folder, and refusals -/

/-- On a tree, what names from a folder lead to stands there, if that holds behind a link. -/
theorem IsTree.at?_of_walk {e : Entry} (hd : d.IsTree)
    (hjump : ∀ here names, d.at? here = some .folder → jump here names = .ok ⟨l, some e⟩ →
      d.at? l = some e)
    (hhere : d.at? here = some .folder)
    (h : d.walk jump follow here names = .ok ⟨l, some e⟩) : d.at? l = some e := by
  induction names generalizing here with
  | nil =>
    cases h
    exact hhere
  | cons n names ih =>
    cases d.asks here n with
    | skip => exact ih hhere h
    | barred hnil hsearch =>
      rw [walk_barred hnil hsearch] at h
      cases h
    | stay hsearch =>
      rw [walk_dot hsearch] at h
      exact ih hhere h
    | up hsearch =>
      rw [walk_dotDot hsearch] at h
      exact ih (hd.at?_dropLast hhere) h
    | long hdot hdotDot hsearch hlong =>
      rw [walk_long hdot hdotDot hsearch hlong] at h
      cases h
    | proper hsearch hn =>
      rw [walk_cons hsearch hn] at h
      split at h
      · split at h <;> cases h
      · next hfolder => exact ih hfolder h
      · next target htarget =>
        split at h
        · cases h
          exact htarget
        · exact hjump _ _ (at?_start hhere target) h
      · next he =>
        split at h
        · cases h
          exact he
        · cases h

/-- **On a tree, what names from a folder lead to stands there.** -/
theorem IsTree.at?_of_resolve {e : Entry} (hd : d.IsTree) (hhere : d.at? here = some .folder)
    (h : d.resolve follow links here names = .ok ⟨l, some e⟩) : d.at? l = some e := by
  induction links generalizing here names with
  | zero => exact hd.at?_of_walk (fun _ _ _ hjump => by cases hjump) hhere h
  | succ links ih => exact hd.at?_of_walk (fun _ _ hstart hjump => ih hstart hjump) hhere h

/-- A name is looked up only in a folder that may be searched. -/
theorem search_of_resolve {spot : Spot} (hn : n ≠ [])
    (h : d.resolve follow links here (n :: rest) = .ok spot) : d.rights.search here = true := by
  obtain ⟨jump, hwalk⟩ := resolve_eq_walk d follow links
  cases hsearch : d.rights.search here with
  | true => rfl
  | false =>
    rw [hwalk, walk_barred hn hsearch] at h
    cases h

/-- Only short paths are looked up. -/
theorem length_lt_of_locate {path : Text} {spot : Spot} (h : d.locate follow path = .ok spot) :
    (Utf8.encode path).length < pathLimit := by
  rw [locate] at h
  split at h
  · cases h
  · split at h
    · cases h
    · next hshort => exact Nat.not_le.1 hshort

/-- Names that lead to a folder lead on from it, with as many links left at most, if those
behind a link do with fewer. -/
theorem walk_beyond (hself : d.walk jump true = d.resolve true links)
    (hjump : ∀ here names, jump here names = .ok ⟨l, some .folder⟩ →
      ∃ i < links, ∀ rest, jump here (names ++ rest) = d.resolve true i l rest)
    (h : d.walk jump true here names = .ok ⟨l, some .folder⟩) :
    ∃ i ≤ links, ∀ rest, d.walk jump true here (names ++ rest) = d.resolve true i l rest := by
  induction names generalizing here with
  | nil =>
    obtain ⟨rfl, -⟩ := Spot.mk.inj (Except.ok.inj h)
    exact ⟨links, Nat.le_refl links, fun rest => by rw [hself, List.nil_append]⟩
  | cons n names ih =>
    cases d.asks here n with
    | skip => exact ih h
    | barred hnil hsearch =>
      rw [walk_barred hnil hsearch] at h
      cases h
    | stay hsearch =>
      simp only [List.cons_append, walk_dot hsearch] at h ⊢
      exact ih h
    | up hsearch =>
      simp only [List.cons_append, walk_dotDot hsearch] at h ⊢
      exact ih h
    | long hdot hdotDot hsearch hlong =>
      rw [walk_long hdot hdotDot hsearch hlong] at h
      cases h
    | proper hsearch hn =>
      simp only [List.cons_append, walk_cons hsearch hn] at h ⊢
      split at h
      · split at h <;> cases h
      · exact ih h
      · rw [if_neg (by simp)] at h
        obtain ⟨i, hi, hrest⟩ := hjump _ _ h
        refine ⟨i, Nat.le_of_lt hi, fun rest => ?_⟩
        rw [if_neg (by simp), ← List.append_assoc, hrest]
      · next e hfolder _ he =>
        split at h
        · exact absurd (Option.some.inj (Spot.mk.inj (Except.ok.inj h)).2) hfolder
        · cases h

/-- **Names that lead to a folder lead on from it**, with as many links left at most. -/
theorem resolve_beyond (h : d.resolve true links here names = .ok ⟨l, some .folder⟩) :
    ∃ i ≤ links, ∀ rest, d.resolve true links here (names ++ rest) = d.resolve true i l rest := by
  induction links generalizing here names with
  | zero => exact walk_beyond rfl (fun _ _ h => nomatch h) h
  | succ links ih =>
    refine walk_beyond rfl (fun _ _ hjump => ?_) h
    obtain ⟨i, hi, hrest⟩ := ih hjump
    exact ⟨i, Nat.lt_succ_of_le hi, hrest⟩

end Disk
end DocExamples
