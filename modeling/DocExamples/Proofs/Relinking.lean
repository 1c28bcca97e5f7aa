/-
# What a real path depends on

To make a path real, the disk is asked at one name after another whether a link stands there,
and nothing else is asked.  What was read so far is then some double dots and names behind them,
with no link on the way.

| the next component | what was read so far |
| --- | --- |
| `..` | loses its last name, or gets one more double dot |
| a link | becomes what the target is read as |
| any other name | gets the name, whether anything stands there or not |

So two disks with the same links make the same real paths.
-/

import DocExamples.Proofs.Straight

namespace DocExamples

/-! ### Lengths of path texts -/

namespace Utf8

theorem length_encode_append (s t : Text) :
    (encode (s ++ t)).length = (encode s).length + (encode t).length := by
  rw [encode, List.flatMap_append, List.length_append]
  rfl

end Utf8

namespace Text

/-- Fewer names make no longer text. -/
theorem length_encode_joined_le (sep : Text) {ms ns : List Text} (h : ms <+: ns) :
    (Utf8.encode (joined sep ms)).length ≤ (Utf8.encode (joined sep ns)).length := by
  obtain ⟨more, rfl⟩ := h
  induction more using List.reverseRecOn with
  | nil => exact Nat.le_of_eq (by rw [List.append_nil])
  | append_singleton more n ih =>
    refine Nat.le_trans ih ?_
    rw [← List.append_assoc]
    by_cases hne : ms ++ more = []
    · rw [hne]
      exact Nat.zero_le _
    · rw [joined_concat sep hne, Utf8.length_encode_append]
      omega

end Text

namespace Lexical

theorem length_encode_spelled_le (rooted : Bool) {ms ns : List Text} (h : ms <+: ns) :
    (Utf8.encode (spelled rooted ms)).length ≤ (Utf8.encode (spelled rooted ns)).length := by
  have hjoined := Text.length_encode_joined_le ['/'] h
  rw [spelled, spelled, Utf8.length_encode_append, Utf8.length_encode_append]
  omega

/-- The names of the normal form of an absolute path text lead down. -/
theorem leadsDown_normal {s : Text} (h : s.head? = some '/') :
    ∀ n ∈ (Path.ofText (normal s)).names, LeadsDown n := by
  have hway : ∀ n ∈ way (Text.pieces '/' s), Path.IsName n ∧ LeadsDown n := fun n hn =>
    have ⟨hmem, hdown⟩ := mem_and_leadsDown_of_mem_way hn
    ⟨⟨hdown.ne_nil, hdown.ne_dot, Text.notMem_of_mem_pieces hmem⟩, hdown⟩
  have hjoined : Path.namesOf (Text.joined ['/'] (way (Text.pieces '/' s))) =
      way (Text.pieces '/' s) := Path.namesOf_joined fun n hn => (hway n hn).1
  have hnames : (Path.ofText (normal s)).names = way (Text.pieces '/' s) := by
    rcases (Path.rootOf_eq s).resolve_left (Path.rootOf_ne_nil h) with hroot | hroot
    · rw [normal_eq hroot]
      exact hjoined
    · unfold normal
      simp only [hroot, List.isEmpty_cons, Bool.not_false, reverse_foldl_push,
        List.cons_append, List.nil_append, Bool.false_eq_true, if_false]
      exact hjoined
  rw [hnames]
  exact fun n hn => (hway n hn).2

end Lexical

namespace Disk
open Lexical (spelled LeadsDown)
open DocExamples.Path (IsName)

variable {d d' : Disk} {here : Location} {names ns cs : List Text} {path c target : Text}
  {rooted : Bool} {k : Nat} {jump : Location → List Text → Except Fault Spot}
  {known : Known}

/-! ### Lookups that end at a link -/

/-- The folder above another, so many times. -/
def ancestor : Location → Nat → Location
  | l, 0 => l
  | l, k + 1 => ancestor l.dropLast k

theorem isPrefix_ancestor (l : Location) (k : Nat) : ancestor l k <+: l := by
  induction k generalizing l with
  | zero => exact List.prefix_rfl
  | succ k ih => exact (ih l.dropLast).trans (List.dropLast_prefix l)

/-- Double dots lead up. -/
theorem walk_dotDots (hfree : d.IsFree) (follow : Bool) (here : Location) (k : Nat) (names : List Text) :
    d.walk jump follow here (List.replicate k Path.dotDot ++ names) =
      d.walk jump follow (ancestor here k) names := by
  induction k generalizing here with
  | zero => rfl
  | succ k ih =>
    rw [List.replicate_succ, List.cons_append, walk_dotDot (hfree.search here), ih]
    rfl

/-- Names with no link before the last lead to a link exactly if one stands where they say. -/
theorem walk_eq_link_iff (hd : d.IsTree) (hfree : d.IsFree) (hhere : d.at? here = some .folder)
    (hdown : ∀ n ∈ names, LeadsDown n)
    (hdirect : ∀ m, m <+: names → m ≠ names → ∀ target, d.at? (here ++ m) ≠ some (.link target)) :
    (∃ l, d.walk jump false here names = .ok ⟨l, some (.link target)⟩) ↔
      d.at? (here ++ names) = some (.link target) := by
  induction names generalizing here with
  | nil =>
    rw [walk, List.append_nil, hhere]
    simp
  | cons n names ih =>
    obtain ⟨hn, hnames⟩ := List.forall_mem_cons.1 hdown
    have hmore (m : Location) : here ++ n :: m = (here ++ [n]) ++ m := by simp
    by_cases hlong : nameLimit < (Utf8.encode n).length
    · -- No entry of a tree has such a name.
      rw [walk_long hn.ne_dot hn.ne_dotDot (hfree.search here) hlong]
      constructor
      · rintro ⟨_, h⟩
        cases h
      · intro h
        exact absurd (hd.isProper h (List.mem_append_right here List.mem_cons_self)).short
          (Nat.not_le.2 hlong)
    · have hproper : IsProper n := ⟨hn.ne_nil, hn.ne_dot, hn.ne_dotDot, Nat.not_lt.1 hlong⟩
      rw [walk_cons (hfree.search here) hproper, hmore names]
      cases hthere : d.at? (here ++ [n]) with
      | none =>
        rw [hd.at?_eq_none hthere (List.prefix_append _ names)]
        cases names <;> simp
      | some e =>
        by_cases hlast : names = []
        · subst hlast
          rw [List.append_nil, hthere]
          cases e <;> simp [walk]
        · have hbelow (h : e ≠ .folder) : d.at? ((here ++ [n]) ++ names) ≠ some (.link target) :=
            fun hlink => h (Option.some.inj (hthere.symm.trans (hd.at?_of_append hlast hlink)))
          cases e with
          | folder =>
            refine ih hthere hnames fun m hm hne => ?_
            rw [← hmore]
            exact hdirect (n :: m) ((List.prefix_cons_inj n).2 hm) fun h => hne (List.cons.inj h).2
          | link t =>
            refine absurd hthere (hdirect [n] ((List.prefix_cons_inj n).2 List.nil_prefix) ?_ t)
            exact fun h => hlast (List.cons.inj h).2.symm
          | _ =>
            constructor
            · rintro ⟨_, h⟩
              simp [hlast] at h
            · exact fun h => absurd h (hbelow Entry.noConfusion)

/-! ### Path texts without links -/

/-- The folder that the names behind double dots are looked up from. -/
def foot (d : Disk) (rooted : Bool) (k : Nat) : Location := ancestor (d.base (pathOf rooted [])) k

/-- Some double dots, and names behind them, on a disk that they meet no link on, as far as they
are short enough to be looked up. -/
structure Tidy (d : Disk) (rooted : Bool) (k : Nat) (ns : List Text) : Prop where
  /-- There are no double dots behind a root. -/
  rootless : rooted = true → k = 0
  /-- The names are names, and lead down. -/
  named : ∀ n ∈ ns, IsName n ∧ LeadsDown n
  /-- No link stands where they lead. -/
  direct : ∀ m, m <+: ns →
    (Utf8.encode (spelled rooted (List.replicate k Path.dotDot ++ m))).length < pathLimit →
      ∀ target, d.at? (d.foot rooted k ++ m) ≠ some (.link target)

/-- A path text that was read without meeting a link. -/
def IsTidy (d : Disk) (path : Text) : Prop :=
  ∃ rooted k ns, d.Tidy rooted k ns ∧ path = spelled rooted (List.replicate k Path.dotDot ++ ns)

/-- Links are known to lead to paths without links. -/
def AreTidy (d : Disk) (known : Known) : Prop :=
  ∀ x ∈ known, ∀ found, x.2 = some found → d.IsTidy found

/-- What was read without a loop is without links. -/
structure Unlinked.IsTidy (d : Disk) (u : Unlinked) : Prop where
  path : u.complete = true → d.IsTidy u.path
  known : d.AreTidy u.known

/-- The working folder is there, on a disk that is a tree, and the user may do everything. -/
structure IsHome (d : Disk) : Prop where
  tree : d.IsTree
  free : d.IsFree
  cwd : d.at? d.cwd = some .folder

theorem IsHome.foot (hd : d.IsHome) (rooted : Bool) (k : Nat) :
    d.at? (d.foot rooted k) = some .folder := by
  have hbase : d.at? (d.base (pathOf rooted [])) = some .folder := by
    cases rooted with
    | true => exact at?_nil d
    | false => exact hd.cwd
  exact hd.tree.folder_above hbase (isPrefix_ancestor _ k)

theorem Tidy.isName (h : d.Tidy rooted k ns) :
    ∀ n ∈ List.replicate k Path.dotDot ++ ns, IsName n :=
  List.forall_mem_append.2 ⟨fun _ hn => List.eq_of_mem_replicate hn ▸ Lexical.isName_dotDot,
    fun n hn => (h.named n hn).1⟩

theorem Tidy.settled (h : d.Tidy rooted k ns) :
    Lexical.Settled rooted (List.replicate k Path.dotDot ++ ns).reverse := by
  intro n hn
  rcases List.mem_append.1 (List.mem_reverse.1 hn) with hn | hn
  · obtain ⟨hk, rfl⟩ := List.mem_replicate.1 hn
    refine .inr ⟨?_, rfl⟩
    cases rooted with
    | true => exact absurd (h.rootless rfl) hk
    | false => rfl
  · exact .inl (h.named n hn).2

/-- **A name behind a path text without links** leads to a link exactly if one stands there. -/
theorem Tidy.lstat_eq_link_iff (hd : d.IsHome) (h : d.Tidy rooted k ns) (hc : IsName c)
    (hdown : LeadsDown c) :
    d.lstat (spelled rooted (List.replicate k Path.dotDot ++ (ns ++ [c]))) = .ok (.link target) ↔
      (Utf8.encode (spelled rooted (List.replicate k Path.dotDot ++ (ns ++ [c])))).length <
          pathLimit ∧ d.at? (d.foot rooted k ++ (ns ++ [c])) = some (.link target) := by
  have hread : (pathOf rooted (List.replicate k Path.dotDot ++ (ns ++ [c]))).IsRead := by
    refine isRead_pathOf ?_
    rw [← List.append_assoc]
    exact List.forall_mem_append.2 ⟨h.isName, fun n hn => List.mem_singleton.1 hn ▸ hc⟩
  have hlocate := locate_read hread (fun _ => by simp [pathOf]) d false
  rw [text_pathOf (.inr (by simp))] at hlocate
  have hspot : d.lstat (spelled rooted (List.replicate k Path.dotDot ++ (ns ++ [c]))) =
      .ok (.link target) ↔ ∃ l, d.locate false
        (spelled rooted (List.replicate k Path.dotDot ++ (ns ++ [c]))) =
          .ok ⟨l, some (.link target)⟩ := by
    rw [lstat]
    cases d.locate false (spelled rooted (List.replicate k Path.dotDot ++ (ns ++ [c]))) with
    | error f => simp [bind, Except.bind]
    | ok spot =>
      obtain ⟨l, entry⟩ := spot
      cases entry <;>
        simp [bind, Except.bind, pure, Except.pure, throw, throwThe, MonadExceptOf.throw]
  rw [hspot, hlocate]
  by_cases hlong : pathLimit ≤
      (Utf8.encode (spelled rooted (List.replicate k Path.dotDot ++ (ns ++ [c])))).length
  · rw [if_pos hlong]
    constructor
    · rintro ⟨_, h⟩
      cases h
    · exact fun h => absurd h.1 (Nat.not_lt.2 hlong)
  · obtain ⟨jump, hwalk⟩ := resolve_eq_walk d false linkLimit
    have hnames : (pathOf rooted (List.replicate k Path.dotDot ++ (ns ++ [c]))).names =
      List.replicate k Path.dotDot ++ (ns ++ [c]) := rfl
    have hbase : d.base (pathOf rooted (List.replicate k Path.dotDot ++ (ns ++ [c]))) =
      d.base (pathOf rooted []) := rfl
    rw [if_neg hlong, hwalk, hnames, hbase, walk_dotDots hd.free, ← foot,
      walk_eq_link_iff hd.tree hd.free (hd.foot rooted k)]
    · exact (and_iff_right (Nat.not_le.1 hlong)).symm
    · exact List.forall_mem_append.2 ⟨fun n hn => (h.named n hn).2,
        fun n hn => List.mem_singleton.1 hn ▸ hdown⟩
    · intro m hm hne
      have hprefix := (List.prefix_concat_iff.1 hm).resolve_left hne
      refine h.direct m hprefix (Nat.lt_of_le_of_lt ?_ (Nat.not_le.1 hlong))
      exact Lexical.length_encode_spelled_le rooted
        ((List.prefix_append_right_inj _).2 hm)

/-- A name that is no link can be put behind. -/
theorem Tidy.concat (hd : d.IsHome) (h : d.Tidy rooted k ns) (hc : IsName c)
    (hdown : LeadsDown c)
    (hlink : ∀ target, d.lstat (spelled rooted (List.replicate k Path.dotDot ++ (ns ++ [c]))) ≠
      .ok (.link target)) : d.Tidy rooted k (ns ++ [c]) where
  rootless := h.rootless
  named := List.forall_mem_append.2 ⟨h.named, fun n hn => List.mem_singleton.1 hn ▸ ⟨hc, hdown⟩⟩
  direct m hm hshort target := by
    rcases List.prefix_concat_iff.1 hm with rfl | hm
    · exact fun hat => hlink target ((h.lstat_eq_link_iff hd hc hdown).2 ⟨hshort, hat⟩)
    · exact h.direct m hm hshort target

theorem Tidy.none (hd : d.IsHome) (hroot : rooted = true → k = 0) : d.Tidy rooted k [] where
  rootless := hroot
  named := List.forall_mem_nil _
  direct m hm _ target := by
    rw [List.prefix_nil.1 hm, List.append_nil, hd.foot]
    exact nofun

/-- **A double dot** keeps a path text without links. -/
theorem Tidy.isTidy_above (hd : d.IsHome) (h : d.Tidy rooted k ns) :
    d.IsTidy (above (spelled rooted (List.replicate k Path.dotDot ++ ns))) := by
  have habove := Lexical.above_spelled h.settled fun n hn => h.isName n (List.mem_reverse.1 hn)
  rw [List.reverse_reverse] at habove
  rw [habove]
  rcases ns.eq_nil_or_concat with rfl | ⟨ms, n, rfl⟩
  · cases rooted with
    | true =>
      obtain rfl := h.rootless rfl
      exact ⟨true, 0, [], .none hd fun _ => rfl, rfl⟩
    | false =>
      refine ⟨false, k + 1, [], .none hd Bool.noConfusion, ?_⟩
      rw [List.append_nil, List.append_nil, List.reverse_replicate, List.replicate_succ]
      cases k with
      | zero => rfl
      | succ k =>
        rw [List.replicate_succ, Lexical.push_dotDot_dotDot, ← List.replicate_succ,
          ← List.replicate_succ, List.reverse_replicate]
  · rw [List.concat_eq_append] at h ⊢
    have hn := (h.named n (by simp)).2
    refine ⟨rooted, k, ms, ⟨h.rootless, fun m hm => h.named m (List.mem_append_left _ hm),
      fun m hm => h.direct m (hm.trans (List.prefix_append ms [n]))⟩, ?_⟩
    rw [← List.append_assoc, List.reverse_append, List.reverse_singleton, List.singleton_append,
      Lexical.push_dotDot_cons hn.ne_dotDot, List.reverse_reverse]

/-! ### One name after another -/

section

variable {follow : Text → Known → Text → Except Failure Unlinked}

theorem unlinkNames_cons_idle (hc : c = [] ∨ c = Path.dot) :
    d.unlinkNames follow path known (c :: cs) = d.unlinkNames follow path known cs := by
  rw [unlinkNames, if_pos (by simpa using hc)]

theorem unlinkNames_cons_dotDot : d.unlinkNames follow path known (Path.dotDot :: cs) =
    d.unlinkNames follow (above path) known cs := by
  rw [unlinkNames, if_neg (by decide), if_pos rfl]

/-- A link is followed, unless it is known or is being followed. -/
theorem unlinkNames_cons_link (hc : LeadsDown c)
    (hnul : ¬ (Lexical.join path c).contains '\x00' = true)
    (hlink : d.lstat (Lexical.join path c) = .ok (.link target)) :
    d.unlinkNames follow path known (c :: cs) =
      match known.find? fun k => k.1 == Lexical.join path c with
      | some (_, some found) => d.unlinkNames follow found known cs
      | some (_, none) =>
        .ok ⟨Lexical.join (Lexical.join path c) (Text.joined ['/'] cs), known, false⟩
      | none =>
        match follow path ((Lexical.join path c, none) :: known) target with
        | .error f => .error f
        | .ok u =>
          if u.complete then
            d.unlinkNames follow u.path ((Lexical.join path c, some u.path) :: u.known) cs
          else .ok ⟨Lexical.join u.path (Text.joined ['/'] cs), u.known, false⟩ := by
  rw [unlinkNames, if_neg (by simp [hc.ne_nil, hc.ne_dot]), if_neg hc.ne_dotDot]
  refine (if_neg hnul).trans ?_
  generalize d.lstat (Lexical.join path c) = entry at hlink ⊢
  subst hlink
  rfl

/-- Any other name is put behind. -/
theorem unlinkNames_cons_other (hc : LeadsDown c)
    (hnul : ¬ (Lexical.join path c).contains '\x00' = true)
    (hother : ∀ target, d.lstat (Lexical.join path c) ≠ .ok (.link target)) :
    d.unlinkNames follow path known (c :: cs) =
      d.unlinkNames follow (Lexical.join path c) known cs := by
  rw [unlinkNames, if_neg (by simp [hc.ne_nil, hc.ne_dot]), if_neg hc.ne_dotDot]
  simp only [if_neg hnul]

theorem unlinkNames_cons_nul (hc : LeadsDown c)
    (hnul : (Lexical.join path c).contains '\x00' = true) :
    d.unlinkNames follow path known (c :: cs) = .error .nulInPath := by
  rw [unlinkNames, if_neg (by simp [hc.ne_nil, hc.ne_dot]), if_neg hc.ne_dotDot]
  simp only [if_pos hnul]

end

/-- Two disks with the same working folder and the same links. -/
structure SameLinks (d d' : Disk) : Prop where
  left : d.IsHome
  right : d'.IsHome
  cwd : d'.cwd = d.cwd
  links : ∀ l target, d'.at? l = some (.link target) ↔ d.at? l = some (.link target)

theorem SameLinks.foot_eq (h : SameLinks d d') (rooted : Bool) (k : Nat) :
    d'.foot rooted k = d.foot rooted k := by
  rw [foot, foot, base, base, h.cwd]

theorem SameLinks.tidy (h : SameLinks d d') (htidy : d.Tidy rooted k ns) : d'.Tidy rooted k ns where
  rootless := htidy.rootless
  named := htidy.named
  direct m hm hshort target := by
    rw [h.foot_eq, ne_eq, h.links]
    exact htidy.direct m hm hshort target

/-- Both disks see the same link behind a path text without links. -/
theorem SameLinks.lstat_iff (h : SameLinks d d') (htidy : d.Tidy rooted k ns) (hc : IsName c)
    (hdown : LeadsDown c) (target : Text) :
    d'.lstat (spelled rooted (List.replicate k Path.dotDot ++ (ns ++ [c]))) = .ok (.link target) ↔
      d.lstat (spelled rooted (List.replicate k Path.dotDot ++ (ns ++ [c]))) =
        .ok (.link target) := by
  rw [(h.tidy htidy).lstat_eq_link_iff h.right hc hdown, htidy.lstat_eq_link_iff h.left hc hdown,
    h.foot_eq, h.links]

/-- Two ways to follow links agree where no link was met before, and lead to what is without
links again. -/
def Agree (d : Disk) (follow follow' : Text → Known → Text → Except Failure Unlinked) : Prop :=
  ∀ path known target, d.IsTidy path → d.AreTidy known →
    follow' path known target = follow path known target ∧
      ∀ u, follow path known target = .ok u → u.IsTidy d

/-- Two disks read names alike behind what was read without links, and read no link then
either. -/
def ReadAlike (d d' : Disk) (follow follow' : Text → Known → Text → Except Failure Unlinked)
    (cs : List Text) : Prop :=
  ∀ path known, d.IsTidy path → d.AreTidy known →
    d'.unlinkNames follow' path known cs = d.unlinkNames follow path known cs ∧
      ∀ u, d.unlinkNames follow path known cs = .ok u → u.IsTidy d

section

variable {follow follow' : Text → Known → Text → Except Failure Unlinked}

/-- A link is followed alike. -/
theorem ReadAlike.cons_link (hrest : ReadAlike d d' follow follow' cs)
    (hfollow : Agree d follow follow') (hdown : LeadsDown c)
    (hnul : ¬ (Lexical.join path c).contains '\x00' = true) (hpath : d.IsTidy path)
    (hknown : d.AreTidy known) (hlink : d.lstat (Lexical.join path c) = .ok (.link target))
    (hlink' : d'.lstat (Lexical.join path c) = .ok (.link target)) :
    d'.unlinkNames follow' path known (c :: cs) = d.unlinkNames follow path known (c :: cs) ∧
      ∀ u, d.unlinkNames follow path known (c :: cs) = .ok u → u.IsTidy d := by
  have hloop {u v : Unlinked} (hu : u.complete = false) (hmet : d.AreTidy u.known)
      (h : (.ok u : Except Failure Unlinked) = .ok v) : v.IsTidy d := by
    obtain rfl := Except.ok.inj h
    exact ⟨fun hcomplete => Bool.noConfusion (hu.symm.trans hcomplete), hmet⟩
  rw [unlinkNames_cons_link hdown hnul hlink, unlinkNames_cons_link hdown hnul hlink']
  cases hfind : known.find? fun k => k.1 == Lexical.join path c with
  | some x =>
    obtain ⟨there, found⟩ := x
    cases found with
    | some found => exact hrest _ _ (hknown _ (List.mem_of_find?_eq_some hfind) found rfl) hknown
    | none => exact ⟨rfl, fun _ => hloop rfl hknown⟩
  | none =>
    have hmore : d.AreTidy ((Lexical.join path c, none) :: known) :=
      List.forall_mem_cons.2 ⟨fun _ hfound => (nomatch hfound), hknown⟩
    obtain ⟨hsame, hresult⟩ := hfollow path _ target hpath hmore
    simp only [hsame]
    cases hfollowed : follow path ((Lexical.join path c, none) :: known) target with
    | error f => exact ⟨rfl, fun _ hu => nomatch hu⟩
    | ok u =>
      obtain ⟨hupath, huknown⟩ := hresult u hfollowed
      cases hcomplete : u.complete with
      | true =>
        simp only [hcomplete, if_true]
        refine hrest _ _ (hupath hcomplete) (List.forall_mem_cons.2 ⟨fun _ hfound => ?_, huknown⟩)
        exact Option.some.inj hfound ▸ hupath hcomplete
      | false =>
        simp only [hcomplete, Bool.false_eq_true, if_false]
        exact ⟨trivial, fun _ => hloop rfl huknown⟩

/-- **Both disks read the same names** as the same path. -/
theorem SameLinks.readAlike (h : SameLinks d d') (hfollow : Agree d follow follow')
    (hcs : ∀ c ∈ cs, '/' ∉ c) : ReadAlike d d' follow follow' cs := by
  induction cs with
  | nil =>
    intro path known hpath hknown
    refine ⟨rfl, fun u hu => ?_⟩
    obtain rfl := Except.ok.inj hu
    exact ⟨fun _ => hpath, hknown⟩
  | cons c cs ih =>
    intro path known hpath hknown
    obtain ⟨hslash, hcs⟩ := List.forall_mem_cons.1 hcs
    have hrest := ih hcs
    obtain ⟨rooted, k, ns, htidy, hspelled⟩ := hpath
    rcases Lexical.component_cases c with hidle | rfl | hdown
    · rw [unlinkNames_cons_idle hidle, unlinkNames_cons_idle hidle]
      exact hrest _ _ ⟨rooted, k, ns, htidy, hspelled⟩ hknown
    · rw [unlinkNames_cons_dotDot, unlinkNames_cons_dotDot]
      exact hrest _ _ (hspelled ▸ htidy.isTidy_above h.left) hknown
    · have hc : IsName c := ⟨hdown.ne_nil, hdown.ne_dot, hslash⟩
      have hthere : Lexical.join path c =
          spelled rooted (List.replicate k Path.dotDot ++ (ns ++ [c])) := by
        rw [hspelled, Lexical.join_spelled htidy.isName hc, List.append_assoc]
      have hlinks (target : Text) : d'.lstat (Lexical.join path c) = .ok (.link target) ↔
          d.lstat (Lexical.join path c) = .ok (.link target) := by
        rw [hthere]
        exact h.lstat_iff htidy hc hdown target
      by_cases hnul : (Lexical.join path c).contains '\x00' = true
      · rw [unlinkNames_cons_nul hdown hnul, unlinkNames_cons_nul hdown hnul]
        exact ⟨rfl, fun _ hu => nomatch hu⟩
      by_cases hlink : ∃ target, d.lstat (Lexical.join path c) = .ok (.link target)
      · obtain ⟨target, hlink⟩ := hlink
        exact hrest.cons_link hfollow hdown hnul ⟨rooted, k, ns, htidy, hspelled⟩ hknown hlink
          ((hlinks target).2 hlink)
      · have hother : ∀ target, d.lstat (Lexical.join path c) ≠ .ok (.link target) :=
          not_exists.1 hlink
        have hother' : ∀ target, d'.lstat (Lexical.join path c) ≠ .ok (.link target) :=
          fun target htarget => hother target ((hlinks target).1 htarget)
        rw [unlinkNames_cons_other hdown hnul hother, unlinkNames_cons_other hdown hnul hother']
        exact hrest _ _
          ⟨rooted, k, ns ++ [c], htidy.concat h.left hc hdown (hthere ▸ hother), hthere⟩ hknown

end

theorem isTidy_root (hd : d.IsHome) : d.IsTidy ['/'] := ⟨true, 0, [], .none hd fun _ => rfl, rfl⟩

theorem isTidy_nil (hd : d.IsHome) : d.IsTidy [] := ⟨false, 0, [], .none hd Bool.noConfusion, rfl⟩

/-- However deep links are within links, both disks follow them alike. -/
theorem SameLinks.agree_unlink (h : SameLinks d d') (depth : Nat) :
    Agree d (unlink d depth) (unlink d' depth) := by
  induction depth with
  | zero =>
    intro path known target _ hknown
    refine ⟨rfl, fun u hu => ?_⟩
    obtain rfl := Except.ok.inj hu
    exact ⟨fun hcomplete => Bool.noConfusion hcomplete, hknown⟩
  | succ depth ih =>
    intro path known target hpath hknown
    rw [unlink, unlink]
    refine h.readAlike ih (fun c hc => Text.notMem_of_mem_pieces hc) _ _ ?_ hknown
    split
    · exact isTidy_root h.left
    · exact hpath

/-- **The same links make the same real texts.** -/
theorem SameLinks.realText_eq (h : SameLinks d d') (hdepth : d'.linkDepth = d.linkDepth)
    (p : Path) : d'.realText p = d.realText p := by
  have hunlink := (h.agree_unlink d.linkDepth [] [] p.text (isTidy_nil h.left)
    (List.forall_mem_nil _)).1
  have hcwd : d'.cwdText = d.cwdText := congrArg (fun l => '/' :: Text.joined ['/'] l) h.cwd
  have habsolute (t : Text) : d'.absoluteText t = d.absoluteText t := by
    rw [absoluteText_eq h.right.cwd, absoluteText_eq h.left.cwd, hcwd]
  simp only [realText, hdepth, hunlink, habsolute]

/-! ### Real paths -/

variable {p w : Path}

/-- A real path is what its text is read as, if that can be looked up without a loop. -/
theorem realPath_eq_ok_iff : d.realPath p = .ok w ↔
    ∃ t, d.realText p = .ok t ∧ w = Path.ofText t ∧ ¬ w.text.contains '\x00' = true ∧
      d.stat w.text ≠ .error .tooManyLinks := by
  rw [realPath]
  cases htext : d.realText p with
  | error f => simp [bind, Except.bind]
  | ok t =>
    simp only [bind, Except.bind, Except.ok.injEq, exists_eq_left']
    by_cases hnul : (Path.ofText t).text.contains '\x00' = true
    · rw [if_pos hnul]
      constructor
      · intro h
        cases h
      · rintro ⟨rfl, hplain, -⟩
        exact absurd hnul hplain
    · rw [if_neg hnul]
      constructor
      · intro h
        split at h
        · cases h
        · next hstat =>
          obtain rfl := Except.ok.inj h
          exact ⟨rfl, hnul, hstat⟩
      · rintro ⟨rfl, -, hstat⟩
        split
        · next hloop => exact absurd hloop hstat
        · rfl

/-- The names of a real path lead down. -/
theorem leadsDown_of_realPath (h : d.realPath p = .ok w) : ∀ n ∈ w.names, LeadsDown n := by
  obtain ⟨t, htext, rfl, -⟩ := realPath_eq_ok_iff.1 h
  rw [realText] at htext
  cases hunlink : unlink d d.linkDepth [] [] p.text with
  | error f => simp [hunlink, bind, Except.bind] at htext
  | ok u =>
    simp only [hunlink, bind, Except.bind] at htext
    rw [eq_absolute_of_absoluteText htext, Lexical.absolute]
    refine Lexical.leadsDown_normal ?_
    split
    · next hslash =>
      obtain ⟨rest, hrest⟩ := Option.isSome_iff_exists.1 hslash
      rw [Text.after?_eq_some_iff.1 hrest]
      rfl
    · exact Lexical.head?_join rfl _

/-- **The same links make the same real paths**, if no link is met on them. -/
theorem SameLinks.realPath_eq (h : SameLinks d d') (hdepth : d'.linkDepth = d.linkDepth)
    (hreal : d.realPath p = .ok w) (hstraight : d'.IsStraight w) : d'.realPath p = .ok w := by
  obtain ⟨t, htext, hw, hnul, -⟩ := realPath_eq_ok_iff.1 hreal
  refine realPath_eq_ok_iff.2 ⟨t, (h.realText_eq hdepth p).trans htext, hw, hnul, ?_⟩
  exact stat_ne_tooManyLinks (isRooted_of_realPath hreal).isRead hstraight

end Disk
end DocExamples
