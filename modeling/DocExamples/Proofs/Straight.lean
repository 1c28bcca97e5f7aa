/-
# Paths that meet no link

A path is made absolute in two ways.  One takes back a name for each double dot and looks at no
disk; the other looks up name after name, and follows the links that it meets.  Where it meets
none, each name that it adds or takes back is one step of the first way:

| component | text so far | the same, as names |
| --- | --- | --- |
| `..` | without its last name, or with one more double dot | `push` |
| any other | with the name behind it | `push` |

So both ways lead to the same place, whatever stands there.
-/

import DocExamples.Proofs.Components
import DocExamples.Proofs.Standing

namespace DocExamples

namespace Lexical
open Text
open DocExamples.Path (IsName)

/-! ### Names behind a root -/

/-- Names as a path text, behind a slash or behind nothing. -/
def spelled (rooted : Bool) (ns : List Text) : Text :=
  (if rooted then ['/'] else []) ++ joined ['/'] ns

/-- The last name of a path text. -/
def lastName (s : Text) : Text := (s.reverse.takeWhile (· != '/')).reverse

variable {rooted : Bool} {ns done : List Text} {front n : Text}

theorem spelled_concat (hne : ns ≠ []) (n : Text) :
    spelled rooted (ns ++ [n]) = spelled rooted ns ++ '/' :: n := by
  rw [spelled, spelled, joined_concat ['/'] hne, List.append_assoc]
  rfl

theorem spelled_singleton (n : Text) :
    spelled rooted [n] = (if rooted then ['/'] else []) ++ n := by
  rw [spelled, joined, List.intercalate_singleton]

theorem mem_spelled_concat {c : Char} (hc : c ∈ n) (ns : List Text) :
    c ∈ spelled rooted (ns ++ [n]) := by
  by_cases hne : ns = []
  · rw [hne, List.nil_append, spelled_singleton]
    exact List.mem_append_right _ hc
  · rw [spelled_concat hne]
    exact List.mem_append_right _ (List.mem_cons_of_mem _ hc)

theorem exists_getLast?_spelled (rooted : Bool) (hne : ns ≠ []) (h : ∀ n ∈ ns, IsName n) :
    ∃ c, (spelled rooted ns).getLast? = some c ∧ c ≠ '/' := by
  obtain ⟨c, hc, hslash⟩ := Path.getLast?_joined hne h
  refine ⟨c, ?_, hslash⟩
  rw [spelled, List.getLast?_append, hc]
  rfl

/-- A path text is cut before and behind its last slash. -/
theorem cut_last (hn : '/' ∉ n) (front : Text) :
    ((front ++ '/' :: n).reverse.dropWhile (· != '/')).reverse = front ++ ['/'] ∧
      lastName (front ++ '/' :: n) = n := by
  have hreverse : (front ++ '/' :: n).reverse = n.reverse ++ '/' :: front.reverse := by simp
  have hrun : ∀ c ∈ n.reverse, (c != '/') = true := fun c hc =>
    bne_iff_ne.2 fun he => hn (he ▸ List.mem_reverse.1 hc)
  have hstop : ∀ c ∈ ('/' :: front.reverse).head?, (c != '/') = false := fun c hc =>
    Option.some.inj hc ▸ rfl
  rw [lastName, hreverse, takeWhile_run hrun hstop, dropWhile_run hrun hstop]
  exact ⟨by simp, List.reverse_reverse n⟩

theorem cut_last_of_notMem (hn : '/' ∉ n) :
    (n.reverse.dropWhile (· != '/')).reverse = [] ∧ lastName n = n := by
  have hrun : ∀ c ∈ n.reverse, (c != '/') = true := fun c hc =>
    bne_iff_ne.2 fun he => hn (he ▸ List.mem_reverse.1 hc)
  have htake := takeWhile_run hrun (t := []) nofun
  have hdrop := dropWhile_run hrun (t := []) nofun
  rw [List.append_nil] at htake hdrop
  rw [lastName, htake, hdrop]
  exact ⟨rfl, List.reverse_reverse n⟩

theorem folder_append {c : Char} (hc : front.getLast? = some c) (hslash : c ≠ '/')
    (hn : '/' ∉ n) : folder (front ++ '/' :: n) = front := by
  have hall : ¬ (front ++ ['/']).all (· == '/') = true := fun hall => by
    have hmem := List.all_eq_true.1 hall c (List.mem_append_left _ (List.mem_of_getLast? hc))
    exact hslash (beq_iff_eq.1 hmem)
  have hstop : ∀ d ∈ front.reverse.head?, (d == '/') = false := fun d hd => by
    rw [List.head?_reverse, hc] at hd
    exact beq_false_of_ne (Option.some.inj hd ▸ hslash)
  have hfinal : withoutFinal '/' (front ++ ['/']) = front := by
    have hdrop : front.reverse.dropWhile (· == '/') = front.reverse :=
      dropWhile_run (List.forall_mem_nil _) hstop
    rw [withoutFinal, List.reverse_append, List.reverse_singleton, List.singleton_append,
      List.dropWhile_cons_of_pos (by rfl), hdrop, List.reverse_reverse]
  unfold folder
  simp only [(cut_last hn front).1, if_neg hall, hfinal]

/-- The last name is taken off. -/
theorem folder_spelled (h : ∀ m ∈ ns, IsName m) (hn : '/' ∉ n) :
    folder (spelled rooted (ns ++ [n])) = spelled rooted ns := by
  by_cases hne : ns = []
  · rw [hne, List.nil_append, spelled_singleton]
    cases rooted with
    | true =>
      have hhead : ((['/'] ++ n).reverse.dropWhile (· != '/')).reverse = ['/'] :=
        (cut_last hn []).1
      unfold folder
      simp only [if_true, hhead]
      rfl
    | false =>
      unfold folder
      simp only [Bool.false_eq_true, if_false, List.nil_append, (cut_last_of_notMem hn).1]
      rfl
  · obtain ⟨c, hc, hslash⟩ := exists_getLast?_spelled rooted hne h
    rw [spelled_concat hne, folder_append hc hslash hn]

theorem lastName_spelled (ns : List Text) (hn : '/' ∉ n) :
    lastName (spelled rooted (ns ++ [n])) = n := by
  by_cases hne : ns = []
  · rw [hne, List.nil_append, spelled_singleton]
    cases rooted with
    | true => exact (cut_last hn []).2
    | false => exact (cut_last_of_notMem hn).2
  · rw [spelled_concat hne]
    exact (cut_last hn _).2

/-- A name is put behind. -/
theorem join_spelled (h : ∀ m ∈ ns, IsName m) (hn : IsName n) :
    join (spelled rooted ns) n = spelled rooted (ns ++ [n]) := by
  have hstart : ¬ startsWith ['/'] n = true := fun hs => by
    obtain ⟨rest, hrest⟩ := Option.isSome_iff_exists.1 hs
    refine hn.slash_notMem ?_
    rw [after?_eq_some_iff.1 hrest]
    exact List.mem_append_left _ List.mem_cons_self
  rw [join, if_neg hstart]
  by_cases hne : ns = []
  · rw [hne, List.nil_append, spelled_singleton]
    cases rooted <;> rfl
  · obtain ⟨c, hc, hslash⟩ := exists_getLast?_spelled rooted hne h
    have hnil : spelled rooted ns ≠ [] := List.ne_nil_of_mem (List.mem_of_getLast? hc)
    rw [if_neg (by simp [hnil, hc, hslash]), spelled_concat hne]

theorem above_of_ne_nil {path : Text} (h : path ≠ []) : Disk.above path =
    if lastName path = Path.dotDot then join (join (folder path) Path.dotDot) Path.dotDot
    else folder path := by
  have hempty : path.isEmpty = false := List.isEmpty_eq_false_iff.2 h
  unfold Disk.above
  rw [hempty]
  rfl

theorem isName_dotDot : IsName Path.dotDot := by decide

/-- **A double dot** takes a name off, or stays. -/
theorem above_spelled (hsettled : Settled rooted done) (h : ∀ n ∈ done, IsName n) :
    Disk.above (spelled rooted done.reverse) =
      spelled rooted (push rooted done Path.dotDot).reverse := by
  cases done with
  | nil => cases rooted <;> rfl
  | cons n ns =>
    obtain ⟨hn, hns⟩ := List.forall_mem_cons.1 h
    have hnames : ∀ m ∈ ns.reverse, IsName m := fun m hm => hns m (List.mem_reverse.1 hm)
    have hne : spelled rooted (n :: ns).reverse ≠ [] := by
      obtain ⟨c, hc, -⟩ := exists_getLast?_spelled rooted
        (List.reverse_ne_nil_iff.2 (List.cons_ne_nil n ns)) fun m hm => h m (List.mem_reverse.1 hm)
      exact List.ne_nil_of_mem (List.mem_of_getLast? hc)
    have hlast : lastName (spelled rooted (n :: ns).reverse) = n := by
      rw [List.reverse_cons, lastName_spelled _ hn.slash_notMem]
    have hfolder : folder (spelled rooted (n :: ns).reverse) = spelled rooted ns.reverse := by
      rw [List.reverse_cons, folder_spelled hnames hn.slash_notMem]
    rw [above_of_ne_nil hne, hlast, hfolder]
    rcases (List.forall_mem_cons.1 hsettled).1 with hdown | ⟨hroot, rfl⟩
    · have hpush : push rooted (n :: ns) Path.dotDot = ns := push_dotDot_cons hdown.ne_dotDot
      rw [if_neg hdown.ne_dotDot, hpush]
    · have hmore : ∀ m ∈ ns.reverse ++ [Path.dotDot], IsName m :=
        List.forall_mem_append.2 ⟨hnames, fun m hm => List.mem_singleton.1 hm ▸ isName_dotDot⟩
      rw [if_pos rfl, join_spelled hnames isName_dotDot, join_spelled hmore isName_dotDot,
        push_dotDot_dotDot, List.reverse_cons, List.reverse_cons]

end Lexical

namespace Disk
open Lexical (visit)
open DocExamples.Path (IsName)

variable {d : Disk} {p : Path} {here : Location} {names : List Text}

/-! ### Lookups without links -/

/-- The place that a path leads to, if no link is met. -/
def place (d : Disk) (p : Path) : Location := p.names.foldl visit (d.base p)

/-- No link is met on the way of a path. -/
def IsStraight (d : Disk) (p : Path) : Prop :=
  ∀ ns, ns <+: p.names → ∀ target, d.at? (ns.foldl visit (d.base p)) ≠ some (.link target)

/-- On a disk without links, no link is met. -/
theorem isStraight_of_entries (h : ∀ x ∈ d.entries, x.2.isLink = false) (p : Path) :
    d.IsStraight p := by
  intro ns _ target hlink
  by_cases hroot : ns.foldl visit (d.base p) = []
  · rw [hroot, at?_nil] at hlink
    exact nomatch hlink
  · exact Bool.noConfusion (h _ (mem_of_at? hlink hroot))

/-- A lookup that met no link: it ended at something else, or failed for another reason than too
many links. -/
def Unlinked? (r : Except Fault Spot) : Prop :=
  match r with
  | .ok spot => ∀ target, spot.entry ≠ some (.link target)
  | .error f => f ≠ .tooManyLinks

/-- **A lookup goes from place to place** and does not end at a link, if there is none. -/
theorem unlinked_walk (hnames : ∀ n ∈ names, n ≠ [])
    (h : ∀ ns, ns <+: names → ∀ target, d.at? (ns.foldl visit here) ≠ some (.link target))
    (jump : Location → List Text → Except Fault Spot) (follow : Bool) :
    Unlinked? (d.walk jump follow here names) := by
  induction names generalizing here with
  | nil => exact fun target htarget => Entry.noConfusion (Option.some.inj htarget)
  | cons n names ih =>
    obtain ⟨hn, hrest⟩ := List.forall_mem_cons.1 hnames
    have hmore : ∀ ns, ns <+: names → ∀ target,
        d.at? (ns.foldl visit (visit here n)) ≠ some (.link target) := fun ns hns =>
      h (n :: ns) ((List.prefix_cons_inj n).2 hns)
    cases d.asks here n with
    | skip => exact absurd rfl hn
    | barred _ hsearch =>
      rw [walk_barred hn hsearch]
      exact Fault.noConfusion
    | stay hsearch =>
      rw [Lexical.visit_of_idle (.inr rfl)] at hmore
      rw [walk_dot hsearch]
      exact ih hrest hmore
    | up hsearch =>
      rw [Lexical.visit_dotDot] at hmore
      rw [walk_dotDot hsearch]
      exact ih hrest hmore
    | long hdot hdotDot hsearch hlong =>
      rw [walk_long hdot hdotDot hsearch hlong]
      exact Fault.noConfusion
    | proper hsearch hproper =>
      have hdown : Lexical.LeadsDown n := ⟨hn, hproper.ne_dot, hproper.ne_dotDot⟩
      rw [hdown.visit] at hmore
      rw [walk_cons hsearch hproper]
      split
      · split
        · exact fun _ => (Option.some_ne_none _).symm
        · exact Fault.noConfusion
      · exact ih hrest hmore
      · next target hlink => exact absurd hlink (hmore [] List.nil_prefix target)
      · next e hlink he =>
        split
        · exact fun target htarget => hlink target (Option.some.inj htarget)
        · exact Fault.noConfusion

theorem unlinked_locate (hp : p.IsRead) (h : d.IsStraight p) (follow : Bool) :
    Unlinked? (d.locate follow p.text) := by
  by_cases hsome : p.root = [] → p.names ≠ []
  · rw [locate_read hp hsome]
    split
    · exact Fault.noConfusion
    · obtain ⟨jump, hwalk⟩ := resolve_eq_walk d follow linkLimit
      rw [hwalk]
      exact unlinked_walk (fun n hn => (hp.names n hn).ne_nil) h jump follow
  · obtain ⟨hroot, hnames⟩ : p.root = [] ∧ p.names = [] := by simpa using hsome
    have htext : p.text = Path.dot := by simp [Path.text, hroot, hnames]
    rw [htext, locate_dot]
    split
    · exact fun target htarget => Entry.noConfusion (Option.some.inj htarget)
    · exact Fault.noConfusion

theorem lstat_ne_link (hp : p.IsRead) (h : d.IsStraight p) (target : Text) :
    d.lstat p.text ≠ .ok (.link target) := by
  intro hlstat
  have hunlinked := unlinked_locate hp h false
  cases hlocate : d.locate false p.text with
  | error f => simp [lstat, hlocate, bind, Except.bind] at hlstat
  | ok spot =>
    rw [hlocate] at hunlinked
    cases hentry : spot.entry with
    | none =>
      simp [lstat, hlocate, hentry, bind, Except.bind, throw, throwThe, MonadExceptOf.throw]
        at hlstat
    | some e =>
      simp only [lstat, hlocate, hentry, bind, Except.bind, pure, Except.pure] at hlstat
      exact hunlinked target (hentry.trans (congrArg some (Except.ok.inj hlstat)))

theorem stat_ne_tooManyLinks (hp : p.IsRead) (h : d.IsStraight p) :
    d.stat p.text ≠ .error .tooManyLinks := by
  intro hstat
  have hunlinked := unlinked_locate hp h true
  cases hlocate : d.locate true p.text with
  | error f =>
    rw [hlocate] at hunlinked
    simp only [stat, hlocate, bind, Except.bind] at hstat
    exact hunlinked (Except.error.inj hstat)
  | ok spot =>
    cases hentry : spot.entry with
    | none =>
      simp [stat, hlocate, hentry, bind, Except.bind, throw, throwThe, MonadExceptOf.throw] at hstat
    | some e => simp [stat, hlocate, hentry, bind, Except.bind, pure, Except.pure] at hstat

/-! ### Names added to a path -/

/-- Names as a path, behind a slash or behind nothing. -/
def pathOf (rooted : Bool) (ns : List Text) : Path := ⟨if rooted then ['/'] else [], ns⟩

variable {rooted : Bool} {done cs : List Text} {c : Text}

theorem text_pathOf {ns : List Text} (h : rooted = true ∨ ns ≠ []) :
    (pathOf rooted ns).text = Lexical.spelled rooted ns := by
  have hempty : ((pathOf rooted ns).root.isEmpty && (pathOf rooted ns).names.isEmpty) = false := by
    cases rooted with
    | true => rfl
    | false => simpa [pathOf] using h
  rw [Path.text, hempty]
  rfl

theorem isRead_pathOf {ns : List Text} (h : ∀ n ∈ ns, IsName n) : (pathOf rooted ns).IsRead where
  root := by cases rooted <;> simp [pathOf]
  names := h

/-- Settled names (reversed) on the way of which no link is met. -/
structure Reached (d : Disk) (rooted : Bool) (done : List Text) : Prop where
  /-- None of them can be taken back. -/
  settled : Lexical.Settled rooted done
  /-- They are names, and have no NUL. -/
  named : ∀ n ∈ done, IsName n ∧ '\x00' ∉ n
  /-- No link is met. -/
  straight : d.IsStraight (pathOf rooted done.reverse)

theorem place_push (h : Reached d rooted done) (c : Text) :
    d.place (pathOf rooted (Lexical.push rooted done c).reverse) =
      visit (d.place (pathOf rooted done.reverse)) c := by
  have hbase : rooted = true → d.base (pathOf rooted []) = [] := by
    rintro rfl
    rfl
  exact (Lexical.push_step h.settled hbase c).2

/-- **One component more**, which does not lead to a link. -/
theorem Reached.push (h : Reached d rooted done) (hc : '/' ∉ c ∧ '\x00' ∉ c)
    (hfree : ∀ target, d.at? (visit (d.place (pathOf rooted done.reverse)) c) ≠
      some (.link target)) : Reached d rooted (Lexical.push rooted done c) where
  settled := (Lexical.push_step h.settled (fun _ => @rfl _ ([] : List Text)) c).1
  named := by
    rcases Lexical.push_cases rooted done c with hsuffix | ⟨hidle, hpush⟩
    · exact fun n hn => h.named n (hsuffix.mem hn)
    · rw [hpush]
      exact List.forall_mem_cons.2
        ⟨⟨⟨fun hnil => hidle (.inl hnil), fun hdot => hidle (.inr hdot), hc.1⟩, hc.2⟩, h.named⟩
  straight := by
    intro ns hns target
    rcases Lexical.push_cases rooted done c with hsuffix | ⟨-, hpush⟩
    · exact h.straight ns (hns.trans (List.reverse_prefix.2 hsuffix)) target
    · have hplace := place_push h c
      rw [hpush, List.reverse_cons] at hplace
      rw [hpush, pathOf, List.reverse_cons] at hns
      rcases List.prefix_concat_iff.1 hns with rfl | hns
      · exact fun hlink => hfree target (hplace ▸ hlink)
      · exact h.straight ns hns target

/-- A component that does not lead to a link is one step on path texts, too. -/
theorem Reached.unlinkNames_cons (h : Reached d rooted done)
    (hpush : Reached d rooted (Lexical.push rooted done c)) (hslash : '/' ∉ c)
    (follow : Text → Known → Text → Except Failure Unlinked) (known : Known) :
    d.unlinkNames follow (Lexical.spelled rooted done.reverse) known (c :: cs) =
      d.unlinkNames follow (Lexical.spelled rooted (Lexical.push rooted done c).reverse) known
        cs := by
  rw [unlinkNames]
  rcases Lexical.component_cases c with hidle | rfl | hdown
  · rw [if_pos (by simpa using hidle), Lexical.push_of_idle hidle]
  · rw [if_neg (by decide), if_pos rfl,
      Lexical.above_spelled h.settled fun n hn => (h.named n hn).1]
  · have hnames : ∀ n ∈ done.reverse, IsName n := fun n hn =>
      (h.named n (List.mem_reverse.1 hn)).1
    have hspelled : (pathOf rooted (Lexical.push rooted done c).reverse).text =
        Lexical.spelled rooted (Lexical.push rooted done c).reverse := by
      rw [hdown.push, text_pathOf (.inr (by simp))]
    have hthere : Lexical.join (Lexical.spelled rooted done.reverse) c =
        (pathOf rooted (Lexical.push rooted done c).reverse).text := by
      rw [Lexical.join_spelled hnames ⟨hdown.ne_nil, hdown.ne_dot, hslash⟩, hspelled, hdown.push,
        List.reverse_cons]
    have hread : (pathOf rooted (Lexical.push rooted done c).reverse).IsRead :=
      isRead_pathOf fun n hn => (hpush.named n (List.mem_reverse.1 hn)).1
    have hnul : (pathOf rooted (Lexical.push rooted done c).reverse).text.contains '\x00' =
        false := by
      rw [List.contains_eq_mem, decide_eq_false_iff_not]
      exact hread.nul_notMem_text fun n hn => (hpush.named n (List.mem_reverse.1 hn)).2
    rw [if_neg (by simp [hdown.ne_nil, hdown.ne_dot]), if_neg hdown.ne_dotDot]
    simp only [hthere, hnul, Bool.false_eq_true, if_false]
    split
    · next target hlink => exact absurd hlink (lstat_ne_link hread hpush.straight target)
    · rw [hspelled]

/-- **Names are added to a path text** without looking at anything but links, of which there are
none. -/
theorem Reached.exists_unlinkNames (h : Reached d rooted done)
    (hcs : ∀ c ∈ cs, '/' ∉ c ∧ '\x00' ∉ c)
    (hfree : ∀ ns, ns <+: cs → ∀ target,
      d.at? (ns.foldl visit (d.place (pathOf rooted done.reverse))) ≠ some (.link target))
    (follow : Text → Known → Text → Except Failure Unlinked) (known : Known) :
    ∃ final, Reached d rooted final ∧
      d.place (pathOf rooted final.reverse) =
        cs.foldl visit (d.place (pathOf rooted done.reverse)) ∧
      d.unlinkNames follow (Lexical.spelled rooted done.reverse) known cs =
        .ok ⟨Lexical.spelled rooted final.reverse, known, true⟩ := by
  induction cs generalizing done with
  | nil => exact ⟨done, h, rfl, rfl⟩
  | cons c cs ih =>
    obtain ⟨hc, hcs⟩ := List.forall_mem_cons.1 hcs
    have hplace := place_push h c
    have hpush : Reached d rooted (Lexical.push rooted done c) :=
      h.push hc fun target => hfree [c] ((List.prefix_cons_inj c).2 List.nil_prefix) target
    have hmore : ∀ ns, ns <+: cs → ∀ target,
        d.at? (ns.foldl visit (d.place (pathOf rooted (Lexical.push rooted done c).reverse))) ≠
          some (.link target) := fun ns hns => by
      rw [hplace]
      exact hfree (c :: ns) ((List.prefix_cons_inj c).2 hns)
    obtain ⟨final, hfinal, hat, hunlink⟩ := ih hpush hcs hmore
    refine ⟨final, hfinal, ?_, ?_⟩
    · rw [hat, hplace, List.foldl_cons]
    · rw [h.unlinkNames_cons hpush hc.1, hunlink]

/-! ### Path texts and places -/

theorem rootOf_eq_nil {s : Text} (h : s.head? ≠ some '/') : Path.rootOf s = [] := by
  unfold Path.rootOf
  split <;> simp_all

/-- Names behind a root are read back. -/
theorem ofText_spelled {ns : List Text} (h : ∀ n ∈ ns, IsName n) :
    Path.ofText (Lexical.spelled rooted ns) = pathOf rooted ns := by
  have hhead := Path.head?_joined h
  cases rooted with
  | true =>
    have hroot : Path.rootOf (Lexical.spelled true ns) = ['/'] := Lexical.rootOf_cons hhead
    have hnames : Path.namesOf (Lexical.spelled true ns) = ns := Path.namesOf_joined h
    rw [Path.ofText, hroot, hnames]
    rfl
  | false =>
    have hroot : Path.rootOf (Lexical.spelled false ns) = [] := rootOf_eq_nil hhead
    have hnames : Path.namesOf (Lexical.spelled false ns) = ns := Path.namesOf_joined h
    rw [Path.ofText, hroot, hnames]
    rfl

variable {s n : Text}

/-- The names of a working folder that is there. -/
theorem named_cwd (hd : d.IsSound) (hcwd : d.at? d.cwd = some .folder) :
    ∀ n ∈ d.cwd, (IsName n ∧ '\x00' ∉ n) ∧ Lexical.LeadsDown n := by
  intro n hn
  have hmem := mem_of_at? hcwd (List.ne_nil_of_mem hn)
  obtain ⟨hname, hnul⟩ := hd.named _ hmem n hn
  exact ⟨⟨hname, hnul⟩, hname.ne_nil, hname.ne_dot, (hd.tree.proper _ hmem n hn).ne_dotDot⟩

theorem leadsDown_base (hcwd : ∀ n ∈ d.cwd, Lexical.LeadsDown n) (p : Path) :
    ∀ n ∈ d.base p, Lexical.LeadsDown n := by
  rw [base]
  split
  · exact hcwd
  · exact List.forall_mem_nil _

/-- The place that a path leads to is led to from the root. -/
theorem place_eq_way (hcwd : ∀ n ∈ d.cwd, Lexical.LeadsDown n) (p : Path) :
    d.place p = Lexical.way (d.base p ++ p.names) := by
  rw [Lexical.way_append, Lexical.way_of_leadsDown (leadsDown_base hcwd p), place]

/-- The names of a place are names of the folder where the path starts, or of the path. -/
theorem forall_place {P : Text → Prop} (hcwd : ∀ n ∈ d.cwd, P n ∧ Lexical.LeadsDown n)
    (hp : ∀ n ∈ p.names, P n) : ∀ n ∈ d.place p, P n ∧ Lexical.LeadsDown n := by
  intro n hn
  rw [place_eq_way fun n hn => (hcwd n hn).2] at hn
  obtain ⟨hmem, hdown⟩ := Lexical.mem_and_leadsDown_of_mem_way hn
  refine ⟨?_, hdown⟩
  rcases List.mem_append.1 hmem with hn | hn
  · rw [base] at hn
    split at hn
    · exact (hcwd n hn).1
    · exact absurd hn List.not_mem_nil
  · exact hp n hn

/-- **The absolute form of a path text** spells the place that it leads to. -/
theorem absolute_eq (hcwd : ∀ n ∈ d.cwd, IsName n ∧ Lexical.LeadsDown n)
    (hs : Path.rootOf s ≠ ['/', '/']) :
    Lexical.absolute d.cwdText s = Lexical.spelled true (d.place (Path.ofText s)) := by
  by_cases hhead : s.head? = some '/'
  · have hroot : Path.rootOf s = ['/'] :=
      ((Path.rootOf_eq s).resolve_left (Path.rootOf_ne_nil hhead)).resolve_right hs
    have hstart : Text.startsWith ['/'] s = true := by
      obtain ⟨t, rfl⟩ := List.head?_eq_some_iff.1 hhead
      rfl
    have hbase : d.base (Path.ofText s) = [] := if_neg (Path.rootOf_ne_nil hhead)
    rw [Lexical.absolute, if_pos hstart, Lexical.normal_eq hroot, Lexical.way,
      Lexical.foldl_visit_pieces, place, hbase]
    rfl
  · have hnames : ∀ n ∈ d.cwd, IsName n := fun n hn => (hcwd n hn).1
    have hway : Lexical.way (Text.pieces '/' d.cwdText) = d.cwd := by
      have hread : Path.namesOf d.cwdText = d.cwd := Path.namesOf_joined hnames
      rw [Lexical.way, Lexical.foldl_visit_pieces, hread]
      exact Lexical.way_of_leadsDown fun n hn => (hcwd n hn).2
    have hbase : d.base (Path.ofText s) = d.cwd := if_pos (rootOf_eq_nil hhead)
    have hroot : Path.rootOf (Lexical.join d.cwdText s) = ['/'] :=
      Lexical.rootOf_join (Path.head?_joined hnames) hhead
    rw [Lexical.absolute, if_neg (Lexical.not_startsWith_slash hhead), Lexical.normal_eq hroot,
      Lexical.way_pieces_join hhead, Lexical.way_append, hway, Lexical.foldl_visit_pieces, place,
      hbase]
    rfl

/-! ### Real paths -/

/-- What is read of a path text, one component after another, is what its names are. -/
theorem exists_components (hs : Path.rootOf s ≠ ['/', '/']) :
    ∃ rooted, (Path.ofText s).root = (pathOf rooted []).root ∧
      Text.startsWith ['/'] (Path.ofText s).text = rooted ∧
      Path.namesOf (if rooted then (Path.ofText s).text.drop 1 else (Path.ofText s).text) =
        (Path.ofText s).names := by
  have hread : Path.namesOf (Path.ofText s).text = (Path.ofText s).names :=
    congrArg Path.names (Path.ofText_text s)
  rcases Path.rootOf_eq s with hroot | hroot | hroot
  · refine ⟨false, hroot, ?_, hread⟩
    rw [Bool.eq_false_iff]
    refine Lexical.not_startsWith_slash fun hhead => ?_
    refine Path.rootOf_ne_nil hhead ?_
    have hagain : Path.rootOf (Path.ofText s).text = Path.rootOf s :=
      congrArg Path.root (Path.ofText_text s)
    rw [hagain, hroot]
  · have hrooted : (Path.ofText s).IsRooted := ⟨.inl hroot, fun _ => Path.isName_of_mem_namesOf⟩
    have htext : (Path.ofText s).text = '/' :: Text.joined ['/'] (Path.ofText s).names := by
      rw [hrooted.text_eq]
      exact congrArg (· ++ _) hroot
    refine ⟨true, hroot, by rw [htext]; rfl, ?_⟩
    rw [htext] at hread ⊢
    exact hread
  · exact absurd hroot hs

/-- Where no link is met, following links ends at the place that the names lead to. -/
theorem exists_unlink (hs : Path.rootOf s ≠ ['/', '/']) (hnul : '\x00' ∉ s)
    (hstraight : d.IsStraight (Path.ofText s)) :
    ∃ rooted final, Reached d rooted final ∧
      d.place (pathOf rooted final.reverse) = d.place (Path.ofText s) ∧
      unlink d d.linkDepth [] [] (Path.ofText s).text =
        .ok ⟨Lexical.spelled rooted final.reverse, [], true⟩ := by
  obtain ⟨rooted, hroot, hstart, hnames⟩ := exists_components hs
  have hbase : d.base (pathOf rooted []) = d.base (Path.ofText s) := by rw [base, base, hroot]
  have hnone : Reached d rooted [] := by
    refine ⟨List.forall_mem_nil _, List.forall_mem_nil _, fun ns hns target => ?_⟩
    rw [List.prefix_nil.1 hns]
    exact hbase ▸ hstraight [] List.nil_prefix target
  -- The components are those of a part of the text.
  let t := if rooted then (Path.ofText s).text.drop 1 else (Path.ofText s).text
  have hplain : '\x00' ∉ t := by
    have htext := Path.notMem_text (by decide) (by decide) hnul
    simp only [t]
    split
    · exact fun hmem => htext (List.mem_of_mem_drop hmem)
    · exact htext
  have hcs : ∀ c ∈ Text.pieces '/' t, '/' ∉ c ∧ '\x00' ∉ c := fun c hc =>
    ⟨Text.notMem_of_mem_pieces hc, fun hmem => hplain (Text.mem_of_mem_pieces hc hmem)⟩
  have hfree : ∀ ns, ns <+: Text.pieces '/' t → ∀ target,
      d.at? (ns.foldl visit (d.place (pathOf rooted [].reverse))) ≠ some (.link target) := by
    intro ns hns target
    have hprefix := hns.filter fun n => !n.isEmpty && n != Path.dot
    rw [← Path.namesOf, hnames] at hprefix
    have hplace : d.place (pathOf rooted [].reverse) = d.base (Path.ofText s) := hbase
    rw [hplace, ← Lexical.foldl_visit_filter]
    exact hstraight _ hprefix target
  obtain ⟨final, hfinal, hplace, hunlink⟩ := hnone.exists_unlinkNames hcs hfree
    (unlink d ((d.entries.countP fun e => e.2.isLink) * (d.cwd.length + 2))) []
  refine ⟨rooted, final, hfinal, ?_, ?_⟩
  · rw [hplace, Lexical.foldl_visit_pieces, hnames]
    exact congrArg (List.foldl visit · (Path.ofText s).names) hbase
  · rw [← hunlink, linkDepth, unlink, hstart]
    cases rooted <;> rfl

/-- Where the working folder is there, every path text can be made absolute. -/
theorem absoluteText_eq (hthere : d.at? d.cwd = some .folder) (t : Text) :
    d.absoluteText t = .ok (Lexical.absolute d.cwdText t) := by
  rw [absoluteText, whereabouts, if_pos hthere]
  split <;> rfl

/-- **Making a path real** leads to the place that its names lead to, if no link is met. -/
theorem realText_eq (hthere : d.at? d.cwd = some .folder)
    (hcwd : ∀ n ∈ d.cwd, IsName n ∧ Lexical.LeadsDown n)
    (hs : Path.rootOf s ≠ ['/', '/']) (hnul : '\x00' ∉ s)
    (hstraight : d.IsStraight (Path.ofText s)) :
    d.realText (Path.ofText s) = .ok (Lexical.spelled true (d.place (Path.ofText s))) := by
  obtain ⟨rooted, final, hfinal, hplace, hunlink⟩ := exists_unlink hs hnul hstraight
  have hread : Path.ofText (Lexical.spelled rooted final.reverse) = pathOf rooted final.reverse :=
    ofText_spelled fun n hn => (hfinal.named n (List.mem_reverse.1 hn)).1
  have hslash : Path.rootOf (Lexical.spelled rooted final.reverse) ≠ ['/', '/'] := by
    have hrootOf : Path.rootOf (Lexical.spelled rooted final.reverse) =
        (pathOf rooted final.reverse).root := congrArg Path.root hread
    rw [hrootOf]
    cases rooted with
    | true => exact fun h => absurd (List.cons.inj h).2 (List.cons_ne_nil _ _).symm
    | false => exact (List.cons_ne_nil _ _).symm
  simp only [realText, hunlink, bind, Except.bind]
  rw [absoluteText_eq hthere, absolute_eq hcwd hslash, hread, hplace]

/-- The place of a path on the way of which no link is met is led to without meeting one. -/
theorem isStraight_place (hd : d.IsSound) (hcwd : d.at? d.cwd = some .folder)
    (h : d.IsStraight p) : d.IsStraight (pathOf true (d.place p)) := by
  have hdown : ∀ n ∈ d.cwd, Lexical.LeadsDown n := fun n hn => (named_cwd hd hcwd n hn).2
  have hbase : ∀ ns, ns <+: d.base p → d.at? ns = some .folder := by
    intro ns hns
    rw [base] at hns
    split at hns
    · exact hd.tree.folder_above hcwd hns
    · rw [List.prefix_nil.1 hns, at?_nil]
  intro ns hns target
  have hplace := place_eq_way hdown p
  have hown : ns.foldl visit (d.base (pathOf true (d.place p))) = ns := by
    refine Lexical.way_of_leadsDown fun n hn => ?_
    have hmem := hns.mem hn
    rw [pathOf, hplace] at hmem
    exact (Lexical.mem_and_leadsDown_of_mem_way hmem).2
  rw [pathOf, hplace] at hns
  obtain ⟨cs, hcs, hway⟩ := Lexical.exists_prefix_of_prefix_way hns
  rw [hown, ← hway]
  rcases List.prefix_or_prefix_of_prefix hcs (List.prefix_append (d.base p) p.names) with hcs | hcs
  · -- Above the folder where the path starts, all are folders.
    rw [Lexical.way_of_leadsDown fun n hn => leadsDown_base hdown p n (hcs.mem hn), hbase cs hcs]
    exact fun hlink => Entry.noConfusion (Option.some.inj hlink)
  · obtain ⟨k, rfl⟩ := hcs
    rw [List.prefix_append_right_inj] at hcs
    rw [Lexical.way_append, Lexical.way_of_leadsDown (leadsDown_base hdown p)]
    exact h k hcs target

/-- **The real path of a path** is the place that its names lead to, if no link is met. -/
theorem realPath_eq (hd : d.IsSound) (hcwd : d.at? d.cwd = some .folder)
    (hs : Path.rootOf s ≠ ['/', '/']) (hnul : '\x00' ∉ s)
    (hstraight : d.IsStraight (Path.ofText s)) :
    d.realPath (Path.ofText s) = .ok (pathOf true (d.place (Path.ofText s))) := by
  have hcwdNames := named_cwd hd hcwd
  have hnamed : ∀ n ∈ d.place (Path.ofText s), (IsName n ∧ '\x00' ∉ n) ∧ Lexical.LeadsDown n := by
    refine forall_place hcwdNames fun n hn => ⟨Path.isName_of_mem_namesOf hn, fun hmem => ?_⟩
    exact hnul (Text.mem_of_mem_pieces (List.mem_filter.1 hn).1 hmem)
  have hread : (pathOf true (d.place (Path.ofText s))).IsRead :=
    isRead_pathOf fun n hn => (hnamed n hn).1.1
  have hreal := realText_eq hcwd (fun n hn => ⟨(hcwdNames n hn).1.1, (hcwdNames n hn).2⟩) hs hnul
    hstraight
  have hplain : (pathOf true (d.place (Path.ofText s))).text.contains '\x00' = false := by
    rw [List.contains_eq_mem, decide_eq_false_iff_not]
    exact hread.nul_notMem_text fun n hn => (hnamed n hn).1.2
  simp only [realPath, hreal, bind, Except.bind, ofText_spelled fun n hn => (hnamed n hn).1.1,
    hplain, Bool.false_eq_true, if_false]
  have hstat := stat_ne_tooManyLinks hread (isStraight_place hd hcwd hstraight)
  split
  · next h => exact absurd h hstat
  · rfl

end Disk
end DocExamples
