/-
# Where the components of a path lead

The components of a path text lead from a folder to a place, with no disk in sight:

| component | leads |
| --- | --- |
| empty, `.` | nowhere else |
| `..` | to the folder above; from the root, nowhere else |
| any other | down to that name |

The normal form of a rooted path text names the place that its components lead to.  Without a
root it keeps the double dots that nothing is left for, and so leads to the same place from every
folder.
-/

import DocExamples.Path.Lexical
import DocExamples.Proofs.PathText
import Mathlib.Data.List.Induction

namespace DocExamples
namespace Lexical
open Text

/-! ### Places -/

/-- The place that a component leads to. -/
def visit (place : List Text) (c : Text) : List Text :=
  if c = [] ∨ c = Path.dot then place
  else if c = Path.dotDot then place.dropLast
  else place ++ [c]

/-- The place that components lead to from the root. -/
def way (cs : List Text) : List Text := cs.foldl visit []

/-- A component that leads down. -/
structure LeadsDown (c : Text) : Prop where
  ne_nil : c ≠ []
  ne_dot : c ≠ Path.dot
  ne_dotDot : c ≠ Path.dotDot

variable {place cs ns done : List Text} {c n s folder : Text} {rooted : Bool}

theorem visit_of_idle (h : c = [] ∨ c = Path.dot) : visit place c = place := if_pos h

@[simp] theorem visit_dotDot : visit place Path.dotDot = place.dropLast := rfl

theorem LeadsDown.visit (h : LeadsDown c) : visit place c = place ++ [c] := by
  rw [Lexical.visit, if_neg (not_or.2 ⟨h.ne_nil, h.ne_dot⟩), if_neg h.ne_dotDot]

/-- Every component leads nowhere else, or up, or down. -/
theorem component_cases (c : Text) : (c = [] ∨ c = Path.dot) ∨ c = Path.dotDot ∨ LeadsDown c := by
  by_cases hidle : c = [] ∨ c = Path.dot
  · exact .inl hidle
  · by_cases hup : c = Path.dotDot
    · exact .inr (.inl hup)
    · exact .inr (.inr ⟨fun h => hidle (.inl h), fun h => hidle (.inr h), hup⟩)

theorem way_append (cs ds : List Text) : way (cs ++ ds) = ds.foldl visit (way cs) :=
  List.foldl_append

theorem foldl_concat (cs : List Text) (c : Text) :
    (cs ++ [c]).foldl visit place = visit (cs.foldl visit place) c :=
  List.foldl_append

theorem way_concat (cs : List Text) (c : Text) : way (cs ++ [c]) = visit (way cs) c :=
  foldl_concat cs c

/-- Components that all lead down lead to each other's names. -/
theorem foldl_visit_of_leadsDown (h : ∀ n ∈ ns, LeadsDown n) :
    ns.foldl visit place = place ++ ns := by
  induction ns generalizing place with
  | nil => exact (List.append_nil place).symm
  | cons n ns ih =>
    obtain ⟨hn, hns⟩ := List.forall_mem_cons.1 h
    rw [List.foldl_cons, hn.visit, ih hns, List.append_assoc]
    rfl

theorem way_of_leadsDown (h : ∀ n ∈ ns, LeadsDown n) : way ns = ns :=
  foldl_visit_of_leadsDown h

/-- The names of a place are components that lead down. -/
theorem mem_and_leadsDown_of_mem_way (h : n ∈ way cs) : n ∈ cs ∧ LeadsDown n := by
  induction cs using List.reverseRecOn with
  | nil => exact absurd h List.not_mem_nil
  | append_singleton cs c ih =>
    have hmore (hn : n ∈ way cs) : n ∈ cs ++ [c] ∧ LeadsDown n :=
      ⟨List.mem_append_left _ (ih hn).1, (ih hn).2⟩
    rw [way_concat] at h
    rcases component_cases c with hc | rfl | hc
    · rw [visit_of_idle hc] at h
      exact hmore h
    · exact hmore ((List.dropLast_sublist _).mem h)
    · rw [hc.visit] at h
      rcases List.mem_append.1 h with h | h
      · exact hmore h
      · obtain rfl := List.mem_singleton.1 h
        exact ⟨List.mem_append_right _ h, hc⟩

/-- Whatever leads to a place leads through all places above it. -/
theorem exists_prefix_of_prefix_way {k : List Text} (h : k <+: way cs) :
    ∃ ds, ds <+: cs ∧ way ds = k := by
  induction cs using List.reverseRecOn with
  | nil => exact ⟨[], List.prefix_rfl, (List.prefix_nil.1 h).symm⟩
  | append_singleton cs c ih =>
    have hmore (hk : k <+: way cs) : ∃ ds, ds <+: cs ++ [c] ∧ way ds = k := by
      obtain ⟨ds, hds, hway⟩ := ih hk
      exact ⟨ds, hds.trans (List.prefix_append cs [c]), hway⟩
    rw [way_concat] at h
    rcases component_cases c with hc | rfl | hc
    · rw [visit_of_idle hc] at h
      exact hmore h
    · exact hmore (h.trans (List.dropLast_prefix _))
    · rw [hc.visit] at h
      rcases List.prefix_concat_iff.1 h with rfl | h
      · exact ⟨cs ++ [c], List.prefix_rfl, by rw [way_concat, hc.visit]⟩
      · exact hmore h

/-! ### Normal forms -/

/-- Components (reversed) of which nothing can be taken back: those that lead down, and double
dots where there is no root. -/
def Settled (rooted : Bool) (done : List Text) : Prop :=
  ∀ c ∈ done, LeadsDown c ∨ rooted = false ∧ c = Path.dotDot

theorem Settled.leadsDown (h : Settled true done) : ∀ n ∈ done, LeadsDown n := fun n hn =>
  (h n hn).resolve_right fun hroot => Bool.noConfusion hroot.1

theorem push_of_idle (h : c = [] ∨ c = Path.dot) : push rooted done c = done := by
  have hskip : (c.isEmpty || c == Path.dot) = true := by simpa using h
  unfold push
  exact if_pos hskip

theorem LeadsDown.push (h : LeadsDown c) : push rooted done c = c :: done := by
  have hskip : ¬ (c.isEmpty || c == Path.dot) = true := by simp [h.ne_nil, h.ne_dot]
  have hdown : (c != Path.dotDot) = true := by simp [h.ne_dotDot]
  unfold Lexical.push
  exact (if_neg hskip).trans (if_pos hdown)

/-- A double dot takes back a name. -/
theorem push_dotDot_cons (h : n ≠ Path.dotDot) : push rooted (n :: ns) Path.dotDot = ns := by
  have hne : ¬ (n == Path.dotDot) = true := by simpa using h
  exact if_neg hne

/-- A double dot does not take back another one. -/
theorem push_dotDot_dotDot : push rooted (Path.dotDot :: ns) Path.dotDot =
    Path.dotDot :: Path.dotDot :: ns := rfl

/-- One component more is taken in, or taken off together with a name. -/
theorem push_cases (rooted : Bool) (done : List Text) (c : Text) :
    push rooted done c <:+ done ∨
      ¬ (c = [] ∨ c = Path.dot) ∧ push rooted done c = c :: done := by
  rcases component_cases c with hc | rfl | hc
  · rw [push_of_idle hc]
    exact .inl List.suffix_rfl
  · cases done with
    | nil =>
      cases rooted with
      | true => exact .inl List.suffix_rfl
      | false => exact .inr ⟨by decide, rfl⟩
    | cons n ns =>
      by_cases hn : n = Path.dotDot
      · rw [hn]
        exact .inr ⟨by decide, rfl⟩
      · rw [push_dotDot_cons hn]
        exact .inl (List.suffix_cons n ns)
  · exact .inr ⟨not_or.2 ⟨hc.ne_nil, hc.ne_dot⟩, hc.push⟩

/-- **One component more** keeps components settled and leads on from where they lead. -/
theorem push_step (h : Settled rooted done) (hplace : rooted = true → place = []) (c : Text) :
    Settled rooted (push rooted done c) ∧
      (push rooted done c).reverse.foldl visit place =
        visit (done.reverse.foldl visit place) c := by
  rcases component_cases c with hc | rfl | hc
  · rw [push_of_idle hc, visit_of_idle hc]
    exact ⟨h, rfl⟩
  · cases done with
    | nil =>
      cases rooted with
      | true =>
        rw [hplace rfl]
        exact ⟨h, rfl⟩
      | false => exact ⟨fun c hc => .inr ⟨rfl, List.mem_singleton.1 hc⟩, rfl⟩
    | cons d ds =>
      obtain ⟨hd, hds⟩ := List.forall_mem_cons.1 h
      rcases hd with hd | ⟨hroot, rfl⟩
      · rw [push_dotDot_cons hd.ne_dotDot]
        refine ⟨hds, ?_⟩
        rw [List.reverse_cons, foldl_concat, hd.visit, visit_dotDot, List.dropLast_concat]
      · rw [push_dotDot_dotDot]
        refine ⟨List.forall_mem_cons.2 ⟨.inr ⟨hroot, rfl⟩, h⟩, ?_⟩
        rw [List.reverse_cons, foldl_concat]
  · rw [hc.push]
    refine ⟨List.forall_mem_cons.2 ⟨.inl hc, h⟩, ?_⟩
    rw [List.reverse_cons, foldl_concat]

/-- **All components together** are settled and lead to the same place. -/
theorem foldl_push (h : Settled rooted done) (hplace : rooted = true → place = [])
    (cs : List Text) :
    Settled rooted (cs.foldl (push rooted) done) ∧
      (cs.foldl (push rooted) done).reverse.foldl visit place =
        cs.foldl visit (done.reverse.foldl visit place) := by
  induction cs generalizing done with
  | nil => exact ⟨h, rfl⟩
  | cons c cs ih =>
    obtain ⟨hsettled, hstep⟩ := push_step h hplace c
    rw [List.foldl_cons, List.foldl_cons, ← hstep]
    exact ih hsettled

/-- With a root, components settle to the place that they lead to. -/
theorem reverse_foldl_push (cs : List Text) : (cs.foldl (push true) []).reverse = way cs := by
  have hroot : true = true → ([] : List Text) = [] := fun _ => rfl
  have hnone : Settled true [] := List.forall_mem_nil _
  obtain ⟨hsettled, hplace⟩ := foldl_push hnone hroot cs
  rw [foldl_visit_of_leadsDown fun n hn => hsettled.leadsDown n (List.mem_reverse.1 hn)] at hplace
  exact hplace

/-- **The normal form of a rooted path text** names the place that its components lead to. -/
theorem normal_eq (h : Path.rootOf s = ['/']) :
    normal s = '/' :: joined ['/'] (way (pieces '/' s)) := by
  unfold normal
  simp only [h, List.isEmpty_cons, Bool.not_false, reverse_foldl_push, List.singleton_append,
    Bool.false_eq_true, if_false]

theorem not_startsWith_slash (h : s.head? ≠ some '/') : ¬ startsWith ['/'] s = true := fun hs => by
  obtain ⟨rest, hrest⟩ := Option.isSome_iff_exists.1 hs
  rw [after?_eq_some_iff.1 hrest] at h
  exact h rfl

theorem rootOf_cons (h : s.head? ≠ some '/') : Path.rootOf ('/' :: s) = ['/'] := by
  unfold Path.rootOf
  split <;> simp_all

/-- A path text below a folder with one slash in front has one slash in front. -/
theorem rootOf_join {rest : Text} (hrest : rest.head? ≠ some '/') (h : s.head? ≠ some '/') :
    Path.rootOf (join ('/' :: rest) s) = ['/'] := by
  rw [join, if_neg (not_startsWith_slash h)]
  cases rest with
  | nil => exact rootOf_cons h
  | cons c rest => split <;> exact rootOf_cons hrest

/-- Path texts one below the other lead on from each other. -/
theorem way_pieces_join (h : s.head? ≠ some '/') :
    way (pieces '/' (join folder s)) = way (pieces '/' folder ++ pieces '/' s) := by
  rw [join, if_neg (not_startsWith_slash h)]
  split
  · next hfolder =>
    rcases folder.eq_nil_or_concat with rfl | ⟨f, c, rfl⟩
    · rfl
    · have hc : c = '/' := by simpa using hfolder
      -- The slash at the end makes an empty component.
      rw [hc, List.concat_eq_append, List.append_assoc, List.singleton_append, pieces_append_sep,
        pieces_append_sep, way_append, way_append, way_append]
      rfl
  · rw [pieces_append_sep]

/-- Empty components and single dots do not count. -/
theorem foldl_visit_filter (cs place : List Text) :
    (cs.filter fun n => !n.isEmpty && n != Path.dot).foldl visit place = cs.foldl visit place := by
  induction cs generalizing place with
  | nil => rfl
  | cons c cs ih =>
    by_cases hc : c = [] ∨ c = Path.dot
    · rw [List.filter_cons_of_neg (by rcases hc with rfl | rfl <;> decide), ih, List.foldl_cons,
        visit_of_idle hc]
    · rw [List.filter_cons_of_pos (by simpa [not_or] using hc), List.foldl_cons, ih,
        List.foldl_cons]

theorem foldl_visit_pieces (s : Text) (place : List Text) :
    (pieces '/' s).foldl visit place = (Path.namesOf s).foldl visit place :=
  (foldl_visit_filter _ place).symm

end Lexical
end DocExamples
