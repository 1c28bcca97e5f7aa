/-
# Where fenced examples open and close

Fenced code is opened by a tag, a fence and the end of a line, and is closed by the next
fence, wherever that stands:

    @example  blanks and stars  ```  language  line feed  code  ```
    i                                                     j     k

An opening at position `i` has only one end `j`, since neither of its two runs can take a
character of what follows it.  It counts if there is a fence to close it; otherwise it is
passed over like any other text, and a later opening may begin within it.

The examples of a comment are found by a scan that knows positions only: it takes the first
opening that counts, the first fence behind that, and goes on behind the fence.
-/

import DocExamples.Proofs.Cutting

namespace DocExamples
namespace Snippet
open Text

/-! ### Openings -/

/-- What opens fenced code: the tag, blanks and stars, a fence, and the rest of its line. -/
def IsOpening (o : Text) : Prop :=
  ∃ run language, o = tag ++ (run ++ (fence ++ (language ++ ['\n']))) ∧
    (∀ c ∈ run, isBlank c = true ∨ c = '*') ∧ ∀ c ∈ language, c ≠ '\n' ∧ c ≠ '\x60'

/-- What follows the opening of fenced code at the start of a text. -/
def afterOpening? (s : Text) : Option Text := do
  let s ← after? tag s
  let s ← after? fence (s.dropWhile fun c => isBlank c || c == '*')
  after? ['\n'] (s.dropWhile fun c => c != '\n' && c != '\x60')

theorem readFenced?_eq (s : Text) :
    readFenced? s =
      (afterOpening? s).bind fun t => (cut? fence t).map fun k => ⟨k.before, k.after⟩ := by
  have hread : (fun t => (cut? fence t).map fun k => Reading.mk k.before k.after) =
      fun t => (cut? fence t).bind fun k => some ⟨k.before, k.after⟩ :=
    funext fun t => Option.map_eq_bind
  rw [hread]
  simp only [readFenced?, afterOpening?, Option.bind_eq_bind, Option.bind_assoc]
  rfl

theorem afterOpening?_eq_some_iff {s rest : Text} :
    afterOpening? s = some rest ↔ ∃ o, IsOpening o ∧ s = o ++ rest := by
  constructor
  · intro h
    obtain ⟨t, htag, h⟩ := Option.bind_eq_some_iff.1 h
    obtain ⟨u, hfence, hline⟩ := Option.bind_eq_some_iff.1 h
    rw [after?_eq_some_iff] at htag hfence hline
    let run := t.takeWhile fun c => isBlank c || c == '*'
    let language := u.takeWhile fun c => c != '\n' && c != '\x60'
    have ht : t = run ++ (fence ++ u) := by
      rw [← hfence]
      exact List.takeWhile_append_dropWhile.symm
    have hu : u = language ++ (['\n'] ++ rest) := by
      rw [← hline]
      exact List.takeWhile_append_dropWhile.symm
    refine ⟨_, ⟨run, language, rfl, fun c hc => ?_, fun c hc => ?_⟩, ?_⟩
    · simpa using List.all_eq_true.1 List.all_takeWhile c hc
    · simpa using List.all_eq_true.1 List.all_takeWhile c hc
    · rw [htag, ht, hu]
      simp only [List.append_assoc]
  · rintro ⟨_, ⟨run, language, rfl, hrun, hlanguage⟩, rfl⟩
    have hstars (t : Text) : (run ++ (fence ++ t)).dropWhile (fun c => isBlank c || c == '*') =
        fence ++ t := by
      rw [List.dropWhile_append_of_pos fun c hc => by simpa using hrun c hc]
      rfl
    have hwords (t : Text) : (language ++ ('\n' :: t)).dropWhile
        (fun c => c != '\n' && c != '\x60') = '\n' :: t := by
      rw [List.dropWhile_append_of_pos fun c hc => by simpa using hlanguage c hc]
      rfl
    have hfeed : after? ['\n'] ('\n' :: rest) = some rest := after?_append ['\n'] rest
    simp only [afterOpening?, List.append_assoc, List.singleton_append, after?_append,
      Option.bind_eq_bind, Option.bind_some, hstars, hwords, hfeed]

/-- Fenced code is read from an opening to the first fence behind it. -/
theorem readFenced?_eq_some_iff {s : Text} {r : Reading Text} :
    readFenced? s = some r ↔ ∃ o, IsOpening o ∧ s = o ++ (r.value ++ (fence ++ r.rest)) ∧
      EndsAtFirst fence r.value := by
  rw [readFenced?_eq, Option.bind_eq_some_iff]
  constructor
  · rintro ⟨t, ht, hcut⟩
    obtain ⟨k, hk, rfl⟩ := Option.map_eq_some_iff.1 hcut
    obtain ⟨o, ho, rfl⟩ := afterOpening?_eq_some_iff.1 ht
    obtain ⟨rfl, hends⟩ := cut?_eq_some_iff.1 hk
    exact ⟨o, ho, rfl, hends⟩
  · rintro ⟨o, ho, rfl, hends⟩
    have hcut : cut? fence (r.value ++ (fence ++ r.rest)) = some ⟨r.value, r.rest⟩ :=
      cut?_eq_some_iff.2 ⟨rfl, hends⟩
    exact ⟨_, afterOpening?_eq_some_iff.2 ⟨o, ho, rfl⟩, by rw [hcut]; rfl⟩

/-! ### Positions -/

/-- An opening stands at position `i` and ends at position `j`. -/
def OpensAt (s : Text) (i j : Nat) : Prop := ∃ o, IsOpening o ∧ o <+: s.drop i ∧ j = i + o.length

/-- A fence stands at position `k`. -/
def FenceAt (s : Text) (k : Nat) : Prop := fence <+: s.drop k

/-- An opening stands at position `i`, and a fence that closes it at its end or behind. -/
def ClosableAt (s : Text) (i : Nat) : Prop := ∃ j k, OpensAt s i j ∧ j ≤ k ∧ FenceAt s k

/-- The text from position `j` to position `k`. -/
def between (s : Text) (j k : Nat) : Text := (s.drop j).take (k - j)

/-- A scan of a text from position `i` on gives the raw texts of its fenced examples. -/
inductive Scans (s : Text) : (i : Nat) → List Text → Prop
  /-- There is no opening any more that could be closed. -/
  | done {i : Nat} : (∀ m, i ≤ m → ¬ ClosableAt s m) → Scans s i []
  /-- The first opening that can be closed is at `o` and ends at `j`, and the first fence from
  there on is at `k`; behind this the scan goes on. -/
  | next {i o j k : Nat} {raws : List Text} : i ≤ o → (∀ m, i ≤ m → m < o → ¬ ClosableAt s m) →
    OpensAt s o j → j ≤ k → FenceAt s k → (∀ m, j ≤ m → FenceAt s m → k ≤ m) →
    Scans s (k + 3) raws → Scans s i (between s j k :: raws)

variable {s : Text}

theorem OpensAt.drop_eq {i j : Nat} (h : OpensAt s i j) :
    ∃ o, IsOpening o ∧ s.drop i = o ++ s.drop j ∧ j = i + o.length := by
  obtain ⟨o, ho, ⟨rest, hrest⟩, rfl⟩ := h
  have hdrop : s.drop (i + o.length) = rest := by
    rw [← List.drop_drop, ← hrest, List.drop_left]
  exact ⟨o, ho, by rw [hdrop, hrest], rfl⟩

/-- An opening has only one end. -/
theorem OpensAt.unique {i j l : Nat} (hj : OpensAt s i j) (hl : OpensAt s i l) : j = l := by
  obtain ⟨o, ho, hdrop, rfl⟩ := hj.drop_eq
  obtain ⟨p, hp, hdrop', rfl⟩ := hl.drop_eq
  have hrest := (afterOpening?_eq_some_iff.2 ⟨o, ho, hdrop⟩).symm.trans
    (afterOpening?_eq_some_iff.2 ⟨p, hp, hdrop'⟩)
  rw [hdrop, Option.some.inj hrest] at hdrop'
  rw [List.append_cancel_right hdrop']

theorem not_closableAt_of_drop {i : Nat} (h : s.drop i = []) : ¬ ClosableAt s i := by
  rintro ⟨j, k, hopens, -⟩
  obtain ⟨o, ⟨run, language, rfl, -⟩, hdrop, -⟩ := hopens.drop_eq
  rw [h] at hdrop
  exact absurd hdrop (List.cons_ne_nil _ _).symm

/-- Where nothing is read, no opening stands that can be closed. -/
theorem not_closableAt_of_unread {i : Nat} (h : readFenced? (s.drop i) = none) :
    ¬ ClosableAt s i := by
  rintro ⟨j, k, hopens, hle, hfence⟩
  obtain ⟨o, ho, hdrop, rfl⟩ := hopens.drop_eq
  have hclosed : fence <:+: s.drop (i + o.length) := by
    have hsuffix : s.drop k <:+ s.drop (i + o.length) := by
      rw [← Nat.add_sub_cancel' hle, ← List.drop_drop]
      exact List.drop_suffix _ _
    exact hfence.isInfix.trans hsuffix.isInfix
  rw [readFenced?_eq, afterOpening?_eq_some_iff.2 ⟨o, ho, hdrop⟩, Option.bind_some,
    Option.map_eq_none_iff] at h
  exact (cutFrom_eq_none_iff _).1 h hclosed

/-- What is read at a position stands between the end of an opening and the first fence. -/
theorem positions_of_read {i : Nat} {r : Reading Text} (h : readFenced? (s.drop i) = some r) :
    ∃ j k, OpensAt s i j ∧ j ≤ k ∧ FenceAt s k ∧ (∀ m, j ≤ m → FenceAt s m → k ≤ m) ∧
      r.value = between s j k ∧ r.rest = s.drop (k + 3) := by
  obtain ⟨o, ho, hs, hends⟩ := readFenced?_eq_some_iff.1 h
  have hj : s.drop (i + o.length) = r.value ++ (fence ++ r.rest) := by
    rw [← List.drop_drop, hs, List.drop_left]
  have hk : s.drop (i + o.length + r.value.length) = fence ++ r.rest := by
    rw [← List.drop_drop, hj, List.drop_left]
  refine ⟨i + o.length, i + o.length + r.value.length, ⟨o, ho, hs ▸ List.prefix_append _ _, rfl⟩,
    Nat.le_add_right _ _, ⟨r.rest, hk.symm⟩, ?_, ?_, ?_⟩
  · rintro m hm ⟨b, hb⟩
    -- A fence at `m` would begin in the raw text if it stood before the one found.
    have hparts : r.value ++ (fence ++ r.rest) =
        (s.drop (i + o.length)).take (m - (i + o.length)) ++ (fence ++ b) := by
      have hdrop : s.drop m = (s.drop (i + o.length)).drop (m - (i + o.length)) := by
        rw [List.drop_drop, Nat.add_sub_cancel' hm]
      rw [hb, hdrop, List.take_append_drop, hj]
    have hle := length_le_of_freeOf (freeOf_iff_endsAtFirst.2 hends) hparts
    rw [List.length_take] at hle
    omega
  · rw [between, hj, Nat.add_sub_cancel_left, List.take_left]
  · rw [← List.drop_drop, hk]
    rfl

/-! ### The scan -/

/-- A position at which nothing can be closed is passed over. -/
theorem Scans.step {i : Nat} {raws : List Text} (h : Scans s (i + 1) raws)
    (hi : ¬ ClosableAt s i) : Scans s i raws := by
  have hpassed {P : Nat → Prop} (hP : ∀ m, i + 1 ≤ m → P m → ¬ ClosableAt s m) :
      ∀ m, i ≤ m → P m → ¬ ClosableAt s m := by
    intro m hm hPm
    rcases Nat.eq_or_lt_of_le hm with rfl | hlt
    · exact hi
    · exact hP m hlt hPm
  cases h with
  | done hnone =>
    exact .done fun m hm => hpassed (P := fun _ => True) (fun n hn _ => hnone n hn) m hm trivial
  | next hle hfirst hopens hj hk hleast hrest =>
    exact .next (Nat.le_of_succ_le hle) (hpassed hfirst) hopens hj hk hleast hrest

/-- The search for fenced code is a scan. -/
theorem scans_segmentsFrom (before : Option Char) (skipped u : Text) : ∀ i, s.drop i = u →
    Scans s i (segmentsFrom (fun _ => readFenced?) before skipped u).values := by
  fun_induction segmentsFrom (fun _ => readFenced?) before skipped u with
  | case1 before skipped =>
    intro i hu
    refine .done fun m hm => not_closableAt_of_drop ?_
    rw [← Nat.add_sub_cancel' hm, ← List.drop_drop, hu, List.drop_nil]
  | case2 before skipped c t r hr hlt taken more ih =>
    intro i hu
    obtain ⟨j, k, hopens, hle, hfence, hleast, hvalue, hrest⟩ := positions_of_read (hu ▸ hr)
    have hscan := Scans.next (Nat.le_refl i) (fun m hm hlt => absurd hm (Nat.not_le.2 hlt)) hopens
      hle hfence hleast (ih (k + 3) hrest.symm)
    exact hvalue ▸ hscan
  | case3 before skipped c t r hr hlt ih =>
    obtain ⟨o, ⟨run, language, rfl, -⟩, hs, -⟩ := readFenced?_eq_some_iff.1 hr
    refine absurd ?_ hlt
    have hfence : fence.length = 3 := rfl
    rw [hs]
    simp only [List.length_append]
    omega
  | case4 before skipped c t hr ih =>
    intro i hu
    have hnext : s.drop (i + 1) = t := by rw [← List.drop_drop, hu, List.drop_one, List.tail_cons]
    exact (ih (i + 1) hnext).step (not_closableAt_of_unread (hu ▸ hr))

/-- A scan has only one outcome. -/
theorem Scans.unique {i : Nat} {raws others : List Text} (h : Scans s i raws)
    (hothers : Scans s i others) : raws = others := by
  induction h generalizing others with
  | done hnone =>
    cases hothers with
    | done _ => rfl
    | next hle _ hopens hj hk _ _ => exact absurd ⟨_, _, hopens, hj, hk⟩ (hnone _ hle)
  | @next i o j k raws hle hfirst hopens hj hk hleast hrest ih =>
    cases hothers with
    | done hnone => exact absurd ⟨_, _, hopens, hj, hk⟩ (hnone _ hle)
    | @next _ o' j' k' raws' hle' hfirst' hopens' hj' hk' hleast' hrest' =>
      obtain rfl : o = o' := by
        rcases Nat.lt_trichotomy o o' with hlt | rfl | hlt
        · exact absurd ⟨_, _, hopens, hj, hk⟩ (hfirst' o hle hlt)
        · rfl
        · exact absurd ⟨_, _, hopens', hj', hk'⟩ (hfirst o' hle' hlt)
      obtain rfl := hopens.unique hopens'
      obtain rfl : k = k' := Nat.le_antisymm (hleast k' hj' hk') (hleast' k hj hk)
      rw [ih hrest']

/-- A scan from the start finds nothing exactly if no opening can be closed. -/
theorem Scans.eq_nil_iff {raws : List Text} (h : Scans s 0 raws) :
    raws = [] ↔ ¬ ∃ i, ClosableAt s i := by
  cases h with
  | done hnone => exact ⟨fun _ ⟨i, hi⟩ => hnone i (Nat.zero_le i) hi, fun _ => rfl⟩
  | next _ _ hopens hj hk _ _ =>
    exact ⟨fun h => absurd h (List.cons_ne_nil _ _),
      fun hnone => absurd ⟨_, _, _, hopens, hj, hk⟩ hnone⟩

/-- **Fenced examples are found by one scan.**  It has one outcome, the raw texts of the
examples; if some opening can be closed, the examples of the comment are these, cleaned and
with their annotations, and otherwise they are the indented ones. -/
theorem all_of_scans (comment : Text) :
    ∃ raws, Scans comment 0 raws ∧ (∀ others, Scans comment 0 others → others = raws) ∧
      ((∃ i, ClosableAt comment i) → all comment =
        raws.map fun raw => ⟨clean raw, Annotation.find? (clean raw)⟩) ∧
      ((¬ ∃ i, ClosableAt comment i) → all comment = indented comment) ∧
      (raws = [] ↔ ¬ ∃ i, ClosableAt comment i) := by
  have hscan : Scans comment 0 (Text.segments (fun _ => readFenced?) comment).values :=
    scans_segmentsFrom none [] comment 0 List.drop_zero
  have hnil := hscan.eq_nil_iff
  refine ⟨_, hscan, fun others h => h.unique hscan, fun hclosable => ?_, fun hnone => ?_, hnil⟩
  · have hne : (fenced comment).isEmpty = false := by
      rw [fenced, List.isEmpty_eq_false_iff, Ne, List.map_eq_nil_iff, hnil]
      exact fun hnone => hnone hclosable
    rw [all, hne]
    rfl
  · have hempty : (fenced comment).isEmpty = true := by
      rw [fenced, hnil.2 hnone]
      rfl
    rw [all, hempty]
    rfl

-- The fence of a second opening closes the first; one that nothing closes is passed over.
example : all "@example ```\n1\n@example ```\n2\n".toList = [⟨"1\n@example ".toList, none⟩] ∧
    all "@example @example * ```ts\n3```".toList = [⟨"3".toList, none⟩] := by
  decide +kernel

end Snippet
end DocExamples
