/-
# Telling the examples of a text apart

Line and name tell the examples of a text apart, although names may repeat and several
comments may begin on one line.

| two examples | differ in |
| --- | --- |
| of one comment | the number at the end of the name |
| of two comments | the line |

Both forms of an example end a line before their code begins.  So a comment that shows an
example holds a line feed, and the comments behind it begin on later lines.
-/

import DocExamples.Proofs.Junction
import DocExamples.Proofs.Numerals
import Mathlib.Data.List.Nodup

namespace DocExamples

namespace Text

variable {α : Type} {read : Option Char → Text → Option (Reading α)}

/-- A text in which a piece is found holds every character that the reader asks for. -/
theorem mem_of_mem_segmentsFrom {c : Char}
    (hread : ∀ before s r, read before s = some r → c ∈ s) {before : Option Char}
    {skipped s : Text} {p : Segment α} (hp : p ∈ (segmentsFrom read before skipped s).segments) :
    c ∈ s := by
  fun_induction segmentsFrom read before skipped s with
  | case1 => exact absurd hp List.not_mem_nil
  | case2 before skipped d t r hr hlt taken more ih => exact hread _ _ _ hr
  | case3 before skipped d t r hr hlt ih => exact List.mem_cons_of_mem d (ih hp)
  | case4 before skipped d t hr ih => exact List.mem_cons_of_mem d (ih hp)

end Text

namespace Snippet
open Text

/-- Before fenced code a line ends. -/
theorem lineFeed_mem_of_readFenced? {s : Text} {r : Reading Text} (h : readFenced? s = some r) :
    '\n' ∈ s := by
  obtain ⟨t, htag, h⟩ := Option.bind_eq_some_iff.1 h
  obtain ⟨u, hfence, h⟩ := Option.bind_eq_some_iff.1 h
  obtain ⟨v, hline, -⟩ := Option.bind_eq_some_iff.1 h
  rw [after?_eq_some_iff] at htag hfence hline
  have hu : '\n' ∈ u := (List.dropWhile_sublist _).mem (hline ▸ List.mem_append_left _ (List.mem_singleton_self '\n'))
  have ht : '\n' ∈ t := (List.dropWhile_sublist _).mem (hfence ▸ List.mem_append_right fence hu)
  exact htag ▸ List.mem_append_right tag ht

/-- Before indented code a line ends. -/
theorem lineFeed_mem_of_readIndented? {s : Text} {r : Reading (List Text)}
    (h : readIndented? s = some r) : '\n' ∈ s := by
  obtain ⟨t, htag, h⟩ := Option.bind_eq_some_iff.1 h
  obtain ⟨u, hline, -⟩ := Option.bind_eq_some_iff.1 h
  rw [after?_eq_some_iff] at htag hline
  have ht : '\n' ∈ t := (List.dropWhile_sublist _).mem (hline ▸ List.mem_append_left _ (List.mem_singleton_self '\n'))
  exact htag ▸ List.mem_append_right tag ht

/-- **A comment that shows an example holds a line feed.** -/
theorem lineFeed_mem_of_all_ne_nil {body : Text} (h : all body ≠ []) : '\n' ∈ body := by
  obtain ⟨e, he⟩ := List.exists_mem_of_ne_nil _ h
  unfold all at he
  split at he
  · obtain ⟨code, hcode, -⟩ := List.mem_map.1 he
    obtain ⟨raw, hraw, -⟩ := List.mem_map.1 (List.mem_filter.1 hcode).1
    obtain ⟨p, hp, -⟩ := List.mem_map.1 hraw
    exact mem_of_mem_segmentsFrom (fun _ _ _ hr => lineFeed_mem_of_readIndented? hr) hp
  · obtain ⟨raw, hraw, -⟩ := List.mem_map.1 he
    obtain ⟨p, hp, -⟩ := List.mem_map.1 hraw
    exact mem_of_mem_segmentsFrom (fun _ _ _ hr => lineFeed_mem_of_readFenced? hr) hp

end Snippet

namespace Comment
open Text

/-- The text of a comment, both marks with it. -/
def whole (k : Cut) : Text := opening ++ (k.before ++ closing)

theorem whole_read? (_ : Option Char) (s : Text) (r : Reading Cut) (h : read? s = some r) :
    s = whole r.value ++ r.rest ∧ True := by
  rw [(read?_eq_some h).1, whole]
  simp only [List.append_assoc, and_self]

theorem count_taken {source : Text} {p : Segment Cut} (hp : p ∈ (segments source).segments) :
    p.taken.count '\n' = p.value.before.count '\n' := by
  have htaken := (@shape_of_mem_segmentsFrom _ _ whole (fun _ => True) whole_read? _ _ _ p hp).1
  rw [htaken, whole, List.count_append, List.count_append]
  simp [opening, closing]

theorem le_line_of_mem_ofSegments {line : Nat} {ps : List (Segment Cut)} {c : Comment}
    (h : c ∈ ofSegments line ps) : line ≤ c.line := by
  induction ps generalizing line with
  | nil => exact absurd h List.not_mem_nil
  | cons p ps ih =>
    rcases List.mem_cons.1 h with rfl | h
    · exact Nat.le_add_right _ _
    · have hmore := ih h
      omega

theorem pairwise_ofSegments (line : Nat) {ps : List (Segment Cut)}
    (hps : ∀ p ∈ ps, p.taken.count '\n' = p.value.before.count '\n') :
    (ofSegments line ps).Pairwise fun a b => a.line + a.body.count '\n' ≤ b.line := by
  induction ps generalizing line with
  | nil => exact List.Pairwise.nil
  | cons p ps ih =>
    obtain ⟨hp, hps⟩ := List.forall_mem_cons.1 hps
    refine List.pairwise_cons.2 ⟨fun c hc => ?_, ih _ hps⟩
    exact hp ▸ le_line_of_mem_ofSegments hc

/-- **A comment begins no earlier than on the line on which the one before it ends.** -/
theorem pairwise_all (source : Text) :
    (all source).Pairwise fun a b => a.line + a.body.count '\n' ≤ b.line :=
  pairwise_ofSegments 1 fun _ hp => count_taken hp

end Comment

namespace Example

theorem numbered_injective {owner : Text} {i j : Nat} (h : numbered owner i = numbered owner j) :
    i = j :=
  Text.decimal_injective (List.append_cancel_left h)

theorem line_of_mem_ofComment {origin : Text} {c : Comment} {e : Example}
    (h : e ∈ ofComment origin c) : e.line = c.line := by
  unfold ofComment at h
  split at h
  · rw [List.mem_singleton.1 h]
  · obtain ⟨i, hi, rfl⟩ := List.mem_mapIdx.1 h
    rfl

/-- The examples of a comment that shows several are numbered from 1. -/
theorem names_ofComment {origin : Text} {c : Comment} (h : (ofComment origin c).length ≠ 1) :
    (ofComment origin c).map (·.name) =
      (List.range (ofComment origin c).length).map fun i => numbered c.owner (i + 1) := by
  unfold ofComment at h ⊢
  split
  · next s hs => simp [hs] at h
  · refine List.ext_getElem (by simp) fun i hi hj => ?_
    simp

theorem nodup_names_ofComment (origin : Text) (c : Comment) :
    ((ofComment origin c).map (·.name)).Nodup := by
  by_cases h : (ofComment origin c).length = 1
  · obtain ⟨e, he⟩ := List.length_eq_one_iff.1 h
    rw [he]
    exact List.nodup_singleton _
  · rw [names_ofComment h]
    exact List.nodup_range.map fun i j hij => Nat.succ.inj (numbered_injective hij)

/-- The examples of a comment stand on an earlier line than those of the comments behind it. -/
theorem pairwise_line_lt (origin source : Text) :
    (Comment.all source).Pairwise fun c k =>
      ∀ a ∈ ofComment origin c, ∀ b ∈ ofComment origin k, a.line < b.line := by
  refine (Comment.pairwise_all source).imp fun {c k} hck a ha b hb => ?_
  rw [line_of_mem_ofComment ha, line_of_mem_ofComment hb]
  have hshown : Snippet.all c.body ≠ [] := by
    intro hnone
    rw [ofComment, hnone] at ha
    exact absurd ha List.not_mem_nil
  have hfeed := List.count_pos_iff.2 (Snippet.lineFeed_mem_of_all_ne_nil hshown)
  omega

/-- What tells the examples of a text apart. -/
structure Distinguished (origin source : Text) : Prop where
  /-- No two examples have the same line and the same name. -/
  distinct : ((ofSource origin source).map fun e => (e.line, e.name)).Nodup
  /-- The lines never go back. -/
  ordered : ((ofSource origin source).map (·.line)).Pairwise (· ≤ ·)
  /-- Examples share a line exactly if they are shown by the same comment. -/
  shared : ∀ i j : Fin (Comment.all source).length,
    ∀ a ∈ ofComment origin ((Comment.all source).get i),
      ∀ b ∈ ofComment origin ((Comment.all source).get j), a.line = b.line ↔ i = j
  /-- The examples of a comment that shows several have its owner's name and are numbered in
  their order, from 1 on. -/
  numbered : ∀ c ∈ Comment.all source, 2 ≤ (ofComment origin c).length →
    (ofComment origin c).map (·.name) =
      (List.range (ofComment origin c).length).map fun i => numbered c.owner (i + 1)

/-- **Line and name tell the examples of a text apart.** -/
theorem ofSource_distinguished (origin source : Text) : Distinguished origin source where
  distinct := by
    refine List.pairwise_map.2 (List.pairwise_flatMap.2 ⟨fun c _ => ?_, ?_⟩)
    · exact (List.pairwise_map.1 (nodup_names_ofComment origin c)).imp fun hne he =>
        hne (congrArg Prod.snd he)
    · exact (pairwise_line_lt origin source).imp fun hlt a ha b hb he =>
        absurd (congrArg Prod.fst he) (Int.ne_of_lt (hlt a ha b hb))
  ordered := by
    refine List.pairwise_map.2 (List.pairwise_flatMap.2 ⟨fun c _ => ?_, ?_⟩)
    · refine List.pairwise_of_forall_mem_list fun a ha b hb => ?_
      exact Int.le_of_eq ((line_of_mem_ofComment ha).trans (line_of_mem_ofComment hb).symm)
    · exact (pairwise_line_lt origin source).imp fun hlt a ha b hb => Int.le_of_lt (hlt a ha b hb)
  shared i j a ha b hb := by
    have hlt := List.pairwise_iff_getElem.1 (pairwise_line_lt origin source)
    constructor
    · intro he
      rcases Nat.lt_trichotomy i j with h | h | h
      · exact absurd he (Int.ne_of_lt (hlt i j i.isLt j.isLt h a ha b hb))
      · exact Fin.ext h
      · exact absurd he.symm (Int.ne_of_lt (hlt j i j.isLt i.isLt h b hb a ha))
    · rintro rfl
      rw [line_of_mem_ofComment ha, line_of_mem_ofComment hb]
  numbered c _ hseveral := names_ofComment (by omega)

-- Two overloads of one name, and a comment that shows two examples.
example : (ofSource "m.ts".toList "/** @example ```
f(1);``` */ /** none */
let f;
/** @example ```
f(2);```
@example ```
f(3);``` */
let f;".toList).map (fun e => (e.line, String.ofList e.name)) =
    [(1, "anonymous_1"), (4, "f_example1"), (4, "f_example2")] := by
  decide +kernel

end Example
end DocExamples
