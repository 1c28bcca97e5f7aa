/-
# Empty block comments

The shortest block comment is `/**/`.  Its closing mark begins within its opening mark, and the
marks of a documentation comment must not share a star.  So it opens a documentation comment,
which ends at the next closing mark, wherever that stands:

    /**/ f(); /** Adds. */        one comment: ‹/ f(); /** Adds. ›
         f(); /** Adds. */        one comment: ‹ Adds. ›

A text without empty block comments of its own has the same comments behind one exactly if
nothing is closed in it, and then it has none.
-/

import DocExamples.Proofs.Provenance

namespace DocExamples

namespace Comment
open Text

/-- The block comment with nothing in it. -/
def emptyBlock : Text := "/**/".toList

variable {s : Text} {k : Cut}

/-- A slash in front of a text closes nothing. -/
theorem endsAtFirst_cons {body : Text} (h : EndsAtFirst closing body) :
    EndsAtFirst closing ('/' :: body) := by
  intro a b hab
  cases a with
  | nil => exact absurd (List.cons.inj hab).1 (by decide)
  | cons c a => exact h a b (List.cons.inj hab).2

/-- An empty block comment is read as the start of a documentation comment. -/
theorem read?_emptyBlock (h : cut? closing s = some k) :
    read? (emptyBlock ++ s) = some ⟨⟨'/' :: k.before, k.after⟩, k.after⟩ := by
  obtain ⟨hs, hends⟩ := cut?_eq_some_iff.1 h
  have htext : emptyBlock ++ s = opening ++ (('/' :: k.before) ++ (closing ++ k.after)) := by
    rw [hs]
    rfl
  rw [htext]
  exact read?_piece (endsAtFirst_cons hends) k.after

/-- **An empty block comment takes the text up to the next closing mark with it.**  The comments
behind that mark are those of the text that is left, on the lines where they stand. -/
theorem all_emptyBlock_append (h : cut? closing s = some k) :
    all (emptyBlock ++ s) =
      ⟨'/' :: k.before, 1, (Declaration.declared? k.after).getD (anonymous 1)⟩ ::
        (sightings k.after).map (Sighting.comment (k.before.count '\n')) := by
  obtain ⟨hs, -⟩ := cut?_eq_some_iff.1 h
  have htext : emptyBlock ++ s = (emptyBlock ++ (k.before ++ closing)) ++ k.after := by
    rw [hs]
    simp only [List.append_assoc]
  have hread := read?_emptyBlock h
  have hne : emptyBlock ++ (k.before ++ closing) ≠ [] := List.cons_ne_nil _ _
  have hlines : (emptyBlock ++ (k.before ++ closing)).count '\n' = k.before.count '\n' := by
    rw [List.count_append, List.count_append]
    simp [emptyBlock, closing]
  have hmore : ofSegments (1 + k.before.count '\n') (segments k.after).segments =
      (sightings k.after).map (Sighting.comment (k.before.count '\n')) := ofSegments_add 1 _ _
  rw [htext] at hread ⊢
  rw [all, segments, Text.segments, segmentsFrom_of_read hread hne, ofSegments,
    ofSegments_skipped _ _ none, hlines, ← hmore]
  rfl

/-- A text in which nothing is closed has no comment. -/
theorem all_eq_nil (h : ¬ closing <:+: s) : all s = [] := by
  have hnone : ∀ w, w <:+ s → read? w = none := by
    refine fun w hw => read?_eq_none_of_tail (fun a b hab hclosed => h ?_) hw
    have hb : b <:+ s := hab ▸ (List.suffix_append opening b).trans (List.suffix_append a _)
    exact hclosed.trans hb.isInfix
  rw [all, segments, Text.segments, segmentsFrom_of_unread hnone]
  rfl

/-- Nor has it one behind an empty block comment, which then is left open. -/
theorem all_emptyBlock_append_eq_nil (h : ¬ closing <:+: s) : all (emptyBlock ++ s) = [] := by
  have hopen : after? opening (emptyBlock ++ s) = some ('/' :: s) := rfl
  have hcut : cut? closing ('/' :: s) = none := by
    refine (cutFrom_eq_none_iff []).2 fun hclosed => ?_
    rcases List.infix_cons_iff.1 hclosed with hprefix | hclosed
    · exact absurd (List.cons_prefix_cons.1 hprefix).1 (by decide)
    · exact h hclosed
  rw [all, segments, Text.segments,
    segmentsFrom_of_unread fun w hw => read?_eq_none_of_unclosed hopen hcut hw]
  rfl

/-- A comment that begins with a slash begins with an empty block comment. -/
theorem infix_of_mem_all {c : Comment} {body : Text} (h : c ∈ all s)
    (hbody : c.body = '/' :: body) : emptyBlock <:+: s := by
  obtain ⟨before, behind, hoccurs⟩ := exists_occurs h
  refine ⟨before, body ++ (closing ++ behind), ?_⟩
  rw [hoccurs.text_line.1, hbody]
  simp only [List.append_assoc]
  rfl

/-- **What stands behind an empty block comment.**  If something is closed in it, the text up to
the first closing mark becomes the rest of a documentation comment on the first line, whose owner
is the declaration behind that mark; the comments that follow are those of what is left.  If
nothing is closed, there is no comment with or without the empty one.  So a text without further
empty block comments keeps its comments exactly if nothing is closed in it. -/
theorem all_behind_emptyBlock (s : Text) :
    (∀ k, cut? closing s = some k → all (emptyBlock ++ s) =
      ⟨'/' :: k.before, 1, (Declaration.declared? k.after).getD (anonymous 1)⟩ ::
        (sightings k.after).map (Sighting.comment (k.before.count '\n'))) ∧
    (¬ closing <:+: s → all (emptyBlock ++ s) = [] ∧ all s = []) ∧
    (¬ emptyBlock <:+: s → (all (emptyBlock ++ s) = all s ↔ ¬ closing <:+: s)) := by
  refine ⟨fun k h => all_emptyBlock_append h,
    fun h => ⟨all_emptyBlock_append_eq_nil h, all_eq_nil h⟩, fun hno => ⟨fun heq hclosed => ?_,
      fun h => by rw [all_emptyBlock_append_eq_nil h, all_eq_nil h]⟩⟩
  obtain ⟨k, hk⟩ : ∃ k, cut? closing s = some k := by
    rw [← Option.isSome_iff_exists, ← Option.ne_none_iff_isSome]
    exact fun hnone => (cutFrom_eq_none_iff []).1 hnone hclosed
  rw [all_emptyBlock_append hk] at heq
  exact hno (infix_of_mem_all (heq ▸ List.mem_cons_self) rfl)

/-- A documented function on the second line. -/
def documented : Text := "\n/** Adds. */\nfunction add() \x7b\x7d".toList

/-- The text behind the first closing mark of that. -/
def declaration : Text := "\nfunction add() \x7b\x7d".toList

theorem all_behind_emptyBlock_documented :
    cut? closing documented = some ⟨"\n/** Adds. ".toList, declaration⟩ ∧
      ¬ emptyBlock <:+: documented ∧ ¬ closing <:+: declaration ∧
      all documented = [⟨" Adds. ".toList, 2, "add".toList⟩] ∧
      all (emptyBlock ++ documented) = [⟨"/\n/** Adds. ".toList, 1, "add".toList⟩] ∧
      all (emptyBlock ++ documented) ≠ all documented ∧
      all (emptyBlock ++ declaration) = [] := by
  have hcut : cut? closing documented = some ⟨"\n/** Adds. ".toList, declaration⟩ := by
    decide +kernel
  have hno : ¬ emptyBlock <:+: documented := by decide +kernel
  have hopen : ¬ closing <:+: declaration := by decide +kernel
  have hclosed : closing <:+: documented := by decide +kernel
  have hall := (all_behind_emptyBlock documented).1 _ hcut
  have howner : Declaration.declared? declaration = some "add".toList := by decide +kernel
  have hmore : sightings declaration = [] := by decide +kernel
  have hkept : all documented = [⟨" Adds. ".toList, 2, "add".toList⟩] := by decide +kernel
  rw [howner, hmore] at hall
  exact ⟨hcut, hno, hopen, hkept, hall,
    fun heq => ((all_behind_emptyBlock documented).2.2 hno).1 heq hclosed,
    ((all_behind_emptyBlock declaration).2.1 hopen).1⟩

end Comment
end DocExamples
