/-
# Where the lines of an example come from

The lines of an example stand in its comment one below the other, whatever the comment looks
like.  Each step of reading keeps them in place:

| step | what it takes away |
| --- | --- |
| reading either form | all up to some line feed, and all behind the code |
| taking away stars | the start of each line |
| taking away blank ends | lines at both ends |
| dedenting | the start of each line, or all of it |

So the lines of an example are pieces of lines of the source that follow one another, all of
them behind the line on which the comment begins.
-/

import DocExamples.Proofs.Openings

namespace DocExamples

namespace Text

variable {s : Text} {k : Nat} {ls ms : List Text}

/-- Lines stand in a text one below the other, each as a piece of one line; the first of them
stands on line `k`, counted from 0. -/
def StandIn (s : Text) (k : Nat) (ls : List Text) : Prop :=
  ∀ i l, ls[i]? = some l → ∃ u v, s = u ++ (l ++ v) ∧ u.count '\n' = k + i

theorem count_ended (h : ∀ l ∈ ls, '\n' ∉ l) : (ended ls).count '\n' = ls.length := by
  induction ls with
  | nil => rfl
  | cons l ls ih =>
    obtain ⟨hl, hls⟩ := List.forall_mem_cons.1 h
    rw [ended_cons, List.count_append, List.count_eq_zero.2 hl, List.count_cons_self, ih hls,
      List.length_cons, Nat.zero_add]

/-- The lines of a text stand in it. -/
theorem standIn_lines (s : Text) : StandIn s 0 (lines s) := by
  intro i l hl
  obtain ⟨hi, rfl⟩ := List.getElem?_eq_some_iff.1 hl
  have hfree : ∀ l ∈ (lines s).take i, '\n' ∉ l := fun l hl =>
    notMem_of_mem_lines (List.mem_of_mem_take hl)
  have hcount : (ended ((lines s).take i)).count '\n' = 0 + i := by
    rw [count_ended hfree, List.length_take, Nat.min_eq_left (Nat.le_of_lt hi), Nat.zero_add]
  obtain ⟨v, hv⟩ : ∃ v, unlines ((lines s).drop i) = (lines s)[i] ++ v := by
    rw [List.drop_eq_getElem_cons hi, unlines, joined_cons]
    exact ⟨_, rfl⟩
  refine ⟨ended ((lines s).take i), v, ?_, hcount⟩
  rw [← hv, ← unlines_append _ (by simpa using hi), List.take_append_drop, unlines_lines]

/-- Lines stand further down if more text is put in front. -/
theorem StandIn.within (h : StandIn s k ls) (a b : Text) :
    StandIn (a ++ (s ++ b)) (a.count '\n' + k) ls := by
  intro i l hl
  obtain ⟨u, v, rfl, hu⟩ := h i l hl
  refine ⟨a ++ u, v ++ b, by simp only [List.append_assoc], ?_⟩
  rw [List.count_append, hu, Nat.add_assoc]

/-- Lines stay where they stand if each loses some of its start. -/
theorem StandIn.map (h : StandIn s k ls) (hls : ∀ l ∈ ls, '\n' ∉ l) {f : Text → Text}
    (hf : ∀ l, f l <:+ l) : StandIn s k (ls.map f) := by
  intro i l hl
  rw [List.getElem?_map] at hl
  obtain ⟨whole, hwhole, rfl⟩ := Option.map_eq_some_iff.1 hl
  obtain ⟨u, v, hs, hu⟩ := h i whole hwhole
  obtain ⟨start, hstart⟩ := hf whole
  have hfree : '\n' ∉ start := fun hmem =>
    hls whole (List.mem_of_getElem? hwhole) (hstart ▸ List.mem_append_left _ hmem)
  refine ⟨u ++ start, v, ?_, ?_⟩
  · rw [hs, List.append_assoc, ← List.append_assoc start, hstart]
  · rw [List.count_append, hu, List.count_eq_zero.2 hfree, Nat.add_zero]

/-- Lines stay where they stand if some at both ends go. -/
theorem StandIn.of_infix (h : StandIn s k ls) (hms : ms <:+: ls) :
    ∃ n, StandIn s (k + n) ms := by
  obtain ⟨a, b, rfl⟩ := hms
  refine ⟨a.length, fun i l hl => ?_⟩
  obtain ⟨u, v, hs, hu⟩ := h (a.length + i) l (by
    rw [List.append_assoc, List.getElem?_append_right (Nat.le_add_right _ _),
      Nat.add_sub_cancel_left, List.getElem?_append_left (List.getElem?_eq_some_iff.1 hl).1]
    exact hl)
  exact ⟨u, v, hs, by rw [hu, Nat.add_assoc]⟩

/-- Where some line stands, the empty line stands. -/
theorem StandIn.blank (h : StandIn s k ls) (hls : ls ≠ []) : StandIn s k [[]] := by
  obtain ⟨l, ls, rfl⟩ := List.exists_cons_of_ne_nil hls
  obtain ⟨u, v, hs, hu⟩ := h 0 l rfl
  intro i m hm
  obtain ⟨hi, rfl⟩ := List.getElem?_eq_some_iff.1 hm
  obtain rfl : i = 0 := Nat.lt_one_iff.1 hi
  exact ⟨u, l ++ v, hs, hu⟩

/-- What is written of some of the lines, one below the other, has its lines where they
stand. -/
theorem StandIn.lines_unlines (h : StandIn s k ls) (hls : ls ≠ []) (hfree : ∀ l ∈ ls, '\n' ∉ l)
    (hms : ms <:+: ls) : ∃ n, StandIn s (k + n) (lines (unlines ms)) := by
  by_cases hnil : ms = []
  · exact ⟨0, hnil ▸ h.blank hls⟩
  · rw [Text.lines_unlines hnil fun l hl => hfree l (hms.mem hl)]
    exact h.of_infix hms

/-- What stands in a text behind so many line feeds is a piece of that line. -/
theorem exists_line_of_append {l : Text} (hl : '\n' ∉ l) (u v : Text) :
    ∃ line, (lines (u ++ (l ++ v)))[u.count '\n']? = some line ∧ l <:+: line := by
  induction u with
  | nil =>
    obtain ⟨first, more, hfirst, hmore, -⟩ := exists_head_lines_append l v
    rw [lines, pieces_of_notMem hl] at hfirst
    obtain rfl := Option.some.inj hfirst
    refine ⟨l ++ more, ?_, (List.prefix_append l more).isInfix⟩
    rw [List.nil_append, List.count_nil, ← List.head?_eq_getElem?, hmore]
  | cons c u ih =>
    obtain ⟨line, hline, hinfix⟩ := ih
    rw [List.cons_append, lines, pieces_cons]
    split
    · next hc =>
      subst hc
      rw [List.count_cons_self, List.getElem?_cons_succ]
      exact ⟨line, hline, hinfix⟩
    · next hc =>
      rw [List.count_cons_of_ne hc]
      obtain ⟨p, ps, hp⟩ := List.exists_cons_of_ne_nil (pieces_ne_nil '\n' (u ++ (l ++ v)))
      rw [lines, hp] at hline
      rw [hp, List.headD_cons, List.tail_cons]
      cases hn : u.count '\n' with
      | zero =>
        rw [hn] at hline
        obtain rfl := Option.some.inj hline
        exact ⟨c :: p, rfl, hinfix.trans (List.infix_cons List.infix_rfl)⟩
      | succ n =>
        rw [hn] at hline
        exact ⟨line, hline, hinfix⟩

end Text

namespace Snippet
open Text

/-! ### Cleaning keeps lines in place -/

theorem withoutStar_suffix (line : Text) : withoutStar line <:+ line := by
  have hstrip : stripLeft line <:+ line := List.dropWhile_suffix _
  unfold withoutStar
  split
  · next rest h =>
    exact ((List.suffix_append ['*', ' '] rest).trans (h ▸ List.suffix_rfl)).trans hstrip
  · next rest _ h =>
    exact ((List.suffix_cons '*' rest).trans (h ▸ List.suffix_rfl)).trans hstrip
  · exact List.suffix_rfl

theorem isInfix_withoutBlankEnds (ls : List Text) : withoutBlankEnds ls <:+: ls := by
  have hfront : ls.dropWhile isBlankLine <:+ ls := List.dropWhile_suffix _
  have hback : withoutBlankEnds ls <+: ls.dropWhile isBlankLine := by
    rw [withoutBlankEnds, ← List.reverse_suffix, List.reverse_reverse]
    exact List.dropWhile_suffix _
  exact hback.isInfix.trans hfront.isInfix

/-- A line that is dedented loses its start, or all of it. -/
theorem dedent_eq_map (ls : List Text) :
    ∃ f : Text → Text, dedent ls = ls.map f ∧ ∀ l, f l <:+ l := by
  refine ⟨_, rfl, fun l => ?_⟩
  split
  · exact List.nil_suffix
  · cases hrest : after? (margin ls) l with
    | none => exact List.suffix_rfl
    | some rest => exact after?_eq_some_iff.1 hrest ▸ List.suffix_append _ rest

variable {comment : Text}

theorem lineFeed_notMem_withoutStar {ls : List Text} (h : ∀ l ∈ ls, '\n' ∉ l) :
    ∀ l ∈ ls.map withoutStar, '\n' ∉ l := by
  intro l hl
  obtain ⟨k, hk, rfl⟩ := List.mem_map.1 hl
  exact fun hmem => h k hk ((withoutStar_suffix k).mem hmem)

/-- Raw lines in place are cleaned to code in place. -/
theorem exists_standIn_clean {k : Nat} {ls : List Text} (h : StandIn comment k ls) (hls : ls ≠ [])
    (hfree : ∀ l ∈ ls, '\n' ∉ l) {f : Text → Text} (hf : ∀ l, f l <:+ l) :
    ∃ n, StandIn comment (k + n) (lines (unlines ((cleanLines ls).map f))) := by
  have hclean := lineFeed_notMem_withoutStar hfree
  have hplace := (h.map hfree withoutStar_suffix).map hclean hf
  refine hplace.lines_unlines (by simpa using hls) (fun l hl => ?_)
    ((isInfix_withoutBlankEnds _).map f)
  obtain ⟨m, hm, rfl⟩ := List.mem_map.1 hl
  exact fun hmem => hclean m hm ((hf m).mem hmem)

/-! ### Reading keeps lines in place -/

theorem IsOpening.count_pos {o : Text} (h : IsOpening o) : 1 ≤ o.count '\n' := by
  obtain ⟨run, language, rfl, -⟩ := h
  simp only [List.count_append, List.count_singleton_self]
  omega

theorem faithful_readFenced? : Faithful fun _ => readFenced? := by
  intro _ s r h
  obtain ⟨o, -, rfl, -⟩ := readFenced?_eq_some_iff.1 h
  exact ⟨o ++ (r.value ++ fence), by simp only [List.append_assoc]⟩

/-- Indented code is read behind a line feed, as whole lines. -/
theorem readIndented?_eq_some {s : Text} {r : Reading (List Text)} (h : readIndented? s = some r) :
    ∃ o u, s = o ++ u ∧ 1 ≤ o.count '\n' ∧ r.value = (lines u).takeWhile isIndented ∧
      r.value ≠ [] ∧ r.rest = unlines ((lines u).dropWhile isIndented) := by
  obtain ⟨t, htag, h⟩ := Option.bind_eq_some_iff.1 h
  obtain ⟨u, hline, h⟩ := Option.bind_eq_some_iff.1 h
  rw [after?_eq_some_iff] at htag hline
  have hs : s = (tag ++ (t.takeWhile isGap ++ ['\n'])) ++ u := by
    rw [htag, List.append_assoc, List.append_assoc, ← hline, List.takeWhile_append_dropWhile]
  dsimp only at h
  split at h
  · exact nomatch h
  · next hne =>
    obtain rfl := Option.some.inj h
    refine ⟨_, u, hs, ?_, rfl, by simpa using hne, rfl⟩
    simp only [List.count_append, List.count_singleton_self]
    omega

theorem unlines_suffix (ls ms : List Text) : unlines ms <:+ unlines (ls ++ ms) := by
  by_cases hms : ms = []
  · exact hms ▸ List.nil_suffix
  · rw [unlines_append ls hms]
    exact List.suffix_append _ _

theorem faithful_readIndented? : Faithful fun _ => readIndented? := by
  intro _ s r h
  obtain ⟨o, u, rfl, -, -, -, hrest⟩ := readIndented?_eq_some h
  have hu : r.rest <:+ u := by
    have hsuffix := unlines_suffix ((lines u).takeWhile isIndented) ((lines u).dropWhile isIndented)
    rwa [List.takeWhile_append_dropWhile, unlines_lines, ← hrest] at hsuffix
  exact hu.trans (List.suffix_append o u)

theorem exists_standIn_of_mem_fenced {s : Snippet} (h : s ∈ fenced comment) :
    ∃ k, 1 ≤ k ∧ StandIn comment k (lines s.code) := by
  obtain ⟨raw, hraw, rfl⟩ := List.mem_map.1 h
  obtain ⟨p, hp, rfl⟩ := List.mem_map.1 hraw
  obtain ⟨a, t, _, r, rfl, hread, hvalue⟩ := exists_read_of_mem_segmentsFrom faithful_readFenced? hp
  obtain ⟨o, ho, rfl, -⟩ := readFenced?_eq_some_iff.1 hread
  have hplace : StandIn (a ++ (o ++ (r.value ++ (fence ++ r.rest)))) ((a ++ o).count '\n' + 0)
      (lines r.value) := by
    have hwithin := (standIn_lines r.value).within (a ++ o) (fence ++ r.rest)
    rwa [List.append_assoc] at hwithin
  obtain ⟨n, hn⟩ := exists_standIn_clean hplace (lines_ne_nil _)
    (fun l hl => notMem_of_mem_lines hl) (fun l => List.suffix_refl (id l))
  rw [List.map_id] at hn
  have hcode : (ofCode (clean p.value)).code = unlines (cleanLines (lines r.value)) := by
    rw [hvalue]
    rfl
  have hpos := ho.count_pos
  refine ⟨_, ?_, hcode ▸ hn⟩
  rw [List.count_append]
  omega

theorem exists_standIn_of_mem_indented {s : Snippet} (h : s ∈ indented comment) :
    ∃ k, 1 ≤ k ∧ StandIn comment k (lines s.code) := by
  obtain ⟨code, hcode, rfl⟩ := List.mem_map.1 h
  obtain ⟨ls, hls, rfl⟩ := List.mem_map.1 (List.mem_filter.1 hcode).1
  obtain ⟨p, hp, rfl⟩ := List.mem_map.1 hls
  obtain ⟨a, t, _, r, rfl, hread, hvalue⟩ :=
    exists_read_of_mem_segmentsFrom faithful_readIndented? hp
  obtain ⟨o, u, rfl, hpos, hrows, hne, -⟩ := readIndented?_eq_some hread
  have hplace : StandIn (a ++ (o ++ u)) ((a ++ o).count '\n' + 0) (lines u) := by
    have hwithin := (standIn_lines u).within (a ++ o) []
    rwa [List.append_assoc, List.append_nil] at hwithin
  have hfirst : r.value <:+: lines u := hrows ▸ (List.takeWhile_prefix isIndented).isInfix
  obtain ⟨m, hm⟩ := hplace.of_infix hfirst
  obtain ⟨f, hf, hsuffix⟩ := dedent_eq_map (cleanLines r.value)
  obtain ⟨n, hn⟩ := exists_standIn_clean hm hne
    (fun l hl => notMem_of_mem_lines (hfirst.mem hl)) hsuffix
  rw [← hf] at hn
  refine ⟨_, ?_, hvalue ▸ hn⟩
  rw [List.count_append]
  omega

/-- **The code of an example stands in its comment, line below line,** and not on the first
line of the comment. -/
theorem exists_standIn_of_mem_all {s : Snippet} (h : s ∈ all comment) :
    ∃ k, 1 ≤ k ∧ StandIn comment k (lines s.code) := by
  unfold all at h
  split at h
  · exact exists_standIn_of_mem_indented h
  · exact exists_standIn_of_mem_fenced h

end Snippet

namespace Comment
open Text

/-- A comment stands in a source between two texts: it is one of those that the source is cut
at, and these are what the source has before its opening and behind its closing mark. -/
def Occurs (source : Text) (c : Comment) (before behind : Text) : Prop :=
  ∃ t ps p qs, Cuts source t ∧ t.pieces = ps ++ p :: qs ∧ t.comments[ps.length]? = some c ∧
    before = piecesText ps p.gap ∧ behind = piecesText qs t.tail

variable {source before behind : Text} {c : Comment}

theorem exists_occurs (h : c ∈ all source) : ∃ before behind, Occurs source c before behind := by
  obtain ⟨t, ht⟩ := exists_cuts source
  rw [ht.all_eq] at h
  obtain ⟨j, hj, hc⟩ := List.mem_iff_getElem.1 h
  have hlength : j < t.pieces.length := by
    rw [Cutting.comments, List.length_mapIdx] at hj
    exact hj
  refine ⟨_, _, t, t.pieces.take j, t.pieces[j], t.pieces.drop (j + 1), ht, ?_, ?_, rfl, rfl⟩
  · rw [← List.drop_eq_getElem_cons hlength, List.take_append_drop]
  · rw [List.length_take, Nat.min_eq_left (Nat.le_of_lt hlength), List.getElem?_eq_getElem hj, hc]

/-- The comment of a piece is read off what stands before and behind it. -/
theorem Cutting.getElem?_comments {t : Cutting} {ps qs : List Piece} {p : Piece}
    (h : t.pieces = ps ++ p :: qs) :
    t.comments[ps.length]? = some ⟨p.body, 1 + (piecesText ps p.gap).count '\n',
      (Declaration.declared? (piecesText qs t.tail)).getD
        (anonymous (1 + (piecesText ps p.gap).count '\n'))⟩ := by
  have hp : t.pieces[ps.length]? = some p := by
    rw [h, List.getElem?_append_right (Nat.le_refl _), Nat.sub_self]
    rfl
  have htake : t.pieces.take ps.length = ps := by rw [h, List.take_left]
  have hdrop : t.pieces.drop (ps.length + 1) = qs := by
    rw [h, ← List.drop_drop, List.drop_left, List.drop_one, List.tail_cons]
  rw [Cutting.comments, List.getElem?_mapIdx, hp, Option.map_some]
  simp only [htake, hdrop]

/-- A comment stands between its marks, on the line that it is said to be on. -/
theorem Occurs.text_line (h : Occurs source c before behind) :
    source = before ++ (opening ++ (c.body ++ (closing ++ behind))) ∧
      c.line = 1 + before.count '\n' := by
  obtain ⟨t, ps, p, qs, ht, hpieces, hc, rfl, rfl⟩ := h
  rw [Cutting.getElem?_comments hpieces] at hc
  obtain rfl := Option.some.inj hc
  refine ⟨?_, rfl⟩
  rw [← ht.text, hpieces]
  simp only [piecesText, List.flatMap_append, List.flatMap_cons, Piece.text, List.append_assoc]

/-- A comment belongs to the declaration behind its closing mark. -/
theorem Occurs.owner (h : Occurs source c before behind) :
    c.owner = (Declaration.declared? behind).getD (anonymous c.line) := by
  obtain ⟨t, ps, p, qs, -, hpieces, hc, -, rfl⟩ := h
  rw [Cutting.getElem?_comments hpieces] at hc
  obtain rfl := Option.some.inj hc
  rfl

end Comment

namespace Example
open Text

/-- An example of a comment has the code of one of its snippets. -/
theorem exists_snippet_of_mem_ofComment {origin : Text} {c : Comment} {e : Example}
    (h : e ∈ ofComment origin c) : e.line = c.line ∧ ∃ s ∈ Snippet.all c.body, s.code = e.code := by
  unfold ofComment at h
  split at h
  · next s hs =>
    obtain rfl := List.mem_singleton.1 h
    exact ⟨rfl, s, by rw [hs]; exact List.mem_singleton_self s, rfl⟩
  · obtain ⟨i, hi, rfl⟩ := List.mem_mapIdx.1 h
    exact ⟨rfl, _, List.getElem_mem hi, rfl⟩

/-- **An example is made of the source, line for line.**  It is shown by a comment that
begins on its line.  From some later line on, each line of its code is a piece of one line of
the source, and stands there between the marks of the comment. -/
theorem exists_occurs_of_mem_ofSource {origin source : Text} {e : Example}
    (h : e ∈ ofSource origin source) :
    ∃ c before behind, ∃ k : Nat, Comment.Occurs source c before behind ∧ e ∈ ofComment origin c ∧
      source = before ++ (Comment.opening ++ (c.body ++ (Comment.closing ++ behind))) ∧
      e.line = 1 + before.count '\n' ∧ e.line ≤ k ∧
      ∀ (i : Nat) l, (lines e.code)[i]? = some l →
        (∃ line, (lines source)[k + i]? = some line ∧ l <:+: line) ∧
        ∃ u v, c.body = u ++ (l ++ v) ∧ (before ++ (Comment.opening ++ u)).count '\n' = k + i := by
  obtain ⟨c, hc, he⟩ := List.mem_flatMap.1 h
  obtain ⟨before, behind, hoccurs⟩ := Comment.exists_occurs hc
  obtain ⟨htext, hline⟩ := hoccurs.text_line
  obtain ⟨hsame, s, hs, hcode⟩ := exists_snippet_of_mem_ofComment he
  obtain ⟨k, hpos, hplace⟩ := Snippet.exists_standIn_of_mem_all hs
  have hopening (u : Text) :
      (before ++ (Comment.opening ++ u)).count '\n' = before.count '\n' + u.count '\n' := by
    simp [Comment.opening]
  refine ⟨c, before, behind, before.count '\n' + k, hoccurs, he, htext, ?_, ?_, fun i l hl => ?_⟩
  · rw [hsame, hline]
    push_cast
    rfl
  · rw [hsame, hline]
    push_cast
    omega
  · obtain ⟨u, v, hbody, hu⟩ := hplace i l (hcode ▸ hl)
    have hcount : (before ++ (Comment.opening ++ u)).count '\n' = before.count '\n' + k + i := by
      rw [hopening, hu, Nat.add_assoc]
    refine ⟨?_, u, v, hbody, hcount⟩
    have hfree : '\n' ∉ l := notMem_of_mem_lines (List.mem_of_getElem? hl)
    have hsource : source =
        (before ++ (Comment.opening ++ u)) ++ (l ++ (v ++ (Comment.closing ++ behind))) := by
      rw [htext, hbody]
      simp only [List.append_assoc]
    rw [← hcount, hsource]
    exact exists_line_of_append hfree _ _

/-- A source with a comment that is closed twice, the indented code of which is dedented. -/
def ragged : Text := "a\n/** b\n@example\n *\t\tif (c)\n*    \n  * \t\td\n*/ */".toList

theorem exists_occurs_of_mem_ofSource_ragged :
    ∃ e ∈ ofSource [] ragged, e.code = "if (c)\n\nd".toList ∧
      ∃ k : Nat, e.line ≤ k ∧ ∀ (i : Nat) l, (lines e.code)[i]? = some l →
        ∃ line, (lines ragged)[k + i]? = some line ∧ l <:+: line := by
  have hmem : ⟨[], 2, "anonymous_2".toList, "if (c)\n\nd".toList, none⟩ ∈ ofSource [] ragged := by
    decide +kernel
  obtain ⟨_, _, _, k, -, -, -, -, hk, hplace⟩ := exists_occurs_of_mem_ofSource hmem
  exact ⟨_, hmem, rfl, k, hk, fun i l hl => (hplace i l hl).1⟩

end Example
end DocExamples
