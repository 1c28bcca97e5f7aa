/-
# The cuts of a text at its comments

The comments of a text cut it into pieces, each of them a gap and a comment, and a tail:

    gap₁ /** body₁ */ gap₂ /** body₂ */ … gapₙ /** bodyₙ */ tail

Three conditions fix where the cuts are.  A gap ends where an opening mark first occurs, a
body ends where a closing mark first occurs, and in the tail no opening mark has a closing
mark behind it.  The two marks must not share a star: in `/**/` the closing mark begins
within the opening one, which is therefore still open behind it.

Every text has exactly one such cutting, and its comments are read off it.
-/

import DocExamples.Proofs.Junction
import DocExamples.Proofs.ReadBack

namespace DocExamples

namespace Text

variable {mark front rest : Text}

/-! ### First occurrences -/

/-- In a part with the mark behind it, the first occurrence of the mark is the one at the
end. -/
def EndsAtFirst (mark front : Text) : Prop :=
  ∀ a b, front ++ mark = a ++ (mark ++ b) → b = []

/-- A part in which no mark begins stands before every occurrence of the mark. -/
theorem length_le_of_freeOf (hfree : FreeOf mark front (mark ++ rest)) {a b : Text}
    (h : front ++ (mark ++ rest) = a ++ (mark ++ b)) : front.length ≤ a.length := by
  induction front generalizing a with
  | nil => exact Nat.zero_le _
  | cons c front ih =>
    cases a with
    | nil =>
      have hmark : after? mark (c :: (front ++ (mark ++ rest))) = some b := after?_eq_some_iff.2 h
      exact absurd (hfree.1.symm.trans hmark) (Option.some_ne_none b).symm
    | cons d a => exact Nat.succ_le_succ (ih hfree.2 (List.cons.inj h).2)

/-- What follows the mark does not matter to whether another one begins before it. -/
theorem freeOf_iff_endsAtFirst : FreeOf mark front (mark ++ rest) ↔ EndsAtFirst mark front := by
  constructor
  · intro hfree a b hab
    have hlonger : front ++ (mark ++ rest) = a ++ (mark ++ (b ++ rest)) := by
      rw [← List.append_assoc, hab]
      simp only [List.append_assoc]
    have hle := length_le_of_freeOf hfree hlonger
    have hlength := congrArg List.length hab
    simp only [List.length_append] at hlength
    exact List.length_eq_zero_iff.1 (by omega)
  · intro hends
    induction front with
    | nil => trivial
    | cons c front ih =>
      refine ⟨?_, ih fun a b hab => hends (c :: a) b (congrArg (c :: ·) hab)⟩
      rw [after?_eq_none_iff]
      intro hmark
      -- The mark would begin before the one at the end and would end no later.
      have hlength : mark.length ≤ (c :: front ++ mark).length := by
        rw [List.length_append]
        omega
      have hshorter : c :: front ++ mark <+: c :: (front ++ (mark ++ rest)) :=
        ⟨rest, by simp only [List.cons_append, List.append_assoc]⟩
      obtain ⟨b, hb⟩ := List.prefix_of_prefix_length_le hmark hshorter hlength
      obtain rfl : b = [] := hends [] b hb.symm
      have hsame := congrArg List.length hb
      simp only [List.append_nil, List.length_append, List.length_cons] at hsame
      omega

theorem freeOf_of_cutFrom {seen s : Text} {k : Cut} (h : cutFrom mark seen s = some k) :
    ∃ front, k.before = seen.reverse ++ front ∧ FreeOf mark front (mark ++ k.after) := by
  induction s generalizing seen with
  | nil =>
    obtain ⟨rest, -, rfl⟩ := Option.map_eq_some_iff.1 h
    exact ⟨[], (List.append_nil _).symm, trivial⟩
  | cons c s ih =>
    have hparts := cutFrom_eq_some h
    rw [cutFrom] at h
    split at h
    · obtain rfl := Option.some.inj h
      exact ⟨[], (List.append_nil _).symm, trivial⟩
    · next hnone =>
      obtain ⟨front, hbefore, hfree⟩ := ih h
      rw [List.reverse_cons, List.append_assoc, List.singleton_append] at hbefore
      rw [hbefore, List.append_assoc, List.append_assoc, List.cons_append] at hparts
      have hs := List.append_cancel_left hparts
      exact ⟨c :: front, hbefore, hs ▸ hnone, hfree⟩

/-- **A text is cut at the first occurrence of the mark.** -/
theorem cut?_eq_some_iff {s : Text} {k : Cut} :
    cut? mark s = some k ↔ s = k.before ++ (mark ++ k.after) ∧ EndsAtFirst mark k.before := by
  constructor
  · intro h
    obtain ⟨front, hbefore, hfree⟩ := freeOf_of_cutFrom h
    rw [List.reverse_nil, List.nil_append] at hbefore
    refine ⟨?_, freeOf_iff_endsAtFirst.1 (hbefore ▸ hfree)⟩
    rw [← List.append_assoc]
    exact eq_of_cut? h
  · rintro ⟨rfl, hends⟩
    exact cut?_of_freeOf (freeOf_iff_endsAtFirst.2 hends)

end Text

namespace Comment
open Text

/-! ### Cuttings -/

/-- A comment, and what stands before it. -/
structure Piece where
  /-- The text between the comment before and this one. -/
  gap : Text
  /-- The text between the marks of the comment. -/
  body : Text

/-- The text of a piece, with both marks. -/
def Piece.text (p : Piece) : Text := p.gap ++ (opening ++ (p.body ++ closing))

/-- The text of pieces and of what stands behind them. -/
def piecesText (ps : List Piece) (tail : Text) : Text := ps.flatMap Piece.text ++ tail

/-- A text in pieces. -/
structure Cutting where
  /-- The pieces from left to right. -/
  pieces : List Piece
  /-- The text behind the last comment. -/
  tail : Text

/-- The comments of a cutting.  Line and owner of each are read off its place: the line
feeds before its opening mark, and the declaration behind its closing mark (which name that is says
`Declaration.Declares`, without the reader). -/
def Cutting.comments (c : Cutting) : List Comment :=
  c.pieces.mapIdx fun i p =>
    let line := 1 + (piecesText (c.pieces.take i) p.gap).count '\n'
    let behind := piecesText (c.pieces.drop (i + 1)) c.tail
    ⟨p.body, line, (Declaration.declared? behind).getD (anonymous line)⟩

/-- A cutting of a text at its comments. -/
structure Cuts (source : Text) (c : Cutting) : Prop where
  /-- It is one of this text. -/
  text : piecesText c.pieces c.tail = source
  /-- An opening mark ends the gap before it, and occurs nowhere earlier. -/
  leftmost : ∀ p ∈ c.pieces, EndsAtFirst opening p.gap
  /-- A closing mark ends the body before it, and occurs nowhere earlier. -/
  shortest : ∀ p ∈ c.pieces, EndsAtFirst closing p.body
  /-- Behind an opening mark of the tail there is no closing mark. -/
  unclosed : ∀ a b, c.tail = a ++ (opening ++ b) → ¬ closing <:+: b

theorem piecesText_cons (p : Piece) (ps : List Piece) (tail : Text) :
    piecesText (p :: ps) tail =
      p.gap ++ (opening ++ (p.body ++ (closing ++ piecesText ps tail))) := by
  simp only [piecesText, List.flatMap_cons, Piece.text, List.append_assoc]

/-- Every text has a cutting: at the first opening mark and the first closing mark behind
it, and so on behind that. -/
theorem exists_cuts (source : Text) : ∃ c, Cuts source c := by
  induction hn : source.length using Nat.strongRecOn generalizing source with
  | ind n ih =>
    have hwhole (hunclosed : ∀ a b, source = a ++ (opening ++ b) → ¬ closing <:+: b) :
        ∃ c, Cuts source c :=
      ⟨⟨[], source⟩, rfl, fun _ h => absurd h List.not_mem_nil,
        fun _ h => absurd h List.not_mem_nil, hunclosed⟩
    cases hopening : cut? opening source with
    | none =>
      refine hwhole fun a b hab => ?_
      exact absurd ⟨a, b, hab ▸ List.append_assoc ..⟩ ((cutFrom_eq_none_iff _).1 hopening)
    | some k =>
      obtain ⟨hsource, hgap⟩ := cut?_eq_some_iff.1 hopening
      cases hclosing : cut? closing k.after with
      | none =>
        refine hwhole fun a b hab hclosed => ?_
        -- Behind the first opening mark nothing is closed, so neither behind a later one.
        have hle := length_le_of_freeOf (freeOf_iff_endsAtFirst.2 hgap) (hsource.symm.trans hab)
        have hlength := congrArg List.length (hsource.symm.trans hab)
        simp only [List.length_append] at hlength
        have hinner : b <:+ source := hab ▸ (List.suffix_append _ b).trans (List.suffix_append a _)
        have hafter : k.after <:+ source :=
          hsource ▸ (List.suffix_append _ k.after).trans (List.suffix_append k.before _)
        have hbehind : b <:+ k.after :=
          List.suffix_of_suffix_length_le hinner hafter (by omega)
        exact (cutFrom_eq_none_iff _).1 hclosing (hclosed.trans hbehind.isInfix)
      | some j =>
        obtain ⟨hafter, hbody⟩ := cut?_eq_some_iff.1 hclosing
        have hlt : j.after.length < n := by
          have hmark : opening.length = 3 := rfl
          have hlength := congrArg List.length hsource
          rw [hafter] at hlength
          simp only [List.length_append] at hlength
          omega
        obtain ⟨c, hc⟩ := ih _ hlt j.after rfl
        refine ⟨⟨⟨k.before, j.before⟩ :: c.pieces, c.tail⟩, ?_, ?_, ?_, hc.unclosed⟩
        · rw [piecesText_cons, hc.text, ← hafter, ← hsource]
        · exact List.forall_mem_cons.2 ⟨hgap, hc.leftmost⟩
        · exact List.forall_mem_cons.2 ⟨hbody, hc.shortest⟩

/-! ### The search makes the cuts -/

theorem read?_piece {body : Text} (h : EndsAtFirst closing body) (rest : Text) :
    read? (opening ++ (body ++ (closing ++ rest))) = some ⟨⟨body, rest⟩, rest⟩ := by
  have hcut : cut? closing (body ++ (closing ++ rest)) = some ⟨body, rest⟩ :=
    cut?_eq_some_iff.2 ⟨rfl, h⟩
  simp only [read?, after?_append, Option.bind_eq_bind, Option.bind_some, hcut, Option.pure_def]

/-- No comment is read in a tail that closes nothing. -/
theorem read?_eq_none_of_tail {tail : Text}
    (h : ∀ a b, tail = a ++ (opening ++ b) → ¬ closing <:+: b) {w : Text} (hw : w <:+ tail) :
    read? w = none := by
  rw [Option.eq_none_iff_forall_ne_some]
  intro r hr
  obtain ⟨hshape, -⟩ := read?_eq_some hr
  obtain ⟨a, rfl⟩ := hw
  refine h a _ (by rw [hshape]) ⟨r.value.before, r.rest, ?_⟩
  simp only [List.append_assoc]

/-- What the search finds in pieces. -/
def segmentsOf : (ps : List Piece) → (tail : Text) → List (Segment Cut)
  | [], _ => []
  | p :: ps, tail =>
    ⟨p.gap, opening ++ (p.body ++ closing), ⟨p.body, piecesText ps tail⟩⟩ :: segmentsOf ps tail

theorem segmentsFrom_piecesText {ps : List Piece} {tail : Text}
    (hleftmost : ∀ p ∈ ps, EndsAtFirst opening p.gap)
    (hshortest : ∀ p ∈ ps, EndsAtFirst closing p.body)
    (hunclosed : ∀ a b, tail = a ++ (opening ++ b) → ¬ closing <:+: b) (before : Option Char) :
    (segmentsFrom (fun _ => read?) before [] (piecesText ps tail)).segments =
      segmentsOf ps tail := by
  induction ps generalizing before with
  | nil =>
    have htail := segmentsFrom_of_unread (s := tail)
      (fun w hw => read?_eq_none_of_tail hunclosed hw) before []
    rw [piecesText, List.flatMap_nil, List.nil_append, htail, segmentsOf]
  | cons p ps ih =>
    obtain ⟨hgap, hleftmost⟩ := List.forall_mem_cons.1 hleftmost
    obtain ⟨hbody, hshortest⟩ := List.forall_mem_cons.1 hshortest
    have hread := read?_piece hbody (piecesText ps tail)
    have htaken : opening ++ (p.body ++ (closing ++ piecesText ps tail)) =
        (opening ++ (p.body ++ closing)) ++ piecesText ps tail := by
      simp only [List.append_assoc]
    have hne : opening ++ (p.body ++ closing) ≠ [] := List.cons_ne_nil _ _
    rw [piecesText_cons, segmentsFrom_of_freeOf Written.needsMark_read
      (freeOf_iff_endsAtFirst.2 hgap)]
    rw [htaken] at hread ⊢
    rw [segmentsFrom_of_read hread hne, ih hleftmost hshortest, List.append_nil,
      List.reverse_reverse, segmentsOf]

theorem Cuts.segments_eq {source : Text} {c : Cutting} (h : Cuts source c) :
    (segments source).segments = segmentsOf c.pieces c.tail := by
  rw [segments, Text.segments, ← h.text]
  exact segmentsFrom_piecesText h.leftmost h.shortest h.unclosed none

theorem pieces_segmentsOf (ps : List Piece) (tail : Text) :
    (segmentsOf ps tail).map (fun p => ⟨p.skipped, p.value.before⟩) = ps := by
  induction ps with
  | nil => rfl
  | cons p ps ih => rw [segmentsOf, List.map_cons, ih]

/-- A text has no two cuttings. -/
theorem Cuts.unique {source : Text} {c d : Cutting} (hc : Cuts source c) (hd : Cuts source d) :
    c = d := by
  have hpieces : c.pieces = d.pieces := by
    rw [← pieces_segmentsOf c.pieces c.tail, ← hc.segments_eq, hd.segments_eq, pieces_segmentsOf]
  have htail : c.tail = d.tail := by
    have htext := hc.text.trans hd.text.symm
    rw [hpieces] at htext
    exact List.append_cancel_left htext
  obtain ⟨ps, t⟩ := c
  obtain ⟨qs, u⟩ := d
  rw [show ps = qs from hpieces, show t = u from htail]

/-- Comments that are found one after another are those read off their places, where `done`
are the pieces before them. -/
theorem ofSegments_segmentsOf (done ps : List Piece) (tail : Text) :
    ofSegments (1 + (piecesText done []).count '\n') (segmentsOf ps tail) =
      ps.mapIdx fun i p =>
        let line := 1 + (piecesText (done ++ ps.take i) p.gap).count '\n'
        let behind := piecesText (ps.drop (i + 1)) tail
        ⟨p.body, line, (Declaration.declared? behind).getD (anonymous line)⟩ := by
  have hgap (qs : List Piece) (gap : Text) : (piecesText qs gap).count '\n' =
      (piecesText qs []).count '\n' + gap.count '\n' := by
    simp only [piecesText, List.count_append, List.count_nil, Nat.add_zero]
  induction ps generalizing done with
  | nil => rfl
  | cons p ps ih =>
    have hline : 1 + (piecesText done []).count '\n' + p.gap.count '\n' =
        1 + (piecesText (done ++ (p :: ps).take 0) p.gap).count '\n' := by
      rw [List.take_zero, List.append_nil, hgap done p.gap, Nat.add_assoc]
    have hmore : 1 + (piecesText (done ++ (p :: ps).take 0) p.gap).count '\n' +
        (opening ++ (p.body ++ closing)).count '\n' =
          1 + (piecesText (done ++ [p]) []).count '\n' := by
      rw [List.take_zero, List.append_nil]
      simp only [piecesText, List.flatMap_append, List.flatMap_singleton, Piece.text,
        List.count_append, List.count_nil]
      omega
    have hplace (i : Nat) : done ++ (p :: ps).take (i + 1) = (done ++ [p]) ++ ps.take i := by
      rw [List.take_succ_cons, List.append_assoc, List.singleton_append]
    rw [segmentsOf, ofSegments, List.mapIdx_cons]
    simp only [hline, hmore, ih, hplace, List.drop_succ_cons, List.drop_zero]

theorem Cuts.all_eq {source : Text} {c : Cutting} (h : Cuts source c) :
    all source = c.comments := by
  rw [all, h.segments_eq]
  exact ofSegments_segmentsOf [] c.pieces c.tail

/-- **The comments of a text are those of its one cutting.**  Every text can be cut so that
each gap ends at the first opening mark, each body at the first closing mark, and no comment
is left in the tail; there is one way only, and bodies, lines and owners of the comments are
read off it. -/
theorem all_eq_comments_of_cuts (source : Text) :
    ∃ c, Cuts source c ∧ (∀ d, Cuts source d → d = c) ∧ all source = c.comments := by
  obtain ⟨c, hc⟩ := exists_cuts source
  exact ⟨c, hc, fun d hd => hd.unique hc, hc.all_eq⟩

-- The marks of a comment share no star, and a comment may end in stars.
example : all "/**/ a /***/ b /*** c **/".toList = [⟨"/ a /**".toList, 1, "anonymous_1".toList⟩,
    ⟨"* c *".toList, 1, "anonymous_1".toList⟩] ∧ all "/**/".toList = [] := by
  decide +kernel

end Comment
end DocExamples
