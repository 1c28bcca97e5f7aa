/-
# One text behind another

The examples of a text do not depend on what follows it, and those of what follows only
move down, if the first text ends with a closing brace on its last line and opens no
comment behind its last one:

| across the end of the first text | is stopped by |
| --- | --- |
| a mark that opens or closes a comment | the line feed |
| the declaration behind a comment | the closing brace |
| an opened comment | every opened comment being closed |

A name that is made of a line moves with the line, so that comments are first seen without
such names.
-/

import DocExamples.Example
import DocExamples.Proofs.Barrier
import DocExamples.Proofs.Searching
import Mathlib.Data.List.Forall2

namespace DocExamples

namespace Text

/-! ### Marks -/

theorem after?_eq_none_iff {mark s : Text} : after? mark s = none ↔ ¬ mark <+: s := by
  rw [Option.eq_none_iff_forall_ne_some]
  exact ⟨fun h ⟨rest, hs⟩ => h rest (after?_eq_some_iff.2 hs.symm),
    fun h rest hs => h ⟨rest, (after?_eq_some_iff.1 hs).symm⟩⟩

theorem cutFrom_eq_none_iff {mark s : Text} (seen : Text) :
    cutFrom mark seen s = none ↔ ¬ mark <:+: s := by
  induction s generalizing seen with
  | nil =>
    rw [cutFrom, Option.map_eq_none_iff, after?_eq_none_iff, List.infix_nil, List.prefix_nil]
  | cons c s ih =>
    rw [List.infix_cons_iff, not_or, ← after?_eq_none_iff, ← ih (c :: seen), cutFrom]
    split <;> simp [*]

/-- A mark that is found is found at the same place if more text follows. -/
theorem cutFrom_append {mark seen s : Text} {k : Cut} (h : cutFrom mark seen s = some k)
    (t : Text) : cutFrom mark seen (s ++ t) = some ⟨k.before, k.after ++ t⟩ := by
  induction s generalizing seen with
  | nil =>
    obtain ⟨rest, hr, rfl⟩ := Option.map_eq_some_iff.1 h
    obtain ⟨rfl, rfl⟩ := List.append_eq_nil_iff.1 (after?_eq_some_iff.1 hr).symm
    cases t <;> rfl
  | cons c s ih =>
    rw [List.cons_append, cutFrom]
    rw [cutFrom] at h
    split at h
    · next rest hr =>
      obtain rfl := Option.some.inj h
      have hmark : after? mark (c :: (s ++ t)) = some (rest ++ t) := by
        rw [after?_eq_some_iff, ← List.cons_append, after?_eq_some_iff.1 hr, List.append_assoc]
      rw [hmark]
    · next hc =>
      -- The mark is short enough to be judged by what stands in `s`.
      have hlength : mark.length ≤ (c :: s).length := by
        have hmark : mark <:+: s := by
          by_contra hno
          exact Option.some_ne_none k (h.symm.trans ((cutFrom_eq_none_iff _).2 hno))
        exact Nat.le_succ_of_le hmark.length_le
      have hnone : after? mark (c :: (s ++ t)) = none := by
        rw [after?_eq_none_iff] at hc ⊢
        exact fun hp => hc (List.prefix_of_prefix_length_le hp (List.prefix_append (c :: s) t) hlength)
      rw [hnone]
      exact ih h

end Text

namespace Comment
open Text

/-! ### The search for comments -/

theorem read?_eq_some {s : Text} {r : Reading Cut} (h : read? s = some r) :
    s = opening ++ (r.value.before ++ (closing ++ r.rest)) ∧ r.value.after = r.rest := by
  obtain ⟨v, hv, hcut⟩ := Option.bind_eq_some_iff.1 h
  obtain ⟨k, hk, hr⟩ := Option.bind_eq_some_iff.1 hcut
  obtain rfl := Option.some.inj hr
  rw [after?_eq_some_iff.1 hv, eq_of_cut? hk]
  exact ⟨by simp only [List.append_assoc], rfl⟩

/-- A comment is read in the same way if more text follows. -/
theorem read?_append {s : Text} {r : Reading Cut} (h : read? s = some r) (t : Text) :
    read? (s ++ t) = some ⟨⟨r.value.before, r.value.after ++ t⟩, r.rest ++ t⟩ := by
  obtain ⟨v, hv, hcut⟩ := Option.bind_eq_some_iff.1 h
  obtain ⟨k, hk, hr⟩ := Option.bind_eq_some_iff.1 hcut
  obtain rfl := Option.some.inj hr
  rw [after?_eq_some_iff] at hv
  have hcut : cut? closing (v ++ t) = some ⟨k.before, k.after ++ t⟩ := cutFrom_append hk t
  rw [hv, List.append_assoc]
  simp only [read?, after?_append, Option.bind_eq_bind, Option.bind_some, hcut]
  rfl

/-- A comment with more text behind it. -/
def followed (t : Text) (p : Segment Cut) : Segment Cut :=
  { p with value := { p.value with after := p.value.after ++ t } }

theorem segmentsFrom_of_unread {s : Text} (h : ∀ w, w <:+ s → read? w = none)
    (before : Option Char) (skipped : Text) :
    segmentsFrom (fun _ => read?) before skipped s = ⟨[], skipped.reverse ++ s⟩ := by
  induction s generalizing before skipped with
  | nil => simp [segmentsFrom]
  | cons c s ih =>
    have hc : read? (c :: s) = none := h _ List.suffix_rfl
    rw [segmentsFrom]
    simp only [hc]
    rw [ih fun w hw => h w (hw.trans (List.suffix_cons c s))]
    simp

/-- Behind an opening mark that is never closed no comment is read. -/
theorem read?_eq_none_of_unclosed {s v w : Text} (hv : after? opening s = some v)
    (hcut : cut? closing v = none) (hw : w <:+ s) : read? w = none := by
  rw [Option.eq_none_iff_forall_ne_some]
  intro r hr
  obtain ⟨hshape, -⟩ := read?_eq_some hr
  have hs : s = '/' :: '*' :: '*' :: v := after?_eq_some_iff.1 hv
  have hclosed : closing <:+: v := by
    rw [hs, hshape, List.suffix_cons_iff, List.suffix_cons_iff, List.suffix_cons_iff] at hw
    have hfirst : opening ++ (r.value.before ++ (closing ++ r.rest)) =
      '/' :: '*' :: '*' :: (r.value.before ++ (closing ++ r.rest)) := rfl
    rw [hfirst] at hw
    have hbehind : closing <:+: r.value.before ++ (closing ++ r.rest) :=
      ⟨r.value.before, r.rest, by simp⟩
    -- Only where `w` is the whole, or a part of `v`, can it begin with the mark.
    rcases hw with hw | hw | hw | hw
    · obtain rfl := (List.cons.inj (List.cons.inj (List.cons.inj hw).2).2).2
      exact hbehind
    · exact absurd (List.cons.inj hw).1 (by decide)
    · exact absurd (List.cons.inj hw).1 (by decide)
    · exact (hbehind.trans (List.suffix_append ['/', '*', '*'] _).isInfix).trans hw.isInfix
  exact (cutFrom_eq_none_iff _).1 hcut hclosed

/-- An opening mark at which no comment is read stands behind the last comment. -/
theorem opening_within_tail {s v : Text} (hv : after? opening s = some v) (hs : read? s = none)
    (before : Option Char) (skipped : Text) :
    opening <:+: (segmentsFrom (fun _ => read?) before skipped s).tail := by
  have hcut : cut? closing v = none := by
    rw [Option.eq_none_iff_forall_ne_some]
    intro k hk
    simp [read?, hv, hk] at hs
  rw [segmentsFrom_of_unread fun w hw => read?_eq_none_of_unclosed hv hcut hw]
  exact ⟨skipped.reverse, v, by rw [List.append_assoc, ← after?_eq_some_iff.1 hv]⟩

/-- No mark opens across a line feed. -/
theorem read?_append_eq_none {s : Text} (t : Text) (hlast : s.getLast? = some '\n')
    (hopening : after? opening s = none) : read? (s ++ t) = none := by
  obtain ⟨a, rfl⟩ := List.getLast?_eq_some_iff.1 hlast
  have hstops : StopsAt '\n' (after? opening) := stopsAt_after? (by decide)
  rw [List.append_assoc, List.singleton_append]
  rcases hstops a with h | ⟨a', h⟩
  · simp [read?, h t]
  · exact absurd ((h []).symm.trans hopening) (Option.some_ne_none _)

theorem length_rest_lt {s : Text} {r : Reading Cut} (h : read? s = some r) :
    r.rest.length < s.length := by
  rw [(read?_eq_some h).1]
  simp only [List.length_append]
  have : opening.length = 3 := rfl
  omega

/-- A text without an opening mark behind its last comment, and with a line feed at its
end, is searched in the same way if more text follows; the search then goes on in that. -/
theorem segmentsFrom_append {s : Text} (t : Text) (hend : ∀ c, s.getLast? = some c → c = '\n')
    (before : Option Char) (skipped : Text)
    (htail : ¬ opening <:+: (segmentsFrom (fun _ => read?) before skipped s).tail) :
    ∃ last, (segmentsFrom (fun _ => read?) before skipped (s ++ t)).segments =
      (segmentsFrom (fun _ => read?) before skipped s).segments.map (followed t) ++
        (segmentsFrom (fun _ => read?) last
          (segmentsFrom (fun _ => read?) before skipped s).tail.reverse t).segments := by
  fun_induction segmentsFrom (fun _ => read?) before skipped s with
  | case1 before skipped => exact ⟨before, by simp⟩
  | case2 before skipped c u r hr hlt taken more ih =>
    have hlt' : (r.rest ++ t).length < (c :: (u ++ t)).length := by
      simp only [List.length_append, List.length_cons] at hlt ⊢
      omega
    have htaken : (c :: (u ++ t)).take ((c :: (u ++ t)).length - (r.rest ++ t).length) = taken := by
      have hle : (c :: u).length - r.rest.length ≤ (c :: u).length := Nat.sub_le _ _
      have hcount : (c :: (u ++ t)).length - (r.rest ++ t).length =
          (c :: u).length - r.rest.length := by
        simp only [List.length_append, List.length_cons]
        omega
      rw [hcount, ← List.cons_append, List.take_append_of_le_length hle]
    have hrest : ∀ d, r.rest.getLast? = some d → d = '\n' := by
      intro d hd
      refine hend d ?_
      rw [(read?_eq_some hr).1]
      simp [List.getLast?_append, hd]
    obtain ⟨last, ih⟩ := ih hrest htail
    refine ⟨last, ?_⟩
    have hread : read? (c :: (u ++ t)) = _ := read?_append hr t
    rw [List.cons_append, segmentsFrom]
    simp only [hread, hlt', dite_true, htaken, ih]
    rfl
  | case3 before skipped c u r hr hlt ih => exact absurd (length_rest_lt hr) hlt
  | case4 before skipped c u hr ih =>
    have hopening : after? opening (c :: u) = none := by
      rw [Option.eq_none_iff_forall_ne_some]
      intro v hv
      have hopen := opening_within_tail hv hr before skipped
      rw [segmentsFrom] at hopen
      simp only [hr] at hopen
      exact htail hopen
    have hlast : (c :: u).getLast? = some '\n' := by
      have hd := List.getLast?_eq_some_getLast (List.cons_ne_nil c u)
      rwa [hend _ hd] at hd
    have hnone : read? (c :: (u ++ t)) = none := read?_append_eq_none t hlast hopening
    have hu : ∀ d, u.getLast? = some d → d = '\n' := by
      intro d hd
      refine hend d ?_
      rw [List.getLast?_cons, hd]
      rfl
    obtain ⟨last, ih⟩ := ih hu htail
    refine ⟨last, ?_⟩
    rw [List.cons_append, segmentsFrom]
    simp only [hnone, ih]

/-! ### Lines and declarations -/

/-- A comment as it stands in a text, before a name is made for one that documents no
declaration. -/
structure Sighting where
  /-- The text between the opening and the closing mark. -/
  body : Text
  /-- The line of the opening mark. -/
  line : Nat
  /-- The name of the declaration behind it. -/
  declared : Option Text

/-- The comment that is seen if so many lines stand before its text. -/
def Sighting.comment (n : Nat) (c : Sighting) : Comment :=
  ⟨c.body, c.line + n, c.declared.getD (anonymous (c.line + n))⟩

/-- What is seen in segments, the first of which begins on line `line`. -/
def sightingsFrom (line : Nat) : List (Segment Cut) → List Sighting
  | [] => []
  | p :: ps =>
    let opened := line + p.skipped.count '\n'
    ⟨p.value.before, opened, Declaration.declared? p.value.after⟩ ::
      sightingsFrom (opened + p.taken.count '\n') ps

/-- The comments of a text as they stand in it. -/
def sightings (source : Text) : List Sighting := sightingsFrom 1 (segments source).segments

theorem ofSegments_add (line n : Nat) (ps : List (Segment Cut)) :
    ofSegments (line + n) ps = (sightingsFrom line ps).map (Sighting.comment n) := by
  induction ps generalizing line with
  | nil => rfl
  | cons p ps ih =>
    have hopened : line + n + p.skipped.count '\n' = line + p.skipped.count '\n' + n := by omega
    have hmore : line + p.skipped.count '\n' + n + p.taken.count '\n' =
        line + p.skipped.count '\n' + p.taken.count '\n' + n := by omega
    rw [ofSegments, sightingsFrom, List.map_cons, hopened, hmore, ih]
    rfl

theorem all_eq_sightings (source : Text) :
    all source = (sightings source).map (Sighting.comment 0) :=
  ofSegments_add 1 0 _

theorem ofSegments_append (line : Nat) (ps qs : List (Segment Cut)) :
    ofSegments line (ps ++ qs) = ofSegments line ps ++
      ofSegments (line + (ps.flatMap fun p => p.skipped ++ p.taken).count '\n') qs := by
  induction ps generalizing line with
  | nil => rfl
  | cons p ps ih =>
    rw [List.cons_append, ofSegments, ofSegments, ih, List.flatMap_cons, List.count_append,
      List.count_append, List.cons_append]
    congr 3
    omega

/-- A text that is passed over only moves the comments down. -/
theorem ofSegments_skipped (line : Nat) (before before' : Option Char) (skipped s : Text) :
    ofSegments line (segmentsFrom (fun _ => read?) before skipped s).segments =
      ofSegments (line + skipped.count '\n')
        (segmentsFrom (fun _ => read?) before' [] s).segments := by
  induction s generalizing line before before' skipped with
  | nil => simp [segmentsFrom, ofSegments]
  | cons c s ih =>
    have hpassed : ofSegments line (segmentsFrom (fun _ => read?) (some c) (c :: skipped) s).segments =
        ofSegments (line + skipped.count '\n')
          (segmentsFrom (fun _ => read?) (some c) [c] s).segments := by
      rw [ih line (some c) none, ih (line + skipped.count '\n') (some c) none]
      congr 1
      rw [← List.singleton_append, List.count_append]
      omega
    rw [segmentsFrom, segmentsFrom]
    split
    · next r hr =>
      have hlt : r.rest.length < (c :: s).length := length_rest_lt hr
      simp only [hlt, dite_true, ofSegments, List.reverse_nil, List.count_nil, List.count_reverse,
        Nat.add_zero]
    · exact hpassed

theorem faithful_read? : Faithful fun _ => read? := by
  intro _ s r h
  refine ⟨opening ++ (r.value.before ++ closing), ?_⟩
  rw [(read?_eq_some h).1]
  simp only [List.append_assoc]

/-- What stands behind a comment is a part of the text, with the closing mark before it. -/
theorem suffix_of_mem_segmentsFrom {before : Option Char} {skipped s : Text} {p : Segment Cut}
    (hp : p ∈ (segmentsFrom (fun _ => read?) before skipped s).segments) :
    closing ++ p.value.after <:+ s := by
  obtain ⟨a, u, _, r, rfl, hr, hvalue⟩ := exists_read_of_mem_segmentsFrom faithful_read? hp
  obtain ⟨hshape, hafter⟩ := read?_eq_some hr
  have hbehind : closing ++ r.rest <:+ u := by
    rw [hshape, ← List.append_assoc]
    exact List.suffix_append _ _
  rw [← hvalue, hafter]
  exact hbehind.trans (List.suffix_append a u)

/-- Comments of a text that ends with a closing brace on its last line belong to the same
declarations if more text follows. -/
theorem ofSegments_followed {s : Text} (t : Text) (hend : ['\x7d', '\n'] <:+ s) (line : Nat)
    {ps : List (Segment Cut)} (hps : ∀ p ∈ ps, closing ++ p.value.after <:+ s) :
    ofSegments line (ps.map (followed t)) = ofSegments line ps := by
  induction ps generalizing line with
  | nil => rfl
  | cons p ps ih =>
    have hbrace : ['\x7d', '\n'] <:+ p.value.after := by
      rcases List.suffix_or_suffix_of_suffix hend (hps p List.mem_cons_self) with h | h
      · have hclosing : closing ++ p.value.after = '*' :: '/' :: p.value.after := rfl
        rw [hclosing, List.suffix_cons_iff, List.suffix_cons_iff] at h
        rcases h with h | h | h
        · exact absurd (List.cons.inj h).1 (by decide)
        · exact absurd (List.cons.inj h).1 (by decide)
        · exact h
      · exact absurd (h.subset (List.mem_append_left _ (by decide : '*' ∈ closing))) (by decide)
    obtain ⟨a, ha⟩ := hbrace
    have hdeclared : Declaration.declared? (p.value.after ++ t) =
        Declaration.declared? p.value.after := by
      rw [← ha, List.append_assoc]
      exact (Declaration.declared?_append a _).trans (Declaration.declared?_append a _).symm
    rw [List.map_cons, ofSegments, ofSegments, ih _ fun q hq => hps q (List.mem_cons_of_mem _ hq)]
    simp only [followed, hdeclared]

/-- **A text behind a closed one only moves down.** -/
theorem all_append {s : Text} (t : Text) (hend : ['\x7d', '\n'] <:+ s)
    (htail : ¬ opening <:+: (segments s).tail) :
    all (s ++ t) = all s ++ (sightings t).map (Sighting.comment (s.count '\n')) := by
  have hlast : ∀ c, s.getLast? = some c → c = '\n' := by
    obtain ⟨u, rfl⟩ := hend
    intro c hc
    simpa [eq_comm] using hc
  obtain ⟨last, hsegments⟩ := segmentsFrom_append t hlast none [] htail
  have hlines : ((segments s).segments.flatMap fun p => p.skipped ++ p.taken).count '\n' +
      (segments s).tail.count '\n' = s.count '\n' := by
    rw [← List.count_append, ← Segmentation.source, segments, source_segments faithful_read?]
  have hmapped : (((segments s).segments.map (followed t)).flatMap fun p => p.skipped ++ p.taken) =
      (segments s).segments.flatMap fun p => p.skipped ++ p.taken := by
    rw [List.flatMap_map]
    rfl
  have hfollowed : ofSegments 1 ((segments s).segments.map (followed t)) = all s :=
    ofSegments_followed t hend 1 fun p hp => suffix_of_mem_segmentsFrom hp
  have hall : all (s ++ t) = ofSegments 1 ((segments s).segments.map (followed t) ++
      (segmentsFrom (fun _ => read?) last (segments s).tail.reverse t).segments) := by
    rw [all, segments, Text.segments, hsegments]
    rfl
  have hmoved : ofSegments (1 + s.count '\n') (segments t).segments =
      (sightings t).map (Sighting.comment (s.count '\n')) := ofSegments_add 1 _ _
  rw [hall, ofSegments_append, hfollowed, hmapped, ofSegments_skipped _ last none,
    List.count_reverse, Nat.add_assoc, hlines, ← hmoved]
  rfl

end Comment

namespace Example
open Comment

/-- An example of one comment, and the same example where more lines stand before its
comment. -/
structure Lowered (c : Sighting) (n : Nat) (e lowered : Example) : Prop where
  /-- It is ascribed to the same file. -/
  origin : lowered.origin = e.origin
  /-- It stands so many lines further down. -/
  line : lowered.line = e.line + n
  /-- The code is the same. -/
  code : lowered.code = e.code
  /-- The expected output is the same. -/
  expected : lowered.expected = e.expected
  /-- The name begins with that of the declaration, or else with one made of the line, and
  is the same from there on. -/
  name : ∃ number, match c.declared with
    | some owner => e.name = owner ++ number ∧ lowered.name = owner ++ number
    | none => e.name = anonymous c.line ++ number ∧ lowered.name = anonymous (c.line + n) ++ number

theorem forall₂_lowered (origin : Text) (n : Nat) (c : Sighting) :
    List.Forall₂ (Lowered c n) (ofComment origin (c.comment 0)) (ofComment origin (c.comment n)) := by
  have hlowered (s : Snippet) (number : Text) :
      Lowered c n ⟨origin, c.line, (c.comment 0).owner ++ number, s.code, s.expected⟩
        ⟨origin, (c.line + n : Nat), (c.comment n).owner ++ number, s.code, s.expected⟩ := by
    refine ⟨rfl, by simp, rfl, rfl, number, ?_⟩
    cases hdeclared : c.declared with
    | some owner => simp [Sighting.comment, hdeclared]
    | none => simp [Sighting.comment, hdeclared]
  have hbody (line : Nat) : (c.comment line).body = c.body := rfl
  unfold ofComment
  rw [hbody, hbody]
  split
  · next s _ =>
    have h := hlowered s []
    rw [List.append_nil, List.append_nil] at h
    exact .cons h .nil
  · rw [List.forall₂_iff_get]
    refine ⟨by simp only [List.length_mapIdx], fun i h h' => ?_⟩
    simp only [List.get_eq_getElem, List.getElem_mapIdx, numbered, List.append_assoc]
    exact hlowered _ _

/-- **Text in front of a source only moves its examples down**, if that text ends with a
closing brace on its last line and opens no comment behind its last one.  The examples of
the whole are those of the text in front and then those of the source, each so many lines
further down; only a name that is made of a line goes with the line. -/
theorem ofSource_append {s : Text} (origin t : Text) (hend : ['\x7d', '\n'] <:+ s)
    (hclosed : ¬ opening <:+: (segments s).tail) :
    ∃ later : Sighting → List Example,
      ofSource origin (s ++ t) = ofSource origin s ++ (sightings t).flatMap later ∧
      ofSource origin t = (sightings t).flatMap (fun c => ofComment origin (c.comment 0)) ∧
      ∀ c ∈ sightings t, List.Forall₂ (Lowered c (s.count '\n'))
        (ofComment origin (c.comment 0)) (later c) := by
  refine ⟨fun c => ofComment origin (c.comment (s.count '\n')), ?_, ?_,
    fun c _ => forall₂_lowered origin _ c⟩
  · rw [ofSource, all_append t hend hclosed, List.flatMap_append, List.flatMap_map]
    rfl
  · rw [ofSource, all_eq_sightings, List.flatMap_map]

/-- A documented function. -/
def front : Text :=
  "/**\n * @example\n * ```\n * f();\n * ```\n */\nfunction f() \x7b\n\x7d\n".toList

/-- A comment that documents no declaration, and a call behind it. -/
def loose : Text := "\n/**\n * @example\n * ```\n * g();\n * ```\n */\ng();\n".toList

theorem ofSource_append_loose :
    ['\x7d', '\n'] <:+ front ∧ ¬ opening <:+: (segments front).tail ∧
      ∃ later : Sighting → List Example,
        ofSource "m.ts".toList (front ++ loose) =
          ofSource "m.ts".toList front ++ (sightings loose).flatMap later ∧
        ofSource "m.ts".toList loose =
          (sightings loose).flatMap (fun c => ofComment "m.ts".toList (c.comment 0)) ∧
        ∀ c ∈ sightings loose, List.Forall₂ (Lowered c (front.count '\n'))
          (ofComment "m.ts".toList (c.comment 0)) (later c) := by
  have hend : ['\x7d', '\n'] <:+ front := by decide
  have hclosed : ¬ opening <:+: (segments front).tail := by decide +kernel
  exact ⟨hend, hclosed, ofSource_append _ _ hend hclosed⟩

-- The second example begins on the second line of its own text.
example : (ofSource "m.ts".toList (front ++ loose)).map (fun e => (e.line, e.name)) =
    [(1, "f".toList), (10, "anonymous_10".toList)] := by
  decide +kernel

end Example
end DocExamples
