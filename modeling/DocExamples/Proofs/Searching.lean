/-
# Lines and searches of a text known in parts

A text is often known in parts: its lines, its marks, and what stands between them.
Lines written one below the other are read back as they were, as long as none of
them holds a line feed.  A search passes over a part in which no mark begins; the
part is judged with what follows it, since a mark may begin in one part and end in
the next.
-/

import DocExamples.Text.Segments

namespace DocExamples
namespace Text

/-- What holds of each character of a text is decided for these, and not for all that there are. -/
instance (priority := 2000) {P : Char → Prop} [DecidablePred P] (s : Text) :
    Decidable (∀ c ∈ s, P c) := List.decidableBAll P s

instance (priority := 2000) {P : Char → Prop} [DecidablePred P] (c : Option Char) :
    Decidable (∀ x ∈ c, P x) := Option.decidableForallMem c

@[simp] theorem after?_append (mark rest : Text) : after? mark (mark ++ rest) = some rest :=
  after?_eq_some_iff.2 rfl

/-! ### Lines -/

theorem pieces_of_notMem {sep : Char} {s : Text} (h : sep ∉ s) : pieces sep s = [s] := by
  induction s with
  | nil => rfl
  | cons c s ih =>
    rw [List.mem_cons, not_or] at h
    rw [pieces_cons, ih h.2, if_neg (Ne.symm h.1)]
    rfl

/-- The pieces on both sides of a separator do not depend on each other. -/
theorem pieces_append_sep (sep : Char) (s t : Text) :
    pieces sep (s ++ sep :: t) = pieces sep s ++ pieces sep t := by
  induction s with
  | nil => rw [List.nil_append, pieces_cons, if_pos rfl, pieces_nil, List.singleton_append]
  | cons c s ih =>
    rw [List.cons_append, pieces_cons, pieces_cons, ih]
    obtain ⟨p, ps, hp⟩ := List.exists_cons_of_ne_nil (pieces_ne_nil sep s)
    rw [hp]
    split <;> rfl

theorem pieces_append_cons {sep : Char} {l : Text} (h : sep ∉ l) (s : Text) :
    pieces sep (l ++ sep :: s) = l :: pieces sep s := by
  rw [pieces_append_sep, pieces_of_notMem h, List.singleton_append]

theorem joined_cons_of_ne_nil (sep : Text) (p : Text) {ps : List Text} (h : ps ≠ []) :
    joined sep (p :: ps) = p ++ (sep ++ joined sep ps) := by
  obtain ⟨q, qs, rfl⟩ := List.exists_cons_of_ne_nil h
  simp [joined, List.intercalate]

/-- The separator stands before every text but the first. -/
theorem joined_cons (sep p : Text) (ps : List Text) :
    joined sep (p :: ps) = p ++ ps.flatMap (sep ++ ·) := by
  induction ps generalizing p with
  | nil => simp [joined, List.intercalate]
  | cons q qs ih =>
    rw [joined_cons_of_ne_nil sep p (List.cons_ne_nil q qs), ih, List.flatMap_cons,
      List.append_assoc]

theorem joined_concat (sep : Text) {ps : List Text} (h : ps ≠ []) (p : Text) :
    joined sep (ps ++ [p]) = joined sep ps ++ (sep ++ p) := by
  obtain ⟨q, qs, rfl⟩ := List.exists_cons_of_ne_nil h
  rw [List.cons_append, joined_cons, joined_cons, List.flatMap_append, List.flatMap_singleton,
    List.append_assoc]

/-- Pieces are read back as they were joined. -/
theorem pieces_joined {sep : Char} {ps : List Text} (hne : ps ≠ []) (h : ∀ p ∈ ps, sep ∉ p) :
    pieces sep (joined [sep] ps) = ps := by
  induction ps with
  | nil => exact absurd rfl hne
  | cons p ps ih =>
    have hp : sep ∉ p := h p List.mem_cons_self
    rcases ps.eq_nil_or_concat with rfl | ⟨qs, q, hqs⟩
    · simpa [joined, List.intercalate] using pieces_of_notMem hp
    · have hps : ps ≠ [] := by simp [hqs]
      rw [joined_cons_of_ne_nil [sep] p hps, List.singleton_append, pieces_append_cons hp,
        ih hps fun r hr => h r (List.mem_cons_of_mem _ hr)]

theorem notMem_of_mem_pieces {sep : Char} {s p : Text} (hp : p ∈ pieces sep s) : sep ∉ p := by
  induction s generalizing p with
  | nil =>
    rw [pieces_nil, List.mem_singleton] at hp
    exact hp ▸ List.not_mem_nil
  | cons c s ih =>
    obtain ⟨q, qs, hq⟩ := List.exists_cons_of_ne_nil (pieces_ne_nil sep s)
    rw [pieces_cons, hq] at hp
    rw [hq] at ih
    split at hp
    · rcases List.mem_cons.1 hp with rfl | hp
      · exact List.not_mem_nil
      · exact ih hp
    · next hc =>
      rcases List.mem_cons.1 hp with rfl | hp
      · exact List.not_mem_cons_of_ne_of_not_mem (Ne.symm hc) (ih List.mem_cons_self)
      · exact ih (List.mem_cons_of_mem _ hp)

theorem notMem_of_mem_lines {s l : Text} (h : l ∈ lines s) : '\n' ∉ l := notMem_of_mem_pieces h

theorem lines_ne_nil (s : Text) : lines s ≠ [] := pieces_ne_nil '\n' s

@[simp] theorem unlines_singleton (l : Text) : unlines [l] = l := by
  simp [unlines, joined, List.intercalate]

theorem unlines_cons_of_ne_nil (l : Text) {ls : List Text} (h : ls ≠ []) :
    unlines (l :: ls) = l ++ '\n' :: unlines ls := by
  obtain ⟨m, ms, rfl⟩ := List.exists_cons_of_ne_nil h
  simp [unlines, joined, List.intercalate]

/-- Lines each of which ends with a line feed. -/
def ended (ls : List Text) : Text := ls.flatMap (· ++ ['\n'])

@[simp] theorem ended_nil : ended [] = [] := rfl

@[simp] theorem ended_cons (l : Text) (ls : List Text) :
    ended (l :: ls) = l ++ '\n' :: ended ls := by
  simp [ended]

@[simp] theorem ended_append (ls ms : List Text) : ended (ls ++ ms) = ended ls ++ ended ms := by
  simp [ended]

theorem unlines_append (ls : List Text) {ms : List Text} (h : ms ≠ []) :
    unlines (ls ++ ms) = ended ls ++ unlines ms := by
  induction ls with
  | nil => rfl
  | cons l ls ih =>
    have hne : ls ++ ms ≠ [] := fun he => h (List.append_eq_nil_iff.1 he).2
    rw [List.cons_append, unlines_cons_of_ne_nil l hne, ih, ended_cons]
    simp

/-- Lines behind others begin with a line feed each. -/
theorem unlines_append_flatMap {ls : List Text} (h : ls ≠ []) (ms : List Text) :
    unlines (ls ++ ms) = unlines ls ++ ms.flatMap ('\n' :: ·) := by
  obtain ⟨l, ls, rfl⟩ := List.exists_cons_of_ne_nil h
  rw [List.cons_append, unlines, unlines, joined_cons, joined_cons, List.flatMap_append,
    List.append_assoc]
  rfl

theorem ended_of_ne_nil {ls : List Text} (h : ls ≠ []) : ended ls = unlines ls ++ ['\n'] := by
  induction ls with
  | nil => exact absurd rfl h
  | cons l ls ih =>
    cases ls with
    | nil => simp
    | cons m ms =>
      rw [ended_cons, ih (List.cons_ne_nil m ms), unlines_cons_of_ne_nil l (List.cons_ne_nil m ms)]
      simp

/-- **Lines are read back as they were written.** -/
theorem lines_unlines {ls : List Text} (hne : ls ≠ []) (h : ∀ l ∈ ls, '\n' ∉ l) :
    lines (unlines ls) = ls :=
  pieces_joined hne h

/-- The lines of a text that ends with lines end with those lines. -/
theorem lines_unlines_append {ls ms : List Text} (hls : ls ≠ []) (hms : ms ≠ [])
    (h : ∀ m ∈ ms, '\n' ∉ m) : lines (unlines (ls ++ ms)) = lines (unlines ls) ++ ms := by
  rw [unlines_append ls hms, ended_of_ne_nil hls, List.append_assoc, List.singleton_append]
  exact (pieces_append_sep '\n' _ _).trans (congrArg _ (lines_unlines hms h))

theorem infix_unlines_of_mem {l : Text} {ls : List Text} (h : l ∈ ls) : l <:+: unlines ls := by
  induction ls with
  | nil => exact absurd h List.not_mem_nil
  | cons m ms ih =>
    cases ms with
    | nil =>
      obtain rfl := List.mem_singleton.1 h
      simp
    | cons k ks =>
      rw [unlines_cons_of_ne_nil m (List.cons_ne_nil k ks)]
      rcases List.mem_cons.1 h with rfl | h
      · exact (List.prefix_append l _).isInfix
      · exact (ih h).trans ((List.suffix_cons '\n' _).trans (List.suffix_append m _)).isInfix

/-- A line stands in its text. -/
theorem infix_of_mem_lines {s l : Text} (h : l ∈ lines s) : l <:+: s :=
  unlines_lines s ▸ infix_unlines_of_mem h

/-- There is one line feed less than there are lines. -/
theorem count_unlines {ls : List Text} (hne : ls ≠ []) (h : ∀ l ∈ ls, '\n' ∉ l) :
    (unlines ls).count '\n' + 1 = ls.length := by
  induction ls with
  | nil => exact absurd rfl hne
  | cons l ls ih =>
    have hl : l.count '\n' = 0 := List.count_eq_zero.2 (h l List.mem_cons_self)
    cases ls with
    | nil => rw [unlines_singleton, hl, List.length_singleton]
    | cons m ms =>
      have hms := ih (List.cons_ne_nil m ms) fun k hk => h k (List.mem_cons_of_mem _ hk)
      rw [unlines_cons_of_ne_nil l (List.cons_ne_nil m ms), List.count_append,
        List.count_cons_self, hl, List.length_cons, ← hms]
      omega

/-- What has no line feed goes before the first line. -/
theorem lines_append {l : Text} (h : '\n' ∉ l) (s : Text) :
    lines (l ++ s) = (l ++ (lines s).headD []) :: (lines s).tail := by
  induction l with
  | nil =>
    obtain ⟨first, more, hlines⟩ := List.exists_cons_of_ne_nil (lines_ne_nil s)
    rw [List.nil_append, List.nil_append, hlines]
    rfl
  | cons c l ih =>
    rw [List.mem_cons, not_or] at h
    have hrest : pieces '\n' (l ++ s) = (l ++ (lines s).headD []) :: (lines s).tail := ih h.2
    rw [List.cons_append, lines, pieces_cons, if_neg (Ne.symm h.1), hrest]
    rfl

/-- The first line of a text goes on with the first line of what follows, or not at all. -/
theorem exists_head_lines_append (s t : Text) :
    ∃ l u, (lines s).head? = some l ∧ (lines (s ++ t)).head? = some (l ++ u) ∧ u <+: t := by
  induction s with
  | nil =>
    obtain ⟨u, us, hu⟩ := List.exists_cons_of_ne_nil (lines_ne_nil t)
    refine ⟨[], u, rfl, by rw [List.nil_append, hu]; rfl, ?_⟩
    have hunlines := unlines_lines t
    rw [hu, unlines, joined_cons] at hunlines
    exact ⟨_, hunlines⟩
  | cons c s ih =>
    obtain ⟨l, u, hl, hu, hprefix⟩ := ih
    rw [List.cons_append, lines, lines, pieces_cons, pieces_cons]
    split
    · exact ⟨[], [], rfl, rfl, List.nil_prefix⟩
    · refine ⟨c :: l, u, ?_, ?_, hprefix⟩
      · rw [List.headD_eq_head?_getD, ← lines, hl]
        rfl
      · rw [List.headD_eq_head?_getD, ← lines, hu]
        rfl

/-! ### Runs of characters -/

section

variable {s t : Text} {p : Char → Bool}

/-- A run of characters of a kind is taken up to what stops it. -/
theorem takeWhile_run (hs : ∀ c ∈ s, p c = true)
    (ht : ∀ c ∈ t.head?, p c = false) : (s ++ t).takeWhile p = s := by
  rw [List.takeWhile_append_of_pos hs]
  cases t with
  | nil => exact List.append_nil s
  | cons d t => rw [List.takeWhile_cons_of_neg (by simp [ht d rfl]), List.append_nil]

theorem dropWhile_run (hs : ∀ c ∈ s, p c = true)
    (ht : ∀ c ∈ t.head?, p c = false) : (s ++ t).dropWhile p = t := by
  rw [List.dropWhile_append_of_pos hs]
  cases t with
  | nil => rfl
  | cons d t => exact List.dropWhile_cons_of_neg (by simp [ht d rfl])

end

/-! ### Parts in which no mark begins -/

/-- No occurrence of `mark` begins in `front`, where `rest` follows it. -/
def FreeOf (mark : Text) : (front rest : Text) → Prop
  | [], _ => True
  | c :: front, rest => after? mark (c :: (front ++ rest)) = none ∧ FreeOf mark front rest

variable {mark front rest : Text}

theorem freeOf_append {a b : Text} :
    FreeOf mark (a ++ b) rest ↔ FreeOf mark a (b ++ rest) ∧ FreeOf mark b rest := by
  induction a with
  | nil => simp [FreeOf]
  | cons c a ih => simp [FreeOf, ih, and_assoc]

/-- A text that begins with another character does not begin with the mark. -/
theorem after?_eq_none {m c : Char} (hm : mark.head? = some m) (h : m ≠ c) (s : Text) :
    after? mark (c :: s) = none := by
  obtain ⟨ms, rfl⟩ := List.head?_eq_some_iff.1 hm
  simp [after?, h]

/-- A mark begins nowhere in a part without its first character. -/
theorem freeOf_of_notMem (m : Char) (hm : mark.head? = some m) (h : m ∉ front) :
    FreeOf mark front rest := by
  induction front with
  | nil => trivial
  | cons c front ih =>
    rw [List.mem_cons, not_or] at h
    exact ⟨after?_eq_none hm h.1 _, ih h.2⟩

/-- A mark begins nowhere in a part that does not hold it, if what follows cannot go on
with the mark. -/
theorem freeOf_of_head? (hrest : ∀ c ∈ rest.head?, c ∉ mark.tail) (h : ¬ mark <:+: front) :
    FreeOf mark front rest := by
  induction front with
  | nil => trivial
  | cons d front ih =>
    refine ⟨?_, ih fun hi => h (hi.trans (List.infix_cons List.infix_rfl))⟩
    rw [Option.eq_none_iff_forall_ne_some]
    intro behind hbehind
    have hs : (d :: front) ++ rest = mark ++ behind := after?_eq_some_iff.1 hbehind
    rcases List.append_eq_append_iff.1 hs with ⟨x, hx, hy⟩ | ⟨x, hx, _⟩
    · cases x with
      | nil => exact h ⟨[], [], by simp [hx]⟩
      | cons e x =>
        have hhead : e ∈ rest.head? := by rw [hy]; rfl
        exact hrest e hhead (by simp [hx])
    · exact h ⟨[], x, by simp [hx]⟩

/-- A mark begins nowhere in a part that does not hold it, if a character follows that
the mark does not hold. -/
theorem freeOf_of_not_infix {c : Char} (hc : c ∉ mark)
    (h : ¬ mark <:+: front) : FreeOf mark front (c :: rest) := by
  refine freeOf_of_head? (fun d hd hmem => ?_) h
  obtain rfl : c = d := Option.some.inj hd
  exact hc (List.mem_of_mem_tail hmem)

theorem cutFrom_of_freeOf (seen : Text) (hfree : FreeOf mark front (mark ++ rest)) :
    cutFrom mark seen (front ++ (mark ++ rest)) = some ⟨seen.reverse ++ front, rest⟩ := by
  induction front generalizing seen with
  | nil =>
    cases hs : mark ++ rest with
    | nil =>
      obtain ⟨rfl, rfl⟩ := List.append_eq_nil_iff.1 hs
      simp [cutFrom, after?]
    | cons c s =>
      have ha : after? mark (c :: s) = some rest := hs ▸ after?_append mark rest
      simp [cutFrom, ha]
  | cons c front ih =>
    rw [List.cons_append, cutFrom, hfree.1]
    simpa using ih (c :: seen) hfree.2

/-- **A cut is made at the first mark.** -/
theorem cut?_of_freeOf (hfree : FreeOf mark front (mark ++ rest)) :
    cut? mark (front ++ (mark ++ rest)) = some ⟨front, rest⟩ :=
  cutFrom_of_freeOf [] hfree

theorem cutFrom_eq_none (seen : Text) (hne : mark ≠ []) (hfree : FreeOf mark front []) :
    cutFrom mark seen front = none := by
  induction front generalizing seen with
  | nil =>
    obtain ⟨m, ms, rfl⟩ := List.exists_cons_of_ne_nil hne
    rfl
  | cons c front ih =>
    have hnone := hfree.1
    rw [List.append_nil] at hnone
    rw [cutFrom, hnone]
    exact ih (c :: seen) hfree.2

/-- A text in which no mark begins is not cut. -/
theorem cut?_eq_none (hne : mark ≠ []) (hfree : FreeOf mark front []) : cut? mark front = none :=
  cutFrom_eq_none [] hne hfree

/-! ### Segments -/

variable {α : Type} {read : Option Char → Text → Option (Reading α)}

/-- A reader needs a mark if it reads only what begins with it. -/
def NeedsMark (mark : Text) (read : Option Char → Text → Option (Reading α)) : Prop :=
  ∀ before s, after? mark s = none → read before s = none

/-- A search passes over a part from where nothing is read. -/
theorem segmentsFrom_of_none (h : ∀ t, t <:+ front → t ≠ [] → ∀ b, read b (t ++ rest) = none)
    (before : Option Char) (skipped : Text) :
    segmentsFrom read before skipped (front ++ rest) =
      segmentsFrom read (front.getLast?.or before) (front.reverse ++ skipped) rest := by
  induction front generalizing before skipped with
  | nil => rfl
  | cons c front ih =>
    have hnone : read before (c :: (front ++ rest)) = none :=
      h _ List.suffix_rfl (List.cons_ne_nil c front) before
    have hmore := ih (fun t ht => h t (ht.trans (List.suffix_cons c front))) (some c) (c :: skipped)
    rw [List.cons_append, segmentsFrom, hnone]
    simp only [hmore, List.reverse_cons, List.append_assoc, List.singleton_append,
      List.getLast?_cons]
    cases front.getLast? <;> rfl

/-- A search passes over a part in which no mark begins. -/
theorem segmentsFrom_of_freeOf (hread : NeedsMark mark read) (hfree : FreeOf mark front rest)
    (before : Option Char) (skipped : Text) :
    segmentsFrom read before skipped (front ++ rest) =
      segmentsFrom read (front.getLast?.or before) (front.reverse ++ skipped) rest := by
  refine segmentsFrom_of_none (fun t ht hne b => ?_) before skipped
  obtain ⟨a, rfl⟩ := ht
  obtain ⟨c, t, rfl⟩ := List.exists_cons_of_ne_nil hne
  exact hread b _ (freeOf_append.1 hfree).2.1

/-- A search takes a piece that the reader accepts, and goes on behind it. -/
theorem segmentsFrom_append_of_read {before : Option Char} {taken : Text} {value : α}
    (hread : read before (taken ++ rest) = some ⟨value, rest⟩) (htaken : taken ≠ [])
    (skipped : Text) :
    segmentsFrom read before skipped (taken ++ rest) =
      ⟨⟨skipped.reverse, taken, value⟩ :: (segmentsFrom read taken.getLast? [] rest).segments,
        (segmentsFrom read taken.getLast? [] rest).tail⟩ := by
  obtain ⟨c, t, rfl⟩ := List.exists_cons_of_ne_nil htaken
  rw [List.cons_append] at hread ⊢
  rw [segmentsFrom, hread]
  have hlt : rest.length < (c :: (t ++ rest)).length := by
    simp only [List.length_cons, List.length_append]
    omega
  have htake : (c :: (t ++ rest)).take ((c :: (t ++ rest)).length - rest.length) = c :: t := by
    rw [← List.cons_append, List.length_append, Nat.add_sub_cancel, List.take_left]
  simp only [hlt, dite_true, htake]

theorem segmentsFrom_of_read {before : Option Char} {taken : Text} {value : α}
    (hread : read before (taken ++ rest) = some ⟨value, rest⟩) (htaken : taken ≠ [])
    (skipped : Text) :
    (segmentsFrom read before skipped (taken ++ rest)).segments =
      ⟨skipped.reverse, taken, value⟩ :: (segmentsFrom read taken.getLast? [] rest).segments := by
  rw [segmentsFrom_append_of_read hread htaken]

/-- A search for a mark that begins nowhere finds nothing. -/
theorem segmentsFrom_eq_nil (hread : NeedsMark mark read) (hfree : FreeOf mark front [])
    (before : Option Char) (skipped : Text) :
    (segmentsFrom read before skipped front).segments = [] := by
  have h := segmentsFrom_of_freeOf hread hfree before skipped
  rw [List.append_nil] at h
  rw [h, segmentsFrom]

/-- Each piece of a search was read somewhere in the text. -/
theorem exists_read_of_mem_segmentsFrom (hread : Faithful read) {before : Option Char}
    {skipped s : Text} {p : Segment α} (hp : p ∈ (segmentsFrom read before skipped s).segments) :
    ∃ a t b r, s = a ++ t ∧ read b t = some r ∧ r.value = p.value := by
  fun_induction segmentsFrom read before skipped s with
  | case1 => exact absurd hp List.not_mem_nil
  | case2 before skipped c t r hr hlt taken more ih =>
    rcases List.mem_cons.1 hp with rfl | hp
    · exact ⟨[], c :: t, before, r, rfl, hr, rfl⟩
    · obtain ⟨a, u, b, r', hrest, hread', hvalue⟩ := ih hp
      obtain ⟨front, hfront⟩ := hread _ _ _ hr
      refine ⟨front ++ a, u, b, r', ?_, hread', hvalue⟩
      rw [← hfront, hrest, List.append_assoc]
  | case3 before skipped c t r hr hlt ih =>
    obtain ⟨a, u, b, r', rfl, hread', hvalue⟩ := ih hp
    exact ⟨c :: a, u, b, r', rfl, hread', hvalue⟩
  | case4 before skipped c t hr ih =>
    obtain ⟨a, u, b, r', rfl, hread', hvalue⟩ := ih hp
    exact ⟨c :: a, u, b, r', rfl, hread', hvalue⟩

/-- If a reader gives what it reads a shape, every piece of a search has this shape. -/
theorem shape_of_mem_segmentsFrom {shape : α → Text} {P : α → Prop}
    (hread : ∀ before s r, read before s = some r → s = shape r.value ++ r.rest ∧ P r.value)
    {before : Option Char} {skipped s : Text} {p : Segment α}
    (hp : p ∈ (segmentsFrom read before skipped s).segments) :
    p.taken = shape p.value ∧ P p.value := by
  fun_induction segmentsFrom read before skipped s with
  | case1 => exact absurd hp List.not_mem_nil
  | case2 before skipped c t r hr hlt taken more ih =>
    rcases List.mem_cons.1 hp with rfl | hp
    · obtain ⟨hs, hvalue⟩ := hread _ _ _ hr
      refine ⟨?_, hvalue⟩
      simp only [taken, hs, List.length_append, Nat.add_sub_cancel, List.take_left']
    · exact ih hp
  | case3 before skipped c t r hr hlt ih => exact ih hp
  | case4 before skipped c t hr ih => exact ih hp

end Text
end DocExamples
