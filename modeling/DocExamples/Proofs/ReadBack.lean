/-
# Written documentation is read back

Reading follows the source from part to part.  The opening mark begins a comment, and
the first closing mark behind it is the one that was written, since no row holds
another.  In the comment, prose is passed over, and each code is taken from its tag to
its closing fence.  What stands behind the comment declares the name, and the search
goes on at the next block.
-/

import DocExamples.Proofs.Written

namespace DocExamples
namespace Written

/-! ### One code -/

theorem row_eq (m : Margin) (l : Text) : row m l = row m [] ++ l := by simp [row]

theorem needsMark_readFenced : Text.NeedsMark Snippet.tag fun _ => Snippet.readFenced? := by
  intro _ s h
  simp [Snippet.readFenced?, h]

theorem needsMark_readIndented : Text.NeedsMark Snippet.tag fun _ => Snippet.readIndented? := by
  intro _ s h
  simp [Snippet.readIndented?, h]

/-- What is read of a code: its rows, and the row of the closing fence up to the fence. -/
def raw (c : Code) (margins : Nat → Margin) (m : Margin) : Text :=
  Text.ended (starred margins (Text.lines c.text)) ++ row m []

/-- A code from its tag to its closing fence; `opened` and `closed` are the margins of
the fences. -/
def shown (c : Code) (opened : Margin) (margins : Nat → Margin) (closed : Margin) : Text :=
  Snippet.tag ++ '\n' :: (row opened (Snippet.fence ++ c.language) ++
    '\n' :: (raw c margins closed ++ Snippet.fence))

/-- The rows of a code: what stands before the tag, the code, and the rows behind it. -/
theorem ended_starred_code (c : Code) (ls : List Text) (margins : Nat → Margin) :
    ∃ opened inside closed behind, Text.ended (starred margins (c.lines ++ ls)) =
      row (margins 0) [] ++
        (shown c opened inside closed ++ '\n' :: Text.ended (starred behind ls)) := by
  have hlines : c.lines ++ ls = Snippet.tag :: (Snippet.fence ++ c.language) ::
      (Text.lines c.text ++ Snippet.fence :: ls) := by
    rw [Code.lines, List.cons_append, List.cons_append, List.append_assoc]
    rfl
  rw [hlines, starred_cons, starred_cons, starred_append, starred_cons]
  refine ⟨margins 1, fun i => margins (i + 1 + 1), margins (0 + (Text.lines c.text).length + 1 + 1),
    fun i => margins (i + 1 + (Text.lines c.text).length + 1 + 1), ?_⟩
  rw [Text.ended_cons, Text.ended_cons, Text.ended_append, Text.ended_cons, row_eq (margins 0),
    row_eq _ Snippet.fence]
  simp only [shown, raw, List.append_assoc, List.cons_append]

/-- No fence begins in what is read of a code. -/
theorem freeOf_raw (c : Code) (margins : Nat → Margin) (m : Margin) (rest : Text) :
    Text.FreeOf Snippet.fence (raw c margins m) rest := by
  rw [raw, Text.freeOf_append]
  constructor
  · refine freeOf_starred '\x60' rfl rfl (by decide) (fun _ => rfl) (fun l hl s => ?_) margins _
    exact Text.freeOf_of_not_infix (by decide) fun h =>
      c.unfenced (h.trans (Text.infix_of_mem_lines hl))
  · have htick : '\x60' ∉ row m [] := by simp [row, m.notMem (c := '\x60') rfl]
    exact Text.freeOf_of_notMem '\x60' rfl htick

/-- A code is read from its tag to its closing fence. -/
theorem readFenced?_shown (c : Code) (opened : Margin) (margins : Nat → Margin)
    (closed : Margin) (rest : Text) :
    Snippet.readFenced? (shown c opened margins closed ++ rest) =
      some ⟨raw c margins closed, rest⟩ := by
  have hshown : shown c opened margins closed ++ rest =
      Snippet.tag ++ '\n' :: (opened.text ++ '*' :: ' ' :: (Snippet.fence ++ (c.language ++
        '\n' :: (raw c margins closed ++ (Snippet.fence ++ rest))))) := by
    simp [shown, row]
  have hstars (s : Text) : ('\n' :: (opened.text ++ '*' :: ' ' :: (Snippet.fence ++ s))).dropWhile
      (fun d => Text.isBlank d || d == '*') = Snippet.fence ++ s := by
    have hgaps : ∀ d ∈ opened.text, (Text.isBlank d || d == '*') = true := fun d hd => by
      rw [Text.isBlank_of_isGap (opened.isGap d hd), Bool.true_or]
    rw [List.dropWhile_cons_of_pos rfl, List.dropWhile_append_of_pos hgaps]
    rfl
  have hlanguage (s : Text) : (c.language ++ '\n' :: s).dropWhile
      (fun d => d != '\n' && d != '\x60') = '\n' :: s := by
    have hall : ∀ d ∈ c.language, (d != '\n' && d != '\x60') = true := fun d hd => by
      have hbreak : d ≠ '\n' := fun h => c.language_oneLine (h ▸ hd)
      have htick : d ≠ '\x60' := fun h => c.language_bare (h ▸ hd)
      simp [hbreak, htick]
    rw [List.dropWhile_append_of_pos hall]
    rfl
  have hbreak (s : Text) : Text.after? ['\n'] ('\n' :: s) = some s := Text.after?_append ['\n'] s
  have hcut := Text.cut?_of_freeOf (freeOf_raw c margins closed (Snippet.fence ++ rest))
  simp only [hshown, Snippet.readFenced?, Text.after?_append, Option.bind_eq_bind,
    Option.bind_some, hstars, hlanguage, hbreak, hcut, Option.pure_def]

/-! ### One comment -/

/-- What is read from the rows of codes are the codes. -/
theorem clean_segmentsFrom (cs : List Code) (margins : Nat → Margin) (m : Margin)
    (before : Option Char) (skipped : Text) :
    (Text.segmentsFrom (fun _ => Snippet.readFenced?) before skipped
      (Text.ended (starred margins (cs.flatMap Code.lines)) ++ m.text)).segments.map
        (fun p => Snippet.clean p.value) = cs.map (·.text) := by
  induction cs generalizing margins before skipped with
  | nil =>
    have hfree : Text.FreeOf Snippet.tag m.text [] :=
      Text.freeOf_of_notMem '@' rfl (m.notMem rfl)
    simp [starred, Text.segmentsFrom_eq_nil needsMark_readFenced hfree]
  | cons c cs ih =>
    obtain ⟨opened, inside, closed, behind, hrows⟩ :=
      ended_starred_code c (cs.flatMap Code.lines) margins
    have hfront (s : Text) : Text.FreeOf Snippet.tag (row (margins 0) []) s := by
      have hat : '@' ∉ row (margins 0) [] := by simp [row, (margins 0).notMem (c := '@') rfl]
      exact Text.freeOf_of_notMem '@' rfl hat
    have hbreak (b : Option Char) (k s : Text) :
        Text.segmentsFrom (fun _ => Snippet.readFenced?) b k ('\n' :: s) =
          Text.segmentsFrom (fun _ => Snippet.readFenced?) (some '\n') ('\n' :: k) s := by
      have hfree : Text.FreeOf Snippet.tag ['\n'] s :=
        Text.freeOf_of_notMem '@' rfl (by decide)
      exact Text.segmentsFrom_of_freeOf needsMark_readFenced hfree b k
    have hne : shown c opened inside closed ≠ [] := List.cons_ne_nil _ _
    rw [List.flatMap_cons, hrows, List.append_assoc, List.append_assoc,
      Text.segmentsFrom_of_freeOf needsMark_readFenced (hfront _),
      Text.segmentsFrom_of_read (readFenced?_shown c opened inside closed _) hne,
      List.map_cons, raw, clean_starred, List.cons_append, hbreak, ih, List.map_cons]

namespace Block

/-- What a block has between the opening and the closing mark. -/
def body (b : Block) : Text :=
  '\n' :: (Text.ended (starred b.margins b.inner) ++ b.closingMargin.text)

/-- What a block has behind the closing mark. -/
def declaration (b : Block) : Text :=
  '\n' :: ("export function ".toList ++ (b.name ++ "() \x7b\x7d".toList))

theorem unlines_lines (b : Block) :
    Text.unlines b.lines = Comment.opening ++ (b.body ++ (Comment.closing ++ b.declaration)) := by
  rw [lines, List.cons_append, Text.unlines_cons_of_ne_nil _ (by simp),
    Text.unlines_append _ (by simp), Text.unlines_cons_of_ne_nil _ (by simp),
    Text.unlines_singleton]
  simp only [body, declaration, List.append_assoc, List.cons_append]
  rfl

/-- No tag begins in the prose of a comment. -/
theorem freeOf_tag_prose (b : Block) (margins : Nat → Margin) (rest : Text) :
    Text.FreeOf Snippet.tag
      ('\n' :: Text.ended (starred margins (b.prose.map (·.text)))) rest := by
  rw [← List.singleton_append, Text.freeOf_append]
  refine ⟨Text.freeOf_of_notMem '@' rfl (by decide), ?_⟩
  refine freeOf_starred '@' rfl rfl (by decide) (fun _ => rfl) (fun l hl s => ?_) margins rest
  obtain ⟨p, _, rfl⟩ := List.mem_map.1 hl
  exact Text.freeOf_of_not_infix (by decide) p.untagged

/-- The rows of a comment are those of its prose, then those of its codes. -/
theorem body_eq (b : Block) :
    ∃ margins, b.body = ('\n' :: Text.ended (starred b.margins (b.prose.map (·.text)))) ++
      (Text.ended (starred margins (b.codes.flatMap Code.lines)) ++ b.closingMargin.text) := by
  refine ⟨fun i => b.margins (i + (b.prose.map (·.text)).length), ?_⟩
  rw [body, inner, starred_append, Text.ended_append, List.append_assoc, List.cons_append]

theorem fenced_body (b : Block) :
    Snippet.fenced b.body = b.codes.map fun c => Snippet.ofCode c.text := by
  obtain ⟨margins, hbody⟩ := b.body_eq
  rw [Snippet.fenced, hbody, Text.segments, Text.Segmentation.values,
    Text.segmentsFrom_of_freeOf needsMark_readFenced (b.freeOf_tag_prose _ _)]
  simpa only [List.map_map, Function.comp_def] using congrArg (List.map Snippet.ofCode)
    (clean_segmentsFrom b.codes margins b.closingMargin _ _)

/-- **A comment holds the codes that were written into it.** -/
theorem all_body (b : Block) :
    Snippet.all b.body = b.codes.map fun c => Snippet.ofCode c.text := by
  rw [Snippet.all, b.fenced_body]
  cases hcodes : b.codes with
  | cons c cs => rfl
  | nil =>
    obtain ⟨margins, hbody⟩ := b.body_eq
    have hfree : Text.FreeOf Snippet.tag b.body [] := by
      rw [hbody, Text.freeOf_append]
      refine ⟨b.freeOf_tag_prose _ _, ?_⟩
      rw [hcodes]
      exact Text.freeOf_of_notMem '@' rfl (b.closingMargin.notMem rfl)
    have hnone := Text.segmentsFrom_eq_nil needsMark_readIndented hfree none []
    simp [Snippet.indented, Text.segments, Text.Segmentation.values, hnone]

theorem mapIdx_map {α β γ : Type} (f : α → β) (g : Nat → β → γ) (l : List α) :
    (l.map f).mapIdx g = l.mapIdx fun i a => g i (f a) :=
  List.ext_getElem? fun i => by
    rw [List.getElem?_mapIdx, List.getElem?_mapIdx, List.getElem?_map, Option.map_map]
    rfl

/-- The examples of a block are those of its comment. -/
theorem ofComment_body (origin : Text) (line : Nat) (b : Block) :
    Example.ofComment origin ⟨b.body, line, b.name⟩ = b.examples origin line := by
  rw [Example.ofComment, all_body, examples]
  match b.codes with
  | [] => rfl
  | [c] => rfl
  | c :: d :: cs =>
    have hlen : (c :: d :: cs).length ≠ 1 := by simp
    simp only [if_neg hlen]
    exact mapIdx_map (fun k : Code => Snippet.ofCode k.text) _ (c :: d :: cs)

/-- No closing mark begins in the comment of a block. -/
theorem freeOf_closing_body (b : Block) (rest : Text) :
    Text.FreeOf Comment.closing b.body rest := by
  refine ⟨rfl, Text.freeOf_append.2 ⟨?_,
    Text.freeOf_of_notMem '*' rfl (b.closingMargin.notMem rfl)⟩⟩
  have hbare {l : Text} (h : '*' ∉ l) (s : Text) : Text.FreeOf Comment.closing l s :=
    Text.freeOf_of_notMem '*' rfl h
  refine freeOf_starred '*' rfl rfl (by decide) (fun _ => rfl) ?_ b.margins _
  refine forall_mem_inner (fun p s => ?_) (fun s => ?_) (fun c s => ?_) (fun c l hl s => ?_)
    (fun s => ?_) b
  · exact Text.freeOf_of_not_infix (by decide) p.unclosed
  · exact hbare (by decide) _
  · rw [Text.freeOf_append]
    exact ⟨hbare (by decide) _, Text.freeOf_of_not_infix (by decide) c.language_unclosed⟩
  · exact Text.freeOf_of_not_infix (by decide) fun h =>
      c.unclosed (h.trans (Text.infix_of_mem_lines hl))
  · exact hbare (by decide) _

/-- A block is read from its opening mark to its closing mark. -/
theorem read?_comment (b : Block) (rest : Text) :
    Comment.read? (Comment.opening ++ (b.body ++ (Comment.closing ++ rest))) =
      some ⟨⟨b.body, rest⟩, rest⟩ := by
  simp only [Comment.read?, Text.after?_append, Option.bind_eq_bind, Option.bind_some,
    Text.cut?_of_freeOf (b.freeOf_closing_body _), Option.pure_def]

theorem isNamePart_of_mem (b : Block) : ∀ c ∈ b.name, isNamePart c := by
  intro c hc
  obtain ⟨d, s, hname, hstart, hpart⟩ := b.isName
  rw [hname] at hc
  rcases List.mem_cons.1 hc with rfl | hc
  · simp only [isNameStart, isNamePart, Char.isAlphanum, Bool.or_eq_true] at hstart ⊢
    exact hstart.imp_left Or.inl
  · exact hpart c hc

end Block

theorem isWord_of_isNamePart {c : Char} (h : isNamePart c) : Text.isWord c := by
  rcases Bool.or_eq_true_iff.1 h with h | h
  · exact Text.isWord_of_isAlphanum h
  · rw [beq_iff_eq.1 h]
    rfl

theorem toNat_of_isNamePart {c : Char} (h : isNamePart c) :
    48 ≤ c.toNat ∧ c.toNat ≤ 57 ∨ 65 ≤ c.toNat ∧ c.toNat ≤ 90 ∨ c.toNat = 95 ∨
      97 ≤ c.toNat ∧ c.toNat ≤ 122 := by
  have h : (((decide (c.val ≥ 'A'.val ∧ c.val ≤ 'Z'.val) ||
      (decide (c.val ≥ 'a'.val) && decide (c.val ≤ 'z'.val))) ||
      (decide (c.val ≥ '0'.val) && decide (c.val ≤ '9'.val))) || c == '_') = true := h
  simp only [Bool.or_eq_true, Bool.and_eq_true, decide_eq_true_eq, ge_iff_le,
    UInt32.le_iff_toNat_le, Char.toNat_val, beq_iff_eq] at h
  rcases h with h | rfl
  · simp at h
    omega
  · decide

theorem not_isBlank_of_isNamePart {c : Char} (h : isNamePart c) : Text.isBlank c = false := by
  have hn := toNat_of_isNamePart h
  simp only [Text.isBlank, Bool.or_eq_false_iff, Bool.and_eq_false_iff, decide_eq_false_iff_not,
    beq_eq_false_iff_ne]
  omega

/-! ### The declaration behind a comment -/

/-- The name behind the keyword of a function, up to its parenthesis. -/
theorem word?_name (b : Block) (rest : Text) :
    Text.word? (b.name ++ '(' :: rest) = some ⟨b.name, '(' :: rest⟩ := by
  have hword : ∀ c ∈ b.name, Text.isWord c := fun c hc =>
    isWord_of_isNamePart (b.isNamePart_of_mem c hc)
  have hparen : Text.isWord '(' = false := rfl
  have hne : b.name ≠ [] := by
    obtain ⟨c, s, hname, -⟩ := b.isName
    exact hname ▸ List.cons_ne_nil c s
  simp [Text.word?, List.takeWhile_append_of_pos hword, List.dropWhile_append_of_pos hword, hparen,
    hne]

/-- The word behind `function` is a name, unless a star stands before it. -/
theorem named?_function {c : Char} {s : Text} {r : Text.Reading Text}
    (hblank : Text.isBlank c = false) (hstar : '*' ≠ c) (hword : Text.word? (c :: s) = some r) :
    Declaration.named? Text.word? ("function ".toList ++ c :: s) = some r := by
  have hstrip : Text.stripLeft (c :: s) = c :: s := List.dropWhile_cons_of_neg (by simp [hblank])
  have hspaced : Text.spaced? "function".toList ("function ".toList ++ c :: s) = some (c :: s) :=
    congrArg some hstrip
  have hgenerator : Declaration.afterGenerator? ("function ".toList ++ c :: s) = none := by
    have hafter : Text.after? "function".toList ("function ".toList ++ c :: s) =
      some (' ' :: c :: s) := rfl
    have hnone : Text.after? ['*'] (Text.stripLeft (' ' :: c :: s)) = none := by
      rw [show Text.stripLeft (' ' :: c :: s) = Text.stripLeft (c :: s) from rfl, hstrip]
      exact Text.after?_eq_none rfl hstar _
    simp only [Declaration.afterGenerator?, hafter, hnone, Option.bind_eq_bind, Option.bind_some,
      Option.bind_none]
  have hconst : Declaration.afterConstEnum? ("function ".toList ++ c :: s) = none := rfl
  rw [Declaration.named?, hconst, hgenerator, Declaration.keywords, List.findSome?_cons, hspaced,
    Option.bind_some, hword]
  rfl

/-- What stands behind a comment declares the name of its block. -/
theorem declared?_declaration (b : Block) (rest : Text) :
    Declaration.declared? (b.declaration ++ rest) = some b.name := by
  obtain ⟨c, s, hname, -⟩ := b.isName
  have hc : isNamePart c := b.isNamePart_of_mem c (hname ▸ List.mem_cons_self)
  have hstar : '*' ≠ c := by
    rintro rfl
    exact absurd hc (by decide)
  have hword := word?_name b (") \x7b\x7d".toList ++ rest)
  have hdeclaration : b.declaration ++ rest = '\n' :: ("export function ".toList ++
      (b.name ++ '(' :: (") \x7b\x7d".toList ++ rest))) := by
    rw [Block.declaration]
    simp only [List.cons_append, List.append_assoc]
    rfl
  rw [hname, List.cons_append] at hword hdeclaration
  have hstrip (t : Text) : Text.stripLeft ('\n' :: ("export function ".toList ++ t)) =
      "export function ".toList ++ t := rfl
  have hexport (t : Text) : Declaration.afterModifier? ("export function ".toList ++ t) =
      some ("function ".toList ++ t) := rfl
  have hfunction (t : Text) : Declaration.afterModifier? ("function ".toList ++ t) = none := rfl
  rw [hdeclaration, Declaration.declared?, hstrip, Declaration.withoutModifiers_eq, hexport, Option.map_some, Option.getD_some, Declaration.withoutModifiers_eq, hfunction,
    Option.map_none, Option.getD_none, named?_function (not_isBlank_of_isNamePart hc) hstar hword,
    Option.map_some, hname]

/-! ### All blocks -/

/-- The comments of blocks, the first of which begins on line `line`. -/
def commentsFrom : (line : Nat) → List Block → List Comment
  | _, [] => []
  | line, b :: bs => ⟨b.body, line, b.name⟩ :: commentsFrom (line + b.lines.length) bs

/-- What stands behind a block: the other blocks, each on a line of its own, and some
line feeds. -/
def behind (bs : List Block) (n : Nat) : Text :=
  bs.flatMap (fun b => '\n' :: Text.unlines b.lines) ++ List.replicate n '\n'

theorem Block.lines_ne_nil (b : Block) : b.lines ≠ [] := by simp [lines]

theorem lineFeed_notMem_lines (b : Block) : ∀ l ∈ b.lines, '\n' ∉ l := by
  have hopening (c : Code) : '\n' ∉ "```".toList ++ c.language := fun h =>
    (List.mem_append.1 h).elim (by decide) c.language_oneLine
  have hinner : ∀ l ∈ b.inner, '\n' ∉ l :=
    forall_mem_inner Prose.oneLine (by decide) hopening (fun _ _ => Text.notMem_of_mem_lines)
      (by decide) b
  have hname : '\n' ∉ b.name := fun h => absurd (b.isNamePart_of_mem _ h) (by decide)
  intro l hl
  simp only [Block.lines, List.cons_append, List.mem_cons, List.mem_append, List.not_mem_nil,
    or_false] at hl
  rcases hl with rfl | hl | rfl | rfl
  · decide
  · exact lineFeed_notMem_starred b.margins hinner l hl
  · exact fun h => (List.mem_append.1 h).elim (b.closingMargin.notMem rfl) (by decide)
  · simp [hname]

theorem source_append_replicate (b : Block) (bs : List Block) (n : Nat) :
    source (b :: bs) ++ List.replicate n '\n' = Text.unlines b.lines ++ behind bs n := by
  induction bs generalizing b with
  | nil => simp [source, behind]
  | cons d ds ih =>
    have hne : (d :: ds).flatMap Block.lines ≠ [] := by simp [Block.lines]
    have hsource : source (b :: d :: ds) =
        Text.unlines b.lines ++ '\n' :: source (d :: ds) := by
      rw [source, List.flatMap_cons, Text.unlines_append _ hne,
        Text.ended_of_ne_nil b.lines_ne_nil, List.append_assoc]
      rfl
    rw [hsource, List.append_assoc, List.cons_append, ih d]
    simp [behind]

theorem needsMark_read : Text.NeedsMark Comment.opening fun _ => Comment.read? := by
  intro _ s h
  simp [Comment.read?, h]

/-- No comment begins behind the comment of a block. -/
theorem freeOf_opening_declaration (b : Block) (rest : Text) :
    Text.FreeOf Comment.opening b.declaration rest := by
  have hname : '/' ∉ b.name := fun h => absurd (b.isNamePart_of_mem _ h) (by decide)
  refine Text.freeOf_of_notMem '/' rfl ?_
  simp [Block.declaration, hname]

/-- A block from its opening to its closing mark. -/
def Block.comment (b : Block) : Text := Comment.opening ++ (b.body ++ Comment.closing)

/-- A block has one line more than line feeds. -/
theorem length_lines (b : Block) :
    b.comment.count '\n' + b.declaration.count '\n' + 1 = b.lines.length := by
  rw [← Text.count_unlines b.lines_ne_nil (lineFeed_notMem_lines b), b.unlines_lines, Block.comment]
  simp only [List.count_append]
  omega

/-- The search takes the comment of a block and goes on behind its declaration. -/
theorem ofSegments_comment (b : Block) (rest : Text) (before : Option Char) (skipped : Text)
    (line : Nat) :
    ∃ last, Comment.ofSegments line (Text.segmentsFrom (fun _ => Comment.read?) before skipped
        (Text.unlines b.lines ++ rest)).segments =
      ⟨b.body, line + skipped.count '\n', b.name⟩ ::
        Comment.ofSegments (line + skipped.count '\n' + b.comment.count '\n')
          (Text.segmentsFrom (fun _ => Comment.read?) last b.declaration.reverse rest).segments := by
  have htext : Text.unlines b.lines ++ rest = b.comment ++ (b.declaration ++ rest) := by
    rw [b.unlines_lines, Block.comment]
    simp only [List.append_assoc]
  have hread : Comment.read? (b.comment ++ (b.declaration ++ rest)) =
      some ⟨⟨b.body, b.declaration ++ rest⟩, b.declaration ++ rest⟩ := by
    rw [Block.comment, List.append_assoc, List.append_assoc]
    exact b.read?_comment _
  have hne : b.comment ≠ [] := List.cons_ne_nil _ _
  refine ⟨b.declaration.getLast?.or b.comment.getLast?, ?_⟩
  rw [htext, Text.segmentsFrom_of_read hread hne, Comment.ofSegments,
    Text.segmentsFrom_of_freeOf needsMark_read (freeOf_opening_declaration b rest),
    declared?_declaration, Option.getD_some, List.count_reverse, List.append_nil]

/-- The comments of a source are those of its blocks. -/
theorem ofSegments_source (b : Block) (bs : List Block) (n : Nat) (before : Option Char)
    (skipped : Text) (line : Nat) :
    Comment.ofSegments line (Text.segmentsFrom (fun _ => Comment.read?) before skipped
      (source (b :: bs) ++ List.replicate n '\n')).segments =
        commentsFrom (line + skipped.count '\n') (b :: bs) := by
  induction bs generalizing b before skipped line with
  | nil =>
    obtain ⟨last, hstep⟩ := ofSegments_comment b (behind [] n) before skipped line
    have hfree : Text.FreeOf Comment.opening (behind [] n) [] :=
      Text.freeOf_of_notMem '/' rfl (by simp [behind])
    rw [source_append_replicate, hstep, Text.segmentsFrom_eq_nil needsMark_read hfree]
    rfl
  | cons d ds ih =>
    obtain ⟨last, hstep⟩ := ofSegments_comment b (behind (d :: ds) n) before skipped line
    have hbehind : behind (d :: ds) n = ['\n'] ++ (source (d :: ds) ++ List.replicate n '\n') := by
      rw [source_append_replicate]
      simp [behind]
    have hbreak : Text.FreeOf Comment.opening ['\n'] (source (d :: ds) ++ List.replicate n '\n') :=
      Text.freeOf_of_notMem '/' rfl (by decide)
    have hline : line + skipped.count '\n' + b.comment.count '\n' +
        (['\n'].reverse ++ b.declaration.reverse).count '\n' =
          line + skipped.count '\n' + b.lines.length := by
      rw [← length_lines b, List.count_append, List.count_reverse, List.count_reverse]
      simp only [List.count_singleton_self]
      omega
    rw [source_append_replicate, hstep, hbehind,
      Text.segmentsFrom_of_freeOf needsMark_read hbreak, ih, hline]
    rfl

/-- **Written documentation is read back.**  The examples of a source of blocks are
their codes, in order and character by character; each stands on the line of its
comment, is named for its function and has the output that its code is annotated with.
Line feeds at the end make no difference. -/
theorem ofSource_source (origin : Text) (blocks : List Block) (n : Nat) :
    Example.ofSource origin (source blocks ++ List.replicate n '\n') =
      examplesFrom origin 1 blocks := by
  have hcomments : Comment.all (source blocks ++ List.replicate n '\n') = commentsFrom 1 blocks := by
    rw [Comment.all, Comment.segments, Text.segments]
    cases blocks with
    | nil =>
      have hfree : Text.FreeOf Comment.opening (List.replicate n '\n') [] :=
        Text.freeOf_of_notMem '/' rfl (by simp)
      have hnone := Text.segmentsFrom_eq_nil needsMark_read hfree none []
      simp [source, Text.unlines, Text.joined, hnone, Comment.ofSegments, commentsFrom]
    | cons b bs => exact ofSegments_source b bs n none [] 1
  have hexamples (line : Nat) : (commentsFrom line blocks).flatMap (Example.ofComment origin) =
      examplesFrom origin line blocks := by
    clear hcomments
    induction blocks generalizing line with
    | nil => rfl
    | cons b bs ih => rw [commentsFrom, List.flatMap_cons, b.ofComment_body, ih, examplesFrom]
  rw [Example.ofSource, hcomments, hexamples]

/-- A code that holds all that opens a comment or an example, and a blank line. -/
def hostile : Code where
  language := "ts".toList
  language_oneLine := by decide +kernel
  language_bare := by decide +kernel
  language_unclosed := by decide +kernel
  text := "* f(`/** @example ``ts`);\n\n* 1 // => 1".toList
  unclosed := by decide +kernel
  unfenced := by decide +kernel
  first_visible := by decide +kernel
  last_visible := by decide +kernel

/-- A code of one line, without a language. -/
def short : Code where
  language := []
  language_oneLine := by decide +kernel
  language_bare := by decide +kernel
  language_unclosed := by decide +kernel
  text := "add(1, 2);".toList
  unclosed := by decide +kernel
  unfenced := by decide +kernel
  first_visible := by decide +kernel
  last_visible := by decide +kernel

/-- A function with both of them, behind margins that differ from line to line. -/
def uneven : Block where
  name := "add".toList
  isName := ⟨'a', "dd".toList, rfl, by decide, by decide⟩
  prose := [⟨"Adds.".toList, by decide, by decide +kernel, by decide +kernel⟩]
  codes := [hostile, short]
  margins i := ⟨if i % 2 = 0 then [' '] else ['\t', ' '], by split <;> decide⟩
  closingMargin := ⟨[' '], by decide⟩

theorem ofSource_source_uneven :
    source [uneven] ++ List.replicate 1 '\n' =
        ("/**\n * Adds.\n\t * @example\n * ```ts\n\t * * f(`/** @example ``ts`);\n * \n" ++
          "\t * * 1 // => 1\n * ```\n\t * @example\n * ```\n\t * add(1, 2);\n * ```\n */\n" ++
          "export function add() \x7b\x7d\n").toList ∧
      Example.ofSource "m.ts".toList (source [uneven] ++ List.replicate 1 '\n') =
        [⟨"m.ts".toList, 1, "add_example1".toList, hostile.text, some ['1']⟩,
          ⟨"m.ts".toList, 1, "add_example2".toList, short.text, none⟩] :=
  ⟨by decide +kernel, (ofSource_source "m.ts".toList [uneven] 1).trans (by decide +kernel)⟩

end Written
end DocExamples
