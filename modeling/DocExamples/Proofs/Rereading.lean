/-
# A written value is read back

A value is written in one piece, but it is read in two: its text is cut into tokens, and the
tokens drive a machine with the open containers in frames.  The tokens of a value stand
between the two (`tokens`).

| step | from | to |
| --- | --- | --- |
| `readAs_writeAt` | the written text, in any layout | the tokens |
| `reads_tokens` | the tokens, inside any containers | the value, handed to the innermost one |

A number is read as far as characters go that may belong to one, so a text is read as its
tokens only if no such character follows it (`Bounded`).  Between brackets a comma, a line
break or a bracket follows.

What holds is restricted in two ways (`Plain`).  The fields of an object have different
names, since a later field would take the place of an earlier one.  And there are no
decimals: one value of a decimal has several spellings.
-/

import DocExamples.Proofs.Escapes
import DocExamples.Proofs.PathText

namespace DocExamples

namespace Json

/-- A value without decimals and without two fields of one name. -/
inductive Plain : Json → Prop
  | null : Plain .null
  | bool (b : Bool) : Plain (.bool b)
  | int (n : Int) : Plain (.int n)
  | string (s : Text) : Plain (.string s)
  | array {items : List Json} (h : ∀ v ∈ items, Plain v) : Plain (.array items)
  | object {fields : List Field} (hnames : (fields.map (·.1)).Nodup)
      (h : ∀ f ∈ fields, Plain f.2) : Plain (.object fields)

/-! ### Tokens -/

/-- Runs of tokens with a comma between each two. -/
def separated : List (List Token) → List Token
  | [] => []
  | ts :: tss => ts ++ tss.flatMap (.comma :: ·)

mutual

/-- The tokens of a value. -/
def tokens : Json → List Token
  | .string s => [.text s]
  | .array items => .openArray :: (separated (itemTokens items) ++ [.closeArray])
  | .object fields => .openObject :: (separated (fieldTokens fields) ++ [.closeObject])
  | v => [.scalar v]

/-- The tokens of each item of a list. -/
def itemTokens : List Json → List (List Token)
  | [] => []
  | v :: vs => tokens v :: itemTokens vs

/-- The tokens of each field of an object. -/
def fieldTokens : List Field → List (List Token)
  | [] => []
  | (k, v) :: fs => (.text k :: .colon :: tokens v) :: fieldTokens fs

end

theorem itemTokens_eq (vs : List Json) : itemTokens vs = vs.map tokens := by
  induction vs with
  | nil => rfl
  | cons v vs ih => rw [itemTokens, ih, List.map_cons]

theorem fieldTokens_eq (fs : List Field) :
    fieldTokens fs = fs.map fun f => .text f.1 :: .colon :: tokens f.2 := by
  induction fs with
  | nil => rfl
  | cons f fs ih => rw [fieldTokens, ih, List.map_cons]

theorem writeItems_eq (layout : Layout) (depth : Nat) (vs : List Json) :
    writeItems layout depth vs = vs.map (writeAt layout depth) := by
  induction vs with
  | nil => rfl
  | cons v vs ih => rw [writeItems, ih, List.map_cons]

theorem writeFields_eq (layout : Layout) (depth : Nat) (fs : List Field) :
    writeFields layout depth fs =
      fs.map fun f => writeText f.1 ++ ": ".toList ++ writeAt layout depth f.2 := by
  induction fs with
  | nil => rfl
  | cons f fs ih => rw [writeFields, ih, List.map_cons]

/-! ### From the text to the tokens -/

namespace Token

/-- A text that no number or constant before it runs into. -/
def Bounded (s : Text) : Prop := ∀ c ∈ s.head?, isScalarPart c = false

theorem bounded_nil : Bounded [] := fun _ h => nomatch h

theorem bounded_cons {c : Char} (h : isScalarPart c = false) (s : Text) : Bounded (c :: s) :=
  fun _ hd => Option.some.inj hd ▸ h

theorem Bounded.append {s t : Text} (hs : Bounded s) (ht : Bounded t) : Bounded (s ++ t) := by
  cases s with
  | nil => exact ht
  | cons c s => exact bounded_cons (hs c rfl) (s ++ t)

/-- Whether a character is passed over between tokens. -/
def isSpace (c : Char) : Bool := c = ' ' || c = '\t' || c = '\n' || c = '\r'

/-- Punctuation neither belongs to a number or constant nor is passed over. -/
theorem isScalarPart_or_isSpace_of_punctuation? {c : Char} {t : Token}
    (h : punctuation? c = some t) : (isScalarPart c || isSpace c) = false := by
  unfold punctuation? at h
  split at h
  all_goals first | rfl | exact nomatch h

theorem isScalarPart_of_punctuation? {c : Char} {t : Token} (h : punctuation? c = some t) :
    isScalarPart c = false := (Bool.or_eq_false_iff.1 (isScalarPart_or_isSpace_of_punctuation? h)).1

theorem isSpace_of_punctuation? {c : Char} {t : Token} (h : punctuation? c = some t) :
    isSpace c = false := (Bool.or_eq_false_iff.1 (isScalarPart_or_isSpace_of_punctuation? h)).2

theorem punctuation?_eq_none {c : Char} (h : isScalarPart c = true) : punctuation? c = none := by
  cases hc : punctuation? c with
  | none => rfl
  | some t => exact absurd h (Bool.eq_false_iff.1 (isScalarPart_of_punctuation? hc))

/-- A text is read as tokens, whatever follows that is not run into. -/
def ReadAs (s : Text) (ts : List Token) : Prop :=
  ∀ done rest, Bounded rest → readAll done (s ++ rest) = readAll (ts.reverse ++ done) rest

theorem readAll_of_read? {c : Char} {s rest : Text} {t : Token} (hspace : isSpace c = false)
    (h : read? c s = some ⟨t, rest⟩) (hle : rest.length ≤ s.length) (done : List Token) :
    readAll done (c :: s) = readAll (t :: done) rest := by
  rw [readAll, if_neg (by simpa [isSpace] using hspace), h]
  exact if_pos hle

theorem readAs_nil : ReadAs [] [] := fun _ _ _ => rfl

theorem ReadAs.append {s s' : Text} {ts ts' : List Token} (h : ReadAs s ts) (h' : ReadAs s' ts')
    (hs' : Bounded s') : ReadAs (s ++ s') (ts ++ ts') := by
  intro done rest hrest
  rw [List.append_assoc, h _ _ (hs'.append hrest), h' _ _ hrest, List.reverse_append,
    List.append_assoc]

theorem ReadAs.spaces {b s : Text} {ts : List Token} (hb : ∀ c ∈ b, isSpace c = true)
    (h : ReadAs s ts) : ReadAs (b ++ s) ts := by
  intro done rest hrest
  induction b with
  | nil => exact h done rest hrest
  | cons c b ih =>
    obtain ⟨hc, hb⟩ := List.forall_mem_cons.1 hb
    rw [List.cons_append, List.cons_append, readAll, if_pos (by simpa [isSpace] using hc), ih hb]

theorem ReadAs.space {s : Text} {ts : List Token} (h : ReadAs s ts) : ReadAs (' ' :: s) ts :=
  h.spaces (b := [' ']) (List.forall_mem_singleton.2 rfl)

theorem ReadAs.punctuation {c : Char} {t : Token} {s : Text} {ts : List Token}
    (hc : punctuation? c = some t) (h : ReadAs s ts) : ReadAs (c :: s) (t :: ts) := by
  intro done rest hrest
  have hread : read? c (s ++ rest) = some ⟨t, s ++ rest⟩ := by rw [read?, hc]
  have hspace := isSpace_of_punctuation? hc
  rw [List.cons_append, readAll_of_read? hspace hread (Nat.le_refl _), h _ _ hrest,
    List.reverse_cons, List.append_assoc, List.singleton_append]

theorem readAs_writeText (s : Text) : ReadAs (writeText s) [.text s] := by
  intro done rest _
  have hread : read? '"' (s.flatMap escape ++ '"' :: rest) = some ⟨.text s, rest⟩ := by
    simp only [read?, punctuation?, if_true, readText_flatMap_escape]
    rfl
  rw [writeText, List.cons_append, List.cons_append, List.append_assoc, List.singleton_append]
  refine readAll_of_read? rfl hread ?_ done
  simp only [List.length_append, List.length_cons]
  omega

theorem readAs_scalar {s : Text} {v : Json} (hne : s ≠ [])
    (hpart : ∀ c ∈ s, isScalarPart c = true) (h : scalarValue? s = some v) :
    ReadAs s [.scalar v] := by
  intro done rest hrest
  obtain ⟨c, s, rfl⟩ := List.exists_cons_of_ne_nil hne
  obtain ⟨hc, hs⟩ := List.forall_mem_cons.1 hpart
  have hother {d : Char} (hd : isScalarPart d = false) : c ≠ d := by
    rintro rfl
    exact absurd hc (Bool.eq_false_iff.1 hd)
  have htake : (s ++ rest).takeWhile isScalarPart = s := by
    rw [List.takeWhile_append_of_pos hs]
    cases rest with
    | nil => simp
    | cons d rest => simp [hrest d rfl]
  have hdrop : (s ++ rest).dropWhile isScalarPart = rest := by
    rw [List.dropWhile_append_of_pos hs]
    cases rest with
    | nil => rfl
    | cons d rest => simp [hrest d rfl]
  have hread : read? c (s ++ rest) = some ⟨.scalar v, rest⟩ := by
    rw [read?, punctuation?_eq_none hc]
    simp only [if_neg (hother (d := '"') rfl), htake, hdrop, h]
    rfl
  refine readAll_of_read? ?_ hread (by simp) done
  simp [isSpace, hother (d := ' ') rfl, hother (d := '\t') rfl, hother (d := '\n') rfl,
    hother (d := '\r') rfl]

end Token

open Token

theorem isSpace_of_mem_lineBreak (layout : Layout) (depth : Nat) :
    ∀ c ∈ layout.lineBreak depth, isSpace c = true := by
  intro c h
  cases layout with
  | oneLine => exact absurd h List.not_mem_nil
  | indented =>
    rcases List.mem_cons.1 h with rfl | hc
    · rfl
    · exact List.eq_of_mem_replicate hc ▸ rfl

theorem bounded_lineBreak (layout : Layout) (depth : Nat) : Bounded (layout.lineBreak depth) := by
  cases layout with
  | oneLine => exact bounded_nil
  | indented => exact bounded_cons rfl _

theorem Token.ReadAs.comma {s : Text} {ts : List Token} (h : ReadAs s ts) (layout : Layout) :
    ReadAs (layout.comma ++ s) (.comma :: ts) := by
  cases layout with
  | oneLine => exact ReadAs.punctuation rfl h.space
  | indented => exact ReadAs.punctuation rfl h

section

variable {α : Type} {write : α → Text} {spell : α → List Token} (layout : Layout) (depth : Nat)
  {closing : Char} {t : Token}

/-- What stands behind the first text between brackets. -/
theorem readAs_behind (hclosing : punctuation? closing = some t) {xs : List α}
    (h : ∀ x ∈ xs, ReadAs (write x) (spell x)) :
    let behind := (xs.map write).flatMap (layout.comma ++ layout.lineBreak (depth + 1) ++ ·) ++
      (layout.lineBreak depth ++ [closing])
    Bounded behind ∧ ReadAs behind ((xs.map spell).flatMap (.comma :: ·) ++ [t]) := by
  induction xs with
  | nil =>
    have hbracket := bounded_cons (isScalarPart_of_punctuation? hclosing) []
    have hlast := ReadAs.punctuation hclosing readAs_nil
    have hread := hlast.spaces (isSpace_of_mem_lineBreak layout depth)
    exact ⟨(bounded_lineBreak layout depth).append hbracket, hread⟩
  | cons x xs ih =>
    obtain ⟨hx, hxs⟩ := List.forall_mem_cons.1 h
    obtain ⟨hbounded, hread⟩ := ih hxs
    simp only [List.map_cons, List.flatMap_cons, List.append_assoc, List.cons_append]
    simp only [List.append_assoc] at hbounded hread
    refine ⟨?_, ((hx.append hread hbounded).spaces (isSpace_of_mem_lineBreak _ _)).comma layout⟩
    cases layout <;> exact bounded_cons rfl _

/-- Texts between brackets are read as their tokens, if each of them is. -/
theorem readAs_enclosed {opening : Char} {t' : Token} (hopening : punctuation? opening = some t')
    (hclosing : punctuation? closing = some t) {xs : List α}
    (h : ∀ x ∈ xs, ReadAs (write x) (spell x)) :
    ReadAs (enclosed layout depth opening closing (xs.map write))
      (t' :: (separated (xs.map spell) ++ [t])) := by
  cases xs with
  | nil => exact ReadAs.punctuation hopening (ReadAs.punctuation hclosing readAs_nil)
  | cons x xs =>
    obtain ⟨hx, hxs⟩ := List.forall_mem_cons.1 h
    obtain ⟨hbounded, hread⟩ := readAs_behind layout depth hclosing hxs
    rw [enclosed, if_neg (by simp), List.map_cons, Text.joined_cons, List.map_cons, separated]
    simp only [List.cons_append, List.append_assoc] at hbounded hread ⊢
    exact ReadAs.punctuation hopening
      ((hx.append hread hbounded).spaces (isSpace_of_mem_lineBreak _ _))

end

/-- **The text of a value is read as its tokens**, in any layout and at any depth. -/
theorem readAs_writeAt {v : Json} (h : Plain v) (layout : Layout) (depth : Nat) :
    ReadAs (writeAt layout depth v) (tokens v) := by
  induction h generalizing depth with
  | null =>
    have hword : ReadAs "null".toList [.scalar .null] :=
      readAs_scalar (by decide) (List.all_eq_true.1 (by decide)) rfl
    exact hword
  | bool b =>
    have htrue : ReadAs "true".toList [.scalar (.bool true)] :=
      readAs_scalar (by decide) (List.all_eq_true.1 (by decide)) rfl
    have hfalse : ReadAs "false".toList [.scalar (.bool false)] :=
      readAs_scalar (by decide) (List.all_eq_true.1 (by decide)) rfl
    cases b with
    | true => exact htrue
    | false => exact hfalse
  | int n =>
    have hne : Text.integer n ≠ [] := by
      cases n with
      | ofNat n => exact Text.decimal_ne_nil n
      | negSucc n => exact List.cons_ne_nil _ _
    exact readAs_scalar hne (fun _ => isScalarPart_of_mem_integer) (scalarValue?_integer n)
  | string s => exact readAs_writeText s
  | array h ih =>
    rw [writeAt, tokens, writeItems_eq, itemTokens_eq]
    exact readAs_enclosed layout depth rfl rfl fun v hv => ih v hv (depth + 1)
  | object hnames h ih =>
    rw [writeAt, tokens, writeFields_eq, fieldTokens_eq]
    refine readAs_enclosed layout depth rfl rfl fun f hf => ?_
    have hvalue := (ih f hf (depth + 1)).space
    rw [List.append_assoc]
    exact (readAs_writeText f.1).append (ReadAs.punctuation rfl hvalue) (bounded_cons rfl _)

/-! ### From the tokens to the value -/

/-- Tokens take the reader from one state to another. -/
def Reads (r : Reader) (ts : List Token) (r' : Reader) : Prop :=
  ts.foldlM Reader.step r = some r'

theorem Reads.cons {r r₁ r' : Reader} {t : Token} {ts : List Token} (h : r.step t = some r₁)
    (hs : Reads r₁ ts r') : Reads r (t :: ts) r' := by
  rw [Reads, List.foldlM_cons, h]
  exact hs

theorem Reads.append {r r₁ r' : Reader} {ts ts' : List Token} (h : Reads r ts r₁)
    (h' : Reads r₁ ts' r') : Reads r (ts ++ ts') r' := by
  rw [Reads, List.foldlM_append, h]
  exact h'

theorem Reads.single {r r' : Reader} {t : Token} (h : r.step t = some r') : Reads r [t] r' :=
  Reads.cons h rfl

/-- The first item of a list is read like any other value: it is no end of the list. -/
theorem Reads.first {v : Json} {frames : List Frame} {r : Reader}
    (h : Reads ⟨frames, .value⟩ (tokens v) r) : Reads ⟨frames, .itemOrEnd⟩ (tokens v) r := by
  cases v <;> exact h

theorem putField_of_new {name : Text} {fields : List Field} (h : name ∉ fields.map (·.1))
    (v : Json) : putField name v fields = (name, v) :: fields := by
  have hnone : ¬ (fields.any (·.1 == name)) = true := by
    simpa using fun w hw => h (List.mem_map.2 ⟨(name, w), hw, rfl⟩)
  rw [putField, if_neg hnone]

section

variable (frames : List Frame)

/-- Items behind the first are added to the list, and its end completes it. -/
theorem reads_items {vs : List Json}
    (h : ∀ v ∈ vs, ∀ frames, Reads ⟨frames, .value⟩ (tokens v) (Reader.complete v frames))
    (done : List Json) :
    Reads ⟨.array done :: frames, .more⟩ ((vs.map tokens).flatMap (.comma :: ·) ++ [.closeArray])
      (Reader.complete (.array (done.reverse ++ vs)) frames) := by
  induction vs generalizing done with
  | nil =>
    rw [List.append_nil]
    exact Reads.single rfl
  | cons v vs ih =>
    obtain ⟨hv, hvs⟩ := List.forall_mem_cons.1 h
    have hrest := ih hvs (v :: done)
    rw [List.reverse_cons, List.append_assoc, List.singleton_append] at hrest
    rw [List.map_cons, List.flatMap_cons, List.append_assoc, List.cons_append]
    exact Reads.cons rfl ((hv _).append hrest)

/-- A field with a new name is added to the fields before it. -/
theorem reads_field {f : Field}
    (h : ∀ frames, Reads ⟨frames, .value⟩ (tokens f.2) (Reader.complete f.2 frames))
    (done : List Field) (hnew : f.1 ∉ done.map (·.1)) :
    Reads ⟨frames, .name done⟩ (.text f.1 :: .colon :: tokens f.2)
      ⟨.object (f :: done) f.1 :: frames, .more⟩ := by
  have hvalue := h (.object done f.1 :: frames)
  rw [Reader.complete, putField_of_new hnew] at hvalue
  exact Reads.cons rfl (Reads.cons rfl hvalue)

/-- Fields behind the first are added to the object, and its end completes it. -/
theorem reads_fields {fs : List Field}
    (h : ∀ f ∈ fs, ∀ frames, Reads ⟨frames, .value⟩ (tokens f.2) (Reader.complete f.2 frames))
    (done : List Field) (hnames : ((done.reverse ++ fs).map (·.1)).Nodup) (name : Text) :
    Reads ⟨.object done name :: frames, .more⟩
      ((fs.map fun f => .text f.1 :: .colon :: tokens f.2).flatMap (.comma :: ·) ++ [.closeObject])
      (Reader.complete (.object (done.reverse ++ fs)) frames) := by
  induction fs generalizing done name with
  | nil =>
    rw [List.append_nil]
    exact Reads.single rfl
  | cons f fs ih =>
    obtain ⟨hf, hfs⟩ := List.forall_mem_cons.1 h
    have hnew : f.1 ∉ done.map (·.1) := by
      rw [List.map_append, List.map_cons, List.map_reverse, List.nodup_append] at hnames
      exact fun hmem => hnames.2.2 _ (List.mem_reverse.2 hmem) _ List.mem_cons_self rfl
    have hsplit : done.reverse ++ f :: fs = (f :: done).reverse ++ fs := by
      rw [List.reverse_cons, List.append_assoc, List.singleton_append]
    rw [hsplit] at hnames ⊢
    rw [List.map_cons, List.flatMap_cons, List.append_assoc, List.cons_append]
    exact Reads.cons rfl ((reads_field frames hf done hnew).append (ih hfs (f :: done) hnames f.1))

end

/-- **The tokens of a value are read as this value**, inside any open containers. -/
theorem reads_tokens {v : Json} (h : Plain v) (frames : List Frame) :
    Reads ⟨frames, .value⟩ (tokens v) (Reader.complete v frames) := by
  induction h generalizing frames with
  | null | bool | int | string => exact Reads.single rfl
  | @array items h ih =>
    rw [tokens, itemTokens_eq]
    have hopening : Reader.step ⟨frames, .value⟩ .openArray =
      some ⟨.array [] :: frames, .itemOrEnd⟩ := rfl
    refine Reads.cons hopening ?_
    cases items with
    | nil => exact Reads.single rfl
    | cons v vs =>
      obtain ⟨hv, hvs⟩ := List.forall_mem_cons.1 ih
      rw [List.map_cons, separated, List.append_assoc]
      exact (Reads.first (hv _)).append (reads_items frames hvs [v])
  | @object fields hnames h ih =>
    rw [tokens, fieldTokens_eq]
    have hopening : Reader.step ⟨frames, .value⟩ .openObject = some ⟨frames, .fieldOrEnd⟩ := rfl
    refine Reads.cons hopening ?_
    cases fields with
    | nil => exact Reads.single rfl
    | cons f fs =>
      obtain ⟨hf, hfs⟩ := List.forall_mem_cons.1 ih
      -- The name of the first field may come where the object might have ended.
      have hfirst := reads_field frames hf [] List.not_mem_nil
      rw [List.map_cons, separated, List.append_assoc]
      exact Reads.append hfirst (reads_fields frames hfs [f] hnames f.1)

/-- **A written value is read back**, in both layouts. -/
theorem read?_write {v : Json} (h : Plain v) (layout : Layout) :
    Json.read? (write layout v) = some v := by
  have htext := readAs_writeAt h layout 0 [] [] bounded_nil
  have hvalue : (tokens v).foldlM Reader.step ⟨[], .value⟩ = some (Reader.complete v []) :=
    reads_tokens h []
  rw [List.append_nil, List.append_nil, readAll, List.reverse_reverse] at htext
  rw [Json.read?, write, htext, Option.bind_some, ofTokens?, hvalue]
  rfl

/-! ### ASCII -/

/-- A text of ASCII characters only. -/
def IsAscii (s : Text) : Prop := ∀ c ∈ s, c.toNat < 128

instance (s : Text) : Decidable (IsAscii s) :=
  List.decidableBAll (fun c : Char => c.toNat < 128) s

theorem IsAscii.append {s t : Text} (hs : IsAscii s) (ht : IsAscii t) : IsAscii (s ++ t) :=
  fun c hc => (List.mem_append.1 hc).elim (hs c) (ht c)

theorem IsAscii.cons {c : Char} {s : Text} (hc : c.toNat < 128) (hs : IsAscii s) :
    IsAscii (c :: s) := List.forall_mem_cons.2 ⟨hc, hs⟩

theorem isAscii_escape (c : Char) : IsAscii (escape c) := fun d hd =>
  Nat.lt_of_le_of_lt ((spelling_escape c).isPrintable d hd).2 (by decide)

theorem isAscii_writeText (s : Text) : IsAscii (writeText s) := by
  refine IsAscii.append (IsAscii.cons (by decide) fun c hc => ?_) (by decide)
  obtain ⟨d, -, hd⟩ := List.mem_flatMap.1 hc
  exact isAscii_escape d c hd

theorem isAscii_integer (n : Int) : IsAscii (Text.integer n) := by
  intro c hc
  have hdigit {d : Char} (hd : d.isDigit = true) : d.toNat < 128 := by
    simp only [Char.isDigit, Bool.and_eq_true, decide_eq_true_eq] at hd
    exact Nat.lt_of_le_of_lt hd.2 (by decide)
  by_contra hlarge
  refine Text.notMem_integer ?_ ?_ n hc
  · exact Bool.eq_false_iff.2 fun h => hlarge (hdigit h)
  · rintro rfl
    exact hlarge (by decide)

theorem isAscii_lineBreak (layout : Layout) (depth : Nat) : IsAscii (layout.lineBreak depth) := by
  intro c hc
  have hspace := isSpace_of_mem_lineBreak layout depth c hc
  simp only [isSpace, Bool.or_eq_true, decide_eq_true_eq] at hspace
  obtain ((rfl | rfl) | rfl) | rfl := hspace <;> decide

theorem isAscii_enclosed (layout : Layout) (depth : Nat) {opening closing : Char}
    (hopening : opening.toNat < 128) (hclosing : closing.toNat < 128) {items : List Text}
    (h : ∀ s ∈ items, IsAscii s) : IsAscii (enclosed layout depth opening closing items) := by
  have hlast : IsAscii [closing] := IsAscii.cons hclosing fun _ hc => nomatch hc
  have hcomma : IsAscii layout.comma := by cases layout <;> decide
  have hbreak := isAscii_lineBreak layout
  unfold enclosed
  split
  · exact IsAscii.cons hopening hlast
  · refine (IsAscii.cons hopening (((hbreak _).append ?_).append (hbreak _))).append hlast
    intro c hc
    rcases Text.mem_joined hc with hsep | ⟨s, hs, hc⟩
    · exact hcomma.append (hbreak _) c hsep
    · exact h s hs c hc

/-- A value is written with ASCII characters. -/
theorem isAscii_writeAt {v : Json} (h : Plain v) (layout : Layout) (depth : Nat) :
    IsAscii (writeAt layout depth v) := by
  induction h generalizing depth with
  | null => exact (by decide : IsAscii "null".toList)
  | bool b => cases b with
    | true => exact (by decide : IsAscii "true".toList)
    | false => exact (by decide : IsAscii "false".toList)
  | int n => exact isAscii_integer n
  | string s => exact isAscii_writeText s
  | array h ih =>
    rw [writeAt, writeItems_eq]
    refine isAscii_enclosed layout depth (by decide) (by decide) fun s hs => ?_
    obtain ⟨v, hv, rfl⟩ := List.mem_map.1 hs
    exact ih v hv (depth + 1)
  | object hnames h ih =>
    rw [writeAt, writeFields_eq]
    refine isAscii_enclosed layout depth (by decide) (by decide) fun s hs => ?_
    obtain ⟨f, hf, rfl⟩ := List.mem_map.1 hs
    exact ((isAscii_writeText f.1).append (by decide)).append (ih f hf (depth + 1))

end Json
end DocExamples
