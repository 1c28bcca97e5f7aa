/-
# Written exports

A source exports names by declaring them behind the word `export`, or by listing them in braces
behind it.

| written | exports |
| --- | --- |
| `export declare abstract class Shape` | `Shape` |
| `export const enum Colour` | `Colour` |
| `export async function *entries` | `entries` |
| `export { a, b as c, type D, default as e }` | `a`, `b` |
| `export default`, `export *` | nothing |

Names may look like the words around them: `async`, `as` and `typed` are names, and so is `enum`
other than behind `const`.  A name goes on with every letter and number there is, and with
underscores and dollar signs, so that it ends where none of these follows.

Each export is read as a whole where it begins, and the word `export` begins nowhere else in it.
-/

import DocExamples.Proofs.Declarations

namespace DocExamples

namespace Export
open Text
open Import (Blanks Space modifier)
open Declaration (Keyword)

/-! ### Written exports -/

/-- The word that begins an export. -/
def word : Text := "export".toList

/-- A text that does not hold the word `export`. -/
def IsPlain (s : Text) : Prop := ¬ word <:+: s

theorem isPlain_of_notMem {s : Text} (h : 'x' ∉ s) : IsPlain s := fun hs =>
  h (hs.mem (by decide))

/-- A name that does not hold the word `export`. -/
structure Name where
  /-- The name. -/
  text : Text
  /-- It begins with a letter of ASCII, an underscore or a dollar sign, and goes on with those,
  and with any letters and numbers. -/
  isIdentifier : Text.isIdentifier text = true
  /-- It does not hold the word. -/
  plain : IsPlain text

/-- What a declaration behind the word `export` has up to the end of its name. -/
structure Announced where
  /-- The blanks behind the word. -/
  space : Space
  /-- The blanks behind the word `declare`, if it stands there. -/
  declared : Option Space
  /-- The blanks behind the word `abstract`, if it stands there. -/
  abstracted : Option Space
  /-- The blanks behind the word `async`, if it stands there. -/
  asynchronous : Option Space
  /-- The keyword. -/
  keyword : Keyword
  /-- The name. -/
  name : Text
  /-- It is an identifier. -/
  isIdentifier : Text.isIdentifier name = true
  /-- It is not taken for a part of the keyword. -/
  ne_enum : keyword.isConst = true → name ≠ "enum".toList

/-- A declaration behind the word `export`. -/
structure Declared extends Announced where
  /-- The name does not hold the word. -/
  plain_name : IsPlain name
  /-- All that stands behind the name. -/
  rest : Text
  /-- It does not go on with the name. -/
  apart : ∀ c ∈ rest.head?, isIdentifierPart c = false
  /-- It does not hold the word `export`. -/
  plain : IsPlain rest

/-- An entry of a list in braces. -/
inductive Entry where
  /-- A name. -/
  | plain (n : Name)
  /-- A name, the word `as` and another name; the first is not the word `type`. -/
  | renamed (n : Name) (before behind : Space) (other : Name) (ne_type : n.text ≠ "type".toList)
  /-- The word `type` and a name. -/
  | typeOnly (space : Space) (n : Name)

/-- What stands between two commas of a list. -/
inductive Slot where
  /-- An entry with blanks around it. -/
  | entry (before : Blanks) (e : Entry) (behind : Blanks)
  /-- Blanks only, as in an empty list or behind the last comma. -/
  | nothing (w : Blanks)

/-- A list in braces behind the word `export`. -/
structure Listing where
  /-- The blanks before the braces. -/
  gap : Blanks
  /-- What stands between the commas. -/
  slots : List Slot
  /-- All that stands behind the braces. -/
  rest : Text
  /-- It does not hold the word `export`. -/
  plain : IsPlain rest

/-- A piece of a source, with no line feed behind it. -/
inductive Item where
  /-- An exported declaration. -/
  | declaration (d : Declared)
  /-- A list of exports. -/
  | list (l : Listing)
  /-- The words `export default`, and more. -/
  | default (space : Space) (rest : Text) (plain : IsPlain rest)
  /-- The word `export` and a star, and more. -/
  | everything (gap : Blanks) (rest : Text) (plain : IsPlain rest)
  /-- A text without the word `export`. -/
  | other (s : Text) (plain : IsPlain s)

/-- What stands between the word `export` and the end of the name. -/
def Announced.head (a : Announced) : Text :=
  a.space.text ++ (modifier "declare".toList a.declared ++
    (modifier "abstract".toList a.abstracted ++ (modifier "async".toList a.asynchronous ++
      (a.keyword.text ++ a.name))))

/-- An entry as it is written, without the blanks around it. -/
def Entry.text : Entry → Text
  | .plain n => n.text
  | .renamed n before behind other _ =>
    n.text ++ ((before.text ++ ("as".toList ++ behind.text)) ++ other.text)
  | .typeOnly space n => modifier "type".toList (some space) ++ n.text

/-- The name that an entry exports: a type has no value, and `default` binds nothing. -/
def Entry.name? : Entry → Option Text
  | .plain n | .renamed n _ _ _ _ => if n.text = "default".toList then none else some n.text
  | .typeOnly _ _ => none

/-- A slot as it is written. -/
def Slot.text : Slot → Text
  | .entry before e behind => before.text ++ (e.text ++ behind.text)
  | .nothing w => w.text

/-- The name that a slot exports, if any. -/
def Slot.name? : Slot → Option Text
  | .entry _ e _ => e.name?
  | .nothing _ => none

/-- What stands in the braces of a list. -/
def Listing.inside (l : Listing) : Text := joined [','] (l.slots.map Slot.text)

/-- What stands between the word `export` and the end of the braces. -/
def Listing.head (l : Listing) : Text := l.gap.text ++ '\x7b' :: (l.inside ++ ['\x7d'])

/-- An item as it is written. -/
def Item.text : Item → Text
  | .declaration d => word ++ (d.head ++ d.rest)
  | .list l => word ++ (l.head ++ l.rest)
  | .default space rest _ => word ++ (space.text ++ ("default".toList ++ rest))
  | .everything gap rest _ => word ++ (gap.text ++ '*' :: rest)
  | .other s _ => s

/-- The names that an item exports. -/
def Item.names : Item → List Text
  | .declaration d => [d.name]
  | .list l => l.slots.filterMap Slot.name?
  | .default _ _ _ | .everything _ _ _ | .other _ _ => []

/-! ### Where the word `export` can begin -/

/-- A text that does not go on with a name. -/
def Stops (s : Text) : Prop := ∀ c ∈ s.head?, isIdentifierPart c = false

/-- A text in which the word `export` does not begin, whatever follows that does not go on with
a name. -/
def Clear (s : Text) : Prop := ∀ rest, Stops rest → FreeOf word s rest

variable {a b s : Text}

theorem Stops.append (ha : Stops a) (hb : Stops b) : Stops (a ++ b) := by
  intro c hc
  rw [List.head?_append, Option.mem_def, Option.or_eq_some_iff] at hc
  exact hc.elim (ha c) fun hc => hb c hc.2

theorem stops_nil : Stops [] := fun c hc => absurd hc (Option.not_mem_none c)

theorem stops_cons {c : Char} (hc : isIdentifierPart c = false) (s : Text) : Stops (c :: s) :=
  fun _ hd => Option.some.inj hd ▸ hc

/-- Parts behind a separator each. -/
theorem stops_flatMap {sep : Char} (hsep : isIdentifierPart sep = false) (ps : List Text) :
    Stops (ps.flatMap ([sep] ++ ·)) := by
  cases ps with
  | nil => exact stops_nil
  | cons p ps => exact stops_cons hsep _

theorem stops_of_isBlank (h : ∀ c ∈ s, isBlank c = true) : Stops s := fun c hc =>
  isIdentifierPart_of_isBlank (h c (List.mem_of_mem_head? hc))

theorem stops_space (w : Space) (s : Text) : Stops (w.text ++ s) := by
  intro c hc
  rw [List.head?_append_of_ne_nil _ w.ne_nil] at hc
  exact stops_of_isBlank w.blank c hc

theorem notMem_of_isBlank (h : ∀ c ∈ s, isBlank c = true) : 'e' ∉ s := fun he =>
  absurd (h 'e' he) (by decide)

theorem IsPlain.clear (h : IsPlain s) : Clear s := by
  have htail : ∀ c ∈ word.tail, isIdentifierPart c = true := by decide
  exact fun rest hrest => freeOf_of_head? (fun c hc hmem =>
    Bool.false_ne_true ((hrest c hc).symm.trans (htail c hmem))) h

theorem Clear.append (ha : Clear a) (hb : Clear b) (hstops : Stops b) : Clear (a ++ b) :=
  fun rest hrest => freeOf_append.2 ⟨ha _ (hstops.append hrest), hb rest hrest⟩

/-- A part without the first letter of the word. -/
theorem Clear.behind (ha : 'e' ∉ a) (hb : Clear b) : Clear (a ++ b) :=
  fun rest hrest => freeOf_append.2 ⟨freeOf_of_notMem 'e' rfl ha, hb rest hrest⟩

theorem clear_space (w : Blanks) (hs : Clear s) : Clear (w.text ++ s) :=
  hs.behind (notMem_of_isBlank w.blank)

theorem clear_cons {c : Char} (hc : 'e' ≠ c) (hs : Clear s) : Clear (c :: s) :=
  Clear.behind (a := [c]) (fun he => hc (List.mem_singleton.1 he)) hs

/-- Another word, with blanks behind it. -/
theorem clear_word {k : Text} (hk : 'x' ∉ k) (w : Space) (hs : Clear s) :
    Clear (k ++ (w.text ++ s)) :=
  (isPlain_of_notMem hk).clear.append (clear_space w.toBlanks hs) (stops_space w s)

theorem clear_modifier {k : Text} (hk : 'x' ∉ k) (w : Option Space) (hs : Clear s) :
    Clear (modifier k w ++ s) := by
  cases w with
  | none => exact hs
  | some w =>
    rw [modifier, Option.elim_some, List.append_assoc]
    exact clear_word hk w hs

theorem clear_keyword (k : Keyword) (hs : Clear s) : Clear (k.text ++ s) := by
  cases k with
  | word k space =>
    have hplain : ∀ k ∈ Declaration.keywords, 'x' ∉ k := by decide
    rw [Keyword.text, List.append_assoc]
    exact clear_word (hplain k.text k.mem) space hs
  | constEnum between behind =>
    rw [Keyword.text, Declaration.pair_append]
    exact clear_word (by decide) between (clear_word (by decide) behind hs)
  | generator before behind =>
    rw [Keyword.text, Declaration.starred_append]
    exact Clear.behind (by decide)
      (clear_space before (clear_cons (by decide) (clear_space behind hs)))

theorem Declared.clear_body (d : Declared) : Clear (d.head ++ d.rest) := by
  have hname : Clear (d.name ++ d.rest) := d.plain_name.clear.append d.plain.clear d.apart
  simp only [Announced.head, List.append_assoc]
  exact clear_space d.space.toBlanks (clear_modifier (by decide) d.declared
    (clear_modifier (by decide) d.abstracted (clear_modifier (by decide) d.asynchronous
      (clear_keyword d.keyword hname))))

theorem Entry.clear_text (e : Entry) : Clear e.text := by
  cases e with
  | plain n => exact n.plain.clear
  | renamed n before behind other ne_type =>
    have has : 'x' ∉ "as".toList := by decide
    have hother : Clear (before.text ++ ("as".toList ++ (behind.text ++ other.text))) :=
      clear_space before.toBlanks (clear_word has behind other.plain.clear)
    have hstops := stops_space before ("as".toList ++ (behind.text ++ other.text))
    simpa only [Entry.text, List.append_assoc] using n.plain.clear.append hother hstops
  | typeOnly space n => exact clear_modifier (by decide) (some space) n.plain.clear

theorem Slot.clear_text (i : Slot) : Clear i.text := by
  have hblanks (w : Blanks) : Clear w.text := fun rest _ =>
    freeOf_of_notMem 'e' rfl (notMem_of_isBlank w.blank)
  cases i with
  | entry before e behind =>
    exact clear_space before
      (e.clear_text.append (hblanks behind) (stops_of_isBlank behind.blank))
  | nothing w => exact hblanks w

theorem clear_joined {ps : List Text} (h : ∀ p ∈ ps, Clear p) : Clear (joined [','] ps) := by
  have hstops (qs : List Text) : Stops (qs.flatMap ([','] ++ ·)) := stops_flatMap (by decide) qs
  have hmore {qs : List Text} (hqs : ∀ q ∈ qs, Clear q) : Clear (qs.flatMap ([','] ++ ·)) := by
    induction qs with
    | nil => exact fun _ _ => trivial
    | cons q qs ih =>
      obtain ⟨hq, hqs⟩ := List.forall_mem_cons.1 hqs
      exact clear_cons (by decide) (hq.append (ih hqs) (hstops qs))
  cases ps with
  | nil => exact fun _ _ => trivial
  | cons p ps =>
    obtain ⟨hp, hps⟩ := List.forall_mem_cons.1 h
    rw [joined_cons]
    exact hp.append (hmore hps) (hstops ps)

theorem Listing.clear_body (l : Listing) : Clear (l.head ++ l.rest) := by
  have hinside : Clear l.inside := clear_joined fun p hp => by
    obtain ⟨i, -, rfl⟩ := List.mem_map.1 hp
    exact i.clear_text
  have hbehind : Clear ('\x7d' :: l.rest) := clear_cons (by decide) l.plain.clear
  have hstops : Stops ('\x7d' :: l.rest) := stops_cons (by decide) l.rest
  have hbody : l.head ++ l.rest = l.gap.text ++ '\x7b' :: (l.inside ++ '\x7d' :: l.rest) := by
    simp [Listing.head]
  rw [hbody]
  exact clear_space l.gap (clear_cons (by decide) (hinside.append hbehind hstops))

/-! ### Declarations are read -/

variable {before : Option Char}

theorem optional_eq_self {w : Text} (h : after? w s = none) : optional w s = s := by
  rw [optional, spaced?_of_after? h, Option.getD_none]

/-- Whatever modifiers stand before a text, it begins with one of them or as it is. -/
theorem head_modifier {k : Text} {m : Char} (hk : k.head? = some m) (w : Option Space) :
    ∀ c ∈ (modifier k w ++ s).head?, c = m ∨ c ∈ s.head? := by
  cases w with
  | none => exact fun c hc => .inr hc
  | some w =>
    obtain ⟨k, rfl⟩ := List.head?_eq_some_iff.1 hk
    exact fun c hc => .inl (Option.some.inj hc).symm

/-- A declaration goes on with one of its words. -/
theorem Announced.head_words (a : Announced) : ∀ c ∈ (modifier "declare".toList a.declared ++
    (modifier "abstract".toList a.abstracted ++ (modifier "async".toList a.asynchronous ++
      (a.keyword.text ++ s)))).head?, c ∈ 'a' :: 'd' :: Declaration.heads := by
  intro c hc
  rcases head_modifier rfl a.declared c hc with rfl | hc
  · decide
  rcases head_modifier rfl a.abstracted c hc with rfl | hc
  · decide
  rcases head_modifier rfl a.asynchronous c hc with rfl | hc
  · decide
  · exact List.mem_cons_of_mem _ (List.mem_cons_of_mem _ (a.keyword.head_text s c hc))

/-- A name begins with no blank and no star. -/
theorem Announced.head_name (a : Announced) :
    ∀ c ∈ (a.name ++ s).head?, isBlank c = false ∧ c ≠ '*' := by
  intro c hc
  refine ⟨isBlank_head_identifier a.isIdentifier c hc, ?_⟩
  rintro rfl
  rw [List.head?_append_of_ne_nil _ (ne_nil_of_isIdentifier a.isIdentifier)] at hc
  exact notMem_identifier a.isIdentifier (by decide) (List.mem_of_mem_head? hc)

/-- The word `enum` does not stand behind the word `const`. -/
theorem Announced.spaced?_enum (a : Announced) (hs : Stops s) (hconst : a.keyword.isConst = true) :
    spaced? "enum".toList (a.name ++ s) = none :=
  spaced?_eq_none (List.all_eq_true.1 (by decide)) (isIdentifierPart_of_mem a.isIdentifier)
    (a.ne_enum hconst) hs

/-- Behind its keyword, the name of a declaration is read to its end. -/
theorem Announced.named?_name (a : Announced) (hs : Stops s) :
    Declaration.named? identifier? (a.keyword.text ++ (a.name ++ s)) = some ⟨a.name, s⟩ :=
  Declaration.named?_keyword a.keyword a.head_name
    (fun hconst => by rw [a.spaced?_enum hs hconst, Option.bind_none])
    (identifier?_append a.isIdentifier hs)

/-- **A declaration is read up to the end of its name.** -/
theorem readDeclared?_head (a : Announced) (hbefore : atWordStart before = true) (hs : Stops s) :
    readDeclared? before ((word ++ a.head) ++ s) = some ⟨a.name, s⟩ := by
  let named := a.keyword.text ++ (a.name ++ s)
  let afterAbstract := modifier "async".toList a.asynchronous ++ named
  let afterDeclare := modifier "abstract".toList a.abstracted ++ afterAbstract
  let afterSpace := modifier "declare".toList a.declared ++ afterDeclare
  have hheads : ∀ c ∈ Declaration.heads, c ≠ 'a' ∧ c ≠ 'd' ∧ isBlank c = false := by decide
  have hnamed : ∀ c ∈ named.head?, c ≠ 'a' ∧ c ≠ 'd' ∧ isBlank c = false := fun c hc =>
    hheads c (a.keyword.head_text _ c hc)
  have hafterAbstract : ∀ c ∈ afterAbstract.head?, c ≠ 'd' ∧ isBlank c = false := by
    intro c hc
    rcases head_modifier rfl a.asynchronous c hc with rfl | hc
    · decide
    · exact (hnamed c hc).2
  have hafterDeclare : ∀ c ∈ afterDeclare.head?, c ≠ 'd' ∧ isBlank c = false := by
    intro c hc
    rcases head_modifier rfl a.abstracted c hc with rfl | hc
    · decide
    · exact hafterAbstract c hc
  have hafterSpace : ∀ c ∈ afterSpace.head?, isBlank c = false := fun c hc =>
    (by decide : ∀ c ∈ 'a' :: 'd' :: Declaration.heads, isBlank c = false) c (a.head_words c hc)
  have htext : (word ++ a.head) ++ s = word ++ (a.space.text ++ afterSpace) := by
    simp only [Announced.head, List.append_assoc, afterSpace, afterDeclare, afterAbstract, named]
  have hspaced : spaced? word (word ++ (a.space.text ++ afterSpace)) = some afterSpace :=
    spaced?_append a.space.ne_nil a.space.blank hafterSpace
  have hdeclare : optional "declare".toList afterSpace = afterDeclare :=
    Import.optional_modifier (fun c hc => (hafterDeclare c hc).2) (optional_eq_self
      (after?_eq_none_of_head rfl fun c hc => (hafterDeclare c hc).1.symm))
  have habstract : optional "abstract".toList afterDeclare = afterAbstract := by
    refine Import.optional_modifier (fun c hc => (hafterAbstract c hc).2) (optional_eq_self ?_)
    simp only [afterAbstract]
    cases a.asynchronous with
    | none => exact after?_eq_none_of_head rfl fun c hc => (hnamed c hc).1.symm
    | some w => rfl
  have hasync : optional "async".toList afterAbstract = named :=
    Import.optional_modifier (fun c hc => (hnamed c hc).2.2) (optional_eq_self
      (after?_eq_none_of_head rfl fun c hc => (hnamed c hc).1.symm))
  have hread : Declaration.named? identifier? named = some ⟨a.name, s⟩ := a.named?_name hs
  rw [htext, readDeclared?, if_pos hbefore]
  exact (congrArg (Option.bind · _) hspaced).trans
    (by simp only [Option.bind_some, hdeclare, habstract, hasync, hread])

/-- No declaration is read where no keyword stands behind the word `export`. -/
theorem readDeclared?_eq_none (w : Blanks)
    (hhead : ∀ c ∈ s.head?, isBlank c = false ∧ 'a' ≠ c ∧ c ∉ Declaration.heads)
    (hdeclare : after? "declare".toList s = none) :
    readDeclared? before (word ++ (w.text ++ s)) = none := by
  have hspaced : spaced? word (word ++ (w.text ++ s)) = none ∨
      spaced? word (word ++ (w.text ++ s)) = some s := by
    by_cases hw : w.text = []
    · left
      rw [hw, List.nil_append, spaced?, after?_append]
      cases s with
      | nil => rfl
      | cons c s => simp [(hhead c rfl).1]
    · exact .inr (spaced?_append hw w.blank fun c hc => (hhead c hc).1)
  have habstract : after? "abstract".toList s = none :=
    after?_eq_none_of_head rfl fun c hc => (hhead c hc).2.1
  have hasync : after? "async".toList s = none :=
    after?_eq_none_of_head rfl fun c hc => (hhead c hc).2.1
  have hnone : Declaration.named? identifier? s = none :=
    Declaration.named?_eq_none fun c hc => (hhead c hc).2.2
  rw [readDeclared?]
  split
  · rcases hspaced with hspaced | hspaced
    · exact congrArg (Option.bind · _) hspaced
    · refine (congrArg (Option.bind · _) hspaced).trans ?_
      simp only [Option.bind_some, optional_eq_self hdeclare, optional_eq_self habstract,
        optional_eq_self hasync, hnone]
  · rfl

/-! ### Entries of a list are read -/

/-- Two words have no alias between them. -/
theorem aliases_pair {k n : Text} (hk : ∀ c ∈ k, isBlank c = false)
    (hn : ∀ c ∈ n, isBlank c = false) (w : Space) :
    aliases (k ++ (w.text ++ n)) = ⟨[], k ++ (w.text ++ n)⟩ := by
  have hnone : ∀ t, t <:+ w.text → t ≠ [] → ∀ _b : Option Char, readAlias? (t ++ n) = none := by
    intro t ht hne _
    obtain ⟨c, u, rfl⟩ := List.exists_cons_of_ne_nil hne
    have hblank : ∀ d ∈ c :: u, isBlank d = true := fun d hd => w.blank d (ht.mem hd)
    have hstrip : stripLeft ((c :: u) ++ n) = n := by
      rw [stripLeft_append hblank, stripLeft_eq_self fun d hd => hn d (List.mem_of_mem_head? hd)]
    have hspaced : spaced? "as".toList n = none := by
      rw [spaced?]
      split
      · next d t' hafter =>
        have hd : d ∈ n := by
          rw [after?_eq_some_iff.1 hafter]
          exact List.mem_append_right _ List.mem_cons_self
        rw [hn d hd]
        rfl
      · rfl
    rw [List.cons_append] at hstrip ⊢
    rw [readAlias?, if_pos (hblank c List.mem_cons_self), hstrip, hspaced]
    rfl
  rw [aliases, segments, Import.segmentsFrom_blankless hk, segmentsFrom_of_none hnone,
    Import.segmentsFrom_blankless_nil hn]
  simp only [List.append_nil, List.reverse_append, List.reverse_reverse, List.append_assoc]

/-- The word `type` and a blank do not begin a text without blanks. -/
theorem startsWith_type_of_isBlank {n : Text} (hn : ∀ c ∈ n, isBlank c = false) :
    startsWith "type ".toList n = false := by
  rw [startsWith, Option.isSome_eq_false_iff, Option.isNone_iff_eq_none,
    Option.eq_none_iff_forall_ne_some]
  intro rest hrest
  have hspace : ' ' ∈ n := by
    rw [after?_eq_some_iff.1 hrest]
    exact List.mem_append_left _ (by decide)
  exact absurd (hn _ hspace) (by decide)

/-- The word `type` and a blank do not begin a text that begins with another name. -/
theorem startsWith_type_eq_false {n : Text} (hn : isIdentifier n = true) (hne : n ≠ "type".toList)
    (hs : Stops s) : startsWith "type ".toList (n ++ s) = false := by
  rw [startsWith, Option.isSome_eq_false_iff, Option.isNone_iff_eq_none,
    Option.eq_none_iff_forall_ne_some]
  intro rest hrest
  have hword : "type ".toList = "type".toList ++ [' '] := by decide
  have htext := after?_eq_some_iff.1 hrest
  rw [hword, List.append_assoc] at htext
  have htype : ∀ c ∈ "type".toList, isIdentifierPart c = true := by decide
  have hspace : Stops ([' '] ++ rest) := stops_cons (by decide) rest
  have htake := congrArg (List.takeWhile isIdentifierPart) htext
  rw [takeWhile_run (isIdentifierPart_of_mem hn) hs, takeWhile_run htype hspace] at htake
  exact hne htake

/-- An entry that is no type is read as the name before its first alias. -/
theorem entryName?_of_name {entry core n : Text} (hstrip : strip entry = core)
    (htype : startsWith "type ".toList core = false) (hname : beforeAlias core = n)
    (hn : isIdentifier n = true) (hcore : core ≠ []) :
    entryName? entry = if n = "default".toList then none else some n := by
  have hblank : ∀ c ∈ n, isBlank c = false := isBlank_of_mem_identifier hn
  have hself : strip n = n := strip_eq_self (fun c hc => hblank c (List.mem_of_mem_head? hc))
    fun c hc => hblank c (List.mem_of_mem_getLast? hc)
  have hempty : core.isEmpty = false := List.isEmpty_eq_false_iff.2 hcore
  have hreserved : reserved.contains n = decide (n = "default".toList) := by
    rw [List.contains_eq_mem, reserved]
    exact decide_eq_decide.2 List.mem_singleton
  unfold entryName?
  simp only [hstrip, hname, hself, hempty, htype, Bool.or_self, Bool.false_eq_true, if_false, hn,
    Bool.true_and, hreserved]
  by_cases hdefault : n = "default".toList
  · rw [if_pos hdefault, decide_eq_true hdefault]
    rfl
  · rw [if_neg hdefault, decide_eq_false hdefault]
    rfl

/-- What holds no identifier before its first alias makes no name. -/
theorem entryName?_eq_none {entry core : Text} (hstrip : strip entry = core)
    (hcore : isIdentifier (strip (beforeAlias core)) = false) : entryName? entry = none := by
  unfold entryName?
  simp only [hstrip, hcore, Bool.false_and, Bool.false_eq_true, if_false, ite_self]

namespace Entry

variable (e : Entry)

theorem isBlank_head (behind : Text) : ∀ c ∈ (e.text ++ behind).head?, isBlank c = false := by
  cases e with
  | plain n => exact isBlank_head_identifier n.isIdentifier
  | renamed n =>
    rw [Entry.text, List.append_assoc]
    exact isBlank_head_identifier n.isIdentifier
  | typeOnly => exact fun c hc => Option.some.inj hc ▸ by decide

theorem isBlank_getLast : ∀ c ∈ e.text.getLast?, isBlank c = false := by
  cases e with
  | plain n => exact isBlank_getLast_identifier n.isIdentifier []
  | renamed n before behind other =>
    rw [Entry.text, ← List.append_assoc]
    exact isBlank_getLast_identifier other.isIdentifier _
  | typeOnly space n => exact isBlank_getLast_identifier n.isIdentifier _

/-- The word `type` and a name are no identifier together. -/
theorem isIdentifier_typeOnly (space : Space) (n : Name) :
    isIdentifier (Entry.typeOnly space n).text = false := by
  obtain ⟨c, w, hw⟩ := List.exists_cons_of_ne_nil space.ne_nil
  have hc : isBlank c = true := space.blank c (hw ▸ List.mem_cons_self)
  have hmem : c ∈ (Entry.typeOnly space n).text := by
    rw [Entry.text, modifier, Option.elim_some, hw]
    exact List.mem_append_left _ (List.mem_append_right _ List.mem_cons_self)
  rw [Bool.eq_false_iff]
  intro hidentifier
  rw [isBlank_of_mem_identifier hidentifier c hmem] at hc
  exact Bool.false_ne_true hc

/-- **An entry is read as the name that it exports.** -/
theorem entryName?_text (before behind : Blanks) :
    entryName? (before.text ++ (e.text ++ behind.text)) = e.name? := by
  have hstrip : strip (before.text ++ (e.text ++ behind.text)) = e.text :=
    strip_append before.blank behind.blank (e.isBlank_head _) e.isBlank_getLast
  cases e with
  | plain n =>
    have hblank : ∀ c ∈ n.text, isBlank c = false := isBlank_of_mem_identifier n.isIdentifier
    have halias : beforeAlias n.text = n.text := by
      rw [beforeAlias, Import.aliases_blankless hblank]
    exact entryName?_of_name hstrip (startsWith_type_of_isBlank hblank) halias n.isIdentifier
      (ne_nil_of_isIdentifier n.isIdentifier)
  | renamed n w v other hne =>
    have halias : beforeAlias (Entry.renamed n w v other hne).text = n.text := by
      rw [beforeAlias, Entry.text, Import.aliases_renamed
        (isBlank_of_mem_identifier n.isIdentifier) (isBlank_of_mem_identifier other.isIdentifier)]
    have hstops : Stops ((w.text ++ ("as".toList ++ v.text)) ++ other.text) := by
      rw [List.append_assoc]
      exact stops_space w _
    exact entryName?_of_name hstrip (startsWith_type_eq_false n.isIdentifier hne hstops) halias
      n.isIdentifier (List.append_ne_nil_of_left_ne_nil (ne_nil_of_isIdentifier n.isIdentifier) _)
  | typeOnly space n =>
    refine entryName?_eq_none hstrip ?_
    have hblank : ∀ c ∈ n.text, isBlank c = false := isBlank_of_mem_identifier n.isIdentifier
    have halias : beforeAlias (Entry.typeOnly space n).text = (Entry.typeOnly space n).text := by
      rw [beforeAlias, Entry.text, modifier, Option.elim_some, List.append_assoc,
        aliases_pair (by decide) hblank]
    have hself : strip (Entry.typeOnly space n).text = (Entry.typeOnly space n).text := by
      have hhead := (Entry.typeOnly space n).isBlank_head []
      rw [List.append_nil] at hhead
      exact strip_eq_self hhead (Entry.typeOnly space n).isBlank_getLast
    rw [halias, hself, isIdentifier_typeOnly]

end Entry

/-- A slot is read as the name that it exports, if any. -/
theorem Slot.entryName?_text (i : Slot) : entryName? i.text = i.name? := by
  cases i with
  | entry before e behind => exact e.entryName?_text before behind
  | nothing w =>
    have hstrip : strip w.text = [] := strip_eq_nil_iff.2 (List.all_eq_true.2 w.blank)
    refine entryName?_eq_none hstrip ?_
    rw [beforeAlias, Import.aliases_blankless (List.forall_mem_nil _)]
    rfl

/-! ### Lists are read -/

theorem Entry.isLoose_of_mem (e : Entry) : ∀ c ∈ e.text, Import.isLoose c = true := by
  have hname (n : Name) : ∀ c ∈ n.text, Import.isLoose c = true := fun c hc => by
    rw [Import.isLoose, isIdentifierPart_of_mem n.isIdentifier c hc, Bool.or_true]
  cases e with
  | plain n => exact hname n
  | renamed n before behind other =>
    exact List.forall_mem_append.2 ⟨hname n, List.forall_mem_append.2
      ⟨List.forall_mem_append.2 ⟨before.isLoose_of_mem, List.forall_mem_append.2
        ⟨List.all_eq_true.1 (by decide), behind.isLoose_of_mem⟩⟩, hname other⟩⟩
  | typeOnly space n =>
    exact List.forall_mem_append.2 ⟨List.forall_mem_append.2
      ⟨List.all_eq_true.1 (by decide), space.isLoose_of_mem⟩, hname n⟩

theorem Slot.isLoose_of_mem (i : Slot) : ∀ c ∈ i.text, Import.isLoose c = true := by
  cases i with
  | entry before e behind =>
    exact List.forall_mem_append.2 ⟨before.isLoose_of_mem, List.forall_mem_append.2
      ⟨e.isLoose_of_mem, behind.isLoose_of_mem⟩⟩
  | nothing w => exact w.isLoose_of_mem

theorem Listing.notMem_inside (l : Listing) {c : Char} (hcomma : c ≠ ',')
    (hloose : Import.isLoose c = false) : c ∉ l.inside := by
  intro hc
  rcases mem_joined hc with hc | ⟨p, hp, hc⟩
  · exact hcomma (List.mem_singleton.1 hc)
  · obtain ⟨i, -, rfl⟩ := List.mem_map.1 hp
    exact Bool.false_ne_true (hloose.symm.trans (i.isLoose_of_mem c hc))

/-- **A list makes the names of its slots available.** -/
theorem listedNames_inside (l : Listing) : listedNames l.inside = l.slots.filterMap Slot.name? := by
  by_cases hnil : l.slots = []
  · rw [Listing.inside, hnil]
    rfl
  · have hpieces : pieces ',' l.inside = l.slots.map Slot.text := by
      refine pieces_joined (by simpa using hnil) fun p hp hc => ?_
      obtain ⟨i, -, rfl⟩ := List.mem_map.1 hp
      exact absurd (i.isLoose_of_mem _ hc) (by decide)
    rw [listedNames, hpieces, List.filterMap_map]
    exact List.filterMap_congr fun i _ => i.entryName?_text

/-- **A list is read up to its closing brace.** -/
theorem readList?_head (l : Listing) (hbefore : atWordStart before = true) (s : Text) :
    readList? before ((word ++ l.head) ++ s) = some ⟨l.inside, s⟩ := by
  have htext : (word ++ l.head) ++ s =
      word ++ (l.gap.text ++ '\x7b' :: (l.inside ++ (['\x7d'] ++ s))) := by
    simp only [Listing.head, List.append_assoc, List.cons_append]
  have hword : after? "export".toList (word ++ (l.gap.text ++ '\x7b' ::
      (l.inside ++ (['\x7d'] ++ s)))) = some _ := after?_append word _
  have hstrip : stripLeft (l.gap.text ++ '\x7b' :: (l.inside ++ (['\x7d'] ++ s))) =
      '\x7b' :: (l.inside ++ (['\x7d'] ++ s)) := by
    rw [stripLeft_append l.gap.blank]
    exact stripLeft_eq_self fun c hc => Option.some.inj hc ▸ by decide
  have hopen : after? ['\x7b'] ('\x7b' :: (l.inside ++ (['\x7d'] ++ s))) =
      some (l.inside ++ (['\x7d'] ++ s)) := after?_append ['\x7b'] _
  have hcut : cut? ['\x7d'] (l.inside ++ (['\x7d'] ++ s)) = some ⟨l.inside, s⟩ :=
    cut?_of_freeOf (freeOf_of_notMem '\x7d' rfl (l.notMem_inside (by decide) (by decide)))
  rw [htext, readList?, if_pos hbefore, hword]
  simp only [Option.bind_eq_bind, Option.bind_some, hstrip, hopen, hcut, Option.pure_def]

/-- No list is read where no brace stands behind the word `export`. -/
theorem readList?_eq_none (w : Blanks) (hhead : ∀ c ∈ s.head?, isBlank c = false ∧ '\x7b' ≠ c) :
    readList? before (word ++ (w.text ++ s)) = none := by
  have hword : after? "export".toList (word ++ (w.text ++ s)) = some (w.text ++ s) :=
    after?_append word _
  have hstrip : stripLeft (w.text ++ s) = s := by
    rw [stripLeft_append w.blank, stripLeft_eq_self fun c hc => (hhead c hc).1]
  have hopen : after? ['\x7b'] s = none := after?_eq_none_of_head rfl fun c hc => (hhead c hc).2
  rw [readList?]
  split
  · rw [hword]
    simp only [Option.bind_eq_bind, Option.bind_some, hstrip, hopen, Option.bind_none]
  · rfl

end Export
end DocExamples
