/-
# The names that an import clause binds

The clause of an import statement stands between the words `import` and `from`.

| clause | binds |
| --- | --- |
| `View` | `View`, the default |
| `* as views` | `views`, all of the module |
| `{ Model, type View as Shape, from, }` | `Model`, `Shape`, `from` |
| `View, * as views` | both |
| `View, { Model }` | both |

Names may look like the words around them: `from`, `as` and `typed` are names.  An entry of a
list is cut at the word `as` only between blanks, and the word `type` is left out only before
blanks, so that no name is taken for either.
-/

import DocExamples.Import
import DocExamples.Proofs.PathText
import Mathlib.Data.List.Basic

namespace DocExamples

namespace Text

/-! ### Characters of names, and blanks -/

theorem isWord_of_isBlank {c : Char} (h : isBlank c = true) : isWord c = false := by
  have hall : ∀ n ∈ List.range' 9 5 ++ List.range' 28 5 ++ [0x85, 0xA0, 0x1680] ++
      List.range' 0x2000 11 ++ [0x2028, 0x2029, 0x202F, 0x205F, 0x3000],
      isWord (Char.ofNat n) = false := by
    decide +kernel
  have hmem : c.toNat ∈ List.range' 9 5 ++ List.range' 28 5 ++ [0x85, 0xA0, 0x1680] ++
      List.range' 0x2000 11 ++ [0x2028, 0x2029, 0x202F, 0x205F, 0x3000] := by
    simp only [isBlank, Bool.or_eq_true, Bool.and_eq_true, decide_eq_true_eq, beq_iff_eq] at h
    simp only [List.mem_append, List.mem_range'_1, List.mem_cons, List.not_mem_nil, or_false]
    omega
  have hc := hall _ hmem
  rwa [Char.ofNat_toNat] at hc

theorem isIdentifierPart_of_isBlank {c : Char} (h : isBlank c = true) :
    isIdentifierPart c = false := by
  have hdollar : c ≠ '$' := by
    rintro rfl
    exact absurd h (by decide)
  simp [isIdentifierPart, isWord_of_isBlank h, hdollar]

variable {n s t w : Text}

theorem stripLeft_append (hw : ∀ c ∈ w, isBlank c = true) (s : Text) :
    stripLeft (w ++ s) = stripLeft s :=
  List.dropWhile_append_of_pos hw

theorem stripLeft_eq_self (h : ∀ c ∈ s.head?, isBlank c = false) : stripLeft s = s :=
  dropWhile_run (List.forall_mem_nil _) h

theorem stripRight_append (hw : ∀ c ∈ w, isBlank c = true) (s : Text) :
    stripRight (s ++ w) = stripRight s := by
  have hreverse : ∀ c ∈ w.reverse, isBlank c = true := fun c hc => hw c (List.mem_reverse.1 hc)
  rw [stripRight, List.reverse_append, List.dropWhile_append_of_pos hreverse, stripRight]

theorem stripRight_eq_self (h : ∀ c ∈ s.getLast?, isBlank c = false) : stripRight s = s := by
  have hreverse : stripLeft s.reverse = s.reverse :=
    stripLeft_eq_self (by rwa [List.head?_reverse])
  rw [stripRight, ← stripLeft, hreverse, List.reverse_reverse]

/-- The blanks around a text are stripped. -/
theorem strip_append {v : Text} (hw : ∀ c ∈ w, isBlank c = true) (hv : ∀ c ∈ v, isBlank c = true)
    (hhead : ∀ c ∈ (s ++ v).head?, isBlank c = false)
    (hlast : ∀ c ∈ s.getLast?, isBlank c = false) : strip (w ++ (s ++ v)) = s := by
  rw [strip, stripLeft_append hw, stripLeft_eq_self hhead, stripRight_append hv,
    stripRight_eq_self hlast]

theorem strip_eq_self (hhead : ∀ c ∈ s.head?, isBlank c = false)
    (hlast : ∀ c ∈ s.getLast?, isBlank c = false) : strip s = s := by
  rw [strip, stripLeft_eq_self hhead, stripRight_eq_self hlast]

/-- A word and blanks are passed over, up to the next character that is none. -/
theorem spaced?_append {word : Text} (hne : w ≠ []) (hw : ∀ c ∈ w, isBlank c = true)
    (hs : ∀ c ∈ s.head?, isBlank c = false) : spaced? word (word ++ (w ++ s)) = some s := by
  obtain ⟨c, w, rfl⟩ := List.exists_cons_of_ne_nil hne
  obtain ⟨hc, hw⟩ := List.forall_mem_cons.1 hw
  rw [spaced?, after?_append]
  simp [hc, dropWhile_run hw hs]

/-! ### Identifiers -/

theorem isIdentifierPart_of_isIdentifierStart {c : Char} (h : isIdentifierStart c = true) :
    isIdentifierPart c = true := by
  rw [isIdentifierStart, Bool.or_eq_true, Bool.or_eq_true, beq_iff_eq, beq_iff_eq] at h
  rcases h with (h | rfl) | rfl
  · have halphanum : c.isAlphanum = true := by rw [Char.isAlphanum, h, Bool.true_or]
    rw [isIdentifierPart, isWord_of_isAlphanum halphanum, Bool.true_or]
  · decide
  · decide

theorem isIdentifierPart_of_mem (hn : isIdentifier n = true) :
    ∀ c ∈ n, isIdentifierPart c = true := by
  cases n with
  | nil => exact List.forall_mem_nil _
  | cons d n =>
    rw [isIdentifier, Bool.and_eq_true] at hn
    exact List.forall_mem_cons.2
      ⟨isIdentifierPart_of_isIdentifierStart hn.1, List.all_eq_true.1 hn.2⟩

theorem ne_nil_of_isIdentifier (hn : isIdentifier n = true) : n ≠ [] := by
  rintro rfl
  exact Bool.false_ne_true hn

/-- A character that stands in no identifier. -/
theorem notMem_identifier (hn : isIdentifier n = true) {c : Char}
    (h : isIdentifierPart c = false) : c ∉ n := fun hc =>
  Bool.false_ne_true (h.symm.trans (isIdentifierPart_of_mem hn c hc))

theorem isBlank_of_mem_identifier (hn : isIdentifier n = true) : ∀ c ∈ n, isBlank c = false := by
  intro c hc
  rw [Bool.eq_false_iff]
  exact fun hblank => notMem_identifier hn (isIdentifierPart_of_isBlank hblank) hc

/-- What begins with an identifier does not begin with a blank. -/
theorem isBlank_head_identifier (hn : isIdentifier n = true) :
    ∀ c ∈ (n ++ t).head?, isBlank c = false := by
  intro c hc
  rw [List.head?_append_of_ne_nil _ (ne_nil_of_isIdentifier hn)] at hc
  exact isBlank_of_mem_identifier hn c (List.mem_of_mem_head? hc)

theorem isBlank_getLast_identifier (hn : isIdentifier n = true) (s : Text) :
    ∀ c ∈ (s ++ n).getLast?, isBlank c = false := by
  intro c hc
  rw [List.getLast?_append_of_ne_nil _ (ne_nil_of_isIdentifier hn)] at hc
  exact isBlank_of_mem_identifier hn c (List.mem_of_mem_getLast? hc)

/-- An identifier is read up to a character that does not stand in identifiers. -/
theorem identifier?_append (hn : isIdentifier n = true)
    (ht : ∀ c ∈ t.head?, isIdentifierPart c = false) : identifier? (n ++ t) = some ⟨n, t⟩ := by
  cases n with
  | nil => exact absurd hn Bool.false_ne_true
  | cons d n =>
    rw [isIdentifier, Bool.and_eq_true] at hn
    have hpart : ∀ c ∈ n, isIdentifierPart c = true := List.all_eq_true.1 hn.2
    rw [List.cons_append, identifier?, if_pos hn.1, takeWhile_run hpart ht, dropWhile_run hpart ht]

/-- A word is not read from a name that is another word. -/
theorem spaced?_eq_none {word : Text} (hword : ∀ c ∈ word, isIdentifierPart c = true)
    (hn : ∀ c ∈ n, isIdentifierPart c = true) (hne : n ≠ word)
    (ht : ∀ c ∈ t.head?, isIdentifierPart c = false) : spaced? word (n ++ t) = none := by
  rw [Option.eq_none_iff_forall_ne_some]
  intro rest h
  unfold spaced? at h
  split at h
  · next c rest' hafter =>
    split at h
    · next hc =>
      -- Both sides begin with a run of characters of names, and the runs are the same.
      have hstop : ∀ d ∈ (c :: rest').head?, isIdentifierPart d = false := fun d hd =>
        Option.some.inj hd ▸ isIdentifierPart_of_isBlank hc
      have heq := congrArg (List.takeWhile isIdentifierPart) (after?_eq_some_iff.1 hafter)
      rw [takeWhile_run hn ht, takeWhile_run hword hstop] at heq
      exact hne heq
    · exact nomatch h
  · exact nomatch h

/-- Texts are cut in one way at their first character of a kind. -/
theorem eq_of_append_cons {p : Char → Bool} {a b : Text} {c d : Char}
    (ha : ∀ x ∈ a, p x = false) (hb : ∀ x ∈ b, p x = false) (hc : p c = true) (hd : p d = true)
    (h : a ++ c :: s = b ++ d :: t) : a = b ∧ c = d ∧ s = t := by
  have htake := congrArg (List.takeWhile (!p ·)) h
  rw [takeWhile_run (fun x hx => by simp [ha x hx]) fun x hx => by simp [← Option.some.inj hx, hc],
    takeWhile_run (fun x hx => by simp [hb x hx]) fun x hx => by simp [← Option.some.inj hx, hd]]
    at htake
  subst htake
  exact ⟨rfl, List.cons.inj (List.append_cancel_left h)⟩

end Text

namespace Import
open Text

/-! ### Written clauses -/

/-- Blanks, perhaps none. -/
structure Blanks where
  /-- The blanks. -/
  text : Text
  /-- They are blanks. -/
  blank : ∀ c ∈ text, isBlank c = true

theorem isBlank_of_mem_nil : ∀ c ∈ ([] : Text), isBlank c = true := by simp

theorem isBlank_of_mem_space : ∀ c ∈ [' '], isBlank c = true := by decide

/-- Blanks that keep words apart. -/
structure Space extends Blanks where
  /-- There is at least one. -/
  ne_nil : text ≠ []

/-- A letter, a digit, an underscore or a dollar sign. -/
def isNameChar (c : Char) : Bool := c.isAlphanum || c == '_' || c == '$'

/-- A name other than the word `type`. -/
structure Name where
  /-- The name. -/
  text : Text
  /-- It begins with a letter, an underscore or a dollar sign, and goes on with those and
  digits. -/
  isName : ∃ c s, text = c :: s ∧ (c.isAlpha || c == '_' || c == '$') = true ∧
    ∀ d ∈ s, isNameChar d = true
  /-- It is not the word that marks types. -/
  ne_type : text ≠ "type".toList

/-- The word `as` and another name. -/
structure Renaming where
  /-- The blanks before the word. -/
  before : Space
  /-- The blanks behind it. -/
  behind : Space
  /-- The other name. -/
  name : Name

/-- An entry of a list. -/
structure Entry where
  /-- The blanks in front. -/
  before : Blanks
  /-- The blanks behind the word `type`, if it stands there. -/
  typed : Option Space
  /-- The name in the module. -/
  name : Name
  /-- Another name for it. -/
  renamed : Option Renaming
  /-- The blanks behind. -/
  behind : Blanks

/-- What stands between two commas of a list. -/
inductive Item where
  /-- An entry. -/
  | entry (e : Entry)
  /-- Nothing, as in an empty list or behind the last comma. -/
  | nothing (w : Blanks)

/-- What is taken from a module beside its default. -/
inductive Binding where
  /-- All of it under one name: a star, the word `as` and the name. -/
  | everything (star : Blanks) (word : Space) (n : Name)
  /-- What is listed in braces. -/
  | listed (items : List Item)

/-- What stands between `import` and `from`. -/
inductive Clause where
  /-- A name for the default. -/
  | default (n : Name)
  /-- Something else. -/
  | only (b : Binding)
  /-- A name for the default, a comma, and something else. -/
  | both (n : Name) (before behind : Blanks) (b : Binding)

/-- The word `type` and the blanks behind it, if they stand there. -/
def marker (typed : Option Space) : Text := typed.elim [] fun w => "type".toList ++ w.text

/-- A renaming as it is written. -/
def Renaming.text (r : Renaming) : Text :=
  r.before.text ++ ("as".toList ++ (r.behind.text ++ r.name.text))

/-- An entry without the blanks around it. -/
def Entry.core (e : Entry) : Text :=
  marker e.typed ++ (e.name.text ++ e.renamed.elim [] Renaming.text)

/-- The name that an entry binds. -/
def Entry.bound (e : Entry) : Text := (e.renamed.elim e.name (·.name)).text

/-- An item as it is written. -/
def Item.text : Item → Text
  | .entry e => e.before.text ++ (e.core ++ e.behind.text)
  | .nothing w => w.text

/-- The name that an item binds, if any. -/
def Item.names : Item → List Text
  | .entry e => [e.bound]
  | .nothing _ => []

/-- Items as they are written, without the braces. -/
def listText (items : List Item) : Text := joined [','] (items.map Item.text)

/-- A binding as it is written. -/
def Binding.text : Binding → Text
  | .everything star word n => '*' :: (star.text ++ ("as".toList ++ (word.text ++ n.text)))
  | .listed items => '\x7b' :: (listText items ++ ['\x7d'])

/-- The names that a binding binds. -/
def Binding.names : Binding → List Text
  | .everything _ _ n => [n.text]
  | .listed items => items.flatMap Item.names

/-- A clause as it is written. -/
def Clause.text : Clause → Text
  | .default n => n.text
  | .only b => b.text
  | .both n before behind b => n.text ++ (before.text ++ ',' :: (behind.text ++ b.text))

/-- The names that a clause binds. -/
def Clause.names : Clause → List Text
  | .default n => [n.text]
  | .only b => b.names
  | .both n _ _ b => n.text :: b.names

/-! ### Names -/

theorem isIdentifierPart_of_isNameChar {c : Char} (h : isNameChar c = true) :
    isIdentifierPart c = true := by
  rw [isNameChar, Bool.or_eq_true, Bool.or_eq_true, beq_iff_eq, beq_iff_eq] at h
  rcases h with (h | rfl) | rfl
  · rw [isIdentifierPart, isWord_of_isAlphanum h, Bool.true_or]
  · decide
  · decide

namespace Name

variable (n : Name) {t : Text}

theorem isIdentifier : Text.isIdentifier n.text = true := by
  obtain ⟨c, s, htext, hstart, hpart⟩ := n.isName
  rw [htext, Text.isIdentifier, Bool.and_eq_true, List.all_eq_true]
  exact ⟨hstart, fun d hd => isIdentifierPart_of_isNameChar (hpart d hd)⟩

theorem isIdentifierPart_of_mem : ∀ c ∈ n.text, isIdentifierPart c = true :=
  Text.isIdentifierPart_of_mem n.isIdentifier

theorem isBlank_of_mem : ∀ c ∈ n.text, isBlank c = false :=
  isBlank_of_mem_identifier n.isIdentifier

theorem ne_nil : n.text ≠ [] := ne_nil_of_isIdentifier n.isIdentifier

/-- What begins with a name does not begin with a blank. -/
theorem isBlank_head : ∀ c ∈ (n.text ++ t).head?, isBlank c = false :=
  isBlank_head_identifier n.isIdentifier

theorem isBlank_getLast (s : Text) : ∀ c ∈ (s ++ n.text).getLast?, isBlank c = false :=
  isBlank_getLast_identifier n.isIdentifier s

/-- A name is read up to a character that does not stand in names. -/
theorem identifier?_append (ht : ∀ c ∈ t.head?, isIdentifierPart c = false) :
    identifier? (n.text ++ t) = some ⟨n.text, t⟩ :=
  Text.identifier?_append n.isIdentifier ht

/-- The word `type` is not read from another name. -/
theorem optional_append (ht : ∀ c ∈ t.head?, isIdentifierPart c = false) :
    Export.optional "type".toList (n.text ++ t) = n.text ++ t := by
  rw [Export.optional, spaced?_eq_none (List.all_eq_true.1 (by decide)) n.isIdentifierPart_of_mem
    n.ne_type ht]
  rfl

end Name

theorem Blanks.isIdentifierPart_head (w : Blanks) {t : Text}
    (ht : ∀ c ∈ t.head?, isIdentifierPart c = false) :
    ∀ c ∈ (w.text ++ t).head?, isIdentifierPart c = false := by
  intro c hc
  by_cases hw : w.text = []
  · rw [hw] at hc
    exact ht c hc
  · rw [List.head?_append_of_ne_nil _ hw] at hc
    exact isIdentifierPart_of_isBlank (w.blank c (List.mem_of_mem_head? hc))

/-- A word and the blanks behind it, if they stand there. -/
def modifier (word : Text) (w : Option Space) : Text := w.elim [] fun w => word ++ w.text

/-- A word is passed over where it is written. -/
theorem optional_modifier {word s : Text} {w : Option Space}
    (hs : ∀ c ∈ s.head?, isBlank c = false) (hplain : Export.optional word s = s) :
    Export.optional word (modifier word w ++ s) = s := by
  cases w with
  | none => exact hplain
  | some w =>
    rw [modifier, Option.elim_some, List.append_assoc, Export.optional,
      spaced?_append w.ne_nil w.blank hs]
    rfl

/-- The word `type` is passed over where it is written. -/
theorem optional_marker {typed : Option Space} {s : Text} (hs : ∀ c ∈ s.head?, isBlank c = false)
    (hplain : Export.optional "type".toList s = s) :
    Export.optional "type".toList (marker typed ++ s) = s :=
  optional_modifier hs hplain

/-! ### Entries of a list -/

namespace Entry

variable (e : Entry)

theorem isBlank_head : ∀ c ∈ (e.core ++ e.behind.text).head?, isBlank c = false := by
  rw [core, List.append_assoc, List.append_assoc]
  cases e.typed with
  | none => exact e.name.isBlank_head
  | some w =>
    intro c hc
    obtain rfl := Option.some.inj hc
    decide

theorem isBlank_getLast : ∀ c ∈ e.core.getLast?, isBlank c = false := by
  cases hrenamed : e.renamed with
  | none =>
    rw [core, hrenamed, Option.elim_none, List.append_nil]
    exact e.name.isBlank_getLast _
  | some r =>
    have hcore : e.core = (marker e.typed ++ (e.name.text ++
        (r.before.text ++ ("as".toList ++ r.behind.text)))) ++ r.name.text := by
      simp only [core, hrenamed, Option.elim_some, Renaming.text, List.append_assoc]
    rw [hcore]
    exact r.name.isBlank_getLast _

theorem strip_text : strip (Item.entry e).text = e.core :=
  strip_append e.before.blank e.behind.blank e.isBlank_head e.isBlank_getLast

/-- What is behind the name of an entry does not go on with the name. -/
theorem isIdentifierPart_head :
    ∀ c ∈ (e.renamed.elim [] Renaming.text).head?, isIdentifierPart c = false := by
  cases e.renamed with
  | none => exact nofun
  | some r =>
    intro c hc
    rw [Option.elim_some, Renaming.text, List.head?_append_of_ne_nil _ r.before.ne_nil] at hc
    exact isIdentifierPart_of_isBlank (r.before.blank c (List.mem_of_mem_head? hc))

end Entry

/-! ### The word `as` -/

theorem readAlias?_eq_none {s : Text} (h : ∀ c ∈ s.head?, isBlank c = false) :
    Export.readAlias? s = none := by
  cases s with
  | nil => rfl
  | cons c s => simp [Export.readAlias?, h c rfl]

/-- The word `as` between blanks is read up to what follows. -/
theorem readAlias?_append (w v : Space) {s : Text} (hs : ∀ c ∈ s.head?, isBlank c = false) :
    Export.readAlias? ((w.text ++ ("as".toList ++ v.text)) ++ s) = some ⟨(), s⟩ := by
  obtain ⟨c, u, hw⟩ := List.exists_cons_of_ne_nil w.ne_nil
  have hc : isBlank c = true := w.blank c (hw ▸ List.mem_cons_self)
  have hstrip : stripLeft ((w.text ++ ("as".toList ++ v.text)) ++ s) =
      "as".toList ++ (v.text ++ s) := by
    rw [List.append_assoc, stripLeft_append w.blank, List.append_assoc]
    exact stripLeft_eq_self fun d hd => Option.some.inj hd ▸ by decide
  rw [hw, List.cons_append, List.cons_append] at hstrip ⊢
  rw [Export.readAlias?, if_pos hc, hstrip, spaced?_append v.ne_nil v.blank hs]
  rfl

variable {m n : Text}

/-- No alias is read from a text without blanks. -/
theorem segmentsFrom_blankless (hn : ∀ c ∈ n, isBlank c = false) (before : Option Char)
    (skipped rest : Text) :
    segmentsFrom (fun _ => Export.readAlias?) before skipped (n ++ rest) =
      segmentsFrom (fun _ => Export.readAlias?) (n.getLast?.or before) (n.reverse ++ skipped)
        rest := by
  refine segmentsFrom_of_none (fun t ht hne _ => readAlias?_eq_none fun c hc => ?_) before skipped
  rw [List.head?_append_of_ne_nil _ hne] at hc
  exact hn c (ht.mem (List.mem_of_mem_head? hc))

theorem segmentsFrom_blankless_nil (hn : ∀ c ∈ n, isBlank c = false) (before : Option Char)
    (skipped : Text) :
    segmentsFrom (fun _ => Export.readAlias?) before skipped n = ⟨[], skipped.reverse ++ n⟩ := by
  have h := segmentsFrom_blankless hn before skipped []
  rwa [List.append_nil, segmentsFrom, List.reverse_append, List.reverse_reverse] at h

/-- A text without blanks has no alias. -/
theorem aliases_blankless (hn : ∀ c ∈ n, isBlank c = false) : Export.aliases n = ⟨[], n⟩ :=
  segmentsFrom_blankless_nil hn none []

/-- Two texts without blanks are cut at the word `as` between them. -/
theorem aliases_renamed (hn : ∀ c ∈ n, isBlank c = false) (hm : ∀ c ∈ m, isBlank c = false)
    (w v : Space) : Export.aliases (n ++ ((w.text ++ ("as".toList ++ v.text)) ++ m)) =
      ⟨[⟨n, w.text ++ ("as".toList ++ v.text), ()⟩], m⟩ := by
  have hread := readAlias?_append w v (s := m) fun c hc => hm c (List.mem_of_mem_head? hc)
  rw [Export.aliases, segments, segmentsFrom_blankless hn,
    segmentsFrom_append_of_read hread (by simp), segmentsFrom_blankless_nil hm, List.append_nil,
    List.reverse_reverse, List.reverse_nil, List.nil_append]

/-- What an entry is cut into ends with the name that it binds. -/
theorem tail_aliases (e : Entry) :
    (Export.aliases (e.name.text ++ e.renamed.elim [] Renaming.text)).tail = e.bound := by
  have hname : ∀ c ∈ e.name.text, isBlank c = false := e.name.isBlank_of_mem
  rw [Entry.bound]
  cases e.renamed with
  | none => rw [Option.elim_none, Option.elim_none, List.append_nil, aliases_blankless hname]
  | some r =>
    have htext : r.text = (r.before.text ++ ("as".toList ++ r.behind.text)) ++ r.name.text := by
      simp only [Renaming.text, List.append_assoc]
    rw [Option.elim_some, Option.elim_some, htext, aliases_renamed hname r.name.isBlank_of_mem]

/-- An entry binds its last name. -/
theorem boundByEntry?_entry (e : Entry) : boundByEntry? (Item.entry e).text = some e.bound := by
  have hname : ∀ c ∈ (e.name.text ++ e.renamed.elim [] Renaming.text).head?, isBlank c = false :=
    e.name.isBlank_head
  have hplain := e.name.optional_append e.isIdentifierPart_head
  have hbound : strip e.bound = e.bound := by
    have hblank : ∀ c ∈ e.bound, isBlank c = false := Name.isBlank_of_mem _
    exact strip_eq_self (fun c hc => hblank c (List.mem_of_mem_head? hc))
      fun c hc => hblank c (List.mem_of_mem_getLast? hc)
  unfold boundByEntry?
  simp only [e.strip_text, Entry.core, optional_marker hname hplain, tail_aliases, hbound]
  rw [if_neg (by simp [e.name.ne_nil])]

theorem boundByEntry?_nothing (w : Blanks) : boundByEntry? w.text = none := by
  have hstrip : strip w.text = [] := strip_eq_nil_iff.2 (List.all_eq_true.2 w.blank)
  unfold boundByEntry?
  rw [hstrip]
  rfl

/-- A blank, or a character of names. -/
def isLoose (c : Char) : Bool := isBlank c || isIdentifierPart c

theorem Name.isLoose_of_mem (n : Name) : ∀ c ∈ n.text, isLoose c = true := fun c hc => by
  rw [isLoose, n.isIdentifierPart_of_mem c hc, Bool.or_true]

theorem Blanks.isLoose_of_mem (w : Blanks) : ∀ c ∈ w.text, isLoose c = true := fun c hc => by
  rw [isLoose, w.blank c hc, Bool.true_or]

/-- Items hold blanks and characters of names. -/
theorem Item.isLoose_of_mem (i : Item) : ∀ c ∈ i.text, isLoose c = true := by
  cases i with
  | nothing w => exact w.isLoose_of_mem
  | entry e =>
    have hmarker : ∀ c ∈ marker e.typed, isLoose c = true := by
      cases e.typed with
      | none => exact nofun
      | some w =>
        exact List.forall_mem_append.2 ⟨List.all_eq_true.1 (by decide), w.isLoose_of_mem⟩
    have hrenamed : ∀ c ∈ e.renamed.elim [] Renaming.text, isLoose c = true := by
      cases e.renamed with
      | none => exact nofun
      | some r =>
        exact List.forall_mem_append.2 ⟨r.before.isLoose_of_mem, List.forall_mem_append.2
          ⟨List.all_eq_true.1 (by decide), List.forall_mem_append.2
            ⟨r.behind.isLoose_of_mem, r.name.isLoose_of_mem⟩⟩⟩
    exact List.forall_mem_append.2 ⟨e.before.isLoose_of_mem, List.forall_mem_append.2
      ⟨List.forall_mem_append.2 ⟨hmarker, List.forall_mem_append.2
        ⟨e.name.isLoose_of_mem, hrenamed⟩⟩, e.behind.isLoose_of_mem⟩⟩

/-- Lists hold commas too. -/
theorem isLoose_of_mem_listText {items : List Item} {c : Char} (hc : c ∈ listText items) :
    c = ',' ∨ isLoose c = true := by
  rcases mem_joined hc with hc | ⟨s, hs, hc⟩
  · exact .inl (List.mem_singleton.1 hc)
  · obtain ⟨i, -, rfl⟩ := List.mem_map.1 hs
    exact .inr (i.isLoose_of_mem c hc)

/-- **A list binds the last name of each entry.** -/
theorem filterMap_boundByEntry? (items : List Item) :
    (pieces ',' (listText items)).filterMap boundByEntry? = items.flatMap Item.names := by
  by_cases hnil : items = []
  · rw [hnil]
    rfl
  · have hpieces : pieces ',' (listText items) = items.map Item.text := by
      refine pieces_joined (by simpa using hnil) fun s hs hc => ?_
      obtain ⟨i, -, rfl⟩ := List.mem_map.1 hs
      exact absurd (i.isLoose_of_mem _ hc) (by decide)
    rw [hpieces, List.filterMap_map, List.filterMap_eq_flatMap_toList]
    refine List.flatMap_congr fun i _ => ?_
    cases i with
    | entry e =>
      have hentry := boundByEntry?_entry e
      exact congrArg Option.toList hentry
    | nothing w =>
      have hnothing := boundByEntry?_nothing w
      exact congrArg Option.toList hnothing

/-! ### Clauses without braces -/

theorem needsMark_readNamespace? : NeedsMark ['*'] fun _ => readNamespace? := by
  intro _ s h
  simp only [readNamespace?, h, Option.bind_eq_bind, Option.bind_none]

/-- A star, the word `as` and a name are read as the name. -/
theorem readNamespace?_everything (star : Blanks) (word : Space) (n : Name) :
    readNamespace? (Binding.everything star word n).text = some ⟨n.text, []⟩ := by
  have hstrip : stripLeft (star.text ++ ("as".toList ++ (word.text ++ n.text))) =
      "as".toList ++ (word.text ++ n.text) := by
    rw [stripLeft_append star.blank]
    exact stripLeft_eq_self fun c hc => Option.some.inj hc ▸ by decide
  have hspaced : spaced? "as".toList ("as".toList ++ (word.text ++ n.text)) = some n.text :=
    spaced?_append word.ne_nil word.blank fun c hc => n.isBlank_of_mem c (List.mem_of_mem_head? hc)
  have hname : identifier? n.text = some ⟨n.text, []⟩ := by
    have hread : identifier? (n.text ++ []) = some ⟨n.text, []⟩ := n.identifier?_append nofun
    rwa [List.append_nil] at hread
  have hstar : after? ['*'] (Binding.everything star word n).text =
      some (star.text ++ ("as".toList ++ (word.text ++ n.text))) := rfl
  simp only [readNamespace?, hstar, Option.bind_eq_bind, Option.bind_some, hstrip, hspaced, hname]

/-- What a text binds that begins with the name of a default, if it begins with a name. -/
def leading (s : Text) : List Text := ((identifier? (stripLeft s)).map (·.value)).toList

theorem leading_name (n : Name) {t : Text} (ht : ∀ c ∈ t.head?, isIdentifierPart c = false) :
    leading (n.text ++ t) = [n.text] := by
  rw [leading, stripLeft_eq_self n.isBlank_head, n.identifier?_append ht]
  rfl

theorem boundByNames_of_notMem {s : Text} (h : '*' ∉ s) : boundByNames s = leading s := by
  have hnone : (segments (fun _ => readNamespace?) s).segments = [] :=
    segmentsFrom_eq_nil needsMark_readNamespace? (freeOf_of_notMem '*' rfl h) none []
  rw [boundByNames, hnone]
  rfl

theorem boundByNames_append {front s name : Text} (h : '*' ∉ front) (hne : s ≠ [])
    (hread : readNamespace? s = some ⟨name, []⟩) :
    boundByNames (front ++ s) = name :: leading front := by
  have htake : (segmentsFrom (fun _ => readNamespace?) (front.getLast?.or none)
      (front.reverse ++ []) (s ++ [])).segments =
        ⟨(front.reverse ++ []).reverse, s, name⟩ ::
          (segmentsFrom (fun _ => readNamespace?) s.getLast? [] []).segments :=
    segmentsFrom_of_read (by rwa [List.append_nil]) hne _
  have hsegments : (segments (fun _ => readNamespace?) (front ++ s)).segments =
      [⟨front, s, name⟩] := by
    rw [List.append_nil s, List.append_nil, List.reverse_reverse, segmentsFrom] at htake
    rw [segments, segmentsFrom_of_freeOf needsMark_readNamespace? (freeOf_of_notMem '*' rfl h),
      List.append_nil, htake]
  rw [boundByNames, hsegments]
  simp [leading]

/-! ### Clauses with braces -/

theorem braced?_of_notMem {s : Text} (h : '\x7b' ∉ s) : braced? s = none := by
  rw [braced?, cut?_eq_none (List.cons_ne_nil _ _) (freeOf_of_notMem '\x7b' rfl h)]
  rfl

theorem braced?_listed {front : Text} (h : '\x7b' ∉ front) (items : List Item) :
    ∃ b, braced? (front ++ (Binding.listed items).text) = some b ∧ b.inside = listText items ∧
      b.outside = front := by
  have hfree : '\x7d' ∉ listText items := fun hmem =>
    (isLoose_of_mem_listText hmem).elim (by decide) (by decide)
  have hopen : cut? ['\x7b'] (front ++ (Binding.listed items).text) =
      some ⟨front, listText items ++ ['\x7d']⟩ :=
    cut?_of_freeOf (freeOf_of_notMem '\x7b' rfl h)
  have hclose : cut? ['\x7d'] (listText items ++ ['\x7d']) = some ⟨listText items, []⟩ := by
    have hcut : cut? ['\x7d'] (listText items ++ (['\x7d'] ++ [])) = some ⟨listText items, []⟩ :=
      cut?_of_freeOf (freeOf_of_notMem '\x7d' rfl hfree)
    exact hcut
  refine ⟨_, by simp only [braced?, hopen, Option.bind_eq_bind, Option.bind_some, hclose]; rfl,
    rfl, List.append_nil front⟩

/-! ### Clauses -/

namespace Clause

/-- What stands before a binding in a clause. -/
def front : Clause → Text
  | .default n => n.text
  | .only _ => []
  | .both n before behind _ => n.text ++ (before.text ++ ',' :: behind.text)

/-- The binding of a clause. -/
def binding : Clause → Option Binding
  | .default _ => none
  | .only b => some b
  | .both _ _ _ b => some b

/-- The names that stand before a binding in a clause. -/
def defaults : Clause → List Text
  | .default n => [n.text]
  | .only _ => []
  | .both n _ _ _ => [n.text]

variable (c : Clause)

theorem text_eq : c.text = c.front ++ c.binding.elim [] Binding.text := by
  cases c <;> simp [text, front, binding]

theorem names_eq : c.names = c.defaults ++ c.binding.elim [] Binding.names := by
  cases c <;> rfl

theorem leading_front : leading c.front = c.defaults := by
  cases c with
  | default n =>
    have hname : leading (n.text ++ []) = [n.text] := leading_name n nofun
    rwa [List.append_nil] at hname
  | only b => rfl
  | both n before behind b =>
    exact leading_name n (before.isIdentifierPart_head fun x hx => Option.some.inj hx ▸ by decide)

theorem isLoose_of_mem_front : ∀ x ∈ c.front, x = ',' ∨ isLoose x = true := by
  cases c with
  | default n => exact fun x hx => .inr (n.isLoose_of_mem x hx)
  | only b => exact nofun
  | both n before behind b =>
    intro x hx
    rcases List.mem_append.1 hx with hx | hx
    · exact .inr (n.isLoose_of_mem x hx)
    · rcases List.mem_append.1 hx with hx | hx
      · exact .inr (before.isLoose_of_mem x hx)
      · rcases List.mem_cons.1 hx with hx | hx
        · exact .inl hx
        · exact .inr (behind.isLoose_of_mem x hx)

theorem notMem_front {x : Char} (hcomma : x ≠ ',') (hloose : isLoose x = false) : x ∉ c.front :=
  fun hx => (c.isLoose_of_mem_front x hx).elim hcomma fun h =>
    Bool.false_ne_true (hloose.symm.trans h)

end Clause

theorem isLoose_of_mem_everything (star : Blanks) (word : Space) (n : Name) :
    ∀ x ∈ (Binding.everything star word n).text, x = '*' ∨ isLoose x = true := by
  have hrest : ∀ x ∈ star.text ++ ("as".toList ++ (word.text ++ n.text)), isLoose x = true :=
    List.forall_mem_append.2 ⟨star.isLoose_of_mem, List.forall_mem_append.2
      ⟨List.all_eq_true.1 (by decide), List.forall_mem_append.2
        ⟨word.isLoose_of_mem, n.isLoose_of_mem⟩⟩⟩
  exact fun x hx => (List.mem_cons.1 hx).imp_right (hrest x)

/-- **A statement binds the names of its clause.** -/
theorem boundNames_of_clause {statement : Text} {c : Clause} (h : clause? statement = some c.text) :
    boundNames statement = c.binding.elim [] Binding.names ++ c.defaults := by
  have hbrace : '\x7b' ∉ c.front := c.notMem_front (by decide) (by decide)
  have hstar : '*' ∉ c.front := c.notMem_front (by decide) (by decide)
  rw [boundNames, h, c.text_eq]
  dsimp only
  cases c.binding with
  | none =>
    rw [Option.elim_none, Option.elim_none, List.append_nil, braced?_of_notMem hbrace,
      List.nil_append, ← c.leading_front]
    exact boundByNames_of_notMem hstar
  | some b =>
    rw [Option.elim_some, Option.elim_some]
    cases b with
    | everything star word n =>
      have hnone : '\x7b' ∉ c.front ++ (Binding.everything star word n).text := by
        rw [List.mem_append, not_or]
        exact ⟨hbrace, fun hx => (isLoose_of_mem_everything star word n _ hx).elim
          (by decide) (by decide)⟩
      rw [braced?_of_notMem hnone, ← c.leading_front]
      exact boundByNames_append hstar (List.cons_ne_nil _ _)
        (readNamespace?_everything star word n)
    | listed items =>
      obtain ⟨b, hb, hinside, houtside⟩ := braced?_listed hbrace items
      rw [hb]
      dsimp only
      rw [hinside, houtside, filterMap_boundByEntry?, boundByNames_of_notMem hstar,
        c.leading_front, Binding.names]

end Import
end DocExamples
