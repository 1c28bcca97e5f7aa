/-
# The names that a source exports

A source of items, one below the other, is searched twice: once for declarations and once for
lists.  Each search takes an item as a whole, from the word `export` at its start, or passes it
over.  No item is taken by both, so that the two searches together mention the names of the items
at the offsets of the items:

    declared:  (0, a)          (30, d)
    listed:            (12, b)          (48, e)
    merged:    (0, a)  (12, b) (30, d)  (48, e)
-/

import DocExamples.Export
import DocExamples.Proofs.Exports

namespace DocExamples

/-! ### Merged lists -/

section Merge

variable {α : Type} {le : α → α → Bool} {front xs ys : List α}

/-- What is not above the other list goes first. -/
theorem append_merge (h : ∀ a ∈ front, ∀ b ∈ ys, le a b = true) :
    (front ++ xs).merge ys le = front ++ xs.merge ys le := by
  induction front with
  | nil => rfl
  | cons a front ih =>
    obtain ⟨ha, hfront⟩ := List.forall_mem_cons.1 h
    cases ys with
    | nil => rw [List.merge_right, List.merge_right]
    | cons b ys =>
      rw [List.cons_append, List.cons_merge_cons_pos le _ _ (ha b List.mem_cons_self), ih hfront,
        List.cons_append]

/-- What is below the first list goes first. -/
theorem merge_append (h : ∀ b ∈ front, ∀ a ∈ xs, ¬ le a b = true) :
    xs.merge (front ++ ys) le = front ++ xs.merge ys le := by
  induction front with
  | nil => rfl
  | cons b front ih =>
    obtain ⟨hb, hfront⟩ := List.forall_mem_cons.1 h
    cases xs with
    | nil => rw [List.nil_merge, List.nil_merge]
    | cons a xs =>
      rw [List.cons_append, List.cons_merge_cons_neg le _ _ (hb a List.mem_cons_self), ih hfront,
        List.cons_append]

end Merge

namespace Export
open Text
open Import (Space)

/-! ### What the searches make of an item -/

/-- The names that an item declares. -/
def Item.declared : Item → List Text
  | .declaration d => [d.name]
  | _ => []

/-- The names that an item lists. -/
def Item.listed : Item → List Text
  | .list l => l.slots.filterMap Slot.name?
  | _ => []

variable {α : Type} {read : Option Char → Text → Option (Reading α)} {names : α → List Text}

/-- What a reader makes of an item, wherever it stands. -/
inductive Meets (read : Option Char → Text → Option (Reading α)) (names : α → List Text)
    (i : Item) : List Text → Prop where
  /-- The word begins nowhere in the item. -/
  | plain (hclear : Clear i.text) : Meets read names i []
  /-- The item begins with the word, but nothing is read there. -/
  | passed (body : Text) (htext : i.text = word ++ body) (hclear : Clear body)
      (hread : ∀ before s, read before (word ++ (body ++ s)) = none) : Meets read names i []
  /-- The item is read from its start, up to a text in which the word begins nowhere. -/
  | taken (front rest : Text) (value : α) (htext : i.text = front ++ rest) (hne : front ≠ [])
      (hclear : Clear rest)
      (hread : ∀ before s, atWordStart before = true → Stops s →
        read before (front ++ (rest ++ s)) = some ⟨value, rest ++ s⟩) :
      Meets read names i (names value)

theorem needsMark_readDeclared? : NeedsMark word readDeclared? := by
  intro before s h
  rw [readDeclared?]
  split
  · exact congrArg (Option.bind · _) (spaced?_of_after? h)
  · rfl

theorem needsMark_readList? : NeedsMark word readList? := by
  intro before s h
  rw [readList?]
  split
  · exact congrArg (Option.bind · _) h
  · rfl

theorem clear_default {s : Text} (hs : Clear s) : Clear ("default".toList ++ s) := fun rest hrest =>
  freeOf_append.2 ⟨⟨rfl, rfl, rfl, rfl, rfl, rfl, rfl, trivial⟩, hs rest hrest⟩

/-- **The search for declarations** takes them and nothing else. -/
theorem meets_readDeclared? (i : Item) : Meets readDeclared? ([·]) i i.declared := by
  cases i with
  | declaration d =>
    refine .taken (word ++ d.head) d.rest d.name (List.append_assoc ..).symm
      (List.append_ne_nil_of_left_ne_nil (by decide) _) d.plain.clear fun before s hbefore hs => ?_
    exact readDeclared?_head d.toAnnounced hbefore (Stops.append d.apart hs)
  | list l =>
    refine .passed (l.head ++ l.rest) rfl l.clear_body fun before s => ?_
    have hbody : (l.head ++ l.rest) ++ s =
        l.gap.text ++ '\x7b' :: (l.inside ++ '\x7d' :: (l.rest ++ s)) := by simp [Listing.head]
    rw [hbody]
    exact readDeclared?_eq_none l.gap (fun c hc => Option.some.inj hc ▸ by decide) rfl
  | default space rest plain =>
    refine .passed (space.text ++ ("default".toList ++ rest)) rfl
      (clear_space space.toBlanks (clear_default plain.clear)) fun before s => ?_
    rw [List.append_assoc, List.append_assoc]
    exact readDeclared?_eq_none space.toBlanks (fun c hc => Option.some.inj hc ▸ by decide) rfl
  | everything gap rest plain =>
    refine .passed (gap.text ++ '*' :: rest) rfl
      (clear_space gap (clear_cons (by decide) plain.clear)) fun before s => ?_
    rw [List.append_assoc]
    exact readDeclared?_eq_none gap (fun c hc => Option.some.inj hc ▸ by decide) rfl
  | other s plain => exact .plain plain.clear

/-- **The search for lists** takes them and nothing else. -/
theorem meets_readList? (i : Item) : Meets readList? listedNames i i.listed := by
  cases i with
  | declaration d =>
    refine .passed (d.head ++ d.rest) rfl d.clear_body fun before s => ?_
    have hheads : ∀ c ∈ 'a' :: 'd' :: Declaration.heads, isBlank c = false ∧ '\x7b' ≠ c := by decide
    simp only [Announced.head, List.append_assoc]
    exact readList?_eq_none d.space.toBlanks fun c hc => hheads c (d.head_words c hc)
  | list l =>
    rw [Item.listed, ← listedNames_inside]
    refine .taken (word ++ l.head) l.rest l.inside (List.append_assoc ..).symm
      (List.append_ne_nil_of_left_ne_nil (by decide) _) l.plain.clear fun before s hbefore _ => ?_
    exact readList?_head l hbefore _
  | default space rest plain =>
    refine .passed (space.text ++ ("default".toList ++ rest)) rfl
      (clear_space space.toBlanks (clear_default plain.clear)) fun before s => ?_
    rw [List.append_assoc, List.append_assoc]
    exact readList?_eq_none space.toBlanks fun c hc => Option.some.inj hc ▸ by decide
  | everything gap rest plain =>
    refine .passed (gap.text ++ '*' :: rest) rfl
      (clear_space gap (clear_cons (by decide) plain.clear)) fun before s => ?_
    rw [List.append_assoc]
    exact readList?_eq_none gap fun c hc => Option.some.inj hc ▸ by decide
  | other s plain => exact .plain plain.clear

/-! ### A search through items -/

/-- Where a search stands: the character before it, the offset of the text since the last piece,
and that text (reversed). -/
structure Place where
  /-- The character before. -/
  before : Option Char
  /-- The offset of the end of the last piece. -/
  offset : Nat
  /-- The text since then. -/
  skipped : Text

/-- The offset of a place. -/
def Place.position (p : Place) : Nat := p.offset + p.skipped.length

/-- What a search that stands somewhere finds in the text that follows. -/
def found (read : Option Char → Text → Option (Reading α)) (names : α → List Text) (p : Place)
    (s : Text) : List Mention :=
  mentions names p.offset (segmentsFrom read p.before p.skipped s).segments

/-- The names of items at the offsets of the items, where the first begins at `offset` and one
character stands between each two. -/
def placed (told : Item → List Text) (offset : Nat) : List Item → List Mention
  | [] => []
  | i :: is => (told i).map (⟨offset, ·⟩) ++ placed told (offset + i.text.length + 1) is

variable {i : Item} {ns : List Text} {follow : Text}

/-- Where a search stands that has passed over a part. -/
def Place.behind (p : Place) (front : Text) : Place :=
  ⟨front.getLast?.or p.before, p.offset, front.reverse ++ p.skipped⟩

theorem Place.position_behind (p : Place) (front : Text) :
    (p.behind front).position = p.position + front.length := by
  simp only [Place.position, Place.behind, List.length_append, List.length_reverse]
  omega

/-- What is passed over is passed over in full. -/
theorem found_of_freeOf (names : α → List Text) {front : Text} (hread : NeedsMark word read)
    (hfree : FreeOf word front follow) (p : Place) :
    found read names p (front ++ follow) = found read names (p.behind front) follow := by
  rw [found, segmentsFrom_of_freeOf hread hfree, found, Place.behind]

/-- A piece that is read is told where it begins, and the search goes on behind it. -/
theorem found_of_read {p : Place} {taken rest : Text} {value : α}
    (hread : read p.before (taken ++ rest) = some ⟨value, rest⟩) (hne : taken ≠ []) :
    found read names p (taken ++ rest) = (names value).map (⟨p.position, ·⟩) ++
      found read names ⟨taken.getLast?, p.position + taken.length, []⟩ rest := by
  rw [found, segmentsFrom_of_read hread hne, mentions, found, List.length_reverse, Place.position]

/-- **A search goes through one item** and tells its names at the place where the item begins. -/
theorem Meets.exists_found (h : Meets read names i ns) (hread : NeedsMark word read)
    (hfollow : Stops follow) {p : Place} (hp : atWordStart p.before = true) :
    ∃ q : Place, q.position = p.position + i.text.length ∧
      found read names p (i.text ++ follow) =
        ns.map (⟨p.position, ·⟩) ++ found read names q follow := by
  cases h with
  | plain hclear =>
    exact ⟨p.behind i.text, p.position_behind i.text,
      found_of_freeOf names hread (hclear follow hfollow) p⟩
  | passed body htext hclear hnone =>
    -- Nothing is read at the first letter, and the word does not begin behind it.
    obtain ⟨c, w, hword, hc⟩ : ∃ c w, word = c :: w ∧ 'e' ∉ w := ⟨'e', "xport".toList, by decide⟩
    have hfree : FreeOf word (w ++ body) follow := hclear.behind hc follow hfollow
    have hstep : found read names p (i.text ++ follow) =
        found read names ⟨some c, p.offset, c :: p.skipped⟩ ((w ++ body) ++ follow) := by
      have hnone := hnone p.before follow
      rw [hword, List.cons_append] at hnone
      rw [htext, hword, List.append_assoc, List.cons_append, found, segmentsFrom, hnone,
        ← List.append_assoc, found]
    refine ⟨Place.behind ⟨some c, p.offset, c :: p.skipped⟩ (w ++ body), ?_,
      hstep.trans (found_of_freeOf names hread hfree _)⟩
    rw [Place.position_behind, htext, hword]
    simp only [Place.position, List.length_cons, List.length_append]
    omega
  | taken front rest value htext hne hclear hsome =>
    refine ⟨Place.behind ⟨front.getLast?, p.position + front.length, []⟩ rest, ?_, ?_⟩
    · rw [Place.position_behind, htext]
      simp only [Place.position, List.length_nil, List.length_append]
      omega
    · rw [htext, List.append_assoc, found_of_read (hsome p.before follow hp hfollow) hne,
        found_of_freeOf names hread (hclear follow hfollow)]

/-- **A search goes through all items**, here those behind the first, each with a line feed in
front. -/
theorem found_behind {told : Item → List Text} (h : ∀ i, Meets read names i (told i))
    (hread : NeedsMark word read) (is : List Item) (p : Place) :
    found read names p ((is.map Item.text).flatMap (['\n'] ++ ·)) =
      placed told (p.position + 1) is := by
  induction is generalizing p with
  | nil =>
    rw [List.map_nil, List.flatMap_nil, found, segmentsFrom]
    rfl
  | cons i is ih =>
    have hfollow : Stops ((is.map Item.text).flatMap (['\n'] ++ ·)) :=
      stops_flatMap (by decide) _
    have hfeed : found read names p ('\n' :: (i.text ++ (is.map Item.text).flatMap (['\n'] ++ ·))) =
        found read names ⟨some '\n', p.offset, '\n' :: p.skipped⟩
          (i.text ++ (is.map Item.text).flatMap (['\n'] ++ ·)) := by
      have hnone : read p.before ('\n' :: (i.text ++ (is.map Item.text).flatMap (['\n'] ++ ·))) =
          none := hread _ _ (after?_eq_none rfl (by decide) _)
      rw [found, segmentsFrom, hnone, found]
    obtain ⟨q, hq, hfound⟩ := (h i).exists_found hread hfollow
      (p := ⟨some '\n', p.offset, '\n' :: p.skipped⟩) (by decide : atWordStart (some '\n') = true)
    rw [List.map_cons, List.flatMap_cons, List.singleton_append, List.cons_append, hfeed, hfound,
      ih, hq, placed]
    rfl

/-- A search of items, one below the other. -/
theorem mentions_segments {told : Item → List Text} (h : ∀ i, Meets read names i (told i))
    (hread : NeedsMark word read) (is : List Item) :
    mentions names 0 (segments read (unlines (is.map Item.text))).segments = placed told 0 is := by
  cases is with
  | nil =>
    rw [List.map_nil, segments]
    exact congrArg (mentions names 0 ·.segments) (segmentsFrom.eq_1 read none [])
  | cons i is =>
    have hfollow : Stops ((is.map Item.text).flatMap (['\n'] ++ ·)) :=
      stops_flatMap (by decide) _
    obtain ⟨q, hq, hfound⟩ := (h i).exists_found hread hfollow (p := ⟨none, 0, []⟩) rfl
    rw [List.map_cons, unlines, joined_cons, segments]
    refine hfound.trans ?_
    rw [found_behind h hread, hq, placed, Place.position, List.length_nil, Nat.zero_add]

/-! ### Both searches -/

theorem le_of_mem_placed {told : Item → List Text} {is : List Item} {offset : Nat} {m : Mention}
    (hm : m ∈ placed told offset is) : offset ≤ m.offset := by
  induction is generalizing offset with
  | nil => exact nomatch hm
  | cons i is ih =>
    rcases List.mem_append.1 hm with hm | hm
    · obtain ⟨n, -, rfl⟩ := List.mem_map.1 hm
      exact Nat.le_refl offset
    · have := ih hm
      omega

/-- **The two searches together** tell the names of each item at its offset. -/
theorem merge_placed (is : List Item) (offset : Nat) :
    ((placed Item.declared offset is).merge (placed Item.listed offset is)
      fun a b => a.offset ≤ b.offset) = placed Item.names offset is := by
  induction is generalizing offset with
  | nil => exact List.merge_right []
  | cons i is ih =>
    have hfront {ns : List Text} : ∀ m ∈ ns.map (Mention.mk offset), m.offset = offset := by
      intro m hm
      obtain ⟨n, -, rfl⟩ := List.mem_map.1 hm
      rfl
    have hbehind {told : Item → List Text} :
        ∀ m ∈ placed told (offset + i.text.length + 1) is, offset < m.offset := fun m hm => by
      have := le_of_mem_placed hm
      omega
    rw [placed, placed, placed, ← ih]
    -- No item is both a declaration and a list.
    cases i with
    | declaration d =>
      refine append_merge fun a ha b hb => decide_eq_true ?_
      rw [hfront a ha]
      exact Nat.le_of_lt (hbehind b hb)
    | list l =>
      refine merge_append fun b hb a ha => ?_
      rw [decide_eq_true_iff, hfront b hb]
      exact Nat.not_le.2 (hbehind a ha)
    | _ => rfl

theorem map_name_placed (told : Item → List Text) (offset : Nat) (is : List Item) :
    (placed told offset is).map (·.name) = is.flatMap told := by
  induction is generalizing offset with
  | nil => rfl
  | cons i is ih =>
    rw [placed, List.map_append, ih, List.map_map, List.flatMap_cons]
    congr 1
    exact List.map_id _

/-- **A source exports what its items export**, each name once, in the order of the items. -/
theorem names_unlines (is : List Item) :
    Export.names (unlines (is.map Item.text)) = (is.flatMap Item.names).eraseDups := by
  rw [Export.names, allMentions, mentions_segments meets_readDeclared? needsMark_readDeclared?,
    mentions_segments meets_readList? needsMark_readList?, merge_placed, map_name_placed]

/-- One blank. -/
def blank : Space := ⟨⟨[' '], Import.isBlank_of_mem_space⟩, List.cons_ne_nil ' ' []⟩

/-- A generator function that is exported. -/
def generating : Declared where
  space := blank
  declared := none
  abstracted := none
  asynchronous := some blank
  keyword := .generator ⟨[], Import.isBlank_of_mem_nil⟩ blank.toBlanks
  name := "area$".toList
  isIdentifier := by decide +kernel
  ne_enum := nofun
  plain_name := isPlain_of_notMem (by decide)
  rest := "() \x7b yield 1; \x7d".toList
  apart := by decide
  plain := isPlain_of_notMem (by decide)

/-- The name of a shape. -/
def shape : Name := ⟨"Shape".toList, by decide, isPlain_of_notMem (by decide)⟩

/-- A list with a type, a name that is renamed, and a comma at its end. -/
def shapes : Listing where
  gap := blank.toBlanks
  slots := [.entry blank.toBlanks (.typeOnly blank shape) ⟨[], Import.isBlank_of_mem_nil⟩,
    .entry blank.toBlanks (.renamed shape blank blank shape (by decide))
      ⟨[], Import.isBlank_of_mem_nil⟩,
    .nothing blank.toBlanks]
  rest := " from './shapes';".toList
  plain := isPlain_of_notMem (by decide)

/-- Both of them, and something that is not exported between them. -/
def assorted : List Item :=
  [.declaration generating, .other "let y;".toList (isPlain_of_notMem (by decide)), .list shapes]

theorem names_unlines_assorted :
    unlines (assorted.map Item.text) =
        ("export async function* area$() \x7b yield 1; \x7d\nlet y;\n" ++
          "export \x7b type Shape, Shape as Shape, \x7d from './shapes';").toList ∧
      Export.names (unlines (assorted.map Item.text)) = ["area$".toList, "Shape".toList] :=
  ⟨by decide +kernel, (names_unlines assorted).trans (by decide +kernel)⟩

/-- A declaration of a name that begins with three letters of ASCII. -/
def accented : Text := "export const ".toList ++ ("caf".toList ++ "é = 1;".toList)

/-- A letter that is not one of ASCII goes on with a name, though no name of ASCII holds it. -/
theorem names_accented :
    (∀ c ∈ "caf".toList, Import.isNameChar c = true) ∧
      (∀ c ∈ "é = 1;".toList.head?, Import.isNameChar c = false) ∧
      IsPlain "caf".toList ∧ IsPlain "é = 1;".toList ∧
      Export.names accented = ["café".toList] ∧ Export.names accented ≠ ["caf".toList] := by
  have hdeclared : mentions ([·]) 0 (segments readDeclared? accented).segments =
      [⟨0, "café".toList⟩] := by decide +kernel
  have hlisted : mentions listedNames 0 (segments readList? accented).segments = [] := by
    decide +kernel
  have hnames : Export.names accented = ["café".toList] := by
    rw [Export.names, allMentions, hdeclared, hlisted, List.merge_right]
    rfl
  refine ⟨by decide, by decide, isPlain_of_notMem (by decide), isPlain_of_notMem (by decide),
    hnames, ?_⟩
  rw [hnames]
  decide

end Export
end DocExamples
