/-
# The name of a documented export

A documentation comment belongs to the declaration behind it, and the exports of the source hold
that declaration as well.  Both readers pass over the same words, but a name is a word to the one
and an identifier to the other:

| declaration behind the comment | comment belongs to | source exports |
| --- | --- | --- |
| `export const area` | `area` | `area` |
| `export const area$` | `area` | `area$` |
| `export const $area` | nothing | `$area` |
| `export const enum $area` | `enum` | `$area` |

So the two agree on names without dollar signs, and on no others.

No declaration is read across a slash, which stands in no keyword and in no name.  So the search
for declarations begins anew behind a comment, whatever the comment says.
-/

import DocExamples.Proofs.Ambient
import DocExamples.Proofs.Mentions
import DocExamples.Proofs.Provenance
import Mathlib.Data.List.TakeWhile

namespace DocExamples

namespace Declaration
open Text
open Import (Blanks Space modifier)

/-! ### Modifiers before a keyword -/

variable {s : Text}

theorem isIdentifierPart_of_mem_modifier :
    ∀ m ∈ modifiers, ∀ c ∈ m, isIdentifierPart c = true := by decide

/-- A modifier is passed over with the blanks behind it. -/
theorem withoutModifiers_word {m : Text} (hm : m ∈ modifiers) (w : Space)
    (hs : ∀ c ∈ s.head?, isBlank c = false) :
    withoutModifiers (m ++ (w.text ++ s)) = withoutModifiers s := by
  have hafter : afterModifier? (m ++ (w.text ++ s)) = some s := by
    refine findSome?_eq_some_of_unique hm (spaced?_append w.ne_nil w.blank hs) fun k hk hne => ?_
    exact spaced?_eq_none (isIdentifierPart_of_mem_modifier k hk)
      (isIdentifierPart_of_mem_modifier m hm) hne (Export.stops_space w s)
  rw [withoutModifiers_eq, hafter, Option.map_some, Option.getD_some]

theorem withoutModifiers_modifier {m : Text} (hm : m ∈ modifiers) (w : Option Space)
    (hs : ∀ c ∈ s.head?, isBlank c = false) :
    withoutModifiers (modifier m w ++ s) = withoutModifiers s := by
  cases w with
  | none => rfl
  | some w =>
    rw [modifier, Option.elim_some, List.append_assoc]
    exact withoutModifiers_word hm w hs

/-- A keyword begins with a word that ends there. -/
theorem Keyword.exists_word (k : Keyword) (s : Text) : ∃ word ∈ keywords, ∃ t,
    k.text ++ s = word ++ t ∧ Export.Stops t := by
  cases k with
  | word k space =>
    exact ⟨k.text, k.mem, space.text ++ s, List.append_assoc .., Export.stops_space space s⟩
  | constEnum between behind =>
    exact ⟨"const".toList, by decide, _, pair_append .., Export.stops_space between _⟩
  | generator before behind =>
    exact ⟨"function".toList, by decide, _, starred_append ..,
      before.isIdentifierPart_head fun c hc => Option.some.inj hc ▸ by decide⟩

theorem withoutModifiers_keyword (k : Keyword) (s : Text) :
    withoutModifiers (k.text ++ s) = k.text ++ s := by
  obtain ⟨word, hword, t, htext, ht⟩ := k.exists_word s
  have hother : ∀ word ∈ keywords, ∀ m ∈ modifiers, word ≠ m := by decide
  have hnone : afterModifier? (word ++ t) = none :=
    List.findSome?_eq_none_iff.2 fun m hm => spaced?_eq_none (isIdentifierPart_of_mem_modifier m hm)
      (isIdentifierPart_of_mem_keyword word hword) (hother word hword m hm) ht
  rw [withoutModifiers_eq, htext, hnone, Option.map_none, Option.getD_none]

/-! ### Keywords before something that is no word -/

/-- The word of a keyword that is taken for a name where no word follows the keyword. -/
def Keyword.spare? : Keyword → Option Text
  | .constEnum _ _ => some "enum".toList
  | .word _ _ | .generator _ _ => none

/-- No word is read behind a star, nor behind a keyword of one word. -/
theorem value_named?_spare (k : Keyword) (hs : ∀ c ∈ s.head?, isBlank c = false ∧ c ≠ '*')
    (henum : k.isConst = true → spaced? "enum".toList s = none) (hword : word? s = none) :
    (named? word? (k.text ++ s)).map (·.value) = k.spare? := by
  have hblank : ∀ c ∈ s.head?, isBlank c = false := fun c hc => (hs c hc).1
  cases k with
  | word k space =>
    have hfind : (keywords.findSome? fun word =>
        (spaced? word (k.text ++ (space.text ++ s))).bind word?) = none := by
      refine List.findSome?_eq_none_iff.2 fun word hmem => ?_
      by_cases hk : k.text = word
      · rw [← hk, spaced?_append space.ne_nil space.blank hblank, Option.bind_some, hword]
      · rw [spaced?_other hmem k.mem hk, Option.bind_none]
    have hconst : (afterConstEnum? (k.text ++ (space.text ++ s))).bind word? = none :=
      bind_afterConstEnum?_word k space hblank fun hk => by rw [henum hk, Option.bind_none]
    rw [Keyword.text, List.append_assoc, named?, hconst, afterGenerator?_word k.mem space hs, hfind]
    rfl
  | constEnum between behind =>
    have hgenerator : afterGenerator? ((Keyword.constEnum between behind).text ++ s) = none := rfl
    have hread : word? ("enum".toList ++ (behind.text ++ s)) =
        some ⟨"enum".toList, behind.text ++ s⟩ := by
      have hall : ∀ c ∈ "enum".toList, isWord c = true := by decide
      have hstop : ∀ c ∈ (behind.text ++ s).head?, isWord c = false := fun c hc => by
        rw [List.head?_append_of_ne_nil _ behind.ne_nil] at hc
        exact isWord_of_isBlank (behind.blank c (List.mem_of_mem_head? hc))
      rw [word?, takeWhile_run hall hstop, dropWhile_run hall hstop]
      rfl
    have hfind : (keywords.findSome? fun word =>
        (spaced? word ((Keyword.constEnum between behind).text ++ s)).bind word?) =
          some ⟨"enum".toList, behind.text ++ s⟩ := by
      have hconst : "const".toList ∈ keywords := by decide
      have hblanks : ∀ c ∈ ("enum".toList ++ (behind.text ++ s)).head?, isBlank c = false :=
        fun c hc => Option.some.inj hc ▸ by decide
      rw [Keyword.text, pair_append]
      refine findSome?_eq_some_of_unique hconst ?_ fun word hmem hne => ?_
      · rw [spaced?_append between.ne_nil between.blank hblanks, Option.bind_some, hread]
      · rw [spaced?_other hmem hconst hne, Option.bind_none]
    rw [named?, afterConstEnum?_constEnum between behind hblank, Option.bind_some, hword,
      hgenerator, hfind]
    rfl
  | generator before behind =>
    have hconst : afterConstEnum? ((Keyword.generator before behind).text ++ s) = none := rfl
    have hstar : ∀ c ∈ ('*' :: (behind.text ++ s)).head?, isBlank c = false ∧
        isIdentifierPart c = false := fun c hc => Option.some.inj hc ▸ by decide
    have hfind : (keywords.findSome? fun word =>
        (spaced? word ((Keyword.generator before behind).text ++ s)).bind word?) = none := by
      refine List.findSome?_eq_none_iff.2 fun word hmem => ?_
      rw [Keyword.text, starred_append]
      by_cases hfunction : "function".toList = word
      · by_cases hbefore : before.text = []
        · rw [← hfunction, hbefore, List.nil_append, spaced?, after?_append]
          rfl
        · rw [← hfunction, spaced?_append hbefore before.blank fun c hc => (hstar c hc).1,
            Option.bind_some]
          rfl
      · rw [spaced?_eq_none (isIdentifierPart_of_mem_keyword word hmem)
          (List.all_eq_true.1 (by decide)) hfunction
          (before.isIdentifierPart_head fun c hc => (hstar c hc).2), Option.bind_none]
    rw [named?, hconst, afterGenerator?_generator before behind hblank, Option.bind_some, hword,
      hfind]
    rfl

end Declaration

namespace Export
open Text
open Import (Blanks Space modifier)
open Declaration (Keyword)

/-! ### What a comment takes for the name -/

/-- The first word of the name of a declaration; if the name does not begin with a word, that of
its keyword that is taken for one. -/
def Announced.firstWord? (a : Announced) : Option Text :=
  if a.name.takeWhile isWord = [] then a.keyword.spare? else some (a.name.takeWhile isWord)

variable {s : Text}

theorem isWord_head (hs : Stops s) : ∀ c ∈ s.head?, isWord c = false := fun c hc =>
  (Bool.or_eq_false_iff.1 (hs c hc)).1

theorem takeWhile_isWord_append (hs : Stops s) (n : Text) :
    (n ++ s).takeWhile isWord = n.takeWhile isWord := by
  cases s with
  | nil => rw [List.append_nil]
  | cons c s => exact takeWhile_append_stop (isWord_head hs c rfl) n s

/-- Behind a keyword, the first word is read. -/
theorem Announced.value_named?_word (a : Announced) (hs : Stops s) :
    (Declaration.named? word? (a.keyword.text ++ (a.name ++ s))).map (·.value) = a.firstWord? := by
  rw [Announced.firstWord?]
  split
  · next hnone =>
    refine Declaration.value_named?_spare a.keyword a.head_name (a.spaced?_enum hs) ?_
    rw [word?, takeWhile_isWord_append hs, hnone]
    rfl
  · next hsome =>
    have hread : word? (a.name ++ s) =
        some ⟨a.name.takeWhile isWord, (a.name ++ s).dropWhile isWord⟩ := by
      rw [word?, takeWhile_isWord_append hs, if_neg fun he => hsome (List.isEmpty_iff.1 he)]
    have henum (hconst : a.keyword.isConst = true) :
        (spaced? "enum".toList (a.name ++ s)).bind word? = none := by
      rw [a.spaced?_enum hs hconst, Option.bind_none]
    rw [Declaration.named?_keyword a.keyword a.head_name henum hread, Option.map_some]

/-- **The owner of a comment is the first word** of the declaration behind it. -/
theorem Announced.declared?_head (a : Announced) (gap : Blanks) (hs : Stops s) :
    Declaration.declared? (gap.text ++ ((word ++ a.head) ++ s)) = a.firstWord? := by
  let named := a.keyword.text ++ (a.name ++ s)
  let afterAbstract := modifier "async".toList a.asynchronous ++ named
  let afterDeclare := modifier "abstract".toList a.abstracted ++ afterAbstract
  let afterSpace := modifier "declare".toList a.declared ++ afterDeclare
  have hheads : ∀ c ∈ 'a' :: 'd' :: Declaration.heads, isBlank c = false := by decide
  have hnamed : ∀ c ∈ named.head?, isBlank c = false := fun c hc =>
    hheads c (List.mem_cons_of_mem _ (List.mem_cons_of_mem _ (a.keyword.head_text _ c hc)))
  have hafterAbstract : ∀ c ∈ afterAbstract.head?, isBlank c = false := fun c hc =>
    (head_modifier rfl a.asynchronous c hc).elim (fun h => h ▸ by decide) (hnamed c)
  have hafterDeclare : ∀ c ∈ afterDeclare.head?, isBlank c = false := fun c hc =>
    (head_modifier rfl a.abstracted c hc).elim (fun h => h ▸ by decide) (hafterAbstract c)
  have hafterSpace : ∀ c ∈ afterSpace.head?, isBlank c = false := fun c hc =>
    hheads c (a.head_words c hc)
  have htext : (word ++ a.head) ++ s = word ++ (a.space.text ++ afterSpace) := by
    simp only [Announced.head, List.append_assoc, afterSpace, afterDeclare, afterAbstract, named]
  have hstrip : stripLeft (gap.text ++ (word ++ (a.space.text ++ afterSpace))) =
      word ++ (a.space.text ++ afterSpace) := by
    rw [stripLeft_append gap.blank]
    exact stripLeft_eq_self fun c hc => Option.some.inj hc ▸ by decide
  rw [htext, Declaration.declared?, hstrip,
    Declaration.withoutModifiers_word (by decide) a.space hafterSpace,
    Declaration.withoutModifiers_modifier (by decide) a.declared hafterDeclare,
    Declaration.withoutModifiers_modifier (by decide) a.abstracted hafterAbstract,
    Declaration.withoutModifiers_modifier (by decide) a.asynchronous hnamed,
    Declaration.withoutModifiers_keyword, a.value_named?_word hs]

/-- An identifier is a word exactly if no dollar sign stands in it. -/
theorem Announced.firstWord?_eq_some_iff (a : Announced) :
    a.firstWord? = some a.name ↔ '$' ∉ a.name := by
  have hdollar : isWord '$' = false := by decide
  have hself : a.name.takeWhile isWord = a.name ↔ '$' ∉ a.name := by
    refine List.takeWhile_eq_self_iff.trans
      ⟨fun h hmem => Bool.false_ne_true (hdollar.symm.trans (h '$' hmem)), fun hno c hc => ?_⟩
    have hpart := isIdentifierPart_of_mem a.isIdentifier c hc
    rw [isIdentifierPart, Bool.or_eq_true, beq_iff_eq] at hpart
    exact hpart.resolve_right fun he => hno (he ▸ hc)
  rw [Announced.firstWord?]
  split
  · next hnone =>
    refine iff_of_false (fun hspare => ?_) fun hno => ?_
    · have hname : a.name = "enum".toList := by
        cases hk : a.keyword with
        | constEnum between behind =>
          rw [hk] at hspare
          exact (Option.some.inj hspare).symm
        | word k space =>
          rw [hk] at hspare
          cases hspare
        | generator before behind =>
          rw [hk] at hspare
          cases hspare
      rw [hname] at hnone
      exact absurd hnone (by decide)
    · exact ne_nil_of_isIdentifier a.isIdentifier ((hself.2 hno).symm.trans hnone)
  · exact (Option.some_inj).trans hself

/-- A name that is taken for no word does not begin with one. -/
theorem Announced.takeWhile_name_eq_nil {a : Announced} (h : a.firstWord? = none) :
    a.name.takeWhile isWord = [] := by
  rw [Announced.firstWord?] at h
  split at h
  · assumption
  · exact nomatch h

/-! ### The search begins anew -/

variable {α : Type} {read : Option Char → Text → Option (Reading α)} {told : α → List Text}

/-- A search passes over a character, or takes what is read there. -/
theorem found_cons (told : α → List Text) (p : Place) (c : Char) (t : Text) :
    found read told p (c :: t) = found read told ⟨some c, p.offset, c :: p.skipped⟩ t ∨
      ∃ r before ms, read p.before (c :: t) = some r ∧ r.rest.length < (c :: t).length ∧
        found read told p (c :: t) = ms ++
          found read told ⟨before, p.position + ((c :: t).length - r.rest.length), []⟩ r.rest := by
  rw [found, segmentsFrom]
  split
  · next r hr =>
    split
    · next hlt =>
      refine .inr ⟨r, ((c :: t).take ((c :: t).length - r.rest.length)).getLast?,
        (told r.value).map (⟨p.position, ·⟩), hr, hlt, ?_⟩
      rw [mentions, List.length_reverse, List.length_take, Nat.min_eq_left (Nat.sub_le _ _), found,
        Place.position]
    · exact .inl rfl
  · exact .inl rfl

/-- **Behind a character that no reading goes across, a search begins anew**, whatever stands
before it. -/
theorem exists_found_behind {b : Char}
    (hread : ∀ before, StopsAt b fun s => (read before s).map (·.rest)) (told : α → List Text)
    (front follow : Text) (p : Place) : ∃ ms, ∃ q : Place, q.before = some b ∧
      q.position = p.position + front.length + 1 ∧
      found read told p (front ++ b :: follow) = ms ++ found read told q follow := by
  induction hn : front.length using Nat.strongRecOn generalizing front p with
  | ind n ih =>
    -- What is read somewhere leaves the character and all that follows it.
    have hleft {a : Text} {before : Option Char} {r : Reading α}
        (hr : read before (a ++ b :: follow) = some r) : ∃ a', r.rest = a' ++ b :: follow := by
      have hrest : (read before (a ++ b :: follow)).map (·.rest) = some r.rest := by
        rw [hr]
        rfl
      rcases hread before a with h | ⟨a', h⟩
      · exact nomatch hrest.symm.trans (h follow)
      · exact ⟨a', Option.some.inj (hrest.symm.trans (h follow))⟩
    cases front with
    | nil =>
      rcases found_cons told p b follow with h | ⟨r, before, ms, hr, hlt, h⟩
      · refine ⟨[], ⟨some b, p.offset, b :: p.skipped⟩, rfl, ?_, h⟩
        simp only [Place.position, List.length_cons, List.length_nil] at hn ⊢
        omega
      · obtain ⟨a', ha'⟩ := hleft (a := []) hr
        rw [ha', List.length_append] at hlt
        omega
    | cons c front =>
      rcases found_cons told p c (front ++ b :: follow) with h | ⟨r, before, ms, hr, hlt, h⟩
      · obtain ⟨ms, q, hbefore, hq, hfound⟩ := ih front.length (hn ▸ Nat.lt_succ_self _) front
          ⟨some c, p.offset, c :: p.skipped⟩ rfl
        refine ⟨ms, q, hbefore, ?_, h.trans hfound⟩
        simp only [Place.position, List.length_cons] at hq hn ⊢
        omega
      · obtain ⟨a', ha'⟩ := hleft (a := c :: front) hr
        rw [ha'] at hlt h
        have hlength : a'.length < (c :: front).length := by
          simp only [List.length_cons, List.length_append] at hlt ⊢
          omega
        obtain ⟨ms', q, hbefore, hq, hfound⟩ := ih a'.length (hn ▸ hlength) a'
          ⟨before, p.position + ((c :: (front ++ b :: follow)).length - (a' ++ b :: follow).length),
            []⟩ rfl
        refine ⟨ms ++ ms', q, hbefore, ?_, by rw [List.cons_append, h, hfound, List.append_assoc]⟩
        simp only [Place.position, List.length_cons, List.length_append, List.length_nil] at hq hn ⊢
        simp only [List.length_cons] at hlength
        omega

/-- A declaration is not read across a slash. -/
theorem stopsAt_readDeclared? (before : Option Char) :
    StopsAt '/' fun s => (readDeclared? before s).map (·.rest) := by
  have hoptional {w : Text} (hw : w.all isIdentifierPart = true) :
      StopsAt '/' fun s => some (optional w s) := by
    have hself : StopsAt '/' some := fun a => .inr ⟨a, fun _ => rfl⟩
    have h := (Declaration.stopsAt_word (by decide) (by decide) hw).or hself
    simpa only [optional, Option.or_some] using h
  have hname := Declaration.stopsAt_named? (b := '/') (by decide) (by decide) (by decide)
    (stopsAt_identifier? (by decide) (by decide))
  have hwords := (hoptional (w := "declare".toList) (by decide)).bind
    ((hoptional (w := "abstract".toList) (by decide)).bind
      ((hoptional (w := "async".toList) (by decide)).bind hname))
  have hword : StopsAt '/' (spaced? "export".toList) :=
    Declaration.stopsAt_word (by decide) (by decide) (by decide)
  have hexport := hword.bind hwords
  cases hbefore : atWordStart before with
  | false => exact fun a => .inl fun t => by simp only [readDeclared?, hbefore]; rfl
  | true =>
    simp only [readDeclared?, hbefore, if_true, Option.bind_eq_bind, Option.map_bind]
    exact hexport

/-- **A declaration behind a slash is exported**, at the offset of its word `export`. -/
theorem mem_allMentions_of_slash (a : Announced) (front : Text) (gap : Blanks) (hs : Stops s) :
    ⟨(front ++ '/' :: gap.text).length, a.name⟩ ∈
      allMentions (front ++ '/' :: (gap.text ++ ((word ++ a.head) ++ s))) := by
  let behind := gap.text ++ ((word ++ a.head) ++ s)
  obtain ⟨ms, q, hbefore, hq, hfound⟩ :=
    exists_found_behind stopsAt_readDeclared? ([·]) front behind ⟨none, 0, []⟩
  have hfree : FreeOf word gap.text ((word ++ a.head) ++ s) :=
    freeOf_of_notMem 'e' rfl (notMem_of_isBlank gap.blank)
  have hstart : atWordStart (q.behind gap.text).before = true := by
    rw [Place.behind, hbefore]
    cases hlast : gap.text.getLast? with
    | none => rfl
    | some c =>
      rw [Option.some_or, atWordStart, Option.any_some,
        isWord_of_isBlank (gap.blank c (List.mem_of_getLast? hlast))]
      rfl
  have hread : readDeclared? (q.behind gap.text).before ((word ++ a.head) ++ s) =
      some ⟨a.name, s⟩ := readDeclared?_head a hstart hs
  have hposition : (q.behind gap.text).position = (front ++ '/' :: gap.text).length := by
    rw [Place.position_behind, hq]
    simp only [Place.position, List.length_nil, List.length_append, List.length_cons]
    omega
  have hmem : ⟨(front ++ '/' :: gap.text).length, a.name⟩ ∈
      mentions ([·]) 0 (segments readDeclared? (front ++ '/' :: behind)).segments := by
    have hall : mentions ([·]) 0 (segments readDeclared? (front ++ '/' :: behind)).segments =
        ms ++ found readDeclared? ([·]) q behind := hfound
    have hne : word ++ a.head ≠ [] := List.append_ne_nil_of_left_ne_nil (by decide) _
    rw [hall, found_of_freeOf _ needsMark_readDeclared? hfree, found_of_read hread hne, hposition]
    exact List.mem_append_right _ (List.mem_append_left _ List.mem_cons_self)
  exact List.mem_merge.2 (.inl hmem)

end Export

namespace Comment
open Text Export
open Import (Blanks)

/-- **A comment and the exports name a declaration alike exactly if its name holds no dollar
sign.**  Whatever modifiers and keyword an exported declaration has, the comment directly before
it belongs to the first word of the name; to the word `enum` behind `const enum`, and to nothing
behind other keywords, if the name begins with a dollar sign.  The source always exports the whole
name, at the offset of the declaration. -/
theorem owner_of_announced {source before behind : Text} {c : Comment}
    (hoccurs : Occurs source c before behind) (gap : Blanks) (a : Announced) {rest : Text}
    (hbehind : behind = gap.text ++ ((word ++ a.head) ++ rest)) (hrest : Stops rest) :
    c.owner = a.firstWord?.getD (anonymous c.line) ∧ (c.owner = a.name ↔ '$' ∉ a.name) ∧
      ⟨(before ++ (opening ++ (c.body ++ (closing ++ gap.text)))).length, a.name⟩ ∈
        Export.allMentions source ∧ a.name ∈ Export.names source := by
  obtain ⟨htext, -⟩ := hoccurs.text_line
  have howner : c.owner = a.firstWord?.getD (anonymous c.line) := by
    rw [hoccurs.owner, hbehind, a.declared?_head gap hrest]
  have hmention : ⟨(before ++ (opening ++ (c.body ++ (closing ++ gap.text)))).length, a.name⟩ ∈
      Export.allMentions source := by
    have hslash (t : Text) : before ++ (opening ++ (c.body ++ (closing ++ t))) =
        (before ++ (opening ++ (c.body ++ ['*']))) ++ '/' :: t := by
      simp [closing]
    rw [htext, hbehind, hslash, hslash]
    exact mem_allMentions_of_slash a _ gap hrest
  refine ⟨howner, ?_, hmention, List.mem_eraseDups.2 (List.mem_map.2 ⟨_, hmention, rfl⟩)⟩
  rw [howner, ← a.firstWord?_eq_some_iff]
  cases hword : a.firstWord? with
  | some w => simp
  | none =>
    refine iff_of_false (fun h => ?_) nofun
    have hnone := a.takeWhile_name_eq_nil hword
    rw [← h] at hnone
    exact List.cons_ne_nil _ _ hnone

/-- A constant whose name begins with a dollar sign. -/
def dollared : Announced where
  space := Program.single
  declared := none
  abstracted := none
  asynchronous := none
  keyword := .word ⟨"const".toList, by decide⟩ Program.single
  name := "$x".toList
  isIdentifier := by decide
  ne_enum := fun _ => by decide

/-- That constant behind a line feed, with a value. -/
def dollaredText : Text := "\nexport const $x = 1;".toList

/-- A documentation comment in front of it. -/
def dollaredComment : Comment := ⟨" Doc ".toList, 1, "anonymous_1".toList⟩

theorem cuts_dollared : Cuts ("/** Doc */".toList ++ dollaredText)
    ⟨[⟨[], " Doc ".toList⟩], dollaredText⟩ where
  text := rfl
  leftmost p hp := by
    rw [List.mem_singleton.1 hp]
    have hfree : FreeOf opening [] (opening ++ []) := trivial
    exact freeOf_iff_endsAtFirst.1 hfree
  shortest p hp := by
    rw [List.mem_singleton.1 hp]
    have hfree : FreeOf closing " Doc ".toList (closing ++ []) :=
      freeOf_of_notMem '*' rfl (by decide)
    exact freeOf_iff_endsAtFirst.1 hfree
  unclosed a b h := by
    have htail : dollaredText = a ++ (opening ++ b) := h
    have hslash : '/' ∈ dollaredText := htail ▸ List.mem_append_right a List.mem_cons_self
    exact absurd hslash (by decide)

theorem owner_of_announced_dollared :
    Occurs ("/** Doc */".toList ++ dollaredText) dollaredComment [] dollaredText ∧
      dollaredText = ['\n'] ++ ((word ++ dollared.head) ++ " = 1;".toList) ∧
      Stops " = 1;".toList ∧ '$' ∈ dollared.name ∧ dollaredComment.owner ≠ "$x".toList ∧
      ⟨11, "$x".toList⟩ ∈ Export.allMentions ("/** Doc */".toList ++ dollaredText) ∧
      "$x".toList ∈ Export.names ("/** Doc */".toList ++ dollaredText) := by
  have hoccurs : Occurs ("/** Doc */".toList ++ dollaredText) dollaredComment [] dollaredText :=
    ⟨_, [], ⟨[], " Doc ".toList⟩, [], cuts_dollared, rfl, by decide +kernel, rfl, rfl⟩
  have htext : dollaredText = ['\n'] ++ ((word ++ dollared.head) ++ " = 1;".toList) := by
    decide +kernel
  have hstops : Stops " = 1;".toList := stops_cons (by decide) _
  have hdollar : '$' ∈ dollared.name := by decide
  obtain ⟨-, hiff, hmention, hname⟩ := owner_of_announced hoccurs
    ⟨['\n'], List.all_eq_true.1 (by decide)⟩ dollared htext hstops
  exact ⟨hoccurs, htext, hstops, hdollar, fun h => hiff.1 h hdollar, hmention, hname⟩

end Comment
end DocExamples
