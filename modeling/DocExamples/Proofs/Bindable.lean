/-
# Exports that can be bound

The exports that an example does not bind itself are bound in one line of its program:

    const { a, b } = __testdoc_module;

That takes identifiers, each once, and no reserved name.  A list of exports leaves reserved names
out.  A declaration is read wherever its words stand, in prose as well, and its name is taken as
it is: `export class default` makes `default` an export, and the line binds it unless the example
does.
-/

import DocExamples.Proofs.Mentions
import DocExamples.Proofs.Scope

namespace DocExamples

namespace Text

/-! ### Names between commas -/

/-- Texts with a comma and a space between each two are the pieces between the commas, each but
the first behind its space. -/
theorem pieces_joined_spaced {n : Text} {ns : List Text} (h : ∀ m ∈ n :: ns, ',' ∉ m) :
    pieces ',' (joined ", ".toList (n :: ns)) = n :: ns.map (' ' :: ·) := by
  have hspaced : joined ", ".toList (n :: ns) = joined [','] (n :: ns.map (' ' :: ·)) := by
    rw [joined_cons, joined_cons, List.flatMap_map]
    rfl
  obtain ⟨hn, hns⟩ := List.forall_mem_cons.1 h
  rw [hspaced]
  refine pieces_joined (List.cons_ne_nil _ _) (List.forall_mem_cons.2 ⟨hn, fun m hm => ?_⟩)
  obtain ⟨k, hk, rfl⟩ := List.mem_map.1 hm
  exact List.not_mem_cons_of_ne_of_not_mem (by decide) (hns k hk)

/-- Names can be read off a line that has commas between them. -/
theorem eq_of_joined_eq {ns ms : List Text} (hns : ns ≠ []) (hms : ms ≠ [])
    (hn : ∀ n ∈ ns, ',' ∉ n) (hm : ∀ m ∈ ms, ',' ∉ m)
    (h : joined ", ".toList ns = joined ", ".toList ms) : ns = ms := by
  obtain ⟨n, ns, rfl⟩ := List.exists_cons_of_ne_nil hns
  obtain ⟨m, ms, rfl⟩ := List.exists_cons_of_ne_nil hms
  have hpieces := congrArg (pieces ',') h
  rw [pieces_joined_spaced hn, pieces_joined_spaced hm, List.cons.injEq] at hpieces
  have hinjective : Function.Injective (' ' :: · : Text → Text) :=
    fun a b hab => (List.cons.inj hab).2
  rw [hpieces.1, List.map_injective_iff.2 hinjective hpieces.2]

/-! ### What is read -/

/-- What a search finds is what its reader makes of some text. -/
theorem value_of_mem_segmentsFrom {α : Type} {read : Option Char → Text → Option (Reading α)}
    {P : α → Prop} (hread : ∀ before s r, read before s = some r → P r.value)
    {before : Option Char} {skipped s : Text} {p : Segment α}
    (hp : p ∈ (segmentsFrom read before skipped s).segments) : P p.value := by
  fun_induction segmentsFrom read before skipped s with
  | case1 => exact absurd hp List.not_mem_nil
  | case2 before skipped c t r hr hlt taken more ih =>
    rcases List.mem_cons.1 hp with rfl | hp
    · exact hread _ _ _ hr
    · exact ih hp
  | case3 before skipped c t r hr hlt ih => exact ih hp
  | case4 before skipped c t hr ih => exact ih hp

theorem isIdentifier_of_identifier? {s : Text} {r : Reading Text} (h : identifier? s = some r) :
    isIdentifier r.value = true := by
  cases s with
  | nil => cases h
  | cons c s =>
    by_cases hc : isIdentifierStart c
    · rw [identifier?, if_pos hc] at h
      obtain rfl := Option.some.inj h
      rw [isIdentifier, Bool.and_eq_true]
      exact ⟨hc, List.all_takeWhile⟩
    · rw [identifier?, if_neg hc] at h
      cases h

end Text

namespace Declaration
open Text

/-- What stands behind a keyword is what the reader of names makes of some text. -/
theorem exists_of_named? {name : Text → Option (Reading Text)} {s : Text} {r : Reading Text}
    (h : named? name s = some r) : ∃ t, name t = some r := by
  have hbind {o : Option Text} (h : o.bind name = some r) : ∃ t, name t = some r := by
    obtain ⟨t, -, ht⟩ := Option.bind_eq_some_iff.1 h
    exact ⟨t, ht⟩
  simp only [named?, Option.orElse_eq_orElse, Option.orElse_eq_or, Option.or_eq_some_iff] at h
  rcases h with h | ⟨-, h | ⟨-, h⟩⟩
  · exact hbind h
  · exact hbind h
  · obtain ⟨k, -, hk⟩ := List.exists_of_findSome?_eq_some h
    exact hbind hk

end Declaration

namespace Export
open Text

/-- A declared name is an identifier. -/
theorem isIdentifier_of_readDeclared? {before : Option Char} {s : Text} {r : Reading Text}
    (h : readDeclared? before s = some r) : isIdentifier r.value = true := by
  rw [readDeclared?] at h
  split at h
  · obtain ⟨t, -, ht⟩ := Option.bind_eq_some_iff.1 h
    obtain ⟨u, hu⟩ := Declaration.exists_of_named? ht
    exact isIdentifier_of_identifier? hu
  · cases h

/-- A listed name is an identifier that is not reserved. -/
theorem isIdentifier_of_mem_listedNames {body n : Text} (h : n ∈ listedNames body) :
    isIdentifier n = true ∧ n ∉ reserved := by
  obtain ⟨entry, -, hentry⟩ := List.mem_filterMap.1 h
  unfold entryName? at hentry
  simp only at hentry
  split at hentry
  · exact nomatch hentry
  · split at hentry
    · next hname =>
      obtain rfl := Option.some.inj hentry
      rw [Bool.and_eq_true, Bool.not_eq_true', List.contains_eq_mem,
        decide_eq_false_iff_not] at hname
      exact hname
    · exact nomatch hentry

/-- The names that a source declares behind the word `export`, as often as it does. -/
def declaredNames (source : Text) : List Text := (segments readDeclared? source).values

theorem map_name_mentions {α : Type} (told : α → List Text) (offset : Nat) (ps : List (Segment α)) :
    (mentions told offset ps).map (·.name) = ps.flatMap fun p => told p.value := by
  induction ps generalizing offset with
  | nil => rfl
  | cons p ps ih =>
    rw [mentions, List.map_append, ih, List.map_map, List.flatMap_cons]
    congr 1
    exact List.map_id _

/-- **A source exports what it declares and what it lists.** -/
theorem mem_names {source n : Text} : n ∈ names source ↔ n ∈ declaredNames source ∨
    ∃ p ∈ (segments readList? source).segments, n ∈ listedNames p.value := by
  have htold {α : Type} (told : α → List Text) (ps : List (Segment α)) :
      (∃ m ∈ mentions told 0 ps, m.name = n) ↔ ∃ p ∈ ps, n ∈ told p.value := by
    rw [← List.mem_map, map_name_mentions, List.mem_flatMap]
  have hdeclared : (∃ p ∈ (segments readDeclared? source).segments, n ∈ [p.value]) ↔
      n ∈ declaredNames source := by
    simp only [List.mem_singleton, eq_comm (a := n), declaredNames, Segmentation.values,
      List.mem_map]
  rw [names, List.mem_eraseDups, List.mem_map, allMentions]
  simp only [List.mem_merge, or_and_right, exists_or, htold, hdeclared]

theorem isIdentifier_of_mem_names {source n : Text} (h : n ∈ names source) :
    isIdentifier n = true := by
  rcases mem_names.1 h with h | ⟨p, -, h⟩
  · obtain ⟨p, hp, rfl⟩ := List.mem_map.1 h
    exact value_of_mem_segmentsFrom (P := (isIdentifier · = true))
      (fun _ _ _ => isIdentifier_of_readDeclared?) hp
  · exact (isIdentifier_of_mem_listedNames h).1

/-- A reserved name is exported exactly if it is declared. -/
theorem mem_names_of_reserved {source n : Text} (hn : n ∈ reserved) :
    n ∈ names source ↔ n ∈ declaredNames source :=
  mem_names.trans (or_iff_left fun ⟨_, _, h⟩ => (isIdentifier_of_mem_listedNames h).2 hn)

end Export

namespace Program
open Text Export

/-- A line that binds exports of the module: some, each once, under names that can be bound. -/
structure Binds (ns : List Text) (line : Text) : Prop where
  /-- The line as it is written. -/
  text : line = "const \x7b ".toList ++ joined ", ".toList ns ++ " \x7d = ".toList ++
    moduleAlias ++ ";".toList
  /-- There are some. -/
  ne_nil : ns ≠ []
  /-- Each stands there once. -/
  nodup : ns.Nodup
  /-- They are identifiers. -/
  isIdentifier : ∀ n ∈ ns, isIdentifier n = true
  /-- None is reserved. -/
  free : ∀ n ∈ ns, n ∉ reserved

theorem comma_notMem {ns : List Text} (h : ∀ n ∈ ns, isIdentifier n = true) : ∀ n ∈ ns, ',' ∉ n :=
  fun n hn => notMem_identifier (h n hn) (by decide)

/-- The line of some exports binds names that can be bound exactly if none of them is reserved:
which names it binds can be read off it. -/
theorem exists_binds_iff {ns : List Text} (hne : ns ≠ []) (hnodup : ns.Nodup)
    (hidentifier : ∀ n ∈ ns, isIdentifier n = true) :
    (∀ line ∈ bindings ns, line = [] ∨ ∃ ms, Binds ms line) ↔ ∀ n ∈ ns, n ∉ reserved := by
  have hbindings : bindings ns = [[], "const \x7b ".toList ++ joined ", ".toList ns ++
      " \x7d = ".toList ++ moduleAlias ++ ";".toList] := by
    rw [bindings, List.isEmpty_eq_false_iff.2 hne, if_neg Bool.false_ne_true]
  rw [hbindings]
  constructor
  · intro h
    obtain hnil | ⟨ms, hms⟩ := h _ (List.mem_cons_of_mem _ List.mem_cons_self)
    · exact nomatch hnil
    have htext := hms.text
    simp only [List.append_assoc] at htext
    have hjoined := List.append_cancel_right (List.append_cancel_left htext)
    rw [eq_of_joined_eq hne hms.ne_nil (comma_notMem hidentifier) (comma_notMem hms.isIdentifier)
      hjoined]
    exact hms.free
  · intro hfree line hline
    rcases List.mem_cons.1 hline with rfl | hline
    · exact .inl rfl
    · exact .inr ⟨ns, List.mem_singleton.1 hline, hne, hnodup, hidentifier, hfree⟩

/-- **Which exports can be bound.**  Whatever a source holds, its exports are identifiers and each
stands there once.  A reserved name is among them exactly if it is declared.  So the line that
binds the exports that an example leaves is one that binds names that can be bound, or is not
there, exactly if the example binds every reserved name that the source declares. -/
theorem bindings_ambient_names (source : Text) :
    (∀ n ∈ names source, isIdentifier n = true) ∧ (names source).Nodup ∧
      (∀ n ∈ reserved, n ∈ names source ↔ n ∈ declaredNames source) ∧
      ∀ imports, (∀ line ∈ bindings (ambient imports (names source)),
          line = [] ∨ ∃ ns, Binds ns line) ↔
        ∀ n ∈ reserved, n ∈ declaredNames source → n ∈ imports.flatMap Import.boundNames := by
  refine ⟨fun n => isIdentifier_of_mem_names, nodup_names source,
    fun n hn => mem_names_of_reserved hn, fun imports => ?_⟩
  have hleft : (∀ n ∈ ambient imports (names source), n ∉ reserved) ↔
      ∀ n ∈ reserved, n ∈ declaredNames source → n ∈ imports.flatMap Import.boundNames := by
    constructor
    · intro h n hn hdeclared
      by_contra hbound
      exact h n (mem_ambient.2 ⟨(mem_names_of_reserved hn).2 hdeclared, hbound⟩) hn
    · intro h n hleft hn
      obtain ⟨hnames, hbound⟩ := mem_ambient.1 hleft
      exact hbound (h n hn ((mem_names_of_reserved hn).1 hnames))
  rw [← hleft]
  by_cases hnil : ambient imports (names source) = []
  · rw [hnil]
    exact iff_of_true nofun nofun
  · exact exists_binds_iff hnil (nodup_ambient imports (nodup_names source)) fun n hn =>
      isIdentifier_of_mem_names (mem_ambient.1 hn).1

/-- A module with a remark that reads like an export. -/
def remarked : Text := "// no export class default here\nexport const a = 1;\n".toList

theorem bindings_ambient_names_remarked :
    names remarked = ["default".toList, "a".toList] ∧ "default".toList ∈ reserved ∧
      "default".toList ∈ declaredNames remarked ∧
      bindings (ambient [] (names remarked)) =
        [[], "const \x7b default, a \x7d = __testdoc_module;".toList] ∧
      ¬ ∃ ns, Binds ns "const \x7b default, a \x7d = __testdoc_module;".toList := by
  have hnames : names remarked = ["default".toList, "a".toList] := by
    have hdeclared : mentions ([·]) 0 (segments readDeclared? remarked).segments =
        [⟨6, "default".toList⟩, ⟨32, "a".toList⟩] := by decide +kernel
    have hlisted : mentions listedNames 0 (segments readList? remarked).segments = [] := by
      decide +kernel
    rw [names, allMentions, hdeclared, hlisted, List.merge_right]
    rfl
  have hreserved : "default".toList ∈ reserved := by decide
  obtain ⟨-, -, hdeclared, hbinds⟩ := bindings_ambient_names remarked
  have hmem : "default".toList ∈ names remarked := hnames ▸ List.mem_cons_self
  have hdefault := (hdeclared _ hreserved).1 hmem
  have hline : bindings (ambient [] (names remarked)) =
      [[], "const \x7b default, a \x7d = __testdoc_module;".toList] := by
    rw [hnames]
    rfl
  refine ⟨hnames, hreserved, hdefault, hline, fun h => ?_⟩
  refine absurd ((hbinds []).1 (fun line hmem => ?_) _ hreserved hdefault) List.not_mem_nil
  rw [hline] at hmem
  rcases List.mem_cons.1 hmem with rfl | hmem
  · exact .inl rfl
  · exact .inr (List.mem_singleton.1 hmem ▸ h)

end Program
end DocExamples
