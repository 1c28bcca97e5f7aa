/-
# The names that programs declare

Five parts of a program declare names at its top, where a name may be declared once:

| part | names |
| --- | --- |
| opening | the alias of the documented module |
| imports | what the example imports |
| bindings | the exports that no import is seen to bind |
| assertions | `assert` and `assertEqual` |
| function around the example | its own name |

Only imports and bindings are kept apart, and only as far as the names that imports
bind are seen.  The four fixed names are not kept apart from the others: a module that
exports `assert` makes a program that declares it twice.
-/

import DocExamples.Proofs.Division
import Mathlib.Data.List.Nodup

namespace DocExamples
namespace Export

theorem nodup_eraseDups {α : Type} [BEq α] [LawfulBEq α] (xs : List α) : xs.eraseDups.Nodup := by
  match xs with
  | [] => exact List.nodup_nil
  | x :: xs =>
    rw [List.eraseDups_cons, List.nodup_cons]
    refine ⟨fun h => ?_, nodup_eraseDups _⟩
    have hx := (List.mem_filter.1 (List.mem_eraseDups.1 h)).2
    simp at hx
termination_by xs.length
decreasing_by exact Nat.lt_succ_of_le (List.length_filter_le _ _)

theorem nodup_names (source : Text) : (names source).Nodup := nodup_eraseDups _

end Export

namespace Program

/-- Lines of a program and the names that they declare at its top. -/
structure Part where
  /-- The lines. -/
  lines : List Text
  /-- The names. -/
  names : List Text

/-- The import statements of an example, ready for its program. -/
def importsOf (cwd : Text) (e : Example) : List Text :=
  Import.statements cwd e.origin (Text.lines e.code)

/-- The parts of a program.  What an import statement binds is up to `binds`: the names
that `Import.boundNames` sees in it need not be all. -/
def parts (binds : Text → List Text) (cwd modulePath : Text) (exports : List Text) (e : Example) :
    List Part :=
  let bound := ambient (importsOf cwd e) exports
  let others := (Import.divide (Text.lines e.code)).others
  ⟨opening e modulePath, [moduleAlias]⟩ :: (importsOf cwd e).map (fun s => ⟨[s], binds s⟩) ++
    [⟨bindings bound, bound⟩, ⟨[[], assertions, []], ["assert".toList, "assertEqual".toList]⟩,
      ⟨header :: (others.map indented ++ trailer), [runnerName]⟩]

/-- The names that every program declares. -/
def fixedNames : List Text := [moduleAlias, "assert".toList, "assertEqual".toList, runnerName]

theorem nodup_fixedNames : fixedNames.Nodup := by decide +kernel

theorem nodup_ambient (imports : List Text) {exports : List Text} (h : exports.Nodup) :
    (ambient imports exports).Nodup :=
  h.filter _

theorem mem_ambient {imports exports : List Text} {n : Text} :
    n ∈ ambient imports exports ↔ n ∈ exports ∧ n ∉ imports.flatMap Import.boundNames := by
  simp [ambient]

section Parts

variable (binds : Text → List Text) (cwd modulePath : Text) (exports : List Text) (e : Example)

/-- A program consists of its parts. -/
theorem ofExample_eq_parts :
    ofExample cwd modulePath exports e =
      Text.unlines ((parts binds cwd modulePath exports e).flatMap Part.lines) := by
  have himports (ss : List Text) :
      (ss.map fun s => Part.mk [s] (binds s)).flatMap Part.lines = ss := by
    rw [List.flatMap_map]
    exact List.flatMap_singleton' ss
  rw [ofExample_eq, parts]
  simp only [List.cons_append, List.flatMap_cons, List.flatMap_append, himports, front, importsOf,
    List.flatMap_nil, List.append_assoc, List.nil_append, List.append_nil]

/-- The parts declare the fixed names, what the imports bind, and the bindings. -/
theorem names_parts_perm :
    ((parts binds cwd modulePath exports e).flatMap Part.names).Perm
      (fixedNames ++ ((importsOf cwd e).flatMap binds ++ ambient (importsOf cwd e) exports)) := by
  have hbinds : ((importsOf cwd e).map fun s => Part.mk [s] (binds s)).flatMap Part.names =
      (importsOf cwd e).flatMap binds := by
    rw [List.flatMap_map]
  have hnames : (parts binds cwd modulePath exports e).flatMap Part.names =
      [moduleAlias] ++ (((importsOf cwd e).flatMap binds ++ ambient (importsOf cwd e) exports) ++
        ["assert".toList, "assertEqual".toList, runnerName]) := by
    simp only [parts, List.cons_append, List.flatMap_cons, List.flatMap_append, hbinds,
      List.flatMap_nil, List.append_assoc, List.nil_append, List.append_nil]
  rw [hnames]
  exact List.perm_append_comm.append_left [moduleAlias]

end Parts

/-- Imports and bindings share a name exactly if an import binds an exported name that is
not seen. -/
theorem disjoint_ambient_iff {binds : Text → List Text} {imports exports : List Text} :
    (imports.flatMap binds).Disjoint (ambient imports exports) ↔
      ∀ n ∈ exports, n ∈ imports.flatMap binds → n ∈ imports.flatMap Import.boundNames := by
  constructor
  · intro h n hexport hbound
    by_contra hseen
    exact h hbound (mem_ambient.2 ⟨hexport, hseen⟩)
  · intro h n hbound hambient
    obtain ⟨hexport, hseen⟩ := mem_ambient.1 hambient
    exact hseen (h n hexport hbound)

/-- **A program declares no name twice exactly if** no fixed name is bound by an import or
stands among the bindings, and every exported name that an import binds is seen. -/
theorem nodup_names_parts_iff {binds : Text → List Text} {d : Disk} {e : Example}
    {source program : Text} (h : Synthesis.programWith d (Export.names source) e = .ok program)
    (hbinds : ((importsOf d.cwdText e).flatMap binds).Nodup) :
    ∃ modulePath, program =
        Text.unlines ((parts binds d.cwdText modulePath (Export.names source) e).flatMap Part.lines) ∧
      (((parts binds d.cwdText modulePath (Export.names source) e).flatMap Part.names).Nodup ↔
        (∀ n ∈ fixedNames, n ∉ (importsOf d.cwdText e).flatMap binds ∧
          n ∉ ambient (importsOf d.cwdText e) (Export.names source)) ∧
        ∀ n ∈ Export.names source, n ∈ (importsOf d.cwdText e).flatMap binds →
          n ∈ (importsOf d.cwdText e).flatMap Import.boundNames) := by
  obtain ⟨path, hpath⟩ := Synthesis.exists_of_programWith h
  refine ⟨path, hpath.trans (ofExample_eq_parts ..), ?_⟩
  have hbindings := nodup_ambient (importsOf d.cwdText e) (Export.nodup_names source)
  rw [(names_parts_perm ..).nodup_iff, List.nodup_append', List.nodup_append', disjoint_ambient_iff]
  constructor
  · rintro ⟨-, ⟨-, -, hseen⟩, hfixed⟩
    refine ⟨fun n hn => ⟨fun hbound => ?_, fun hambient => ?_⟩, hseen⟩
    · exact hfixed hn (List.mem_append_left _ hbound)
    · exact hfixed hn (List.mem_append_right _ hambient)
  · rintro ⟨hfixed, hseen⟩
    refine ⟨nodup_fixedNames, ⟨hbinds, hbindings, hseen⟩, fun n hn hother => ?_⟩
    rcases List.mem_append.1 hother with hbound | hambient
    · exact (hfixed n hn).1 hbound
    · exact (hfixed n hn).2 hambient

/-- A module with one export. -/
def exporter : Text := "export const a = 1;".toList

/-- An example that imports this export. -/
def importer : Example :=
  ⟨"m.ts".toList, 1, "f".toList, "import \x7b a \x7d from './m';\nf(a);".toList, none⟩

theorem nodup_names_parts_importer :
    ((importsOf "/".toList importer).flatMap Import.boundNames).Nodup ∧ ∃ program modulePath,
      Synthesis.programWith ⟨[], [], 0o022, {}⟩ (Export.names exporter) importer = .ok program ∧
      program = Text.unlines ((parts Import.boundNames "/".toList modulePath
        (Export.names exporter) importer).flatMap Part.lines) ∧
      ((parts Import.boundNames "/".toList modulePath
        (Export.names exporter) importer).flatMap Part.names).Nodup := by
  have hbound : (importsOf "/".toList importer).flatMap Import.boundNames = ["a".toList] := by
    decide +kernel
  have hexports : Export.names exporter = ["a".toList] := by
    have hdeclared : Export.mentions ([·]) 0
        (Text.segments Export.readDeclared? exporter).segments = [⟨0, "a".toList⟩] := by
      decide +kernel
    have hlisted : Export.mentions Export.listedNames 0
        (Text.segments Export.readList? exporter).segments = [] := by
      decide +kernel
    rw [Export.names, Export.allMentions, hdeclared, hlisted, List.merge_right]
    rfl
  have hfixed : ∀ n ∈ fixedNames, n ∉ ["a".toList] := by decide +kernel
  have hprogram : Synthesis.programWith ⟨[], [], 0o022, {}⟩ (Export.names exporter) importer =
      .ok (ofExample "/".toList "/m.ts".toList (Export.names exporter) importer) := rfl
  have hdistinct : ((importsOf "/".toList importer).flatMap Import.boundNames).Nodup :=
    hbound ▸ List.nodup_singleton _
  obtain ⟨path, hparts, hiff⟩ := nodup_names_parts_iff hprogram hdistinct
  refine ⟨hdistinct, _, path, hprogram, hparts,
    hiff.2 ⟨fun n hn => ⟨fun h => ?_, fun h => ?_⟩, fun n _ h => h⟩⟩
  · exact hfixed n hn (hbound ▸ h)
  · exact hfixed n hn (hexports ▸ (mem_ambient.1 h).1)

-- A module that exports a function of the same name as an assertion.
example : ¬ ((parts Import.boundNames "/".toList "/m.ts".toList ["assert".toList]
    ⟨"m.ts".toList, 1, "f".toList, "f();".toList, none⟩).flatMap Part.names).Nodup := by
  decide +kernel

end Program
end DocExamples
