/-
# Two names for the documented module

A program imports the documented module under its real path.  An example may also import that
module itself, by a relative path in a statement of its own; the statement then has the path that
is left when double dots take back names.  No disk is asked for the second path.  Where no link is
met on the way, both are the place that the names of the path lead to, whether anything stands
there or not, and both statements import one and the same module.
-/

import DocExamples.Proofs.Straight
import DocExamples.Proofs.Targets
import DocExamples.Synthesis

namespace DocExamples

namespace Lexical
open Text
open DocExamples.Path (IsName)

variable {ns : List Text} {n : Text}

/-- The name of a file beside others leads to the file from their folder. -/
theorem normal_join_beside (hns : ∀ m ∈ ns, IsName m ∧ LeadsDown m) (hn : IsName n ∧ LeadsDown n) :
    normal (join (spelled true ns) ("./".toList ++ n)) = spelled true (ns ++ [n]) := by
  have hnames : ∀ m ∈ ns, IsName m := fun m hm => (hns m hm).1
  have hhead : ("./".toList ++ n).head? ≠ some '/' := fun hc =>
    absurd (Option.some.inj hc) (by decide)
  have hroot : Path.rootOf (join (spelled true ns) ("./".toList ++ n)) = ['/'] :=
    rootOf_join (Path.head?_joined hnames) hhead
  have hfolder : way (pieces '/' (spelled true ns)) = ns := by
    have hread : Path.namesOf (spelled true ns) = ns := Path.namesOf_joined hnames
    rw [way, foldl_visit_pieces, hread]
    exact way_of_leadsDown fun m hm => (hns m hm).2
  have hfile : pieces '/' ("./".toList ++ n) = [Path.dot, n] := by
    have hdot : "./".toList ++ n = Path.dot ++ '/' :: n := rfl
    rw [hdot, pieces_append_cons (by decide), pieces_of_notMem hn.1.slash_notMem]
  rw [normal_eq hroot, way_pieces_join hhead, way_append, hfolder, hfile, List.foldl_cons,
    visit_of_idle (.inr rfl), List.foldl_cons, hn.2.visit]
  rfl

end Lexical

namespace Import
open Text

/-- A statement that imports a default called `x`. -/
def byDefault : Frame where
  lead := .clause " x ".toList (by decide) (by decide)
  gap := ⟨[' '], by decide⟩
  quote := '"'
  isQuote := rfl
  rest := []
  unquoted := List.forall_mem_nil _

theorem around_byDefault (spec : Text) :
    byDefault.around spec = "import x from \"".toList ++ (spec ++ "\"".toList) := rfl

/-- One line that begins an import statement is one statement. -/
theorem statements_lines {line : Text} (cwd origin : Text) (hline : '\n' ∉ line)
    (himport : isImportLine line = true) :
    statements cwd origin (lines line) = [anchored (originFolder cwd origin) line] := by
  rw [lines, pieces_of_notMem hline, statements_cons himport (.inr rfl)]
  rfl

/-- **A file imported from its own folder** is imported under the names that lead to it. -/
theorem statements_beside {cwd origin n : Text} {ns : List Text}
    (hfolder : originFolder cwd origin = Lexical.spelled true ns)
    (hns : ∀ m ∈ ns, Path.IsName m ∧ Lexical.LeadsDown m)
    (hn : Path.IsName n ∧ Lexical.LeadsDown n) (hchar : ∀ c ∈ n, isQuote c = false ∧ c ≠ '\n') :
    statements cwd origin (lines ("import x from \"./".toList ++ (n ++ "\"".toList))) =
      ["import x from \"".toList ++
        (Lexical.slashed (Lexical.spelled true (ns ++ [n])) ++ "\"".toList)] := by
  have hspec : ∀ c ∈ "./".toList ++ n, isQuote c = false := List.forall_mem_append.2
    ⟨by decide, fun c hc => (hchar c hc).1⟩
  have hline : "import x from \"./".toList ++ (n ++ "\"".toList) =
      byDefault.around ("./".toList ++ n) := rfl
  have hfeed : ∀ c ∈ byDefault.around ("./".toList ++ n), c ≠ '\n' :=
    List.forall_mem_append.2 ⟨by decide, List.forall_mem_cons.2 ⟨by decide,
      List.forall_mem_append.2 ⟨List.forall_mem_append.2 ⟨by decide, fun c hc => (hchar c hc).2⟩,
        by decide⟩⟩⟩
  rw [hline, statements_lines _ _ (fun hc => hfeed _ hc rfl) rfl,
    byDefault.anchored_of_isRelative _ hspec rfl, hfolder, Lexical.normal_join_beside hns hn,
    around_byDefault]

end Import

namespace Synthesis
open Text Import Disk
open DocExamples.Path (IsName)

variable {d : Disk} {origin : Text}

/-- **The documented module has one name.**  On a sound disk whose working folder is there, if no
link is met on the way of the path of a file, then the path under which the file is imported is
the one that a statement gets which imports the file from its own folder. -/
theorem exists_modulePath_eq (hd : d.IsSound) (hcwd : d.at? d.cwd = some .folder)
    (hslashes : ¬ "//".toList <+: origin) (hnul : '\x00' ∉ origin)
    (hstraight : d.IsStraight (Path.ofText origin))
    (hroot : Lexical.absolute d.cwdText origin ≠ ['/'])
    (hplain : ∀ c ∈ Lexical.absolute d.cwdText origin, isQuote c = false ∧ c ≠ '\n') :
    ∃ path, modulePath d origin = .ok path ∧
      statements d.cwdText origin (lines ("import x from \"./".toList ++
          (Lexical.lastName (Lexical.absolute d.cwdText origin) ++ "\"".toList))) =
        ["import x from \"".toList ++ (path ++ "\"".toList)] := by
  have hrootOf : Path.rootOf origin ≠ ['/', '/'] := by
    intro h
    refine hslashes ?_
    unfold Path.rootOf at h
    split at h
    · exact absurd (List.cons.inj h).2.symm (List.cons_ne_nil _ _)
    · exact ⟨_, rfl⟩
    · exact absurd (List.cons.inj h).2.symm (List.cons_ne_nil _ _)
    · exact absurd h.symm (List.cons_ne_nil _ _)
  have hcwdNames : ∀ n ∈ d.cwd, IsName n ∧ Lexical.LeadsDown n := fun n hn =>
    ⟨(named_cwd hd hcwd n hn).1.1, (named_cwd hd hcwd n hn).2⟩
  have hF := absolute_eq hcwdNames hrootOf
  have hreal := realPath_eq hd hcwd hrootOf hnul hstraight
  have hnamed : ∀ n ∈ d.place (Path.ofText origin), IsName n ∧ Lexical.LeadsDown n :=
    forall_place hcwdNames fun _ => Path.isName_of_mem_namesOf
  rw [hF] at hroot hplain ⊢
  rcases (d.place (Path.ofText origin)).eq_nil_or_concat with hnil | ⟨ns, n, hconcat⟩
  · rw [hnil] at hroot
    exact absurd rfl hroot
  rw [List.concat_eq_append] at hconcat
  rw [hconcat] at hreal hF hplain hnamed ⊢
  obtain ⟨hns, hn⟩ := List.forall_mem_append.1 hnamed
  have hname : IsName n ∧ Lexical.LeadsDown n := hn n List.mem_cons_self
  have hchar : ∀ c ∈ n, isQuote c = false ∧ c ≠ '\n' := fun c hc =>
    hplain c (Lexical.mem_spelled_concat hc ns)
  have hfolder : originFolder d.cwdText origin = Lexical.spelled true ns := by
    rw [originFolder, hF, Lexical.folder_spelled (fun m hm => (hns m hm).1) hname.1.slash_notMem]
  refine ⟨Lexical.slashed (Lexical.spelled true (ns ++ [n])), ?_, ?_⟩
  · rw [modulePath, hreal]
    simp only [text_pathOf (.inl rfl)]
  · rw [Lexical.lastName_spelled ns hname.1.slash_notMem, statements_beside hfolder hns hname hchar]

/-- A disk with a working folder and nothing else. -/
def sparse : Disk where
  entries := [(["w".toList], .folder)]
  cwd := ["w".toList]

/-- A path through folders that are not there, and out of the root. -/
def astray : Text := "gone/..//../../w/src/./m.ts".toList

theorem exists_modulePath_eq_astray :
    sparse.IsSound ∧ sparse.at? sparse.cwd = some .folder ∧ ¬ "//".toList <+: astray ∧
      '\x00' ∉ astray ∧ sparse.IsStraight (Path.ofText astray) ∧
      Lexical.absolute sparse.cwdText astray ≠ ['/'] ∧
      (∀ c ∈ Lexical.absolute sparse.cwdText astray, isQuote c = false ∧ c ≠ '\n') ∧
      ∃ path, modulePath sparse astray = .ok path ∧
        statements sparse.cwdText astray (lines ("import x from \"./".toList ++
            (Lexical.lastName (Lexical.absolute sparse.cwdText astray) ++ "\"".toList))) =
          ["import x from \"".toList ++ (path ++ "\"".toList)] := by
  have hd : sparse.IsSound := by decide
  have hcwd : sparse.at? sparse.cwd = some .folder := by decide
  have hslashes : ¬ "//".toList <+: astray := by decide
  have hnul : '\x00' ∉ astray := by decide
  have hstraight : sparse.IsStraight (Path.ofText astray) := isStraight_of_entries (by decide) _
  have hroot : Lexical.absolute sparse.cwdText astray ≠ ['/'] := by decide
  have hplain : ∀ c ∈ Lexical.absolute sparse.cwdText astray, isQuote c = false ∧ c ≠ '\n' := by
    decide
  exact ⟨hd, hcwd, hslashes, hnul, hstraight, hroot, hplain,
    exists_modulePath_eq hd hcwd hslashes hnul hstraight hroot hplain⟩

example : Lexical.absolute sparse.cwdText astray = "/w/src/m.ts".toList := by decide

end Synthesis
end DocExamples
