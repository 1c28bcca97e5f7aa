/-
# What the discovery finds

Each path is expanded into files: a file into itself, a folder into the source files below
it, and a path that denotes nothing into no file, with a diagnostic in place of them.  Each
file gives examples, or else one diagnostic.  The discovery collects all of this in the
order of the paths, the diagnostics of paths before those of files.  It is refused only if
no path denotes anything, if some path on the way cannot be looked up or listed, or if folders
within folders are nested deeper than the stack has room for.
-/

import DocExamples.Proofs.Expansion
import DocExamples.Proofs.Gate
import DocExamples.Proofs.PathText
import Mathlib.Data.List.Forall2

namespace DocExamples

/-! ### One path -/

namespace Disk

/-- Whether a path denotes a file or a folder. -/
def denotes (d : Disk) (s : Text) : Bool :=
  d.leads Entry.isFolder (Path.ofText s).text || d.leads Entry.isFile (Path.ofText s).text

end Disk

namespace Finder

/-- The diagnostic for a path that denotes nothing. -/
def absent (s : Text) : Text :=
  "Failed to parse ".toList ++ (Path.ofText s).text ++ ": path does not exist".toList

variable [Stack]

/-- The files that a path stands for. -/
inductive Expands (f : Finder) (d : Disk) (s : Text) : List Path → Prop
  /-- A file stands for itself, whatever its name. -/
  | file : d.leads Entry.isFile (Path.ofText s).text = true → Expands f d s [Path.ofText s]
  /-- A folder stands for the source files below it, in the order of their names. -/
  | folder {files : List Path} : d.leads Entry.isFolder (Path.ofText s).text = true →
      (∀ p, p ∈ files ↔ Finds f d (Path.ofText s) p) →
      (d.Distinct → files.Pairwise fun p r => p.names < r.names) → Expands f d s files
  /-- Anything else stands for no file. -/
  | absent : d.denotes s = false → Expands f d s []

/-- A path can be looked up or denotes nothing, and if it is a folder, a search gets through all
that it enters there. -/
structure Answered (f : Finder) (d : Disk) (s : Text) : Prop where
  /-- The path itself. -/
  given : d.Answers (Path.ofText s).text
  /-- The folders that are entered below it. -/
  below : d.leads Entry.isFolder (Path.ofText s).text = true →
    Searchable f d Stack.folders (Path.ofText s)

/-- The files that a path is expanded into. -/
def filesOf (f : Finder) (d : Disk) (s : Text) : List Path :=
  if d.leads Entry.isFolder (Path.ofText s).text then
    walked f d Stack.folders (Path.ofText s)
  else if d.leads Entry.isFile (Path.ofText s).text then [Path.ofText s]
  else []

variable {f : Finder} {d : Disk} {s : Text} {ps : List Text}

theorem expands_filesOf (h : Answered f d s) : Expands f d s (filesOf f d s) := by
  unfold filesOf
  split
  · next hfolder =>
    exact .folder hfolder (fun p => mem_walked (h.below hfolder)) fun hd => pairwise_walked hd _ _
  · next hfolder =>
    split
    · next hfile => exact .file hfile
    · next hfile => exact .absent (by simp [Disk.denotes, hfolder, hfile])

theorem expand_eq_ok (h : Answered f d s) :
    f.expand d s = .ok ⟨filesOf f d s, if d.denotes s then [] else [absent s],
      if d.denotes s then 1 else 0⟩ := by
  unfold expand filesOf below
  simp only [Disk.leadsTo_eq h.given, bind, Except.bind]
  split
  · next hfolder =>
    have hdenotes : d.denotes s = true := by simp [Disk.denotes, hfolder]
    simp only [walk_eq_ok _ hfolder (h.below hfolder), hdenotes]
    rfl
  · next hfolder =>
    split
    · next hfile =>
      have hdenotes : d.denotes s = true := by simp [Disk.denotes, hfile]
      simp only [hdenotes]
      rfl
    · next hfile =>
      have hdenotes : d.denotes s = false := by simp [Disk.denotes, hfolder, hfile]
      simp only [hdenotes]
      rfl

theorem find_eq_ok (h : ∀ s ∈ ps, Answered f d s) :
    f.find d ps = .ok ⟨ps.flatMap (filesOf f d), (ps.filter fun s => !d.denotes s).map absent,
      ps.countP d.denotes⟩ := by
  induction ps with
  | nil => rfl
  | cons s ps ih =>
    obtain ⟨hs, hps⟩ := List.forall_mem_cons.1 h
    rw [find, expand_eq_ok hs, ih hps]
    cases hdenotes : d.denotes s <;>
      simp [bind, Except.bind, pure, Except.pure, hdenotes, Nat.add_comm]

theorem answered_of_expand {found : Found} (h : f.expand d s = .ok found) : Answered f d s := by
  obtain ⟨b, hleads, hrest⟩ := bind_eq_ok.1 h
  obtain ⟨hgiven, rfl⟩ := Disk.leadsTo_eq_ok_iff.1 hleads
  refine ⟨hgiven, fun hfolder => ?_⟩
  rw [if_pos hfolder] at hrest
  obtain ⟨files, hbelow, -⟩ := bind_eq_ok.1 hrest
  exact searchable_of_walk hfolder hbelow

/-- Paths that are expanded could all be looked up, and so could what was found on the way. -/
theorem answered_of_find {found : Found} (h : f.find d ps = .ok found) :
    ∀ s ∈ ps, Answered f d s := by
  induction ps generalizing found with
  | nil => exact fun _ hs => absurd hs List.not_mem_nil
  | cons s ps ih =>
    obtain ⟨first, hexpand, hrest⟩ := bind_eq_ok.1 h
    obtain ⟨rest, hfind, -⟩ := bind_eq_ok.1 hrest
    exact List.forall_mem_cons.2 ⟨answered_of_expand hexpand, ih hfind⟩

/-- Every path that something was found at leads to a file. -/
theorem leads_isFile_of_mem_filesOf {p : Path} (hp : p ∈ filesOf f d s) :
    d.leads Entry.isFile p.text = true := by
  unfold filesOf at hp
  split at hp
  · exact leads_isFile_of_mem_walked hp
  · split at hp
    · next hfile =>
      obtain rfl := List.mem_singleton.1 hp
      exact hfile
    · exact absurd hp List.not_mem_nil

end Finder

/-! ### One file -/

namespace Harvest

/-- What a file gives: the examples of its text, or else one diagnostic. -/
inductive Gives (d : Disk) (origin : Text) : Harvest → Prop
  | examples {source : Text} : d.sourceText (Path.ofText origin) = .ok (.ok source) →
      Gives d origin ⟨Example.ofSource origin source, []⟩
  | unreadable {reason : Unreadable} : d.sourceText (Path.ofText origin) = .ok (.error reason) →
      Gives d origin ⟨[], [unreadable origin reason]⟩

/-- The harvest of one file that can be asked about. -/
def ofOrigin (d : Disk) (origin : Text) : Harvest :=
  match d.sourceText (Path.ofText origin) with
  | .ok (.ok source) => ⟨Example.ofSource origin source, []⟩
  | .ok (.error reason) => ⟨[], [unreadable origin reason]⟩
  | .error _ => empty

variable {d : Disk}

theorem exists_sourceText {origin : Text} (h : '\x00' ∉ origin) :
    ∃ answer, d.sourceText (Path.ofText origin) = .ok answer := by
  have hnul : '\x00' ∉ (Path.ofText origin).text :=
    Path.notMem_text (by decide) (by decide) h
  simp only [Disk.sourceText, List.contains_iff_mem, hnul, if_false]
  split
  · exact ⟨_, rfl⟩
  · split <;> exact ⟨_, rfl⟩

theorem gives_ofOrigin {origin : Text} (h : '\x00' ∉ origin) :
    Gives d origin (ofOrigin d origin) := by
  obtain ⟨answer, hanswer⟩ := exists_sourceText (d := d) h
  cases answer with
  | error reason =>
    rw [ofOrigin, hanswer]
    exact .unreadable hanswer
  | ok source =>
    rw [ofOrigin, hanswer]
    exact .examples hanswer

theorem ofFile_eq_ok {origin : Text} (h : '\x00' ∉ origin) :
    ofFile d origin = .ok (ofOrigin d origin) := by
  obtain ⟨answer, hanswer⟩ := exists_sourceText (d := d) h
  cases answer <;> rw [ofFile, ofOrigin, hanswer]

/-- The files give their harvests one after another. -/
theorem ofFiles_eq_ok {origins : List Text} (h : ∀ origin ∈ origins, '\x00' ∉ origin) :
    ofFiles d origins = .ok ⟨(origins.map (ofOrigin d)).flatMap (·.examples),
      (origins.map (ofOrigin d)).flatMap (·.errors)⟩ := by
  induction origins with
  | nil => rfl
  | cons origin origins ih =>
    rw [ofFiles, ofFile_eq_ok (h origin List.mem_cons_self),
      ih fun o ho => h o (List.mem_cons_of_mem _ ho)]
    rfl

end Harvest

/-! ### All paths -/

namespace Service

open Finder (Answered Expands absent filesOf)

section

variable [Stack]

/-- What the discovery collects below paths, where each path stands for some files and each
file gives some part of the harvest. -/
structure Collects (d : Disk) (ps : List Text) (files : List (List Path)) (parts : List Harvest)
    (h : Harvest) : Prop where
  /-- The paths are expanded one by one. -/
  expands : List.Forall₂ (Expands Finder.default d) ps files
  /-- The files are read one by one. -/
  gives : List.Forall₂ (Harvest.Gives d) (files.flatten.map (·.text)) parts
  /-- The examples of all files follow one another. -/
  examples : h.examples = parts.flatMap (·.examples)
  /-- First come the diagnostics of paths, then those of files. -/
  errors : h.errors =
    (ps.filter fun s => !d.denotes s).map absent ++ parts.flatMap (·.errors)

/-- The path texts of the files below paths, in order. -/
def originsOf (d : Disk) (ps : List Text) : List Text :=
  (ps.flatMap (filesOf Finder.default d)).map (·.text)

/-- The harvests of the files below paths, in order. -/
def partsOf (d : Disk) (ps : List Text) : List Harvest :=
  (originsOf d ps).map (Harvest.ofOrigin d)

/-- All that the discovery collects below paths. -/
def collected (d : Disk) (ps : List Text) : Harvest where
  examples := (partsOf d ps).flatMap (·.examples)
  errors :=
    (ps.filter fun s => !d.denotes s).map absent ++ (partsOf d ps).flatMap (·.errors)

variable {d : Disk} {ps qs : List Text}

theorem nul_notMem_of_mem_originsOf : ∀ origin ∈ originsOf d ps, '\x00' ∉ origin := by
  intro origin h
  obtain ⟨p, hp, rfl⟩ := List.mem_map.1 h
  obtain ⟨s, -, hp⟩ := List.mem_flatMap.1 hp
  exact (Disk.leads_iff.1 (Finder.leads_isFile_of_mem_filesOf hp)).1

theorem collects_collected (h : ∀ s ∈ ps, Answered Finder.default d s) :
    Collects d ps (ps.map (filesOf Finder.default d)) (partsOf d ps) (collected d ps) where
  expands := List.forall₂_map_right_iff.2
    (List.forall₂_same.2 fun s hs => Finder.expands_filesOf (h s hs))
  gives := by
    rw [← List.flatMap_def]
    exact List.forall₂_map_right_iff.2 (List.forall₂_same.2 fun origin horigin =>
      Harvest.gives_ofOrigin (nul_notMem_of_mem_originsOf origin horigin))
  examples := rfl
  errors := rfl

/-- What is collected below more paths follows on what is collected below the first. -/
theorem collected_append :
    (collected d (ps ++ qs)).examples = (collected d ps).examples ++ (collected d qs).examples ∧
      (collected d (ps ++ qs)).errors.Perm ((collected d ps).errors ++ (collected d qs).errors) := by
  have hparts : partsOf d (ps ++ qs) = partsOf d ps ++ partsOf d qs := by
    simp [partsOf, originsOf]
  -- Of the diagnostics, those of the later paths come before those of the earlier files.
  simp only [collected, hparts, List.flatMap_append, List.filter_append, List.map_append,
    List.append_assoc, true_and]
  exact (List.perm_append_comm_assoc _ _ _).append_left _

theorem discover_eq_error (hne : ps ≠ []) (h : ∀ s ∈ ps, Answered Finder.default d s)
    (habsent : ∀ s ∈ ps, d.denotes s = false) :
    ∃ r, discover d (.array (ps.map .string)) = .error r ∧ r.code = "file_not_found".toList := by
  have hcount : ps.countP d.denotes = 0 :=
    List.countP_eq_zero.2 fun s hs => by simp [habsent s hs]
  rw [discover_texts d hne, discoverPaths, Finder.find_eq_ok h]
  simp only [hcount, if_true]
  exact ⟨_, rfl, rfl⟩

theorem discover_eq_ok (h : ∀ s ∈ ps, Answered Finder.default d s)
    (hdenotes : ∃ s ∈ ps, d.denotes s = true) :
    discover d (.array (ps.map .string)) = .ok (collected d ps) := by
  obtain ⟨s, hs, htrue⟩ := hdenotes
  have hcount : ps.countP d.denotes ≠ 0 := fun hzero => List.countP_eq_zero.1 hzero s hs htrue
  have hread : Harvest.ofFiles d (originsOf d ps) =
      .ok ⟨(partsOf d ps).flatMap (·.examples), (partsOf d ps).flatMap (·.errors)⟩ :=
    Harvest.ofFiles_eq_ok nul_notMem_of_mem_originsOf
  rw [originsOf] at hread
  rw [discover_texts d (List.ne_nil_of_mem hs), discoverPaths, Finder.find_eq_ok h]
  simp only [hcount, if_false, hread]
  rfl

/-- The discovery fails for another reason than what it was asked exactly if some path on
the way cannot be looked up. -/
theorem discover_internal_iff (hne : ps ≠ []) :
    (∃ r, discover d (.array (ps.map .string)) = .error r ∧ r.code = "internal_error".toList) ↔
      ¬ ∀ s ∈ ps, Answered Finder.default d s := by
  constructor
  · rintro ⟨r, hr, hcode⟩ h
    by_cases hdenotes : ∃ s ∈ ps, d.denotes s = true
    · rw [discover_eq_ok h hdenotes] at hr
      exact nomatch hr
    · obtain ⟨r', hr', hcode'⟩ := discover_eq_error hne h fun s hs =>
        Bool.eq_false_iff.2 fun htrue => hdenotes ⟨s, hs, htrue⟩
      rw [hr] at hr'
      obtain rfl := Except.error.inj hr'
      exact absurd (hcode.symm.trans hcode') (by decide)
  · intro h
    cases hfind : Finder.default.find d ps with
    | error failure =>
      refine ⟨.discovery failure, ?_, rfl⟩
      rw [discover_texts d hne, discoverPaths, hfind]
    | ok found => exact absurd (Finder.answered_of_find hfind) h

/-- Where a path leads to no folder, only the path itself has to be looked up. -/
theorem answered_of_no_folder {s : Text} (hgiven : d.Answers (Path.ofText s).text)
    (hfolder : d.leads Entry.isFolder (Path.ofText s).text = false) :
    Answered Finder.default d s :=
  ⟨hgiven, fun htrue => absurd (hfolder.symm.trans htrue) Bool.false_ne_true⟩

/-- **The discovery is complete and in order.**  Where every path that it comes across can
be looked up, every folder be listed, and folders are nested no deeper than the stack has room
for, it is refused exactly if no path denotes anything.  Otherwise it collects the examples of
all files in the order of the paths, and the diagnostics of what could not be found or read.  So
what it collects below more paths follows on what it collects below the first.  In all other
cases it is refused as a whole, whatever there is to find. -/
theorem discover_complete (d : Disk) {ps : List Text} (hne : ps ≠ []) :
    ((∀ s ∈ ps, Answered Finder.default d s) →
      ((∃ r, discover d (.array (ps.map .string)) = .error r ∧
          r.code = "file_not_found".toList) ↔ ∀ s ∈ ps, d.denotes s = false) ∧
        ((∃ s ∈ ps, d.denotes s = true) → ∃ files parts harvest,
          discover d (.array (ps.map .string)) = .ok harvest ∧ Collects d ps files parts harvest) ∧
        ∀ qs, (∀ s ∈ qs, Answered Finder.default d s) → (∃ s ∈ ps, d.denotes s = true) →
          (∃ s ∈ qs, d.denotes s = true) → ∃ a b c,
            discover d (.array (ps.map .string)) = .ok a ∧
            discover d (.array (qs.map .string)) = .ok b ∧
            discover d (.array ((ps ++ qs).map .string)) = .ok c ∧
            c.examples = a.examples ++ b.examples ∧ c.errors.Perm (a.errors ++ b.errors)) ∧
      ((¬ ∀ s ∈ ps, Answered Finder.default d s) →
        ∃ r, discover d (.array (ps.map .string)) = .error r ∧ r.code = "internal_error".toList) := by
  refine ⟨fun h => ⟨⟨fun ⟨r, hr, _⟩ s hs => ?_, discover_eq_error hne h⟩, fun hdenotes => ?_,
    fun qs hqs hps hqs' => ?_⟩, (discover_internal_iff hne).2⟩
  · refine Bool.eq_false_iff.2 fun htrue => ?_
    rw [discover_eq_ok h ⟨s, hs, htrue⟩] at hr
    exact nomatch hr
  · exact ⟨_, _, _, discover_eq_ok h hdenotes, collects_collected h⟩
  · have hboth : ∃ s ∈ ps ++ qs, d.denotes s = true := by
      obtain ⟨s, hs, htrue⟩ := hps
      exact ⟨s, List.mem_append_left _ hs, htrue⟩
    exact ⟨_, _, _, discover_eq_ok h hps, discover_eq_ok hqs hqs',
      discover_eq_ok (List.forall_mem_append.2 ⟨h, hqs⟩) hboth, collected_append.1, collected_append.2⟩

end

/-- A folder with a source file, and a file that may not be read. -/
def small : Disk where
  entries := [(["src".toList], .folder),
    (["src".toList, "a.ts".toList], .file (Utf8.encode
      "/**\n * @example\n * ```\n * f();\n * ```\n */\nfunction f() \x7b\x7d\n".toList) 0o644),
    (["b.ts".toList], .file [] 0)]
  cwd := []
  rights := { read := fun l => l != ["b.ts".toList] }

theorem answered_src : Answered Finder.default small "src".toList :=
  ⟨by decide +kernel, fun _ => Finder.searchable_of_flat (by decide +kernel) (by decide +kernel)⟩

theorem answered_small :
    ∀ s ∈ ["src".toList, "b.ts".toList, "none".toList], Answered Finder.default small s :=
  List.forall_mem_cons.2 ⟨answered_src, List.forall_mem_cons.2
    ⟨answered_of_no_folder (by decide +kernel) (by decide +kernel), List.forall_mem_singleton.2
      (answered_of_no_folder (by decide +kernel) (by decide +kernel))⟩⟩

/-- The one example of the folder is found, the path that denotes nothing and the file that may
not be read give a diagnostic each. -/
theorem discover_complete_found :
    ["src".toList, "b.ts".toList, "none".toList] ≠ [] ∧
      (∀ s ∈ ["src".toList, "b.ts".toList, "none".toList], Answered Finder.default small s) ∧
      ∃ files parts harvest,
        discover small (.array (["src".toList, "b.ts".toList, "none".toList].map .string)) = .ok harvest ∧
        Collects small ["src".toList, "b.ts".toList, "none".toList] files parts harvest ∧
        harvest.examples = [⟨"src/a.ts".toList, 1, "f".toList, "f();".toList, none⟩] ∧
        harvest.errors = ["Failed to parse none: path does not exist".toList,
          "Failed to parse b.ts: [Errno 13] Permission denied: 'b.ts'".toList] := by
  have hne : ["src".toList, "b.ts".toList, "none".toList] ≠ [] := List.cons_ne_nil _ _
  obtain ⟨files, parts, harvest, hdiscover, hcollects⟩ :=
    ((discover_complete small hne).1 answered_small).2.1
      ⟨"src".toList, List.mem_cons_self, by decide +kernel⟩
  have hfound : (discover small (.array (["src".toList, "b.ts".toList, "none".toList].map .string))).toOption =
      some ⟨[⟨"src/a.ts".toList, 1, "f".toList, "f();".toList, none⟩],
        ["Failed to parse none: path does not exist".toList,
          "Failed to parse b.ts: [Errno 13] Permission denied: 'b.ts'".toList]⟩ := by
    decide +kernel
  rw [hdiscover] at hfound
  obtain rfl := Option.some.inj hfound
  exact ⟨hne, answered_small, files, parts, _, hdiscover, hcollects, rfl, rfl⟩

/-- A folder in a folder that holds something. -/
def nested : Disk where
  entries := [(["a".toList], .folder), (["a".toList, "b".toList], .folder),
    (["a".toList, "b".toList, "c.md".toList], .file [] 0o644), (["m.ts".toList], .file [] 0o644)]
  cwd := []

/-- With room for one folder only, the discovery is refused for the folder within, whatever else
it is asked for. -/
example : (@discover ⟨1, 0, 0, 0⟩ nested (.array [.string "m.ts".toList])).toOption = some ⟨[], []⟩ ∧
    (@discover ⟨1, 0, 0, 0⟩ nested (.array [.string "m.ts".toList, .string "a".toList])).toOption =
      none := by
  decide +kernel

end Service
end DocExamples
