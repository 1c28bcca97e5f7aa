/-
# One path more that cannot be used

A path that denotes nothing, and a file that cannot be read, give one diagnostic each.  Put
among other paths, wherever that may be, such a path takes nothing from them: what is
discovered is the same, with the diagnostic at its place.  It makes no difference why the path
denotes nothing, with one exception: if the disk refuses the path as too long or as locked, that
is no answer, and the discovery is refused as a whole.

| one path more | the discovery |
| --- | --- |
| nothing there, below a file, links in a circle, a NUL | has one diagnostic more |
| a file that cannot be read or decoded | has one diagnostic more |
| too long, as a whole or in a name | is refused |
| below a folder that may not be searched | is refused |
-/

import DocExamples.Proofs.Census

namespace DocExamples

namespace Disk

/-- The disk refuses a path, as too long or as locked: it does not say what stands there, nor
that nothing does. -/
structure IsRefused (d : Disk) (s : Text) (fault : Fault) : Prop where
  /-- The disk is asked. -/
  asked : '\x00' ∉ (Path.ofText s).text
  /-- It refuses. -/
  stat_eq : d.stat (Path.ofText s).text = .error fault
  /-- That is no answer. -/
  no_answer : fault.isAbsence = false

instance {d : Disk} {s : Text} {fault : Fault} : Decidable (d.IsRefused s fault) :=
  decidable_of_iff ('\x00' ∉ (Path.ofText s).text ∧
      d.stat (Path.ofText s).text = .error fault ∧ fault.isAbsence = false)
    ⟨fun ⟨hnul, hstat, habsence⟩ => ⟨hnul, hstat, habsence⟩,
      fun h => ⟨h.asked, h.stat_eq, h.no_answer⟩⟩

variable {d : Disk} {s : Text} {fault : Fault}

/-- A path that is not refused is answered. -/
theorem answers_of_not_isRefused (h : ∀ fault, ¬ d.IsRefused s fault) :
    d.Answers (Path.ofText s).text := by
  refine Decidable.byContradiction fun hno => ?_
  obtain ⟨hnul, fault, hstat, habsence⟩ := not_answers_iff.1 hno
  exact h fault ⟨hnul, hstat, habsence⟩

theorem IsRefused.not_answers (h : d.IsRefused s fault) : ¬ d.Answers (Path.ofText s).text :=
  not_answers_iff.2 ⟨h.asked, fault, h.stat_eq, h.no_answer⟩

/-- A path that holds a NUL or cannot be looked up denotes nothing. -/
theorem denotes_eq_false
    (h : '\x00' ∈ (Path.ofText s).text ∨ ∃ fault, d.stat (Path.ofText s).text = .error fault) :
    d.denotes s = false := by
  have hnone (kind : Entry → Bool) : d.leads kind (Path.ofText s).text = false := by
    rw [Bool.eq_false_iff]
    intro hleads
    obtain ⟨hnul, e, hstat, -⟩ := leads_iff.1 hleads
    rcases h with h | ⟨fault, hfault⟩
    · exact hnul h
    · exact nomatch hfault.symm.trans hstat
  rw [denotes, hnone, hnone, Bool.or_false]

end Disk

namespace Finder

variable [Stack] {f : Finder} {d : Disk} {ps qs : List Text} {s : Text}

/-- What is refused below some paths is refused in the same way with another path among them,
if that can be expanded. -/
theorem find_insert_eq_error {found : Found} {failure : Failure} (hs : f.expand d s = .ok found)
    (h : f.find d (ps ++ qs) = .error failure) : f.find d (ps ++ s :: qs) = .error failure := by
  rw [find_append] at h ⊢
  cases hps : f.find d ps with
  | error first =>
    rw [hps] at h
    exact h
  | ok a =>
    cases hqs : f.find d qs with
    | error last =>
      rw [hps, hqs] at h
      rw [find, hs, hqs]
      exact h
    | ok b =>
      rw [hps, hqs] at h
      cases h

/-- A path that is refused is refused behind paths that are not. -/
theorem find_insert_of_isRefused {fault : Fault} (hs : d.IsRefused s fault)
    (hps : ∀ p ∈ ps, Answered f d p) (qs : List Text) :
    f.find d (ps ++ s :: qs) = .error (.disk fault (Path.ofText s).text) := by
  have hgiven : d.leadsTo Entry.isFolder (Path.ofText s).text =
      .error (.disk fault (Path.ofText s).text) := by
    simp [Disk.leadsTo, hs.asked, hs.stat_eq, hs.no_answer]
  rw [find_append, find_eq_ok hps, find, expand, hgiven]
  rfl

end Finder

namespace Service

open Finder (Answered absent filesOf)

/-- A path below which there is nothing to read, and the diagnostic that says so. -/
inductive Unusable (d : Disk) (s : Text) : Text → Prop
  /-- The path denotes neither a file nor a folder. -/
  | nothing : d.denotes s = false → Unusable d s (absent s)
  /-- It denotes a file that cannot be read. -/
  | unreadable {reason : Unreadable} : d.leads Entry.isFile (Path.ofText s).text = true →
      d.sourceText (Path.ofText s) = .ok (.error reason) →
      Unusable d s (Harvest.unreadable (Path.ofText s).text reason)

section

variable [Stack] {d : Disk} {ps qs : List Text} {s diagnostic : Text}

omit [Stack] in
theorem Unusable.leads_isFolder (h : Unusable d s diagnostic) :
    d.leads Entry.isFolder (Path.ofText s).text = false := by
  cases h with
  | nothing hdenotes => exact (Bool.or_eq_false_iff.1 hdenotes).1
  | unreadable hfile _ =>
    rw [Bool.eq_false_iff]
    intro hfolder
    exact absurd (hfile.symm.trans (Disk.leads_isFile_of_isFolder hfolder)) (by decide)

/-- No search starts at an unusable path. -/
theorem Unusable.answered (h : Unusable d s diagnostic) (hs : ∀ fault, ¬ d.IsRefused s fault) :
    Answered Finder.default d s where
  given := Disk.answers_of_not_isRefused hs
  below hfolder := absurd (h.leads_isFolder.symm.trans hfolder) (by decide)

theorem partsOf_insert (d : Disk) (ps qs : List Text) (s : Text) :
    partsOf d (ps ++ s :: qs) = partsOf d ps ++ (partsOf d [s] ++ partsOf d qs) := by
  simp [partsOf, originsOf]

/-- **One unusable path more** is one diagnostic more, and nothing else. -/
theorem Unusable.collected_insert (h : Unusable d s diagnostic) (ps qs : List Text) :
    ∃ before behind, (collected d (ps ++ qs)).errors = before ++ behind ∧
      collected d (ps ++ s :: qs) =
        ⟨(collected d (ps ++ qs)).examples, before ++ diagnostic :: behind⟩ := by
  have happend : partsOf d (ps ++ qs) = partsOf d ps ++ partsOf d qs := by
    simp [partsOf, originsOf]
  have hfolder := h.leads_isFolder
  cases h with
  | nothing hdenotes =>
    have hnone : partsOf d [s] = [] := by
      have hfile := (Bool.or_eq_false_iff.1 hdenotes).2
      simp [partsOf, originsOf, filesOf, hfolder, hfile]
    refine ⟨(ps.filter fun p => !d.denotes p).map absent,
      (qs.filter fun p => !d.denotes p).map absent ++ (partsOf d (ps ++ qs)).flatMap (·.errors),
      ?_, ?_⟩
    · simp [collected]
    · simp [collected, partsOf_insert, happend, hnone, hdenotes]
  | @unreadable reason hfile hsource =>
    have hdenotes : d.denotes s = true := by simp [Disk.denotes, hfile]
    have hone : partsOf d [s] = [⟨[], [Harvest.unreadable (Path.ofText s).text reason]⟩] := by
      have hagain : d.sourceText (Path.ofText (Path.ofText s).text) = .ok (.error reason) := by
        rw [Path.ofText_text, hsource]
      simp [partsOf, originsOf, filesOf, hfolder, hfile, Harvest.ofOrigin, hagain]
    refine ⟨((ps ++ qs).filter fun p => !d.denotes p).map absent ++
        (partsOf d ps).flatMap (·.errors), (partsOf d qs).flatMap (·.errors), ?_, ?_⟩
    · simp [collected, happend]
    · simp [collected, partsOf_insert, happend, hone, hdenotes]

/-- A discovery that succeeds could look up all that it came across. -/
theorem answered_of_discover {h : Harvest}
    (hdiscover : discover d (.array (ps.map .string)) = .ok h) (hne : ps ≠ []) :
    ∀ p ∈ ps, Answered Finder.default d p := by
  rw [discover_texts d hne, discoverPaths] at hdiscover
  cases hfind : Finder.default.find d ps with
  | error failure =>
    rw [hfind] at hdiscover
    cases hdiscover
  | ok found => exact Finder.answered_of_find hfind

/-- Where some path denotes something, a refusal comes from what could not be looked up. -/
theorem exists_find_eq_error {r : Refusal} (hdenotes : ∃ p ∈ ps, d.denotes p = true)
    (h : discover d (.array (ps.map .string)) = .error r) :
    ∃ failure, r = .discovery failure ∧ Finder.default.find d ps = .error failure := by
  cases hfind : Finder.default.find d ps with
  | ok found =>
    rw [discover_eq_ok (Finder.answered_of_find hfind) hdenotes] at h
    cases h
  | error failure =>
    obtain ⟨p, hp, -⟩ := hdenotes
    rw [discover_texts d (List.ne_nil_of_mem hp), discoverPaths, hfind] at h
    exact ⟨failure, (Except.error.inj h).symm, rfl⟩

theorem discover_of_find_eq_error {failure : Failure} (hne : ps ≠ [])
    (h : Finder.default.find d ps = .error failure) :
    discover d (.array (ps.map .string)) = .error (.discovery failure) := by
  rw [discover_texts d hne, discoverPaths, h]

/-- **An unusable path hides the others exactly if the disk refuses it.**  Put anywhere among
paths of which one at least denotes something, it adds its diagnostic at one place and leaves all
else as it was, a refusal for another reason included.  But if the disk refuses it as too long or
as locked, the discovery is refused, whatever it would have found without it. -/
theorem discover_insert (d : Disk) {ps qs : List Text} {s diagnostic : Text}
    (hs : Unusable d s diagnostic) (hdenotes : ∃ p ∈ ps ++ qs, d.denotes p = true) :
    ((∀ fault, ¬ d.IsRefused s fault) →
      (∀ h, discover d (.array ((ps ++ qs).map .string)) = .ok h → ∃ before behind,
        h.errors = before ++ behind ∧ discover d (.array ((ps ++ s :: qs).map .string)) =
          .ok ⟨h.examples, before ++ diagnostic :: behind⟩) ∧
      ∀ r, discover d (.array ((ps ++ qs).map .string)) = .error r →
        discover d (.array ((ps ++ s :: qs).map .string)) = .error r) ∧
    ∀ fault, d.IsRefused s fault → ∃ r, discover d (.array ((ps ++ s :: qs).map .string)) = .error r ∧
      r.code = "internal_error".toList ∧
      ∀ h, discover d (.array ((ps ++ qs).map .string)) = .ok h →
        r = .discovery (.disk fault (Path.ofText s).text) := by
  have hne : ps ++ qs ≠ [] := by
    obtain ⟨p, hp, -⟩ := hdenotes
    exact List.ne_nil_of_mem hp
  have hmore : ps ++ s :: qs ≠ [] := by simp
  refine ⟨fun hclear => ⟨fun h hh => ?_, fun r hr => ?_⟩, fun fault hrefused => ?_⟩
  · have hanswered := answered_of_discover hh hne
    obtain ⟨hps, hqs⟩ := List.forall_mem_append.1 hanswered
    have hall : ∀ p ∈ ps ++ s :: qs, Answered Finder.default d p :=
      List.forall_mem_append.2 ⟨hps, List.forall_mem_cons.2 ⟨hs.answered hclear, hqs⟩⟩
    have hsome : ∃ p ∈ ps ++ s :: qs, d.denotes p = true := by
      obtain ⟨p, hp, htrue⟩ := hdenotes
      refine ⟨p, ?_, htrue⟩
      rw [List.mem_append] at hp ⊢
      exact hp.imp_right (List.mem_cons_of_mem s)
    rw [discover_eq_ok hanswered hdenotes] at hh
    rw [discover_eq_ok hall hsome, ← Except.ok.inj hh]
    obtain ⟨before, behind, herrors, hinsert⟩ := hs.collected_insert ps qs
    exact ⟨before, behind, herrors, congrArg _ hinsert⟩
  · obtain ⟨failure, rfl, hfind⟩ := exists_find_eq_error hdenotes hr
    have hexpand := Finder.expand_eq_ok (hs.answered hclear)
    exact discover_of_find_eq_error hmore (Finder.find_insert_eq_error hexpand hfind)
  · have hnot : ¬ ∀ p ∈ ps ++ s :: qs, Answered Finder.default d p := fun hall =>
      hrefused.not_answers (hall s (by simp)).given
    obtain ⟨r, hr, hcode⟩ := (discover_internal_iff hmore).2 hnot
    refine ⟨r, hr, hcode, fun h hh => ?_⟩
    have hps := (List.forall_mem_append.1 (answered_of_discover hh hne)).1
    have hinsert := Finder.find_insert_of_isRefused hrefused hps qs
    have hfind := discover_of_find_eq_error hmore hinsert
    exact Except.error.inj (hr.symm.trans hfind)

end

/-- A path below a file. -/
def beneath : Text := "src/a.ts/b".toList

/-- A path with a name that no file can have. -/
def endless : Text := List.replicate 256 'a'

theorem discover_insert_small :
    (Unusable small beneath (absent beneath) ∧ (∀ fault, ¬ small.IsRefused beneath fault) ∧
      Unusable small endless (absent endless) ∧ small.IsRefused endless .tooLong ∧
      ∃ p ∈ ["src".toList] ++ [], small.denotes p = true) ∧
    ∃ h, discover small (.array (["src".toList].map .string)) = .ok h ∧
      (∃ before behind, h.errors = before ++ behind ∧
        discover small (.array (["src".toList, beneath].map .string)) =
          .ok ⟨h.examples, before ++ absent beneath :: behind⟩) ∧
      discover small (.array (["src".toList, endless].map .string)) =
        .error (.discovery (.disk .tooLong (Path.ofText endless).text)) := by
  have hbelow : small.stat (Path.ofText beneath).text = .error .notFolder := by decide +kernel
  have hbeneath : Unusable small beneath (absent beneath) :=
    .nothing (Disk.denotes_eq_false (.inr ⟨.notFolder, hbelow⟩))
  have hclear (fault : Fault) (h : small.IsRefused beneath fault) : False := by
    obtain rfl := Except.error.inj (hbelow.symm.trans h.stat_eq)
    exact absurd h.no_answer (by decide)
  have hlong : small.IsRefused endless .tooLong := by decide +kernel
  have hendless : Unusable small endless (absent endless) :=
    .nothing (Disk.denotes_eq_false (.inr ⟨.tooLong, hlong.stat_eq⟩))
  have hdenotes : ∃ p ∈ ["src".toList] ++ [], small.denotes p = true :=
    ⟨_, List.mem_cons_self, by decide +kernel⟩
  have hfound := discover_eq_ok (List.forall_mem_singleton.2 answered_src) hdenotes
  obtain ⟨r, hr, -, hreason⟩ := (discover_insert small hendless hdenotes).2 .tooLong hlong
  refine ⟨⟨hbeneath, hclear, hendless, hlong, hdenotes⟩, _, hfound,
    ((discover_insert small hbeneath hdenotes).1 hclear).1 _ hfound, ?_⟩
  rw [← hreason _ hfound]
  exact hr

end Service
end DocExamples
