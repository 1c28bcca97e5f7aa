/-
# Where relative specifiers lead

A module specifier is relative if its first component is a dot or two.  One that goes on behind a
slash is replaced by the path that it leads to from the folder of the origin, which is an absolute
path.  A component alone names a folder, and stays as it is:

| specifier | in a program for `/w/src/m.ts` |
| --- | --- |
| `./a.js` | `/w/src/a.js` |
| `..//b` | `/w/b` |
| `../` | `/w` |
| `.`, `..` | `.`, `..` |

An import statement on one line of an example stays on one line, among the statements that the
lines around it make.
-/

import DocExamples.Proofs.Anchoring
import DocExamples.Proofs.Lookup
import Mathlib.Data.List.TakeWhile

namespace DocExamples

namespace Lexical
open Text

/-- What begins with a slash still does after something is cut off at its end, but not all of it. -/
theorem head?_reverse_dropWhile {p : Char → Bool} {s : Text} (h : s.head? = some '/')
    (hsome : ∃ c ∈ s, p c = false) : (s.reverse.dropWhile p).reverse.head? = some '/' := by
  have hne : (s.reverse.dropWhile p).reverse ≠ [] := by
    obtain ⟨c, hc, hp⟩ := hsome
    rw [Ne, List.reverse_eq_nil_iff, List.dropWhile_eq_nil_iff]
    exact fun hall => Bool.false_ne_true (hp.symm.trans (hall c (List.mem_reverse.2 hc)))
  have hprefix : (s.reverse.dropWhile p).reverse <+: s := by
    have hsuffix := List.reverse_prefix.2 (List.dropWhile_suffix (l := s.reverse) p)
    rwa [List.reverse_reverse] at hsuffix
  obtain ⟨rest, hrest⟩ := hprefix
  rwa [← hrest, List.head?_append_of_ne_nil _ hne] at h

/-- The folder of an absolute path text is absolute. -/
theorem head?_folder {s : Text} (h : s.head? = some '/') : (folder s).head? = some '/' := by
  have hhead : (s.reverse.dropWhile (· != '/')).reverse.head? = some '/' :=
    head?_reverse_dropWhile h ⟨'/', List.mem_of_head? h, rfl⟩
  simp only [folder]
  split
  · exact hhead
  · next hall =>
    refine head?_reverse_dropWhile hhead ?_
    simpa using hall

theorem head?_slashed {s : Text} (h : s.head? = some '/') : (slashed s).head? = some '/' := by
  rw [slashed, List.head?_map, h]
  rfl

/-! ### What path texts are made of -/

section Characters

variable {P : Char → Prop} {s : Text}

/-- A component that is left was there before. -/
theorem mem_foldl_push {rooted : Bool} {n : Text} {cs done : List Text}
    (h : n ∈ cs.foldl (push rooted) done) : n ∈ cs ∨ n ∈ done := by
  induction cs generalizing done with
  | nil => exact .inr h
  | cons c cs ih =>
    rw [List.foldl_cons] at h
    rcases ih h with hn | hn
    · exact .inl (List.mem_cons_of_mem c hn)
    · rcases push_cases rooted done c with hsuffix | ⟨-, hpush⟩
      · exact .inr (hsuffix.mem hn)
      · rw [hpush] at hn
        rcases List.mem_cons.1 hn with rfl | hn
        · exact .inl List.mem_cons_self
        · exact .inr hn

theorem forall_normal (hslash : P '/') (hdot : P '.') (h : ∀ c ∈ s, P c) :
    ∀ c ∈ normal s, P c := by
  intro c hc
  simp only [normal] at hc
  split at hc
  · exact List.mem_singleton.1 hc ▸ hdot
  · rcases List.mem_append.1 hc with hc | hc
    · rcases Path.rootOf_eq s with hroot | hroot | hroot <;> rw [hroot] at hc <;> simp_all
    · rcases mem_joined hc with hc | ⟨n, hn, hc⟩
      · exact List.mem_singleton.1 hc ▸ hslash
      · rcases mem_foldl_push (List.mem_reverse.1 hn) with hn | hn
        · exact h c (mem_of_mem_pieces hn hc)
        · exact absurd hn List.not_mem_nil

theorem forall_join {folder : Text} (hslash : P '/') (hfolder : ∀ c ∈ folder, P c)
    (h : ∀ c ∈ s, P c) : ∀ c ∈ join folder s, P c := by
  rw [join]
  split
  · exact h
  · split
    · exact List.forall_mem_append.2 ⟨hfolder, h⟩
    · exact List.forall_mem_append.2 ⟨hfolder, List.forall_mem_cons.2 ⟨hslash, h⟩⟩

theorem forall_absolute {cwd : Text} (hslash : P '/') (hdot : P '.') (hcwd : ∀ c ∈ cwd, P c)
    (h : ∀ c ∈ s, P c) : ∀ c ∈ absolute cwd s, P c := by
  refine forall_normal hslash hdot ?_
  split
  · exact h
  · exact forall_join hslash hcwd h

theorem forall_folder (h : ∀ c ∈ s, P c) : ∀ c ∈ folder s, P c := by
  have hcut {p : Char → Bool} {t : Text} (ht : ∀ c ∈ t, P c) :
      ∀ c ∈ (t.reverse.dropWhile p).reverse, P c := fun c hc =>
    ht c (List.mem_reverse.1 (List.dropWhile_subset p (List.mem_reverse.1 hc)))
  simp only [folder]
  split
  · exact hcut h
  · exact hcut (hcut h)

theorem forall_slashed (hslash : P '/') (h : ∀ c ∈ s, P c) : ∀ c ∈ slashed s, P c := by
  intro c hc
  obtain ⟨d, hd, rfl⟩ := List.mem_map.1 hc
  split
  · exact hslash
  · exact h d hd

end Characters

end Lexical

namespace Import
open Text

/-! ### Targets -/

/-- The path that stands for a relative specifier of an example. -/
def target (cwd origin spec : Text) : Text :=
  Lexical.slashed (Lexical.normal (Lexical.join (originFolder cwd origin) spec))

/-- **Targets are absolute.** -/
theorem head?_target {cwd : Text} (h : cwd.head? = some '/') (origin spec : Text) :
    (target cwd origin spec).head? = some '/' :=
  Lexical.head?_slashed (Lexical.head?_normal (Lexical.head?_join
    (Lexical.head?_folder (Lexical.head?_absolute h origin)) spec))

/-- **Targets have no characters of their own** but slashes and dots. -/
theorem forall_target {P : Char → Prop} {cwd origin spec : Text} (hslash : P '/') (hdot : P '.')
    (hcwd : ∀ c ∈ cwd, P c) (horigin : ∀ c ∈ origin, P c) (hspec : ∀ c ∈ spec, P c) :
    ∀ c ∈ target cwd origin spec, P c :=
  Lexical.forall_slashed hslash (Lexical.forall_normal hslash hdot (Lexical.forall_join hslash
    (Lexical.forall_folder (Lexical.forall_absolute hslash hdot hcwd horigin)) hspec))

/-- A specifier whose first component is a dot or two. -/
def LeavesFolder (spec : Text) : Prop :=
  (pieces '/' spec).head? = some Path.dot ∨ (pieces '/' spec).head? = some Path.dotDot

instance {spec : Text} : Decidable (LeavesFolder spec) := inferInstanceAs (Decidable (_ ∨ _))

/-- Such a specifier is replaced if a slash stands behind the component. -/
theorem isRelative_iff_of_leavesFolder {spec : Text} (h : LeavesFolder spec) :
    isRelative spec = true ↔ '/' ∈ spec := by
  by_cases hslash : '/' ∈ spec
  · obtain ⟨first, rest, rfl, hfirst⟩ := List.eq_append_cons_of_mem hslash
    rw [LeavesFolder, pieces_append_cons hfirst] at h
    refine iff_of_true ?_ hslash
    rcases h with h | h <;> exact Option.some.inj h ▸ rfl
  · rw [LeavesFolder, pieces_of_notMem hslash] at h
    refine iff_of_false ?_ hslash
    rcases h with h | h <;> exact Option.some.inj h ▸ Bool.false_ne_true

/-! ### Statements on one line -/

theorem statements_append {cwd origin : Text} {front ls : List Text}
    (h : ¬ Continues (front ++ ls) front.length) :
    statements cwd origin (front ++ ls) =
      statements cwd origin front ++ statements cwd origin ls := by
  rw [statements, divide_append h, List.map_append]
  rfl

/-- A line that begins a statement is all of it if it opens no list, or if it is the last one. -/
theorem statements_cons {cwd origin line : Text} {behind : List Text}
    (himport : isImportLine line = true) (hwhole : opensList line = false ∨ behind = []) :
    statements cwd origin (line :: behind) =
      anchored (originFolder cwd origin) line :: statements cwd origin behind := by
  have hdivide : (divide (line :: behind)).statements = [line] :: (divide behind).statements := by
    rw [divide, divideFrom, if_pos himport]
    rcases hwhole with hopens | rfl
    · rw [hopens]
      rfl
    · split <;> rfl
  rw [statements, hdivide, List.map_cons, unlines_singleton]
  rfl

/-- **Relative specifiers become absolute.**  Of the relative specifiers in import statements on
one line, those with a slash are replaced by absolute paths, and nothing else in the statements
changes; a dot or two alone stay. -/
theorem statements_of_leavesFolder (d : Disk) (origin : Text) (f : Frame) {code spec : Text}
    {front behind : List Text} (hspec : ∀ c ∈ spec, isQuote c = false)
    (hleaves : LeavesFolder spec) (hcode : lines code = front ++ f.around spec :: behind)
    (hbegins : HasRole (lines code) front.length .begins)
    (hwhole : opensList (f.around spec) = false ∨ behind = []) :
    ∃ spec', statements d.cwdText origin (lines code) =
        statements d.cwdText origin front ++
          f.around spec' :: statements d.cwdText origin behind ∧
      ('/' ∈ spec → spec' = target d.cwdText origin spec ∧ spec'.head? = some '/') ∧
      ('/' ∉ spec → spec' = spec) := by
  rw [hcode] at hbegins ⊢
  have himport : isImportLine (f.around spec) = true := by simpa using hbegins.1
  rw [statements_append hbegins.2, statements_cons himport hwhole]
  by_cases hslash : '/' ∈ spec
  · refine ⟨target d.cwdText origin spec, ?_, fun _ => ⟨rfl, head?_target rfl origin spec⟩,
      fun h => absurd hslash h⟩
    rw [f.anchored_of_isRelative _ hspec ((isRelative_iff_of_leavesFolder hleaves).2 hslash)]
    rfl
  · have hstays : isRelative spec = false :=
      Bool.eq_false_iff.2 fun h => hslash ((isRelative_iff_of_leavesFolder hleaves).1 h)
    refine ⟨spec, ?_, fun h => absurd h hslash, fun _ => rfl⟩
    rw [f.anchored_of_not_isRelative _ hspec hstays]

/-- An import statement between two other lines. -/
def amidst : Text := "f();\n".toList ++ (crossed.around "..//b".toList ++ "\ng();".toList)

theorem statements_of_leavesFolder_amidst :
    (∀ c ∈ "..//b".toList, isQuote c = false) ∧ LeavesFolder "..//b".toList ∧
      lines amidst = ["f();".toList] ++ crossed.around "..//b".toList :: ["g();".toList] ∧
      HasRole (lines amidst) ["f();".toList].length .begins ∧
      (opensList (crossed.around "..//b".toList) = false ∨ ["g();".toList] = []) ∧
      ∃ spec', statements "/".toList "src/m.ts".toList (lines amidst) =
          statements "/".toList "src/m.ts".toList ["f();".toList] ++
            crossed.around spec' :: statements "/".toList "src/m.ts".toList ["g();".toList] ∧
        ('/' ∈ "..//b".toList →
          spec' = target "/".toList "src/m.ts".toList "..//b".toList ∧ spec'.head? = some '/') ∧
        ('/' ∉ "..//b".toList → spec' = "..//b".toList) := by
  have hspec : ∀ c ∈ "..//b".toList, isQuote c = false := by decide
  have hleaves : LeavesFolder "..//b".toList := by decide
  have hcode : lines amidst =
      ["f();".toList] ++ crossed.around "..//b".toList :: ["g();".toList] := by decide
  have hbegins : HasRole (lines amidst) ["f();".toList].length .begins :=
    hasRole_of_getElem? (by decide)
  have hwhole : opensList (crossed.around "..//b".toList) = false ∨ ["g();".toList] = [] :=
    .inl (by decide)
  exact ⟨hspec, hleaves, hcode, hbegins, hwhole,
    statements_of_leavesFolder ⟨[], [], 0o022, {}⟩ "src/m.ts".toList crossed hspec hleaves hcode hbegins
      hwhole⟩

example : target "/w".toList "src/m.ts".toList "./a.js".toList = "/w/src/a.js".toList ∧
    target "/w".toList "src/m.ts".toList "..//b".toList = "/w/b".toList ∧
    target "/w".toList "src/m.ts".toList "../".toList = "/w".toList := by
  decide

/-- A dot alone leads to no absolute path. -/
theorem not_absolute_dot :
    ¬ ∀ (d : Disk) (origin spec : Text) (f : Frame), (∀ c ∈ spec, c ≠ f.quote) →
      LeavesFolder spec → '\n' ∉ f.around spec → isImportLine (f.around spec) = true →
      ∃ spec', spec'.head? = some '/' ∧
        statements d.cwdText origin (lines (f.around spec)) = [f.around spec'] := by
  intro hall
  obtain ⟨spec', habsolute, hsame⟩ := hall ⟨[], [], 0o022, {}⟩ "src/m.ts".toList Path.dot crossed
    (by decide) (by decide) (by decide) (by decide)
  have hlines : lines (crossed.around Path.dot) = [crossed.around Path.dot] := by decide
  rw [hlines, statements_cons (by decide) (.inr rfl),
    crossed.anchored_of_not_isRelative _ (by decide) (by decide)] at hsame
  have haround : crossed.around Path.dot = crossed.around spec' := (List.cons.inj hsame).1
  have hspec : Path.dot = spec' :=
    List.append_cancel_right (List.cons.inj (List.append_cancel_left haround)).2
  rw [← hspec] at habsolute
  exact absurd habsolute (by decide)

end Import
end DocExamples
