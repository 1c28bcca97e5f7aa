/-
# Path texts

The text of a path that was read from a text is read as the same path again.  So it makes
no difference whether a path is given as it was written or in the text that it is shown
with.
-/

import DocExamples.Path.Basic
import DocExamples.Proofs.Searching

namespace DocExamples
namespace Text

theorem mem_of_mem_pieces {sep c : Char} {s p : Text} (hp : p ∈ pieces sep s) (hc : c ∈ p) :
    c ∈ s := by
  induction s generalizing p with
  | nil =>
    rw [pieces_nil, List.mem_singleton] at hp
    exact absurd (hp ▸ hc) List.not_mem_nil
  | cons d s ih =>
    obtain ⟨q, qs, hq⟩ := List.exists_cons_of_ne_nil (pieces_ne_nil sep s)
    rw [pieces_cons, hq] at hp
    rw [hq] at ih
    split at hp
    · rcases List.mem_cons.1 hp with rfl | hp
      · exact absurd hc List.not_mem_nil
      · exact List.mem_cons_of_mem _ (ih hp hc)
    · rcases List.mem_cons.1 hp with rfl | hp
      · rcases List.mem_cons.1 hc with rfl | hc
        · exact List.mem_cons_self
        · exact List.mem_cons_of_mem _ (ih List.mem_cons_self hc)
      · exact List.mem_cons_of_mem _ (ih (List.mem_cons_of_mem _ hp) hc)

theorem mem_joined {c : Char} {sep : Text} {ps : List Text} (h : c ∈ joined sep ps) :
    c ∈ sep ∨ ∃ p ∈ ps, c ∈ p := by
  cases ps with
  | nil => exact absurd h List.not_mem_nil
  | cons p ps =>
    rw [joined_cons, List.mem_append] at h
    rcases h with h | h
    · exact .inr ⟨p, List.mem_cons_self, h⟩
    · obtain ⟨q, hq, hc⟩ := List.mem_flatMap.1 h
      rcases List.mem_append.1 hc with hc | hc
      · exact .inl hc
      · exact .inr ⟨q, List.mem_cons_of_mem _ hq, hc⟩

end Text

namespace Path

/-- A name that reading a path text may give. -/
structure IsName (n : Text) : Prop where
  ne_nil : n ≠ []
  ne_dot : n ≠ dot
  slash_notMem : '/' ∉ n

instance {n : Text} : Decidable (IsName n) :=
  decidable_of_iff (n ≠ [] ∧ n ≠ dot ∧ '/' ∉ n)
    ⟨fun ⟨hnil, hdot, hslash⟩ => ⟨hnil, hdot, hslash⟩,
      fun h => ⟨h.ne_nil, h.ne_dot, h.slash_notMem⟩⟩

theorem isName_of_mem_namesOf {s n : Text} (h : n ∈ namesOf s) : IsName n := by
  obtain ⟨hpiece, hkept⟩ := List.mem_filter.1 h
  simp only [Bool.and_eq_true, Bool.not_eq_true', List.isEmpty_eq_false_iff, bne_iff_ne] at hkept
  exact ⟨hkept.1, hkept.2, Text.notMem_of_mem_pieces hpiece⟩

theorem namesOf_joined {ns : List Text} (h : ∀ n ∈ ns, IsName n) :
    namesOf (Text.joined ['/'] ns) = ns := by
  cases ns with
  | nil => rfl
  | cons n ns =>
    rw [namesOf, Text.pieces_joined (List.cons_ne_nil n ns) fun m hm => (h m hm).slash_notMem,
      List.filter_eq_self]
    intro m hm
    simp [(h m hm).ne_nil, (h m hm).ne_dot]

/-- Joined names do not begin with a slash. -/
theorem head?_joined {ns : List Text} (h : ∀ n ∈ ns, IsName n) :
    (Text.joined ['/'] ns).head? ≠ some '/' := by
  cases ns with
  | nil => simp [Text.joined, List.intercalate]
  | cons n ns =>
    obtain ⟨c, n', rfl⟩ := List.exists_cons_of_ne_nil (h n List.mem_cons_self).ne_nil
    have hc : c ≠ '/' := fun hc => (h _ List.mem_cons_self).slash_notMem (hc ▸ List.mem_cons_self)
    have hhead : (Text.joined ['/'] ((c :: n') :: ns)).head? = some c := by
      rw [Text.joined_cons]
      rfl
    rw [hhead]
    exact fun he => hc (Option.some.inj he)

theorem rootOf_eq (s : Text) : rootOf s = [] ∨ rootOf s = ['/'] ∨ rootOf s = ['/', '/'] := by
  unfold rootOf
  split <;> simp

theorem rootOf_append {s : Text} (hs : s.head? ≠ some '/') (t : Text) :
    rootOf (rootOf t ++ s) = rootOf t := by
  have hnone : rootOf s = [] := by
    unfold rootOf
    split <;> simp_all
  cases s with
  | nil => rcases rootOf_eq t with h | h | h <;> rw [h] <;> rfl
  | cons c s =>
    have hc : c ≠ '/' := fun hc => hs (congrArg some hc)
    rcases rootOf_eq t with h | h | h
    · rw [h]
      exact hnone
    · rw [h]
      simp [rootOf, hc]
    · rw [h]
      simp [rootOf, hc]

/-- **Reading a path text leaves a path unchanged.** -/
theorem ofText_text (s : Text) : ofText (ofText s).text = ofText s := by
  have hnames : ∀ n ∈ namesOf s, IsName n := fun n hn => isName_of_mem_namesOf hn
  by_cases hempty : rootOf s = [] ∧ namesOf s = []
  · have htext : (ofText s).text = dot := by simp [text, ofText, hempty]
    rw [htext, ofText, ofText, hempty.1, hempty.2]
    rfl
  · have htext : (ofText s).text = rootOf s ++ Text.joined ['/'] (namesOf s) := by
      simp only [text, ofText, Bool.and_eq_true, List.isEmpty_iff, hempty, if_false]
    have hroot := rootOf_append (head?_joined hnames) s
    have hnamesOf : namesOf (rootOf s ++ Text.joined ['/'] (namesOf s)) = namesOf s := by
      rcases rootOf_eq s with h | h | h <;> rw [h] <;> exact namesOf_joined hnames
    rw [htext, ofText, ofText, hroot, hnamesOf]

/-- The text of a path has only slashes and dots beside the characters that it was read
from. -/
theorem notMem_text {c : Char} {s : Text} (hslash : c ≠ '/') (hdot : c ≠ '.') (h : c ∉ s) :
    c ∉ (ofText s).text := by
  have hroot : c ∉ rootOf s := by
    rcases rootOf_eq s with h | h | h <;> rw [h] <;> simp [hslash]
  rw [text]
  split
  · simpa [dot] using hdot
  · rw [List.mem_append, not_or]
    refine ⟨hroot, fun hmem => ?_⟩
    rcases Text.mem_joined hmem with hsep | ⟨n, hn, hc⟩
    · exact hslash (List.mem_singleton.1 hsep)
    · exact h (Text.mem_of_mem_pieces (List.mem_filter.1 hn).1 hc)

end Path
end DocExamples
