/-
# Segments

A text is searched from left to right for pieces that a reader accepts: at each
position the reader is tried, an accepted piece is taken as a whole and the
search goes on behind it.  A reader sees the character before its position, so
that it can ask for a word boundary.  The result keeps what was skipped, so that
nothing of the text is lost:

    text = skipped₁ ++ taken₁ ++ … ++ skippedₙ ++ takenₙ ++ rest
-/

import DocExamples.Text.Basic

namespace DocExamples
namespace Text

/-- A piece found in a text. -/
structure Segment (α : Type) where
  /-- The text between the piece before and this one. -/
  skipped : Text
  /-- The piece itself. -/
  taken : Text
  /-- What the reader made of it. -/
  value : α

/-- All pieces found in a text, and the text behind the last of them. -/
structure Segmentation (α : Type) where
  /-- The pieces from left to right. -/
  segments : List (Segment α)
  /-- The text behind the last piece. -/
  tail : Text

namespace Segmentation

variable {α : Type}

/-- The text that a segmentation came from. -/
def source (g : Segmentation α) : Text :=
  (g.segments.flatMap fun p => p.skipped ++ p.taken) ++ g.tail

/-- The values of the pieces. -/
def values (g : Segmentation α) : List α := g.segments.map (·.value)

/-- The text with every piece replaced by another text. -/
def replaced (f : Segment α → Text) (g : Segmentation α) : Text :=
  (g.segments.flatMap fun p => p.skipped ++ f p) ++ g.tail

end Segmentation

variable {α : Type}

/-- Searches `s`, with `before` the character before it and `skipped` (reversed)
the text since the last piece.  A reading that takes nothing is passed over. -/
def segmentsFrom (read : Option Char → Text → Option (Reading α))
    (before : Option Char) (skipped s : Text) : Segmentation α :=
  match s with
  | [] => ⟨[], skipped.reverse⟩
  | c :: t =>
    match read before (c :: t) with
    | some r =>
      if _shorter : r.rest.length < (c :: t).length then
        let taken := (c :: t).take ((c :: t).length - r.rest.length)
        let more := segmentsFrom read taken.getLast? [] r.rest
        ⟨⟨skipped.reverse, taken, r.value⟩ :: more.segments, more.tail⟩
      else segmentsFrom read (some c) (c :: skipped) t
    | none => segmentsFrom read (some c) (c :: skipped) t
termination_by s.length
decreasing_by
  · assumption
  · exact Nat.lt_succ_self _
  · exact Nat.lt_succ_self _

/-- The pieces of a text that a reader accepts. -/
def segments (read : Option Char → Text → Option (Reading α)) (s : Text) : Segmentation α :=
  segmentsFrom read none [] s

/-- A reader is faithful if it returns a suffix of what it was given. -/
def Faithful (read : Option Char → Text → Option (Reading α)) : Prop :=
  ∀ before s r, read before s = some r → r.rest <:+ s

theorem source_segmentsFrom {read : Option Char → Text → Option (Reading α)}
    (hread : Faithful read) (before : Option Char) (skipped s : Text) :
    (segmentsFrom read before skipped s).source = skipped.reverse ++ s := by
  fun_induction segmentsFrom read before skipped s with
  | case1 => simp [Segmentation.source]
  | case2 before skipped c t r hr hlt taken more ih =>
    obtain ⟨front, hf⟩ := hread _ _ _ hr
    have htake : taken = front := by
      simp only [taken, ← hf, List.length_append, Nat.add_sub_cancel, List.take_left']
    simp only [Segmentation.source, List.flatMap_cons, List.append_assoc] at ih ⊢
    rw [ih, htake]
    simp [hf]
  | case3 before skipped c t r hr hlt ih => simpa using ih
  | case4 before skipped c t hr ih => simpa using ih

/-- **Searching loses nothing of the text.** -/
theorem source_segments {read : Option Char → Text → Option (Reading α)}
    (hread : Faithful read) (s : Text) : (segments read s).source = s := by
  simpa [segments] using source_segmentsFrom hread none [] s

end Text
end DocExamples
