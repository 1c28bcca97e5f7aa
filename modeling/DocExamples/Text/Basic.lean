/-
# Texts

A text is a list of code points, and every offset counts code points.  Three
operations carry the whole library:

| operation | reads | law |
| --- | --- | --- |
| `after? m s` | what follows the mark `m` at the start of `s` | `s = m ++ rest` |
| `cut? m s` | both sides of the first `m` in `s` | `s = before ++ m ++ after` |
| `lines s` | the pieces between line feeds | `unlines (lines s) = s` |
-/

namespace DocExamples

/-- A text is the list of its code points. -/
abbrev Text := List Char

namespace Text

/-- What follows `mark` in a text that starts with it. -/
def after? : (mark s : Text) → Option Text
  | [], s => some s
  | _ :: _, [] => none
  | m :: mark, c :: s => if m = c then after? mark s else none

theorem after?_eq_some_iff {mark s rest : Text} :
    after? mark s = some rest ↔ s = mark ++ rest := by
  induction mark generalizing s with
  | nil => simp [after?, eq_comm]
  | cons m mark ih =>
    cases s with
    | nil => simp [after?]
    | cons c s =>
      by_cases h : m = c
      · simp [after?, h, ih]
      · simp [after?, h, Ne.symm h]

/-- Whether a text starts with `mark`. -/
def startsWith (mark s : Text) : Bool := (after? mark s).isSome

/-- A value read from the start of a text, and what follows it. -/
structure Reading (α : Type) where
  /-- What was read. -/
  value : α
  /-- The text behind it. -/
  rest : Text

/-- A text cut at one occurrence of a mark. -/
structure Cut where
  /-- What stands before the mark. -/
  before : Text
  /-- What stands after the mark. -/
  after : Text
deriving DecidableEq, Repr

/-- The cut at the first `mark`, where `seen` (reversed) stands before the text. -/
def cutFrom (mark : Text) : (seen s : Text) → Option Cut
  | seen, [] => (after? mark []).map fun rest => ⟨seen.reverse, rest⟩
  | seen, c :: s =>
    match after? mark (c :: s) with
    | some rest => some ⟨seen.reverse, rest⟩
    | none => cutFrom mark (c :: seen) s

/-- The cut at the first occurrence of `mark`. -/
def cut? (mark s : Text) : Option Cut := cutFrom mark [] s

theorem cutFrom_eq_some {mark seen s : Text} {k : Cut} (h : cutFrom mark seen s = some k) :
    seen.reverse ++ s = k.before ++ mark ++ k.after := by
  induction s generalizing seen with
  | nil =>
    obtain ⟨rest, hr, rfl⟩ := Option.map_eq_some_iff.1 h
    simp [after?_eq_some_iff.1 hr]
  | cons c s ih =>
    rw [cutFrom] at h
    split at h
    · next rest hr =>
      obtain rfl := Option.some.inj h
      simp [after?_eq_some_iff.1 hr]
    · simpa using ih h

/-- **A cut loses nothing.** -/
theorem eq_of_cut? {mark s : Text} {k : Cut} (h : cut? mark s = some k) :
    s = k.before ++ mark ++ k.after := by
  simpa using cutFrom_eq_some h

/-- The pieces of a text between the occurrences of a separator; there is
always at least one. -/
def pieces (sep : Char) (s : Text) : List Text :=
  s.foldr (fun c ps => if c = sep then [] :: ps else (c :: ps.headD []) :: ps.tail) [[]]

@[simp] theorem pieces_nil (sep : Char) : pieces sep [] = [[]] := rfl

theorem pieces_cons (sep c : Char) (s : Text) :
    pieces sep (c :: s) =
      if c = sep then [] :: pieces sep s
      else (c :: (pieces sep s).headD []) :: (pieces sep s).tail := rfl

theorem pieces_ne_nil (sep : Char) (s : Text) : pieces sep s ≠ [] := by
  cases s with
  | nil => simp
  | cons c s => rw [pieces_cons]; split <;> simp

/-- Texts with one separator between each two. -/
def joined (sep : Text) (ps : List Text) : Text := sep.intercalate ps

/-- **Pieces joined again are the text.** -/
theorem joined_pieces (sep : Char) (s : Text) : joined [sep] (pieces sep s) = s := by
  induction s with
  | nil => simp [joined, List.intercalate]
  | cons c s ih =>
    rw [pieces_cons]
    obtain ⟨p, ps, hp⟩ := List.exists_cons_of_ne_nil (pieces_ne_nil sep s)
    rw [hp] at ih ⊢
    split
    · next h => subst h; simpa [joined, List.intercalate] using ih
    · cases ps <;> simpa [joined, List.intercalate] using ih

/-- The lines of a text: its pieces between line feeds. -/
def lines (s : Text) : List Text := pieces '\n' s

/-- Lines written one below the other, without a last line feed. -/
def unlines (ls : List Text) : Text := joined ['\n'] ls

@[simp] theorem unlines_lines (s : Text) : unlines (lines s) = s := joined_pieces '\n' s

/-- A text without the copies of `c` at its end. -/
def withoutFinal (c : Char) (s : Text) : Text := (s.reverse.dropWhile (· == c)).reverse

end Text
end DocExamples
