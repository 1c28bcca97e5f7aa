/-
# The layout of programs

A program is one column of lines:

    opening      where the example comes from, and the import of its module
    statements   the example's own imports
    bindings     the exports as constants
    assertions   the two assertion functions
    header       the start of the function around the example
    body         the example's other lines, two spaces further in
    trailer      the end of the function, and its call

The body is read back from a program without knowing the example: no line of it is
the header, and none is a closing brace alone.
-/

import DocExamples.Program
import DocExamples.Proofs.Searching

namespace DocExamples
namespace Program

/-- The lines before the statements. -/
def opening (e : Example) (modulePath : Text) : List Text :=
  ["// Auto-generated test for: ".toList ++ e.name, "// From: ".toList ++ e.location, [],
    "import * as ".toList ++ moduleAlias ++ " from ".toList ++ Json.writeText modulePath ++
      ";".toList]

/-- The line that begins the function around the example. -/
def header : Text := "async function ".toList ++ runnerName ++ "() \x7b".toList

/-- The lines behind the body, up to the empty one behind the last line feed. -/
def trailer : List Text :=
  ["\x7d".toList, [], runnerName ++ "().catch((err) => \x7b".toList,
    "  console.error(err);".toList, "  process.exit(1);".toList, "\x7d);".toList, []]

/-- The lines of a program before its body, without the header. -/
def front (e : Example) (modulePath : Text) (imports exports : List Text) : List Text :=
  opening e modulePath ++ imports ++ bindings (ambient imports exports) ++ [[], assertions, []]

theorem front_ne_nil (e : Example) (modulePath : Text) (imports exports : List Text) :
    front e modulePath imports exports ≠ [] := by
  simp [front]

theorem unlines_blank_cons (ls : List Text) {ms : List Text} (hls : ls ≠ []) (hms : ms ≠ []) :
    Text.unlines (ls ++ [] :: ms) = Text.unlines ls ++ "\n\n".toList ++ Text.unlines ms := by
  rw [Text.unlines_append ls (List.cons_ne_nil [] ms), Text.ended_of_ne_nil hls,
    Text.unlines_cons_of_ne_nil [] hms, List.append_assoc, List.append_assoc]
  rfl

/-- **A program is one column of lines.** -/
theorem ofExample_eq (cwd modulePath : Text) (exports : List Text) (e : Example) :
    ofExample cwd modulePath exports e =
      Text.unlines (front e modulePath (Import.statements cwd e.origin (Text.lines e.code)) exports ++
        header :: ((Import.divide (Text.lines e.code)).others.map indented ++ trailer)) := by
  generalize hs : Import.statements cwd e.origin (Text.lines e.code) = statements
  generalize ho : (Import.divide (Text.lines e.code)).others = others
  have hbody : wrapped others ++ ['\n'] =
      Text.unlines (header :: (others.map indented ++ trailer)) := by
    have hne : header :: (others.map indented ++ trailer.dropLast) ≠ [] := List.cons_ne_nil _ _
    have hended := Text.unlines_append (header :: (others.map indented ++ trailer.dropLast))
      (List.cons_ne_nil [] [])
    rw [Text.ended_of_ne_nil hne, Text.unlines_singleton, List.append_nil] at hended
    rw [List.cons_append, List.append_assoc] at hended
    exact hended.symm
  have hfront : front e modulePath statements exports ++
      header :: (others.map indented ++ trailer) =
        (opening e modulePath ++ statements ++ bindings (ambient statements exports) ++
          [[], assertions]) ++ [] :: header :: (others.map indented ++ trailer) := by
    simp only [front, List.append_assoc, List.cons_append, List.nil_append]
  rw [hfront, unlines_blank_cons _ (by simp) (List.cons_ne_nil _ _), ← hbody, ofExample, hs, ho]
  exact List.append_assoc _ _ _

/-! ### The body -/

/-- The lines of the function around the example, as they stand in a program: those behind
the last header, up to a line that is a closing brace. -/
def bodyOf (program : Text) : List Text :=
  ((Text.lines program).reverse.takeWhile (· != header)).reverse.takeWhile (· != "\x7d".toList)

theorem head?_indented (l : Text) : ∀ c ∈ (indented l).head?, c = ' ' := by
  intro c hc
  rw [indented] at hc
  split at hc
  · exact absurd hc (by simp)
  · exact (Option.some.inj hc).symm

theorem indented_ne {c : Char} (hc : c ≠ ' ') (s l : Text) : indented l ≠ c :: s := by
  intro h
  exact hc (head?_indented l c (by rw [h]; rfl))

theorem notMem_indented {c : Char} (hc : c ≠ ' ') {l : Text} (h : c ∉ l) : c ∉ indented l := by
  rw [indented]
  split
  · exact List.not_mem_nil
  · simpa [hc] using h

theorem of_mem_trailer : ∀ l ∈ trailer, '\n' ∉ l ∧ l ≠ header := by decide +kernel

theorem lineFeed_notMem_behind {others : List Text} (h : ∀ l ∈ others, '\n' ∉ l) :
    ∀ l ∈ header :: (others.map indented ++ trailer), '\n' ∉ l := by
  intro l hl
  rcases List.mem_cons.1 hl with rfl | hl
  · decide +kernel
  · rcases List.mem_append.1 hl with hl | hl
    · obtain ⟨k, hk, rfl⟩ := List.mem_map.1 hl
      exact notMem_indented (by decide) (h k hk)
    · exact (of_mem_trailer l hl).1

theorem ne_header_of_mem_behind {others : List Text} :
    ∀ l ∈ others.map indented ++ trailer, l ≠ header := by
  have hheader : header.head? = some 'a' := rfl
  obtain ⟨s, hs⟩ := List.head?_eq_some_iff.1 hheader
  intro l hl
  rcases List.mem_append.1 hl with hl | hl
  · obtain ⟨k, _, rfl⟩ := List.mem_map.1 hl
    exact hs ▸ indented_ne (by decide) s k
  · exact (of_mem_trailer l hl).2

/-- **The body of a program is read back**, whatever stands before it. -/
theorem bodyOf_unlines {ls : List Text} (hls : ls ≠ []) {others : List Text}
    (h : ∀ l ∈ others, '\n' ∉ l) :
    bodyOf (Text.unlines (ls ++ header :: (others.map indented ++ trailer))) =
      others.map indented := by
  have hlines := Text.lines_unlines_append hls (List.cons_ne_nil _ _) (lineFeed_notMem_behind h)
  have hbehind : ∀ l ∈ (others.map indented ++ trailer).reverse, (l != header) = true :=
    fun l hl => bne_iff_ne.2 (ne_header_of_mem_behind l (List.mem_reverse.1 hl))
  have hbody : ∀ l ∈ others.map indented, (l != "\x7d".toList) = true := by
    intro l hl
    obtain ⟨k, _, rfl⟩ := List.mem_map.1 hl
    exact bne_iff_ne.2 (indented_ne (c := '\x7d') (by decide) [] k)
  rw [bodyOf, hlines, List.reverse_append, List.reverse_cons, List.append_assoc,
    List.takeWhile_append_of_pos hbehind, List.singleton_append,
    List.takeWhile_cons_of_neg (by simp), List.append_nil, List.reverse_reverse,
    List.takeWhile_append_of_pos hbody]
  simp [trailer]

end Program
end DocExamples
