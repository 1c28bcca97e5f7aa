/-
# Declarations

A declaration begins with a keyword and a name, after any number of modifiers:

    export default async function* entries
    declare const enum Colour

`const enum` and `function*` count as keywords; the star may touch either of its
neighbours.  Where nothing that could be a name follows `const enum`, the name is
`enum` itself.
-/

import DocExamples.Text.Word

namespace DocExamples
namespace Declaration

/-- The words that introduce a name. -/
def keywords : List Text :=
  ["function".toList, "const".toList, "let".toList, "var".toList, "class".toList,
    "interface".toList, "type".toList, "enum".toList]

/-- The words that may stand before the keyword. -/
def modifiers : List Text :=
  ["export".toList, "default".toList, "declare".toList, "abstract".toList, "async".toList]

/-- What follows `const enum` and the blanks behind it. -/
def afterConstEnum? (s : Text) : Option Text :=
  (Text.spaced? "const".toList s).bind (Text.spaced? "enum".toList)

/-- What follows `function*` and the blanks behind it. -/
def afterGenerator? (s : Text) : Option Text := do
  let s ← Text.after? "function".toList s
  let s ← Text.after? ['*'] (Text.stripLeft s)
  return Text.stripLeft s

/-- The name behind a declaration keyword, where `name` reads names. -/
def named? (name : Text → Option (Text.Reading Text)) (s : Text) : Option (Text.Reading Text) :=
  (afterConstEnum? s).bind name <|> (afterGenerator? s).bind name <|>
    keywords.findSome? fun k => (Text.spaced? k s).bind name

/-- What follows one modifier. -/
def afterModifier? (s : Text) : Option Text := modifiers.findSome? (Text.spaced? · s)

theorem length_afterModifier?_lt {s rest : Text} (h : afterModifier? s = some rest) :
    rest.length < s.length := by
  obtain ⟨m, _, hm⟩ := List.exists_of_findSome?_eq_some h
  exact Text.length_spaced?_lt hm

/-- A text without the modifiers at its start. -/
def withoutModifiers (s : Text) : Text :=
  match _h : afterModifier? s with
  | some rest => withoutModifiers rest
  | none => s
termination_by s.length
decreasing_by exact length_afterModifier?_lt _h

theorem withoutModifiers_eq (s : Text) :
    withoutModifiers s = ((afterModifier? s).map withoutModifiers).getD s := by
  rw [withoutModifiers]
  split <;> simp [*]

/-- The name that the declaration at the start of a text declares. -/
def declared? (s : Text) : Option Text :=
  (named? Text.word? (withoutModifiers (Text.stripLeft s))).map (·.value)

end Declaration
end DocExamples
