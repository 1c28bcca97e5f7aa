/-
# The stack

What is nested is worked through by calls within calls, for which the stack has only so
much room.  How much is left depends on who calls, and is not known beforehand.
-/

namespace DocExamples

/-- How deep the stack lets something nest. -/
class Stack where
  /-- How many folders within folders are searched. -/
  folders : Nat
  /-- How many values within values are shown. -/
  values : Nat
  /-- How many folders within folders are removed. -/
  removals : Nat
  /-- How many missing folders, each within the next, are made for a folder. -/
  parents : Nat

/-- The room that is left of a thousand calls below a shallow one. -/
instance (priority := low) Stack.shallow : Stack := ⟨950, 950, 950, 950⟩

end DocExamples
