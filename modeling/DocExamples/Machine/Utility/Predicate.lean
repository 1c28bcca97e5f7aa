/-
# Conditions of a program of its own

The program `test` reads its arguments by their number, so that an operator may also
be a text that is looked at.

| arguments | condition |
| --- | --- |
| 1 | the text is not empty |
| 2 | `!` and a text, or an operator and what it is about |
| 3 | a comparison, `!` and two arguments, or a text in brackets |
| 4 | `!` and three arguments, or two arguments in brackets |
| more, or none of these | parts joined by `-a` and `-o` |
-/

import DocExamples.Machine.Utility.Condition

namespace DocExamples
namespace Utility
namespace Predicate

/-- A condition read from the start of arguments: whether it holds, and the arguments left. -/
abbrev Read := Except Text (Bool × List Text)

/-- What conditions are about. -/
structure Topic where
  /-- The disk. -/
  disk : Disk
  /-- The last argument. -/
  last : Text

/-- What is said where arguments end too soon. -/
def Topic.lacking (t : Topic) : Text := "missing argument after ".toList ++ Quoting.curly t.last

/-- The number in a comparison. -/
def number (s : Text) : Except Text Int :=
  match Octet.integer? (Octet.trimmed s) with
  | some n => .ok n
  | none => .error ("invalid integer ".toList ++ Quoting.curly s)

/-- Comparisons of numbers. -/
def comparisons : List (String × (Int → Int → Bool)) :=
  [("-eq", (· == ·)), ("-ne", (· != ·)), ("-lt", (decide <| · < ·)), ("-le", (decide <| · ≤ ·)),
    ("-gt", (decide <| · > ·)), ("-ge", (decide <| · ≥ ·))]

/-- The comparison of numbers by its operator. -/
def comparison? (op : Text) : Option (Int → Int → Bool) := comparisons.lookup (String.ofList op)

/-- Whether a text is an operator between two others. -/
def isBinary (op : Text) : Bool :=
  (comparison? op).isSome || ["=", "==", "!=", "-nt", "-ot", "-ef"].any fun o => o.toList == op

/-- Whether a text has the form of an operator before another text. -/
def hasUnaryForm : Text → Bool
  | ['-', _] => true
  | _ => false

/-- A comparison of two texts, numbers or files. -/
def compared (t : Topic) (op a b : Text) : Except Text Bool :=
  match comparison? op with
  | some f => return f (← number a) (← number b)
  | none =>
    if op = "==".toList then .ok (a == b)
    else (binaryTest t.disk op a b).getD (.ok false)

/-- A condition that an operator states about what follows it. -/
def unary (t : Topic) : List Text → Read
  | op :: rest =>
    if op = "-N".toList || (unaryTest t.disk op []).isSome then
      match rest with
      | [] => .error t.lacking
      | a :: rest => do
        if op = "-t".toList then
          let _ ← number a
        return (← (unaryTest t.disk op a).getD (.ok false), rest)
    else .error (Quoting.curly op ++ ": unary operator expected".toList)
  | [] => .error t.lacking

/-- The number of arguments up to a closing bracket, if there are four at most, or else of all. -/
def countInBrackets (args : List Text) : Nat :=
  let count := 1 + ((args.drop 1).takeWhile (· != [')'])).length
  if 4 < count then args.length else count

/-- The opposite of a condition. -/
def denied (r : Read) : Read := r.map fun v => (!v.1, v.2)

mutual

/-- A condition of so many arguments. -/
def byCount (t : Topic) : (fuel : Nat) → (count : Nat) → List Text → Read
  | 0, _, _ => .error t.lacking
  | fuel + 1, count, args =>
    match count, args with
    | 1, a :: rest => .ok (!a.isEmpty, rest)
    | 2, args => ofTwo t args
    | 3, args => ofThree t fuel args
    | 4, ['!'] :: rest => denied (ofThree t fuel rest)
    | 4, ['('] :: a :: b :: [')'] :: rest => do
      let r ← ofTwo t [a, b]
      return (r.1, rest)
    | _, args => anyOf t fuel args

/-- A condition of two arguments. -/
def ofTwo (t : Topic) : List Text → Read
  | ['!'] :: a :: rest => .ok (a.isEmpty, rest)
  | op :: rest => if hasUnaryForm op then unary t (op :: rest) else .error t.lacking
  | [] => .error t.lacking

/-- A condition of three arguments. -/
def ofThree (t : Topic) : (fuel : Nat) → List Text → Read
  | 0, _ => .error t.lacking
  | fuel + 1, args =>
    match args with
    | a :: op :: b :: rest =>
      if isBinary op then (compared t op a b).map (·, rest)
      else if a = ['!'] then denied (ofTwo t (op :: b :: rest))
      else if a = ['('] ∧ b = [')'] then .ok (!op.isEmpty, rest)
      else if op = "-a".toList ∨ op = "-o".toList then anyOf t fuel args
      else .error (Quoting.curly op ++ ": binary operator expected".toList)
    | _ => .error t.lacking

/-- Alternatives, one of which has to hold. -/
def anyOf (t : Topic) : (fuel : Nat) → List Text → Read
  | 0, _ => .error t.lacking
  | fuel + 1, args => do
    let (a, rest) ← allOf t fuel args
    match rest with
    | ['-', 'o'] :: rest => do
      let (b, rest) ← anyOf t fuel rest
      return (a || b, rest)
    | _ => return (a, rest)

/-- Parts that all have to hold. -/
def allOf (t : Topic) : (fuel : Nat) → List Text → Read
  | 0, _ => .error t.lacking
  | fuel + 1, args => do
    let (a, rest) ← term t fuel args
    match rest with
    | ['-', 'a'] :: rest => do
      let (b, rest) ← allOf t fuel rest
      return (a && b, rest)
    | _ => return (a, rest)

/-- A single part. -/
def term (t : Topic) : (fuel : Nat) → List Text → Read
  | 0, _ => .error t.lacking
  | fuel + 1, args =>
    match args with
    | [] => .error t.lacking
    | ['!'] :: rest => denied (term t fuel rest)
    | ['('] :: [] => .error t.lacking
    | ['('] :: rest => do
      let (v, rest) ← byCount t fuel (countInBrackets rest) rest
      match rest with
      | [')'] :: rest => return (v, rest)
      | a :: _ =>
        throw (Quoting.curly [')'] ++ " expected, found ".toList ++ Quoting.curly a)
      | [] => throw (Quoting.curly [')'] ++ " expected".toList)
    | a :: op :: b :: rest =>
      if isBinary op then (compared t op a b).map (·, rest)
      else if hasUnaryForm a then unary t args
      else .ok (!a.isEmpty, op :: b :: rest)
    | a :: rest => if hasUnaryForm a then unary t args else .ok (!a.isEmpty, rest)

end

/-- Whether arguments state a condition that holds. -/
def holds (d : Disk) (args : List Text) : Verdict :=
  if args.isEmpty then .ok false
  else do
    let (v, rest) ← byCount ⟨d, args.getLastD []⟩ (6 * args.length + 10) args.length args
    match rest with
    | [] => return v
    | a :: _ => throw ("extra argument ".toList ++ Quoting.curly a)

end Predicate

/-- Exits with 0 if a condition holds, with 1 if it does not, and with 2 if it is none. -/
def testProgram (c : Call) : Effect :=
  match Predicate.holds c.disk c.arguments with
  | .ok true => c.exit 0
  | .ok false => c.exit 1
  | .error m => c.refuse 2 m

/-- The same for a condition that ends with a square bracket. -/
def bracketProgram (c : Call) : Effect :=
  if c.arguments.getLast? = some [']'] then testProgram { c with arguments := c.arguments.dropLast }
  else c.refuse 2 ("missing ".toList ++ Quoting.curly [']'])

end Utility
end DocExamples
