/-
# Conditions

Conditions on texts, numbers and files, as a utility is told them in its arguments.
-/

import DocExamples.Machine.Utility.Call

namespace DocExamples
namespace Utility

/-- Whether a condition holds, or what is wrong with it. -/
abbrev Verdict := Except Text Bool

/-- The number in a comparison. -/
def testNumber (s : Text) : Except Text Int :=
  match Octet.integer? (Octet.trimmed s) with
  | some n => .ok n
  | none => .error ("Illegal number: ".toList ++ s)

/-- A condition with one argument. -/
def unaryTest (d : Disk) (op arg : Text) : Option Verdict :=
  let entry := d.stat (Octet.toText arg)
  let linkEntry := d.lstat (Octet.toText arg)
  let isThere := match entry with
    | .ok _ => true
    | .error _ => false
  let hasBit (bit : Nat) : Bool := match entry with
    | .ok (.file _ mode) => mode / bit % 2 = 1
    | _ => false
  match op with
  | ['-', 'n'] => some (.ok !arg.isEmpty)
  | ['-', 'z'] => some (.ok arg.isEmpty)
  | ['-', 'e'] => some (.ok isThere)
  | ['-', 'r'] => some (.ok isThere)
  | ['-', 'w'] => some (.ok isThere)
  | ['-', 'f'] => some (.ok (match entry with
    | .ok e => e.isFile
    | .error _ => false))
  | ['-', 'd'] => some (.ok (match entry with
    | .ok e => e.isFolder
    | .error _ => false))
  | ['-', 'x'] => some (.ok (match entry with
    | .ok (.file _ mode) => Entry.mayRun mode
    | .ok (.device _) => false
    | .ok _ => true
    | .error _ => false))
  | ['-', 's'] => some (.ok (match entry with
    | .ok (.file content _) => !content.isEmpty
    | .ok (.device _) => false
    | .ok _ => true
    | .error _ => false))
  | ['-', 'L'] => some (.ok (match linkEntry with
    | .ok e => e.isLink
    | .error _ => false))
  | ['-', 'h'] => some (.ok (match linkEntry with
    | .ok e => e.isLink
    | .error _ => false))
  | ['-', 'c'] => some (.ok (match entry with
    | .ok (.device _) => true
    | _ => false))
  | ['-', 'O'] => some (.ok isThere)
  | ['-', 'G'] => some (.ok isThere)
  | ['-', 'u'] => some (.ok (hasBit 2048))
  | ['-', 'g'] => some (.ok (hasBit 1024))
  | ['-', 'k'] => some (.ok (hasBit 512))
  | ['-', 't'] => some (.ok false)
  | ['-', 'p'] => some (.ok false)
  | ['-', 'b'] => some (.ok false)
  | ['-', 'S'] => some (.ok false)
  | _ => none

/-- A condition with two arguments. -/
def binaryTest (d : Disk) (op a b : Text) : Option Verdict :=
  let compare (f : Int → Int → Bool) : Verdict := do
    return f (← testNumber a) (← testNumber b)
  if op = "=".toList then some (.ok (a == b))
  else if op = "!=".toList then some (.ok (a != b))
  else if op = "<".toList then some (.ok (decide (a < b)))
  else if op = ">".toList then some (.ok (decide (b < a)))
  else if op = "-eq".toList then some (compare (· == ·))
  else if op = "-ne".toList then some (compare (· != ·))
  else if op = "-lt".toList then some (compare fun a b => decide (a < b))
  else if op = "-le".toList then some (compare fun a b => decide (a ≤ b))
  else if op = "-gt".toList then some (compare fun a b => decide (b < a))
  else if op = "-ge".toList then some (compare fun a b => decide (b ≤ a))
  else if op = "-nt".toList ∨ op = "-ot".toList then some (.ok false)
  else if op = "-ef".toList then
    some (.ok (match d.locate true (Octet.toText a), d.locate true (Octet.toText b) with
      | .ok x, .ok y => x.location == y.location && x.entry.isSome
      | _, _ => false))
  else none

mutual

/-- A condition of alternatives, and the arguments left. -/
def testOr (d : Disk) : (fuel : Nat) → List Text → Except Text (Bool × List Text)
  | 0, _ => .error "too complex".toList
  | fuel + 1, args => do
    let (a, rest) ← testAnd d fuel args
    match rest with
    | ['-', 'o'] :: rest => do
      let (b, rest) ← testOr d fuel rest
      return (a || b, rest)
    | _ => return (a, rest)

/-- A condition of parts that all have to hold. -/
def testAnd (d : Disk) : (fuel : Nat) → List Text → Except Text (Bool × List Text)
  | 0, _ => .error "too complex".toList
  | fuel + 1, args => do
    let (a, rest) ← testNot d fuel args
    match rest with
    | ['-', 'a'] :: rest => do
      let (b, rest) ← testAnd d fuel rest
      return (a && b, rest)
    | _ => return (a, rest)

/-- A single condition, or one that is denied. -/
def testNot (d : Disk) : (fuel : Nat) → List Text → Except Text (Bool × List Text)
  | 0, _ => .error "too complex".toList
  | fuel + 1, args =>
    match args with
    | a :: op :: b :: rest =>
      match binaryTest d op a b with
      | some v => v.map (·, rest)
      | none => testSimple d fuel args
    | _ => testSimple d fuel args

/-- A condition that is no comparison. -/
def testSimple (d : Disk) : (fuel : Nat) → List Text → Except Text (Bool × List Text)
  | 0, _ => .error "too complex".toList
  | fuel + 1, args =>
    match args with
    | [] => .error "argument expected".toList
    | [_, op] =>
      if (binaryTest d op [] []).isSome then .error (op ++ ": argument expected".toList)
      else testOperand d fuel args
    | args => testOperand d fuel args

/-- A condition that is no comparison and does not lack an argument. -/
def testOperand (d : Disk) : (fuel : Nat) → List Text → Except Text (Bool × List Text)
  | 0, _ => .error "too complex".toList
  | fuel + 1, args =>
    match args with
    | [] => .error "argument expected".toList
    | ['!'] :: a :: rest => (testNot d fuel (a :: rest)).map fun r => (!r.1, r.2)
    | ['('] :: a :: rest => do
      let (v, rest) ← testOr d fuel (a :: rest)
      match rest with
      | [')'] :: rest => return (v, rest)
      | _ => throw "closing paren expected".toList
    | op :: a :: rest =>
      match unaryTest d op a with
      | some v => v.map (·, rest)
      | none => .ok (!op.isEmpty, a :: rest)
    | [a] => .ok (!a.isEmpty, [])

end

/-- Whether arguments state a condition that holds. -/
def holds (d : Disk) (args : List Text) : Verdict :=
  match args with
  | [] => .ok false
  | [a] => .ok !a.isEmpty
  | args => do
    let (v, rest) ← testOr d (5 * args.length + 10) args
    if rest.isEmpty then return v
    else
      let used := args.take (args.length - rest.length)
      throw (used.getLastD [] ++ ": unexpected operator".toList)

/-- Exits with 0 if a condition holds, with 1 if it does not, and with 2 if it is none. -/
def test (c : Call) : Effect :=
  match holds c.disk c.arguments with
  | .ok true => c.exit 0
  | .ok false => c.exit 1
  | .error m => c.refuse 2 m

/-- The same for a condition that ends with a square bracket. -/
def bracket (c : Call) : Effect :=
  if c.arguments.getLast? = some [']'] then test { c with arguments := c.arguments.dropLast }
  else c.refuse 2 "missing ]".toList

end Utility
end DocExamples
