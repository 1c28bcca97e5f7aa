/-
# Arithmetic of the shell

Arithmetic expressions are read by precedence and computed on whole numbers of 64
bits, which wrap around.  Variables are looked up and assigned in an environment
that the caller gives.
-/

import DocExamples.Machine.Octet
import DocExamples.Machine.Shell.Syntax

namespace DocExamples
namespace Shell

/-- An operator between two operands. -/
inductive ArithOp where
  | mul | div | rem | add | sub | shiftLeft | shiftRight
  | lt | le | gt | ge | eq | ne | and | xor | or
deriving DecidableEq, Repr

/-- An arithmetic expression. -/
inductive Arith where
  /-- A number. -/
  | number (n : Int)
  /-- A variable. -/
  | variable (name : Text)
  /-- The opposite number. -/
  | neg (a : Arith)
  /-- Whether a number is zero. -/
  | not (a : Arith)
  /-- The number with all bits changed. -/
  | complement (a : Arith)
  /-- An operator between two operands. -/
  | binary (op : ArithOp) (a b : Arith)
  /-- Whether both operands are not zero. -/
  | both (a b : Arith)
  /-- Whether one of two operands is not zero. -/
  | either (a b : Arith)
  /-- A choice. -/
  | choice (c a b : Arith)
  /-- The value of an expression, or of an operator between a variable and it, assigned to
  the variable. -/
  | assign (name : Text) (op : Option ArithOp) (a : Arith)
deriving DecidableEq, Repr

namespace Arith

/-- A number wrapped to 64 bits. -/
def wrap (n : Int) : Int := n.bmod (Nat.pow 2 64)

/-- The value of a digit. -/
def digit (c : Char) : Nat :=
  if c.isDigit then c.toNat - 48
  else if 'a' ≤ c ∧ c ≤ 'f' then c.toNat - 87
  else if 'A' ≤ c ∧ c ≤ 'F' then c.toNat - 55
  else 99

/-- The digits of a base at the start of a text as a number, and what follows them. -/
def readDigits (base : Nat) (s : Text) : Int × Text :=
  let used := s.takeWhile fun c => digit c < base
  (Int.ofNat (used.foldl (fun n c => n * base + digit c) 0), s.drop used.length)

/-- The constant at the start of a text, and what follows it. -/
def readConstant (s : Text) : Option (Int × Text) :=
  match s with
  | '0' :: x :: d :: r =>
    if (x = 'x' ∨ x = 'X') ∧ digit d < 16 then some (readDigits 16 (d :: r))
    else some (readDigits 8 s)
  | '0' :: _ => some (readDigits 8 s)
  | c :: _ => if c.isDigit then some (readDigits 10 s) else none
  | [] => none

/-- An expression and what follows it. -/
abbrev Read := Option (Arith × Text)

/-- The text without blanks at its start. -/
def trimmed (s : Text) : Text := s.dropWhile fun c => c == ' ' || c == '\t' || c == '\n'

/-- The operators of each level, the weakest first. -/
def levels : List (List (String × ArithOp)) := [
  [("|", .or)], [("^", .xor)], [("&", .and)], [("==", .eq), ("!=", .ne)],
  [("<=", .le), (">=", .ge), ("<", .lt), (">", .gt)],
  [("<<", .shiftLeft), (">>", .shiftRight)], [("+", .add), ("-", .sub)],
  [("*", .mul), ("/", .div), ("%", .rem)]]

/-- The operator of a level that a text starts with: not part of a longer operator. -/
def operator? (level : List (String × ArithOp)) (s : Text) : Option (ArithOp × Text) :=
  level.findSome? fun o =>
    match Text.after? o.1.toList s with
    | some rest =>
      let next := rest.head?
      let longer := match o.1.toList with
        | ['|'] => next == some '|' || next == some '='
        | ['&'] => next == some '&' || next == some '='
        | ['<'] => next == some '<'
        | ['>'] => next == some '>'
        | ['=', '='] => false
        | ['!', '='] => false
        | ['<', '='] => false
        | ['>', '='] => false
        | _ => next == some '='
      if longer then none else some (o.2, rest)
    | none => none

/-- The operator of an assignment, and what follows it. -/
def assignment? (s : Text) : Option (Option ArithOp × Text) :=
  match s with
  | '=' :: '=' :: _ => none
  | '=' :: rest => some (none, rest)
  | s =>
    ([("+=", .add), ("-=", .sub), ("*=", .mul), ("/=", .div), ("%=", .rem), ("<<=", .shiftLeft),
      (">>=", .shiftRight), ("&=", .and), ("^=", .xor), ("|=", .or)] :
      List (String × ArithOp)).findSome? fun o => (Text.after? o.1.toList s).map (some o.2, ·)

mutual

/-- Reads an assignment, or a choice. -/
def readAssign : (fuel : Nat) → Text → Read
  | 0, _ => none
  | fuel + 1, s =>
    let s := trimmed s
    let name := s.takeWhile fun c => c.isAlphanum || c == '_'
    if isName name then
      match assignment? (trimmed (s.drop name.length)) with
      | some (op, rest) => do
        let (a, rest) ← readAssign fuel rest
        return (.assign name op a, rest)
      | none => readChoice fuel s
    else readChoice fuel s

/-- Reads a choice. -/
def readChoice : (fuel : Nat) → Text → Read
  | 0, _ => none
  | fuel + 1, s => do
    let (c, rest) ← readEither fuel s
    match trimmed rest with
    | '?' :: rest => do
      let (a, rest) ← readAssign fuel rest
      match trimmed rest with
      | ':' :: rest => do
        let (b, rest) ← readChoice fuel rest
        return (.choice c a b, rest)
      | _ => none
    | rest => return (c, rest)

/-- Reads alternatives. -/
def readEither : (fuel : Nat) → Text → Read
  | 0, _ => none
  | fuel + 1, s => do
    let (a, rest) ← readBoth fuel s
    match trimmed rest with
    | '|' :: '|' :: rest => do
      let (b, rest) ← readEither fuel rest
      return (.either a b, rest)
    | rest => return (a, rest)

/-- Reads conditions that all have to hold. -/
def readBoth : (fuel : Nat) → Text → Read
  | 0, _ => none
  | fuel + 1, s => do
    let (a, rest) ← readLevels fuel levels s
    match trimmed rest with
    | '&' :: '&' :: rest => do
      let (b, rest) ← readBoth fuel rest
      return (.both a b, rest)
    | rest => return (a, rest)

/-- Reads operands with the operators of some levels. -/
def readLevels : (fuel : Nat) → List (List (String × ArithOp)) → Text → Read
  | 0, _, _ => none
  | fuel + 1, [], s => readUnary fuel s
  | fuel + 1, level :: more, s => do
    let (a, rest) ← readLevels fuel more s
    readOperands fuel level more a rest

/-- Reads the operands that follow an operand. -/
def readOperands : (fuel : Nat) → List (String × ArithOp) → List (List (String × ArithOp)) →
    Arith → Text → Read
  | 0, _, _, _, _ => none
  | fuel + 1, level, more, a, s =>
    match operator? level (trimmed s) with
    | none => some (a, s)
    | some (op, rest) => do
      let (b, rest) ← readLevels fuel more rest
      readOperands fuel level more (.binary op a b) rest

/-- Reads an operand. -/
def readUnary : (fuel : Nat) → Text → Read
  | 0, _ => none
  | fuel + 1, s =>
    match trimmed s with
    | '-' :: rest => do
      let (a, rest) ← readUnary fuel rest
      return (.neg a, rest)
    | '+' :: rest => readUnary fuel rest
    | '!' :: rest => do
      let (a, rest) ← readUnary fuel rest
      return (.not a, rest)
    | '~' :: rest => do
      let (a, rest) ← readUnary fuel rest
      return (.complement a, rest)
    | '(' :: rest => do
      let (a, rest) ← readAssign fuel rest
      match trimmed rest with
      | ')' :: rest => return (a, rest)
      | _ => none
    | s =>
      let word := s.takeWhile fun c => c.isAlphanum || c == '_'
      let rest := s.drop word.length
      if isName word then some (.variable word, rest)
      else (readConstant s).map fun n => (.number n.1, n.2)

end

/-- The expression that a text spells, or what is wrong with it. -/
def read (s : Text) : Except Text Arith :=
  let wrong (m : String) : Except Text Arith :=
    .error ("arithmetic expression: ".toList ++ m.toList ++ ": \"".toList ++ s ++ ['"'])
  match readAssign (16 * s.length + 32) s with
  | some (a, rest) => if (trimmed rest).isEmpty then .ok a else wrong "expecting EOF"
  | none => wrong "expecting primary"

/-- The value of an operator between two operands; there is none for a division by zero. -/
def apply (op : ArithOp) (a b : Int) : Option Int :=
  let truth (p : Bool) : Option Int := some (if p then 1 else 0)
  let bits (f : BitVec 64 → BitVec 64 → BitVec 64) : Option Int :=
    some (f (BitVec.ofInt 64 a) (BitVec.ofInt 64 b)).toInt
  match op with
  | .mul => some (wrap (a * b))
  | .div => if b = 0 then none else some (wrap (a.tdiv b))
  | .rem => if b = 0 then none else some (wrap (a.tmod b))
  | .add => some (wrap (a + b))
  | .sub => some (wrap (a - b))
  | .shiftLeft => some (wrap (a * (Nat.pow 2 (b % 64).toNat : Nat)))
  | .shiftRight => some (a / (Nat.pow 2 (b % 64).toNat : Nat))
  | .lt => truth (a < b)
  | .le => truth (a ≤ b)
  | .gt => truth (b < a)
  | .ge => truth (b ≤ a)
  | .eq => truth (a == b)
  | .ne => truth (a != b)
  | .and => bits (· &&& ·)
  | .xor => bits (· ^^^ ·)
  | .or => bits (· ||| ·)

/-- A place where variables are kept. -/
structure Store (σ : Type) where
  /-- The text of a variable. -/
  get : σ → Text → Text
  /-- Assigns a text to a variable. -/
  put : σ → Text → Text → σ

variable {σ : Type}

/-- The number that the text of a variable spells. -/
def numberOf (s : Text) : Except Text Int :=
  let (negative, body) := match Octet.trimmed s with
    | '-' :: r => (true, r)
    | '+' :: r => (false, r)
    | r => (false, r)
  match readConstant body with
  | some (n, []) => .ok (if negative then -n else n)
  | _ => if s.isEmpty then .ok 0 else .error ("Illegal number: ".toList ++ s)

/-- The value of an expression, whose source is `source`. -/
def eval (store : Store σ) (source : Text) : Arith → σ → Except Text (Int × σ)
  | .number n, s => .ok (wrap n, s)
  | .variable name, s => do return (wrap (← numberOf (store.get s name)), s)
  | .neg a, s => do
    let (n, s) ← eval store source a s
    return (wrap (-n), s)
  | .not a, s => do
    let (n, s) ← eval store source a s
    return (if n = 0 then 1 else 0, s)
  | .complement a, s => do
    let (n, s) ← eval store source a s
    return (-n - 1, s)
  | .binary op a b, s => do
    let (n, s) ← eval store source a s
    let (m, s) ← eval store source b s
    match apply op n m with
    | some r => return (r, s)
    | none => throw ("arithmetic expression: division by zero: \"".toList ++ source ++ ['"'])
  | .both a b, s => do
    let (n, s) ← eval store source a s
    if n = 0 then return (0, s)
    else
      let (m, s) ← eval store source b s
      return (if m = 0 then 0 else 1, s)
  | .either a b, s => do
    let (n, s) ← eval store source a s
    if n ≠ 0 then return (1, s)
    else
      let (m, s) ← eval store source b s
      return (if m = 0 then 0 else 1, s)
  | .choice c a b, s => do
    let (n, s) ← eval store source c s
    if n ≠ 0 then eval store source a s else eval store source b s
  | .assign name op a, s => do
    let (n, s) ← eval store source a s
    let value ← match op with
      | none => pure n
      | some op => do
        let old ← numberOf (store.get s name)
        match apply op old n with
        | some r => pure r
        | none => throw ("arithmetic expression: division by zero: \"".toList ++ source ++ ['"'])
    return (value, store.put s name (Text.integer value))

end Arith
end Shell
end DocExamples
