/-
# Parts of paths, and waiting

Utilities that show the parts of the paths among their arguments, and one that only
waits.
-/

import DocExamples.Machine.Utility.Format
import DocExamples.Path.Lexical

namespace DocExamples
namespace Utility

/-- The last name of a path. -/
def nameOf (p : Text) : Text :=
  let trimmed := Text.withoutFinal '/' p
  if trimmed.isEmpty then p.take 1 else (trimmed.reverse.takeWhile (· != '/')).reverse

/-- A name without a suffix, unless nothing would be left. -/
def withoutSuffix (suffix name : Text) : Text :=
  match Text.after? suffix.reverse name.reverse with
  | some (x :: rest) => (x :: rest).reverse
  | _ => name

/-- Shows the last names of paths, without a suffix. -/
def basename (c : Call) : Effect :=
  let o := c.optionsWith [("multiple", 'a'), ("suffix", 's'), ("zero", 'z')] "s" "az"
  let ending := if o.has 'z' then ['\x00'] else ['\n']
  match o.fault with
  | some f => c.badOption 1 f
  | none =>
    match o.operands with
    | [] => c.refuseWithHint 1 "missing operand".toList
    | p :: more =>
      if o.has 'a' || o.has 's' then
        c.output ((p :: more).flatMap fun p =>
          withoutSuffix ((o.value? 's').getD []) (nameOf p) ++ ending)
      else
        match more with
        | [] => c.output (nameOf p ++ ending)
        | [suffix] => c.output (withoutSuffix suffix (nameOf p) ++ ending)
        | _ :: extra :: _ =>
          c.refuseWithHint 1 ("extra operand ".toList ++ Call.inQuotes extra)

/-- What stands before the last name of a path. -/
def folderOf (p : Text) : Text :=
  let trimmed := Text.withoutFinal '/' p
  if trimmed.isEmpty then (if p.isEmpty then Path.dot else ['/'])
  else
    let head := Lexical.folder trimmed
    if head.isEmpty then Path.dot else head

/-- Shows what stands before the last names of paths. -/
def dirname (c : Call) : Effect :=
  let o := c.optionsWith [("zero", 'z')] "" "z"
  let ending := if o.has 'z' then ['\x00'] else ['\n']
  match o.fault with
  | some f => c.badOption 1 f
  | none =>
    if o.operands.isEmpty then c.refuseWithHint 1 "missing operand".toList
    else c.output (o.operands.flatMap fun p => folderOf p ++ ending)

/-- A time that does not end, in milliseconds. -/
def endless : Nat := Nat.pow 10 18

/-- The factor of a unit of time in milliseconds. -/
def unitFactor? (s : Text) : Option Nat :=
  match s with
  | [] => some 1000
  | ['s'] => some 1000
  | ['m'] => some 60000
  | ['h'] => some 3600000
  | ['d'] => some 86400000
  | _ => none

/-- The milliseconds of a number of units; a time that is too long does not end. -/
def Spelling.time? (factor : Nat) : Spelling → Option Nat
  | .infinite => some endless
  | .noNumber => none
  | .binary c x => some (scaledTime 2 (factor * c) x)
  | .decimal c x => some (scaledTime 10 (factor * c) x)
where
  /-- The number `c · base ^ x` without its fraction. -/
  scaledTime (base c : Nat) (x : Int) : Nat :=
    if 0 ≤ x then min endless (if c = 0 then 0 else c * Nat.pow base (min x.toNat 64))
    else min endless (c / Nat.pow base (min (-x).toNat 1100))

/-- The milliseconds that a number with a unit stands for. -/
def duration? (s : Text) : Option Nat := do
  let sign := readSign (s.dropWhile Octet.isSpace)
  let number ← Spelling.read sign.rest
  let factor ← unitFactor? number.rest
  let time ← number.value.time? factor
  if sign.value && time != 0 then none else some time

/-- Waits. -/
def sleep (c : Call) : Effect :=
  let o := c.leadingOptionsWith [] "" ""
  match o.fault with
  | some f => c.badOption 1 f
  | none =>
    if o.operands.isEmpty then c.refuseWithHint 1 "missing operand".toList
    else
      match (o.operands.filter fun w => (duration? w).isNone).reverse with
      | last :: before =>
        let said (w : Text) : Text := "invalid time interval ".toList ++ Call.inQuotes w
        let refused := c.refuseWithHint 1 (said last)
        { refused with writes := before.reverse.map (c.complaint ∘ said) ++ refused.writes }
      | [] => { c.exit 0 with pause := (o.operands.filterMap duration?).foldl Nat.add 0 }

end Utility
end DocExamples
