/-
# Octets in place of octets

The utility `tr` replaces the octets of one set by those of another, in their order, or
deletes octets, or leaves one of several that follow one another.

A set is written as the list of its members.  Beside octets that stand for themselves,
and escapes behind a backslash, there are:

| part | members |
| --- | --- |
| `a-z` | a range |
| `[:digit:]` | a class of octets |
| `[=a=]` | an octet that is meant to have others like it, but has none |
| `[a*3]` | an octet so often, in octal digits if the first of them is zero |
| `[a*]` | an octet as often as the other set is longer |
-/

import DocExamples.Machine.Glob
import DocExamples.Machine.Utility.Streams

namespace DocExamples
namespace Utility

namespace Transliteration

/-! ## Sets as they are written -/

/-- An octet of a set as it is written. -/
structure Letter where
  /-- The octet. -/
  octet : Char
  /-- Whether it stands for itself, behind a backslash. -/
  escaped : Bool
deriving DecidableEq, Repr

/-- Whether a letter is an octet without a backslash. -/
def Letter.is (l : Letter) (c : Char) : Bool := l.octet == c && !l.escaped

/-- Letters, and warnings about what is ambiguous in them. -/
structure Unquoted where
  /-- The letters. -/
  letters : List Letter
  /-- The warnings. -/
  warnings : List Text

/-- What a letter behind a backslash stands for. -/
def escapeOf (c : Char) : Char :=
  match c with
  | 'n' => '\n'
  | 't' => '\t'
  | 'r' => '\r'
  | 'a' => '\x07'
  | 'b' => '\x08'
  | 'f' => '\x0c'
  | 'v' => '\x0b'
  | c => c

/-- The letters of a text. -/
def unquote : (fuel : Nat) → Text → Unquoted
  | 0, _ => ⟨[], []⟩
  | _, [] => ⟨[], []⟩
  | fuel + 1, '\\' :: s =>
    match s with
    | [] =>
      ⟨[⟨'\\', false⟩], ["warning: an unescaped backslash at end of string is not portable".toList]⟩
    | c :: rest =>
      if Octet.isOctal c then
        let digits := ((c :: rest).takeWhile Octet.isOctal).take 3
        let tooLarge := 255 < Octet.ofOctal digits
        let taken := if tooLarge then digits.take 2 else digits
        let more := unquote fuel ((c :: rest).drop taken.length)
        let said (ds : Text) : Text := '\\' :: ds
        let warning :=
          "warning: the ambiguous octal escape ".toList ++ said digits ++
            " is being\n\tinterpreted as the 2-byte sequence ".toList ++ said ('0' :: taken) ++
            ", ".toList ++ digits.drop 2
        ⟨⟨Char.ofNat (Octet.ofOctal taken), true⟩ :: more.letters,
          if tooLarge then warning :: more.warnings else more.warnings⟩
      else
        let more := unquote fuel rest
        ⟨⟨escapeOf c, true⟩ :: more.letters, more.warnings⟩
  | fuel + 1, c :: s =>
    let more := unquote fuel s
    ⟨⟨c, false⟩ :: more.letters, more.warnings⟩

/-! ## Parts of sets -/

/-- A part of a set. -/
inductive Part where
  /-- An octet. -/
  | single (c : Char)
  /-- A range of octets. -/
  | range (first last : Char)
  /-- A class of octets. -/
  | named (name : Text)
  /-- An octet that is meant to have others like it. -/
  | alike (c : Char)
  /-- An octet that is repeated; `none` for as often as the other set is longer. -/
  | repeated (c : Char) (count : Option Nat)
deriving DecidableEq, Repr

/-- The octets of a class, in order. -/
def classMembers (name : Text) : Text :=
  ((List.range 128).map Char.ofNat).filter fun c =>
    (CharSet.classRanges name).any fun r => r.first ≤ c && c ≤ r.last

/-- Whether letters of both cases make a class of their own. -/
def isCase (name : Text) : Bool := name = "upper".toList || name = "lower".toList

/-- The members of a part; one that is repeated as often as needed has `filling` of them. -/
def Part.members (filling : Nat) : Part → Text
  | .single c => [c]
  | .range first last =>
    (List.range (last.toNat + 1 - first.toNat)).map fun i => Char.ofNat (first.toNat + i)
  | .named name => classMembers name
  | .alike c => [c]
  | .repeated c count => List.replicate (count.getD filling) c

/-- Whether a part is repeated as often as needed. -/
def Part.isOpen : Part → Bool
  | .repeated _ none => true
  | _ => false

/-- Whether a part is a class. -/
def Part.isNamed : Part → Bool
  | .named _ => true
  | _ => false

/-- An octet as it is spoken of. -/
def spoken (c : Char) : Text :=
  if ' ' ≤ c ∧ c ≤ '~' then [c] else '\\' :: Text.octal 3 c.toNat

/-- Octets as they are spoken of. -/
def spokenAll (s : Text) : Text :=
  s.flatMap fun c =>
    match "\\\x07\x08\x0c\n\r\t\x0b".toList.idxOf? c with
    | some i => ['\\', "\\abfnrtv".toList.getD i '\\']
    | none => spoken c

/-- What is wrong with a set. -/
abbrev Read := Except Text (Part × List Letter)

/-- The letters before the end of a class or its like, and those behind it. -/
def cutAtEnd (sign : Char) : (seen : List Letter) → List Letter → Option (Text × List Letter)
  | seen, a :: b :: ls =>
    if a.is sign && b.is ']' then some ((seen.reverse).map (·.octet), ls)
    else cutAtEnd sign (a :: seen) (b :: ls)
  | _, _ => none

/-- The part in brackets that repeats an octet, behind the opening bracket; `none` if there is no
such part. -/
def readRepeated : List Letter → Option Read
  | c :: star :: ls =>
    if !star.is '*' then none
    else
      let inside := ls.takeWhile fun l => !l.escaped && l.octet != ']'
      match ls.drop inside.length with
      | [] => none
      | close :: rest =>
        if !close.is ']' then none
        else
          let digits := inside.map (·.octet)
          let base := if digits.head? = some '0' then 8 else 10
          let count := Octet.ofDigits base digits
          let isNumber := digits.all fun d => (Octet.digit? base d).isSome
          if digits.isEmpty then some (.ok (.repeated c.octet none, rest))
          else if !isNumber || Nat.pow 2 63 ≤ count then
            some (.error ("invalid repeat count ".toList ++ Call.inQuotes (spokenAll digits) ++
              " in [c*n] construct".toList))
          else
            some (.ok (.repeated c.octet (if count = 0 then none else some count), rest))
  | _ => none

/-- Whether a star, digits and a closing bracket follow. -/
def isStarred (ls : List Letter) : Bool :=
  match ls with
  | star :: ls =>
    let rest := ls.dropWhile fun l => l.octet.isDigit && !l.escaped
    star.is '*' && rest.head?.any (·.is ']')
  | [] => false

/-- The class or its like behind an opening bracket and a sign; `none` if there is no such part. -/
def readNamed : List Letter → Option Read
  | sign :: ls =>
    if !(sign.is ':' || sign.is '=') then none
    else
      match cutAtEnd sign.octet [] ls with
      | none => none
      | some (name, rest) =>
        if sign.is ':' then
          if name.isEmpty then some (.error "missing character class name '[::]'".toList)
          else if !(CharSet.classRanges name).isEmpty then some (.ok (.named name, rest))
          else if isStarred ls then none
          else some (.error ("invalid character class ".toList ++ Call.inQuotes (spokenAll name)))
        else
          match name with
          | [] => some (.error "missing equivalence class character '[==]'".toList)
          | [c] => some (.ok (.alike c, rest))
          | _ =>
            if isStarred ls then none
            else
              some (.error (spokenAll name ++
                ": equivalence class operand must be a single character".toList))
  | [] => none

/-- The part that letters begin with. -/
def readPart (l : Letter) (ls : List Letter) : Read :=
  let inBrackets :=
    if l.is '[' && 2 ≤ ls.length then (readNamed ls).orElse fun _ => readRepeated ls else none
  match inBrackets, ls with
  | some r, _ => r
  | none, dash :: last :: rest =>
    if !dash.is '-' then .ok (.single l.octet, ls)
    else if last.octet < l.octet then
      .error ("range-endpoints of '".toList ++ spoken l.octet ++ '-' :: spoken last.octet ++
        "' are in reverse collating sequence order".toList)
    else .ok (.range l.octet last.octet, rest)
  | none, _ => .ok (.single l.octet, ls)

/-- The parts that letters make. -/
def readParts : (fuel : Nat) → List Letter → Except Text (List Part)
  | 0, _ => .ok []
  | _, [] => .ok []
  | fuel + 1, l :: ls => do
    let (part, rest) ← readPart l ls
    return part :: (← readParts fuel rest)

/-! ## Two sets -/

/-- What is done with the octets of sets. -/
structure Task where
  /-- Whether the octets of the first set are deleted. -/
  deletes : Bool
  /-- Whether octets that follow one another are squeezed into one. -/
  squeezes : Bool
  /-- Whether the octets outside the first set are meant. -/
  complement : Bool
  /-- Whether the first set is made as short as the second. -/
  truncates : Bool

/-- The members of parts. -/
def members (filling : Nat) (ps : List Part) : Text := ps.flatMap (·.members filling)

/-- The octets of the first set. -/
def firstSet (t : Task) (ps : List Part) : Text :=
  let named := members 0 ps
  if t.complement then ((List.range 256).map Char.ofNat).filter fun c => !named.contains c
  else named

/-- The second set, repeated octets filled up to the length of the first. -/
def secondSet (length : Nat) (ps : List Part) : Text :=
  members (length - (members 0 ps).length) ps

/-- The places of a set, one for each member: how many of them a class of letters of one case
that begins there has, or zero. -/
def caseSizes (filling : Nat) (ps : List Part) : List Nat :=
  ps.flatMap fun p =>
    let size := (p.members filling).length
    match p with
    | .named name =>
      if isCase name then size :: List.replicate (size - 1) 0 else List.replicate size 0
    | _ => List.replicate size 0

/-- Whether each class of letters of one case in the second row of places begins where one in the
first does, as far as the first one goes.  Such classes are passed over as a whole. -/
def areAligned (first second : List Nat) : Bool :=
  match second, first with
  | [], _ => true
  | 0 :: _, [] => true
  | 0 :: bs, _ :: as => areAligned as bs
  | (n + 1) :: bs, (m + 1) :: as => areAligned (as.drop m) (bs.drop n)
  | (_ + 1) :: _, _ => false
termination_by second.length
decreasing_by all_goals (simp only [List.length_cons, List.length_drop]; omega)

/-- What is wrong with two sets when octets are replaced. -/
def mismatch? (t : Task) (first second : List Part) : Option String :=
  let a := firstSet t first
  let b := secondSet a.length second
  let filling := a.length - (members 0 second).length
  if second.any fun p => match p with
      | .alike _ => true
      | _ => false then
    some "[=c=] expressions may not appear in string2 when translating"
  else if second.any fun p => match p with
      | .named name => !isCase name
      | _ => false then
    some ("when translating, the only character classes that may appear in\n" ++
      "string2 are 'upper' and 'lower'")
  else if !t.complement && second.any (·.isNamed) &&
      !areAligned (caseSizes 0 first) (caseSizes filling second) then
    some "misaligned [:upper:] and/or [:lower:] construct"
  else if b.length < a.length && !t.truncates && b.isEmpty then
    some "when not truncating set1, string2 must be non-empty"
  else if b.length < a.length && !t.truncates && second.getLast?.any (·.isNamed) then
    some ("when translating with string1 longer than string2,\n" ++
      "the latter string must not end with a character class")
  else
    let filled := if t.truncates then b.length else max a.length b.length
    let isOne := b.all (· == b.headD ' ') && filled == a.length
    if t.complement && first.any (·.isNamed) && !isOne then
      some ("when translating with complemented character classes,\n" ++
        "string2 must map all characters in the domain to one")
    else none

/-- What is wrong with sets. -/
def fault? (t : Task) (first : List Part) (second : Option (List Part)) : Option String :=
  if first.any (·.isOpen) then some "the [c*] repeat construct may not appear in string1"
  else
    match second with
    | none => none
    | some ps =>
      let opens := ps.countP (·.isOpen)
      if 1 < opens then some "only one [c*] repeat construct may appear in string2"
      else if !t.deletes then mismatch? t first ps
      else if 0 < opens then
        some "the [c*] construct may appear in string2 only when translating"
      else none

/-- An octet text without repetitions of an octet that a set holds. -/
def squeezed (set : Text) : Text → Text
  | a :: b :: s =>
    if a = b ∧ set.contains a then squeezed set (b :: s) else a :: squeezed set (b :: s)
  | s => s

/-- A text with the octets of one set in place of those of another. -/
def replaced (set second : Text) (s : Text) : Text :=
  let table := (set.zip second).reverse
  s.map fun c => (table.lookup c).getD c

/-- What a text becomes. -/
def run (t : Task) (first : List Part) (second : Option (List Part)) (s : Text) : Text :=
  let set := firstSet t first
  match second with
  | none =>
    if t.deletes then s.filter fun c => !set.contains c else squeezed set s
  | some ps =>
    let named := secondSet set.length ps
    if t.deletes then squeezed named (s.filter fun c => !set.contains c)
    else
      let filled :=
        if t.truncates then named
        else named ++ List.replicate (set.length - named.length) (named.getLastD ' ')
      let new := replaced set filled s
      if t.squeezes then squeezed filled new else new

end Transliteration

open Transliteration in
/-- Replaces, deletes or squeezes octets. -/
def tr (c : Call) : Effect :=
  let o := c.leadingOptionsWith [("delete", 'd'), ("squeeze-repeats", 's'), ("complement", 'c'),
    ("truncate-set1", 't')] "" "dscCt"
  let t : Task := ⟨o.has 'd', o.has 's', o.has 'c' || o.has 'C', o.has 't'⟩
  let least := if t.deletes == t.squeezes then 2 else 1
  let most := if t.deletes && !t.squeezes then 1 else 2
  match o.fault, o.operands with
  | some f, _ => c.badOption 1 f
  | none, [] => c.refuseWithHint 1 "missing operand".toList
  | none, a :: more =>
    if o.operands.length < least then
      c.refuseWithHint 1 ("missing operand after ".toList ++ Call.inQuotes a ++
        (if t.squeezes then
          "\nTwo strings must be given when both deleting and squeezing repeats."
        else "\nTwo strings must be given when translating.").toList)
    else
      match o.operands.drop most with
      | extra :: _ =>
        c.refuseWithHint 1 ("extra operand ".toList ++ Call.inQuotes extra ++
          (if o.operands.length = 2 then
            "\nOnly one string may be given when deleting without squeezing repeats."
          else "").toList)
      | [] =>
        let letters (s : Text) : Unquoted := unquote (s.length + 1) s
        let parts (u : Unquoted) : Except Text (List Part) :=
          readParts (u.letters.length + 1) u.letters
        let first := letters a
        let second := more.head?.map letters
        let warned (us : List Unquoted) (e : Effect) : Effect :=
          { e with writes := us.flatMap (·.warnings.map c.complaint) ++ e.writes }
        match parts first, second.mapM parts with
        | .error m, _ => warned [first] (c.refuse 1 m)
        | .ok _, .error m => warned (first :: second.toList) (c.refuse 1 m)
        | .ok ps, .ok qs =>
          warned (first :: second.toList) <|
            match fault? t ps qs, c.inputContent with
            | some m, _ => c.refuse 1 m.toList
            | none, .error f => c.refuse 1 ("read error: ".toList ++ f.wording)
            | none, .ok s => c.output (run t ps qs s)

end Utility
end DocExamples
