/-
# Permissions of files

Permissions are nine bits: reading, writing and running, each for the owner, the
group and all others; three bits above them change how a program runs.  A change
of them is given as an octal number, or as clauses of letters.
-/

import DocExamples.Machine.Utility.Folders

namespace DocExamples
namespace Utility

/-! ## Permissions as letters -/

/-- Three bits as letters; the letter for running tells whether the bit above is set. -/
def threeLetters (bits : Nat) (above : Bool) (both one : Char) : Text :=
  [if bits &&& 4 != 0 then 'r' else '-', if bits &&& 2 != 0 then 'w' else '-',
    match bits &&& 1 != 0, above with
    | true, true => both
    | false, true => one
    | true, false => 'x'
    | false, false => '-']

/-- Permissions as nine letters. -/
def modeLetters (mode : Nat) : Text :=
  threeLetters (mode / 64 % 8) (mode &&& 0o4000 != 0) 's' 'S' ++
    threeLetters (mode / 8 % 8) (mode &&& 0o2000 != 0) 's' 'S' ++
    threeLetters (mode % 8) (mode &&& 0o1000 != 0) 't' 'T'

example : modeLetters 0o4754 = "rwsr-xr--".toList := by decide +kernel

/-- The permissions of an entry. -/
def modeOf : Entry → Nat
  | .folder => 0o755
  | .file _ mode => mode
  | .link _ => 0o777
  | .utility _ => 0o755
  | .device _ => 0o666

/-- The letter for the kind of an entry, and the letters of its permissions. -/
def kindAndMode (e : Entry) : Text :=
  (match e with
    | .folder => 'd'
    | .link _ => 'l'
    | .device _ => 'c'
    | _ => '-') :: modeLetters (modeOf e)

/-! ## Changes -/

/-- The bits that a letter for users stands for. -/
def userBits (c : Char) : Nat :=
  if c = 'u' then 0o4700 else if c = 'g' then 0o2070 else if c = 'o' then 0o1007 else 0o7777

/-- Three bits for the owner, the group and all others alike. -/
def forAll (bits : Nat) : Nat := bits * 0o111

/-- The bits that a letter for permissions stands for; `X` means running only where somebody may
run the entry already. -/
def permissionBits (isFolder : Bool) (mode : Nat) (c : Char) : Nat :=
  match c with
  | 'r' => forAll 4
  | 'w' => forAll 2
  | 'x' => forAll 1
  | 'X' => if isFolder || Entry.mayRun mode then forAll 1 else 0
  | 's' => 0o6000
  | 't' => 0o1000
  | 'u' => forAll (mode / 64 % 8)
  | 'g' => forAll (mode / 8 % 8)
  | 'o' => forAll (mode % 8)
  | _ => 0

/-- Whether the letters of an action can stand together. -/
def isAction (letters : Text) : Bool :=
  letters.all "rwxXst".toList.contains || (letters.length == 1 && letters.all "ugo".toList.contains)

/-- Permissions after the actions of one clause, which are for the users in `who`; where none is
named, the mask protects its bits. -/
def afterActions (mask : Nat) (isFolder : Bool) (who : Text) :
    (fuel : Nat) → (mode : Nat) → Text → Option Nat
  | 0, _, _ => none
  | _, mode, [] => some mode
  | fuel + 1, mode, op :: rest =>
    let letters := rest.takeWhile fun c => !"+-=".toList.contains c
    if !"+-=".toList.contains op || !isAction letters then none
    else
      let users := if who.isEmpty then 0o7777 - (mask &&& 0o777)
        else who.foldl (fun n c => n ||| userBits c) 0
      let bits := letters.foldl (fun n c => n ||| permissionBits isFolder mode c) 0 &&& users
      let changed := if op = '+' then mode ||| bits
        else if op = '-' then mode - (mode &&& bits)
        else (mode - (mode &&& if who.isEmpty then 0o7777 else users)) ||| bits
      afterActions mask isFolder who fuel changed (rest.drop letters.length)

/-- Permissions after clauses. -/
def afterClauses (mask : Nat) (isFolder : Bool) : (mode : Nat) → List Text → Option Nat
  | mode, [] => some mode
  | mode, clause :: more =>
    let who := clause.takeWhile "ugoa".toList.contains
    let actions := clause.drop who.length
    if actions.isEmpty then none
    else
      (afterActions mask isFolder who (actions.length + 1) mode actions).bind fun mode =>
        afterClauses mask isFolder mode more

/-- Permissions after a change. -/
def changedMode? (mask : Nat) (isFolder : Bool) (change : Text) (mode : Nat) : Option Nat :=
  if !change.isEmpty && change.all Octet.isOctal then
    let n := Octet.ofOctal change
    if n ≤ 0o7777 then some n else none
  else afterClauses mask isFolder mode (Text.pieces ',' change)

example : changedMode? 0o022 false "u+x,g-w".toList 0o664 = some 0o744 := by decide +kernel

example : changedMode? 0o022 false "=".toList 0o644 = some 0 := by decide +kernel

/-- Whether an argument that looks like options is a change of permissions. -/
def isModeArgument (a : Text) : Bool :=
  match a with
  | '-' :: c :: _ => "rwxXstugoa,+-=01234567".toList.contains c && c != '-'
  | _ => false

/-- What is said of changed permissions. -/
def modeReport (path : Text) (old new : Nat) : Text :=
  let shown (mode : Nat) : Text := Text.octal 4 mode ++ " (".toList ++ modeLetters mode ++ [')']
  "mode of ".toList ++ quote path ++
    (if old = new then " retained as ".toList ++ shown old
      else " changed from ".toList ++ shown old ++ " to ".toList ++ shown new) ++ ['\n']

/-- Changes the permissions of files. -/
def chmod (c : Call) : Effect :=
  let asMode := c.arguments.find? isModeArgument
  let o := Options.readWith [("recursive", 'R'), ("verbose", 'v'), ("changes", 'c'),
    ("silent", 'f'), ("quiet", 'f')] "" "Rvcf" (c.arguments.filter (!isModeArgument ·))
  let words := match asMode with
    | some m => m :: o.operands
    | none => o.operands
  match o.fault, words with
  | some f, _ => c.badOption 1 f
  | none, [] => c.refuseWithHint 1 "missing operand".toList
  | none, [change] =>
    if asMode.isSome then c.refuseWithHint 1 "missing operand".toList
    else c.refuseWithHint 1 ("missing operand after ".toList ++ Call.inQuotes change)
  | none, change :: operands =>
    if (changedMode? 0 false change 0).isNone then
      c.refuseWithHint 1 ("invalid mode: ".toList ++ Call.inQuotes change)
    else
      let paths := operands.flatMap fun p => if o.has 'R' then foldersFirst c.disk 64 p else [p]
      let missing (p : Text) (f : Fault) : Write :=
        c.complaint ("cannot access ".toList ++ quote p ++ ": ".toList ++ f.wording)
      let said (p : Text) (old new : Nat) : List Write :=
        if o.has 'v' || (o.has 'c' && old != new) then [⟨1, modeReport p old new⟩] else []
      let effect := perOperand c paths fun d p =>
        match d.locate true (Octet.toText p) with
        | .ok ⟨l, some (.file content mode)⟩ =>
          let new := (changedMode? d.mask false change mode).getD mode
          (d.put l (.file content new), said p mode new)
        | .ok ⟨_, some e⟩ => (d, said p (modeOf e) (modeOf e))
        | .ok ⟨_, none⟩ => (d, [missing p .notFound])
        | .error f => (d, [missing p f])
      if o.has 'f' then { effect with writes := effect.writes.filter (·.stream == 1) } else effect

end Utility
end DocExamples
