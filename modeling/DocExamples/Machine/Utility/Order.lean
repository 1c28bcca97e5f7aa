/-
# Order of lines

The utility `sort` compares lines by keys, one after another, and at last as wholes.  It
puts the lines of files into order, or takes them by turns from files that are in order,
or says whether they are in order.
-/

import DocExamples.Machine.Utility.Key
import DocExamples.Machine.Utility.Streams

namespace DocExamples
namespace Utility

/-- How lines are sorted. -/
structure Sorting where
  /-- What separates fields. -/
  separator : Option Char
  /-- The keys. -/
  keys : List Key
  /-- Whether whole lines are compared the other way round. -/
  reversed : Bool
  /-- Whether lines with equal keys stay in order. -/
  stable : Bool
  /-- Whether only the first of lines with equal keys is kept. -/
  unique : Bool

namespace Sorting

/-- The order of two lines by their keys alone. -/
def byKeys (s : Sorting) (a b : Text) : Ordering :=
  s.keys.foldl (fun order k => order.then (k.compare s.separator a b)) .eq

/-- The order of two lines as wholes. -/
def asWholes (s : Sorting) (a b : Text) : Ordering :=
  { Manner.plain with reversed := s.reversed }.compare a b

/-- The order of two lines, as wholes if their keys are equal. -/
def compare (s : Sorting) (a b : Text) : Ordering :=
  let order := s.byKeys a b
  if !s.keys.isEmpty && (s.stable || s.unique) then order else order.then (s.asWholes a b)

/-- Lines without those equal to the one before them. -/
def withoutRepeats (s : Sorting) : List Text → List Text
  | a :: b :: ls =>
    if s.compare a b = .eq then withoutRepeats s (a :: ls) else a :: withoutRepeats s (b :: ls)
  | ls => ls
termination_by ls => ls.length

/-- Lines in order. -/
def sorted (s : Sorting) (ls : List Text) : List Text :=
  ls.mergeSort fun a b => s.compare a b != .gt

/-- The place of the list whose first line comes first, among lists from place `n` on. -/
def firstOf (s : Sorting) : (n : Nat) → List (List Text) → Option (Nat × Text)
  | _, [] => none
  | n, [] :: lists => firstOf s (n + 1) lists
  | n, (l :: _) :: lists =>
    match firstOf s (n + 1) lists with
    | some (m, k) => if s.compare l k == .gt then some (m, k) else some (n, l)
    | none => some (n, l)

/-- The lines of lists by turns: always the first one that comes before those of the others. -/
def merged (s : Sorting) : (fuel : Nat) → List (List Text) → List Text
  | 0, _ => []
  | fuel + 1, lists =>
    match s.firstOf 0 lists with
    | none => []
    | some (n, l) => l :: merged s fuel (lists.modify n (·.drop 1))

/-- The first line that is out of order, counted from `n`. -/
def disorder? (s : Sorting) : (n : Nat) → List Text → Option (Nat × Text)
  | n, a :: b :: ls =>
    let bad := if s.unique then s.compare a b != .lt else s.compare a b == .gt
    if bad then some (n + 1, b) else disorder? s (n + 1) (b :: ls)
  | _, _ => none

end Sorting

/-! ## Options -/

/-- The words for what lines are compared as. -/
def standardWords : Choice Char :=
  ⟨"sort", [(["general-numeric"], 'g'), (["human-numeric"], 'h'), (["month"], 'M'),
    (["numeric"], 'n'), (["random"], 'R'), (["version"], 'V')]⟩

/-- The words for what is said about a line out of order. -/
def checkWords : Choice Char :=
  ⟨"check", [(["quiet", "silent"], 'C'), (["diagnose-first"], 'c')]⟩

/-- What is wrong with the options of `sort`. -/
structure SortRefusal where
  /-- The exit code. -/
  status : Nat
  /-- The complaint. -/
  message : Text

/-- Options that cannot be combined. -/
def SortRefusal.incompatible (letters : Text) : SortRefusal :=
  ⟨2, "options '-".toList ++ letters ++ "' are incompatible".toList⟩

/-- What the options of `sort` ask for. -/
structure SortPlan where
  /-- The separator of fields. -/
  separator : Option Char
  /-- The keys. -/
  keys : List Key
  /-- The manner of keys that say nothing of their own. -/
  manner : Manner
  /-- The letter of the check that is asked for. -/
  check : Option Char
  /-- Where the lines are written to. -/
  output : Option Text

namespace SortPlan

/-- The plan without any option. -/
def usual : SortPlan := ⟨none, [], .plain, none, none⟩

/-- The plan with the check that is asked for. -/
def withCheck (p : SortPlan) (letter : Char) : Except SortRefusal SortPlan :=
  if p.check.any (· != letter) then .error (.incompatible ['c', 'C'])
  else .ok { p with check := some letter }

/-- The plan with a separator of fields. -/
def withSeparator (p : SortPlan) (value : Text) : Except SortRefusal SortPlan := do
  let separator ← match value with
    | [] => throw ⟨2, "empty tab".toList⟩
    | ['\\', '0'] => pure '\x00'
    | [c] => pure c
    | _ => throw ⟨2, "multi-character tab ".toList ++ Call.inQuotes value⟩
  if p.separator.any (· != separator) then throw ⟨2, "incompatible tabs".toList⟩
  return { p with separator := some separator }

/-- The plan with what an option adds. -/
def withOption (p : SortPlan) (option : Char × Text) : Except SortRefusal SortPlan :=
  let (letter, value) := option
  match letter with
  | 'k' =>
    match Key.read value with
    | .ok k => .ok { p with keys := p.keys ++ [k] }
    | .error m => .error ⟨2, m⟩
  | 't' => p.withSeparator value
  | 'o' =>
    if p.output.any (· != value) then .error ⟨2, "multiple output files specified".toList⟩
    else .ok { p with output := some value }
  | 'c' => p.withCheck 'c'
  | 'C' => p.withCheck 'C'
  | 'χ' =>
    match if value.isEmpty then .ok 'c' else checkWords.read value with
    | .ok c => p.withCheck c
    | .error m => .error ⟨1, m⟩
  | 'σ' =>
    match standardWords.read value with
    | .ok c => .ok { p with manner := (p.manner.with? c).getD p.manner }
    | .error m => .error ⟨1, m⟩
  | c => .ok { p with manner := (p.manner.readLetters true true [c]).value }

/-- The keys by which lines are compared, each with its manner: the keys that were given, or whole
lines if only a manner was. -/
def allKeys (p : SortPlan) : List Key :=
  let keys := p.keys.map fun k => if k.manner = .plain then { k with manner := p.manner } else k
  if keys.isEmpty && { p.manner with reversed := false } != .plain then [⟨⟨1, 1⟩, none, p.manner⟩]
  else keys

end SortPlan

/-- Says whether lines are in order. -/
def checkOrder (c : Call) (s : Sorting) (letter : Char) (name : Text) (ls : List Text) : Effect :=
  match s.disorder? 1 ls with
  | none => c.exit 0
  | some (n, l) =>
    if letter = 'C' then c.exit 1
    else c.refuse 1 (name ++ ':' :: Text.decimal n ++ ": disorder: ".toList ++ l)

/-- Carries out a plan. -/
def runSort (c : Call) (o : Options) (p : SortPlan) : Effect :=
  let sorting : Sorting := ⟨p.separator, p.allKeys, p.manner.reversed, o.has 's', o.has 'u'⟩
  let files := openAll c Disk.readLimit o.operands
  let isUnread (f : Opened) : Bool := match f.content with
    | .ok _ => false
    | .error _ => true
  match sorting.keys.findSome? (·.manner.conflict?), p.check, o.operands, p.output with
  | some letters, _, _, _ =>
    let f := SortRefusal.incompatible letters
    c.refuse f.status f.message
  | none, some letter, _ :: extra :: _, _ =>
    c.refuse 2 ("extra operand ".toList ++ Quoting.shell extra ++ " not allowed with -".toList ++
      [letter])
  | none, some letter, _, some _ =>
    let f := SortRefusal.incompatible [letter, 'o']
    c.refuse f.status f.message
  | none, check, _, output =>
    match files.find? isUnread with
    | some f =>
      c.refuse 2 (match f.content with
        | .error .isFolder => "read failed: ".toList ++ Call.faultAt f.name .isFolder
        | .error e =>
          (if check.isSome then "open failed: " else "cannot read: ").toList ++
            Call.faultAt f.name e
        | .ok _ => [])
    | none =>
      let ending := if o.has 'z' then '\x00' else '\n'
      let lists := files.map fun f => match f.content with
        | .ok s => linesBefore ending s
        | .error _ => []
      match check with
      | some letter =>
        checkOrder c sorting letter ((files.head?.map (·.name)).getD []) lists.flatten
      | none =>
        let ls := if o.has 'm' then sorting.merged (lists.flatten.length + 1) lists
          else sorting.sorted lists.flatten
        let ls := if sorting.unique then sorting.withoutRepeats ls else ls
        let text := ls.flatMap (· ++ [ending])
        match output with
        | none => c.output text
        | some path =>
          match c.disk.write path text with
          | .ok disk => { c.exit 0 with disk }
          | .error f => c.refuse 2 ("open failed: ".toList ++ Call.faultAt path f)

/-- Sorts the lines of files, or says whether they are in order. -/
def sort (c : Call) : Effect :=
  let o := c.optionsWith [("ignore-leading-blanks", 'b'), ("check", 'χ'), ("compress-program", 'π'),
    ("dictionary-order", 'd'), ("ignore-case", 'f'), ("general-numeric-sort", 'g'),
    ("ignore-nonprinting", 'i'), ("merge", 'm'), ("month-sort", 'M'), ("numeric-sort", 'n'),
    ("human-numeric-sort", 'h'), ("version-sort", 'V'), ("random-sort", 'R'),
    ("random-source", 'π'), ("sort", 'σ'), ("output", 'o'), ("reverse", 'r'), ("stable", 's'),
    ("batch-size", 'π'), ("buffer-size", 'S'), ("field-separator", 't'),
    ("temporary-directory", 'T'), ("unique", 'u'), ("zero-terminated", 'z'), ("key", 'k'),
    ("parallel", 'π')]
    "ktoSTσπ" "nrufscCmbdghziMRV"
  match o.letters.foldlM SortPlan.withOption .usual, o.fault with
  | .error f, _ =>
    if f.status = 1 then c.refuseWithHint 1 f.message else c.refuse f.status f.message
  | .ok _, some f => c.badOption 2 f
  | .ok p, none => runSort c o p

end Utility
end DocExamples
