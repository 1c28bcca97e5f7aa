/-
# Listings

A listing shows the names in folders, one on a line or all on one, and perhaps the
kind, the permissions, the links, the owner, the size and the age of each entry in
columns.  All entries belong to one owner, and none has an age of its own.
-/

import DocExamples.Machine.Glob
import DocExamples.Machine.Utility.Choice
import DocExamples.Machine.Utility.Escape
import DocExamples.Machine.Utility.Permission
import DocExamples.Machine.Utility.Version

namespace DocExamples
namespace Utility

/-- How many octets an entry holds. -/
def sizeOf (e : Entry) : Nat :=
  match e with
  | .folder => 4096
  | .file content _ => content.length
  | .link t => (Octet.ofText t).length
  | _ => 0

/-- How many blocks of 1024 octets an entry takes. -/
def blocksOf (e : Entry) : Nat :=
  match e with
  | .link _ => 0
  | e => (sizeOf e + 4095) / 4096 * 4

/-- How many names an entry has: a folder has one in itself and one in each folder below it. -/
def linkCount (d : Disk) (l : Location) (e : Entry) : Nat :=
  match e with
  | .folder => 2 + ((d.namesIn l).filter fun n => d.at? (l ++ [n]) == some .folder).length
  | _ => 1

/-- A size with a letter for its unit, rounded up to at most two digits or to a whole number. -/
def shortSize (n : Nat) : Text :=
  let rec go (units : List Char) (scale : Nat) : Text :=
    match units with
    | [] => Text.decimal n
    | u :: more =>
      if n < 10 * scale then
        let tenths := (10 * n + scale - 1) / scale
        if tenths < 100 then Text.decimal (tenths / 10) ++ '.' :: Text.decimal (tenths % 10) ++ [u]
        else "10".toList ++ [u]
      else if n ≤ 1023 * scale then Text.decimal ((n + scale - 1) / scale) ++ [u]
      else go more (1024 * scale)
  if n < 1024 then Text.decimal n else go ['K', 'M', 'G'] 1024

/-- An entry in a listing. -/
structure Listed where
  /-- The name that is shown. -/
  name : Text
  /-- Its location. -/
  location : Location
  /-- The entry itself; a link is not followed. -/
  entry : Entry

/-- The entry at a path under a name. -/
def listedAt? (d : Disk) (path name : Text) : Option Listed :=
  match spotOf d path with
  | .ok ⟨l, some e⟩ => some ⟨name, l, e⟩
  | _ => none

namespace Listed

/-- The mark behind a name for the kind of its entry. -/
def mark (o : Options) (e : Entry) : Text :=
  match e with
  | .folder => if o.has 'F' || o.has 'p' || o.has 'γ' then ['/'] else []
  | .link _ => if o.has 'F' || o.has 'γ' then ['@'] else []
  | .file _ mode => if o.has 'F' && Entry.mayRun mode then ['*'] else []
  | .utility _ => if o.has 'F' then ['*'] else []
  | .device _ => []

/-- A name as it is shown. -/
def shown (o : Options) (s : Text) : Text := if o.has 'Q' then '"' :: s ++ ['"'] else s

/-- A name with its mark. -/
def marked (o : Options) (x : Listed) : Text := shown o x.name ++ mark o x.entry

/-- A name with the target of a link. -/
def pointing (o : Options) (d : Disk) (x : Listed) : Text :=
  match x.entry with
  | .link t =>
    let target := match d.stat (Octet.toText (x.location.foldl (fun s n => s ++ '/' :: n) [])) with
      | .ok e => mark o e
      | .error _ => []
    shown o x.name ++ " -> ".toList ++ shown o (Octet.ofText t) ++ target
  | _ => x.marked o

end Listed

/-- A text with blanks before it up to a width. -/
def toRight (width : Nat) (s : Text) : Text := List.replicate (width - s.length) ' ' ++ s

/-- The lines of a listing in columns. -/
def longLines (o : Options) (d : Disk) (xs : List Listed) : Text :=
  let widest (f : Listed → Text) : Nat := (xs.map fun x => (f x).length).foldl max 0
  let links (x : Listed) : Text := Text.decimal (linkCount d x.location x.entry)
  let size (x : Listed) : Text :=
    if o.has 'h' then shortSize (sizeOf x.entry) else Text.decimal (sizeOf x.entry)
  let owner : Text := if o.has 'n' then ['0'] else "root".toList
  let owners := (if o.has 'g' then [] else owner ++ [' ']) ++
    if o.has 'o' || o.has 'G' then [] else owner ++ [' ']
  xs.flatMap fun x =>
    kindAndMode x.entry ++ ' ' :: toRight (widest links) (links x) ++ ' ' :: owners ++
      toRight (widest size) (size x) ++ " Nov 14 22:13 ".toList ++ x.pointing o d ++ ['\n']

/-! ## Arrangements -/

/-- How the entries of a listing are arranged. -/
inductive Arrangement where
  /-- One on a line. -/
  | lines
  /-- One on a line, with what is known of it. -/
  | long
  /-- In columns that are read downwards. -/
  | down
  /-- In columns that are read across. -/
  | across
  /-- With commas between them. -/
  | commas
deriving DecidableEq, Repr

/-- The arrangement that options ask for: the last one counts. -/
def Arrangement.ofOptions (o : Options) : Arrangement :=
  o.letters.foldl
    (fun a l => match l.1 with
      | 'l' => .long
      | 'g' => .long
      | 'o' => .long
      | 'n' => .long
      | 'C' => .down
      | 'x' => .across
      | 'm' => .commas
      | '1' => if a = .long then .long else .lines
      | '0' => .lines
      | _ => a) .lines

/-- Whether a listing shows what is known of entries. -/
def isLong (o : Options) : Bool := Arrangement.ofOptions o == .long

/-- Blanks from one place on a line to another: tabs where they reach farther than one blank. -/
def gap : (fuel : Nat) → (start finish : Nat) → Text
  | 0, _, _ => []
  | fuel + 1, start, finish =>
    if finish ≤ start then []
    else if (start + 1) / 8 < finish / 8 then '\t' :: gap fuel (start + 8 - start % 8) finish
    else ' ' :: gap fuel (start + 1) finish

/-- The rows of a table with so many columns. -/
def rowsOf (across : Bool) (columns : Nat) (xs : List Text) : List (List Text) :=
  let rows := (xs.length + columns - 1) / columns
  (List.range rows).map fun r =>
    (List.range columns).filterMap fun k =>
      if across then xs[r * columns + k]? else xs[r + k * rows]?

/-- The widths of the columns of a table: at least three, and two blanks behind all but the last
column. -/
def widthsOf (columns : Nat) (rows : List (List Text)) : List Nat :=
  (List.range columns).map fun k =>
    let names := rows.filterMap fun r => r[k]?
    let blanks := if k + 1 = columns then 0 else 2
    (names.map fun n => n.length + blanks).foldl Nat.max 3

/-- Names in the greatest number of columns that fit on lines of some width, which may be without
bound. -/
def inColumns (across : Bool) (width : Option Nat) (xs : List Text) : Text :=
  let fits (columns : Nat) : Bool :=
    match width with
    | none => true
    | some w => (widthsOf columns (rowsOf across columns xs)).foldl Nat.add 0 < w
  let most := match width with
    | none => xs.length
    | some w => min xs.length ((w + 2) / 3)
  let columns := max 1 (((List.range most).reverse.map (· + 1)).find? fits |>.getD 1)
  let rows := rowsOf across columns xs
  let widths := widthsOf columns rows
  rows.flatMap fun row =>
    let step (st : Text × Nat × Nat) (cell : Text × Nat) : Text × Nat × Nat :=
      let (line, place, column) := st
      (line ++ gap (column - place) place column ++ cell.1, column + cell.1.length,
        column + cell.2)
    ((row.zip widths).foldl step ([], 0, 0)).1 ++ ['\n']

/-- Names with commas between them, on lines of some width. -/
def withCommas (width : Option Nat) (xs : List Text) : Text :=
  let step (st : Text × Nat) (x : Text) : Text × Nat :=
    let (line, place) := st
    if line.isEmpty then (x, x.length)
    else
      let fits := match width with
        | none => true
        | some w => place + x.length + 2 < w
      if fits then (line ++ ", ".toList ++ x, place + 2 + x.length)
      else (line ++ ",\n".toList ++ x, x.length)
  if xs.isEmpty then [] else (xs.foldl step ([], 0)).1 ++ ['\n']

/-- What stands behind the last point of a name, with the point. -/
def extension (name : Text) : Text :=
  if name.contains '.' then '.' :: (name.reverse.takeWhile (· != '.')).reverse else []

/-- Entries in the order of a listing. -/
def inOrder (o : Options) (xs : List Listed) : List Listed :=
  let key := (o.letters.filter fun l => "SXUftv".toList.contains l.1).getLast?.map (·.1)
  let xs := match key with
    | some 'S' => xs.mergeSort fun a b => sizeOf b.entry ≤ sizeOf a.entry
    | some 'X' => xs.mergeSort fun a b => !decide (extension b.name < extension a.name)
    | some 'v' => xs.mergeSort fun a b => Version.compareNames a.name b.name != .gt
    | _ => xs
  let xs := if o.has 'r' && key != some 'U' && key != some 'f' then xs.reverse else xs
  if o.has 'ε' then xs.filter (·.entry.isFolder) ++ xs.filter (!·.entry.isFolder) else xs

/-- The width of the lines of a listing, which may be without bound. -/
def lineWidth (o : Options) : Option Nat :=
  match ((o.value? 'w').bind Octet.number?).getD 80 with
  | 0 => none
  | n => some n

/-- The text of a listing. -/
def listing (o : Options) (d : Disk) (xs : List Listed) : Text :=
  let xs := inOrder o xs
  let widest := (xs.map fun x => (Text.decimal (blocksOf x.entry)).length).foldl Nat.max 0
  let shown (x : Listed) : Text :=
    (if o.has 's' then toRight widest (Text.decimal (blocksOf x.entry)) ++ [' '] else []) ++
      x.marked o
  match Arrangement.ofOptions o with
  | .long => longLines o d xs
  | .down => inColumns false (lineWidth o) (xs.map shown)
  | .across => inColumns true (lineWidth o) (xs.map shown)
  | .commas => withCommas (lineWidth o) (xs.map shown)
  | .lines => xs.flatMap fun x => shown x ++ [if o.has '0' then '\x00' else '\n']

/-- The glob that a text without quotes means. -/
def globOf (s : Text) : Glob := Glob.read (s.map fun c => ⟨c, false⟩)

/-- The entries of a folder that a listing shows. -/
def listedIn (o : Options) (d : Disk) (path : Text) : List Listed :=
  let names := namesAt d path
  let names :=
    if o.has 'a' || o.has 'f' then Path.dot :: Path.dotDot :: names
    else if o.has 'A' then names
    else
      let hidden := (o.values 'χ').map globOf
      names.filter fun n => !Text.startsWith ['.'] n && !hidden.any (·.accepts n)
  let names := if o.has 'B' then names.filter (·.getLast? != some '~') else names
  let ignored := (o.values 'I').map globOf
  let names := names.filter fun n => !ignored.any (·.accepts n)
  (Finder.sorted names).filterMap fun n => listedAt? d (below path n) n

/-- The text of a listing of a folder. -/
def folderListing (o : Options) (d : Disk) (path : Text) : Text :=
  let xs := listedIn o d path
  let total := (xs.map fun x => blocksOf x.entry).foldl Nat.add 0
  (if isLong o || o.has 's' then
    "total ".toList ++
      (if o.has 'h' then shortSize (1024 * total) else Text.decimal total) ++ ['\n']
    else []) ++ listing o d xs

/-- The folders below a folder that a recursive listing visits, so many deep at most. -/
def foldersBelow (o : Options) (d : Disk) : (depth : Nat) → Text → List Text
  | 0, path => [path]
  | depth + 1, path =>
    let inner := (listedIn o d path).filter fun x =>
      x.entry == .folder && x.name != Path.dot && x.name != Path.dotDot
    path :: (inOrder o inner).flatMap fun x => foldersBelow o d depth (below path x.name)

/-- The long options of listings whose values are words, which stand for letters. -/
def wordOptions : List (Char × Choice Char) := [
  ('ι', ⟨"sort", [(["none"], 'U'), (["time"], 't'), (["size"], 'S'), (["extension"], 'X'),
    (["version"], 'v'), (["width"], 'N')]⟩),
  ('ω', ⟨"format", [(["verbose", "long"], 'l'), (["commas"], 'm'),
    (["horizontal", "across"], 'x'), (["vertical"], 'C'), (["single-column"], '1')]⟩),
  ('β', ⟨"color", [(["always", "yes", "force"], 'N'), (["never", "no", "none"], 'N'),
    (["auto", "tty", "if-tty"], 'N')]⟩),
  ('φ', ⟨"indicator-style", [(["none"], 'N'), (["slash"], 'p'), (["file-type"], 'γ'),
    (["classify"], 'F')]⟩)]

/-- Options with the letters that the words among their values stand for. -/
def withWords (o : Options) : Except Text Options := do
  let letters ← o.letters.mapM fun l =>
    match wordOptions.lookup l.1 with
    | some k => if l.2.isEmpty && l.1 == 'β' then .ok l else (k.read l.2).map fun c => (c, [])
    | none => .ok l
  return { o with letters }

/-- Lists files and folders. -/
def ls (c : Call) : Effect :=
  let given := c.optionsWith ([("all", 'a'), ("almost-all", 'A'), ("directory", 'd'),
    ("classify", 'F'), ("recursive", 'R'), ("reverse", 'r'), ("color", 'β'), ("size", 's'),
    ("human-readable", 'h'), ("quote-name", 'Q'), ("no-group", 'G'), ("numeric-uid-gid", 'n'),
    ("ignore-backups", 'B'), ("width", 'w'), ("ignore", 'I'), ("hide", 'χ'), ("zero", '0'),
    ("group-directories-first", 'ε'), ("file-type", 'γ'), ("full-time", 'l'), ("escape", 'b'),
    ("literal", 'N'), ("inode", 'i'), ("sort", 'ι'), ("format", 'ω'), ("indicator-style", 'φ'),
    ("quoting-style", 'ψ'), ("time-style", 'ψ'), ("time", 'ψ'), ("tabsize", 'T')])
    "wITχιωφψ" "aA1dpFRrUtlhSsinNQbcgoGmvBXLHkxCfuqD"
  match given.fault, withWords given with
  | some f, _ => c.badOption 2 f
  | none, .error m => c.refuseWithHint 1 m
  | none, .ok o =>
    let badWidth := (o.value? 'w').bind fun w => if (Octet.number? w).isNone then some w else none
    if badWidth.isSome then
      c.refuse 2 ("invalid line width: ".toList ++ Call.inQuotes (badWidth.getD []))
    else
      let operands := Finder.sorted (if o.operands.isEmpty then [Path.dot] else o.operands)
      let missing := operands.filterMap fun p =>
        match spotOf c.disk p with
        | .ok _ => none
        | .error f =>
          some (c.complaint ("cannot access ".toList ++ quote p ++ ": ".toList ++ f.wording))
      let there := operands.filterMap fun p => listedAt? c.disk p p
      let isFolder (x : Listed) : Bool :=
        !o.has 'd' &&
          (x.entry == .folder || (!isLong o && !o.has 'F' && c.disk.isFolderAt x.name))
      let files := there.filter (!isFolder ·)
      let folders := (inOrder { o with letters := o.letters.filter (·.1 != 'S') }
        (there.filter isFolder)).flatMap fun x =>
          if o.has 'R' then foldersBelow o c.disk 64 x.name else [x.name]
      let headers := 1 < operands.length || o.has 'R'
      let blocks := (if files.isEmpty then [] else [listing o c.disk files]) ++
        folders.map fun p =>
          (if headers then p ++ ":\n".toList else []) ++ folderListing o c.disk p
      ⟨missing ++ (if there.isEmpty then [] else [⟨1, Text.joined ['\n'] blocks⟩]),
        if missing.isEmpty then 0 else 2, c.disk, 0⟩

end Utility
end DocExamples
