/-
# Utilities for streams

Utilities that read files, or standard input where no file is named, and write
what they make of the octets.
-/

import DocExamples.Finder
import DocExamples.Machine.Letter
import DocExamples.Machine.Utility.Choice

namespace DocExamples
namespace Utility

/-- A file that was opened for reading. -/
structure Opened where
  /-- The name that it was opened by. -/
  name : Text
  /-- Its content, or why there is none. -/
  content : Except Fault Text

/-- Opens a file; a single dash is standard input. -/
def openFile (c : Call) (count : Nat) (name : Text) : Opened :=
  ⟨name, if name = ['-'] then c.inputContent else c.disk.readUpTo count name⟩

/-- Opens files one after another; standard input is at its end where it is named again. -/
def openEach (c : Call) (count : Nat) : (isFresh : Bool) → List Text → List Opened
  | _, [] => []
  | isFresh, n :: names =>
    let file := openFile c count n
    let content := if n = ['-'] && !isFresh then file.content.map fun _ => [] else file.content
    ⟨n, content⟩ :: openEach c count (isFresh && n != ['-']) names

/-- Opens the files that are named, or else standard input. -/
def openAll (c : Call) (count : Nat) (names : List Text) : List Opened :=
  openEach c count true (if names.isEmpty then [['-']] else names)

/-- Whether what was opened is a file whose size is known. -/
def isSized (c : Call) (f : Opened) : Bool :=
  if f.name = ['-'] then c.inputKind == .file
  else
    match c.disk.stat (Octet.toText f.name) with
    | .ok (.file _ _) => true
    | .ok _ => false
    | .error _ => true

/-- Writes what `show` makes of each file, and a complaint for each that cannot be read. -/
def perFile (c : Call) (files : List Opened) (complain : Text → Fault → Text)
    (shown : Opened → Text → Text) : Effect :=
  let writes := files.map fun f =>
    match f.content with
    | .ok s => ⟨1, shown f s⟩
    | .error e => c.complaint (complain f.name e)
  let failed := files.any fun f => match f.content with
    | .ok _ => false
    | .error _ => true
  ⟨writes, if failed then 1 else 0, c.disk, 0⟩

/-- A text with its line feeds and its zero octets in the place of each other. -/
def exchanged (s : Text) : Text :=
  s.map fun c => if c = '\n' then '\x00' else if c = '\x00' then '\n' else c

/-- The lines of a text, an end of line at the end of each but perhaps the last. -/
def linesEnding (mark : Char) (s : Text) : List Text :=
  if mark = '\n' then Octet.fullLines s
  else (Octet.fullLines (exchanged s)).map exchanged

/-- The lines of a text without their ends. -/
def linesBefore (mark : Char) (s : Text) : List Text :=
  (linesEnding mark s).map fun l => if l.getLast? = some mark then l.dropLast else l

/-- Lines with their numbers in front, counted from `n`. -/
def numberedLines (onlyFull : Bool) : (n : Nat) → List Text → List Text
  | _, [] => []
  | n, l :: ls =>
    if onlyFull && l = ['\n'] then l :: numberedLines onlyFull n ls
    else
      let digits := Text.decimal n
      (List.replicate (6 - digits.length) ' ' ++ digits ++ '\t' :: l) ::
        numberedLines onlyFull (n + 1) ls

/-- An octet as it is shown where it cannot be written itself; tabs and line feeds can. -/
def visible (c : Char) : Text :=
  let n := c.toNat
  let low (n : Nat) : Text :=
    if n < 32 then ['^', Char.ofNat (n + 64)] else if n = 127 then ['^', '?'] else [Char.ofNat n]
  if c = '\n' ∨ c = '\t' then [c] else if n < 128 then low n else 'M' :: '-' :: low (n - 128)

/-- Lines without empty ones that follow an empty one. -/
def withoutEmptyRuns : (wasEmpty : Bool) → List Text → List Text
  | _, [] => []
  | wasEmpty, l :: ls =>
    let isEmpty := l == ['\n']
    if wasEmpty && isEmpty then withoutEmptyRuns true ls else l :: withoutEmptyRuns isEmpty ls

/-- Copies files to standard output, perhaps with marks for what cannot be seen. -/
def cat (c : Call) : Effect :=
  let o := c.optionsWith [("number-nonblank", 'b'), ("number", 'n'), ("squeeze-blank", 's'),
    ("show-nonprinting", 'v'), ("show-ends", 'E'), ("show-tabs", 'T'), ("show-all", 'A')]
    "" "nbuAestvET"
  let marksOctets := ['v', 'A', 'e', 't'].any o.has
  let marksTabs := ['T', 'A', 't'].any o.has
  let marksEnds := ['E', 'A', 'e'].any o.has
  let shown (x : Char) : Text :=
    if marksTabs && x == '\t' then ['^', 'I'] else if marksOctets then visible x else [x]
  let changed (l : Text) : Text :=
    let l := if marksOctets || marksTabs then l.flatMap shown else l
    if marksEnds && l.getLast? == some '\n' then l.dropLast ++ ['$', '\n'] else l
  match o.fault with
  | some f => c.badOption 1 f
  | none =>
    perFile c (openAll c Disk.readLimit o.operands) Call.faultAt fun _ s =>
      if o.letters.isEmpty then s
      else
        let ls := Octet.fullLines s
        let ls := if o.has 's' then withoutEmptyRuns false ls else ls
        let ls := if o.has 'n' || o.has 'b' then numberedLines (o.has 'b') 1 ls else ls
        ls.flatMap changed

/-- What a file is measured by. -/
structure Measure where
  /-- The number of line feeds. -/
  lines : Nat
  /-- The number of words. -/
  words : Nat
  /-- The number of code points. -/
  chars : Nat
  /-- The number of octets. -/
  octets : Nat
  /-- The number of columns of the widest line. -/
  width : Nat

/-- The number of columns of the widest line, so many columns into a line. -/
def widest : (column : Nat) → Text → Nat
  | column, [] => column
  | column, c :: s =>
    if c = '\n' ∨ c = '\r' ∨ c = '\x0c' then Nat.max column (widest 0 s)
    else if c = '\t' then widest (8 * (column / 8 + 1)) s
    else widest (column + Letter.columns c) s

/-- The number of words, where `inWord` says that one has begun. -/
def countWords : (inWord : Bool) → Text → Nat
  | _, [] => 0
  | inWord, c :: s =>
    if Octet.isSpace c then countWords false s
    else (if inWord then 0 else 1) + countWords true s

/-- The measure of an octet text. -/
def measure (s : Text) : Measure :=
  ⟨s.count '\n', countWords false s, (Octet.chars s).countP (!Octet.isStray ·), s.length,
    widest 0 (Octet.chars s)⟩

/-- The numbers of a measure that are wanted. -/
def wanted (o : Options) (m : Measure) : List Nat :=
  let all := !(o.has 'l' || o.has 'w' || o.has 'm' || o.has 'c' || o.has 'L')
  (if all || o.has 'l' then [m.lines] else []) ++ (if all || o.has 'w' then [m.words] else []) ++
    (if o.has 'm' then [m.chars] else []) ++ (if all || o.has 'c' then [m.octets] else []) ++
    (if o.has 'L' then [m.width] else [])

/-- When the sum of all files is shown. -/
inductive TotalRule where
  /-- Behind several files. -/
  | automatic
  /-- Always. -/
  | always
  /-- Always, and nothing else. -/
  | only
  /-- Never. -/
  | never
deriving DecidableEq, Repr

/-- The words for when the sum is shown. -/
def totalRules : Choice TotalRule :=
  ⟨"total", [(["auto"], .automatic), (["always"], .always), (["only"], .only), (["never"], .never)]⟩

/-- Counts lines, words and octets. -/
def wc (c : Call) : Effect :=
  let o := c.optionsWith [("lines", 'l'), ("words", 'w'), ("chars", 'm'), ("bytes", 'c'),
    ("max-line-length", 'L'), ("total", 'τ')] "τ" "lwmcL"
  match (o.values 'τ').mapM totalRules.read, o.fault with
  | .error m, _ => c.refuseWithHint 1 m
  | .ok _, some f => c.badOption 1 f
  | .ok rules, none =>
    let rule := rules.getLastD .automatic
    let files := openAll c Disk.readLimit o.operands
    let measured := files.map fun f => (f, match f.content with
      | .ok s => measure s
      | .error _ => ⟨0, 0, 0, 0, 0⟩)
    let total := measured.foldl (fun t m => Measure.mk (t.lines + m.2.lines) (t.words + m.2.words)
      (t.chars + m.2.chars) (t.octets + m.2.octets) (Nat.max t.width m.2.width)) ⟨0, 0, 0, 0, 0⟩
    let single := (wanted o total).length == 1 && files.length == 1
    let width := if single || rule = .only then 1
      else max (if files.all (isSized c) then 1 else 7) (Text.decimal total.octets).length
    let row (m : Measure) (name : Text) : Text :=
      Text.joined [' '] ((wanted o m).map fun n =>
        List.replicate (width - (Text.decimal n).length) ' ' ++ Text.decimal n) ++
        (if name.isEmpty then [] else ' ' :: name) ++ ['\n']
    let shown (m : Opened × Measure) : List Write :=
      let name := if o.operands.isEmpty then [] else m.1.name
      let counts := if rule = .only then [] else [⟨1, row m.2 name⟩]
      match m.1.content with
      | .ok _ => counts
      | .error .isFolder =>
        let spoken := if name.isEmpty then "'standard input'".toList else Quoting.name name
        c.complaint (spoken ++ ": Is a directory".toList) :: counts
      | .error f =>
        [c.complaint (if m.1.name.isEmpty then "invalid zero-length file name".toList
          else Call.faultAt m.1.name f)]
    let failed := files.any fun f => match f.content with
      | .ok _ => false
      | .error _ => true
    let sum : Text := match rule with
      | .automatic => if 1 < files.length then row total "total".toList else []
      | .always => row total "total".toList
      | .only => row total []
      | .never => []
    ⟨measured.flatMap shown ++ (if sum.isEmpty then [] else [⟨1, sum⟩]),
      if failed then 1 else 0, c.disk, 0⟩

/-- Copies standard input to standard output and to files. -/
def tee (c : Call) : Effect :=
  let o := c.optionsWith [("append", 'a'), ("ignore-interrupts", 'i'), ("output-error", 'p')] ""
    "aip"
  let step (st : Disk × List Write) (name : Text) : Disk × List Write :=
    let old := if o.has 'a' then (match st.1.read name with
      | .ok s => s
      | .error _ => []) else []
    match st.1.write name (old ++ c.input) with
    | .ok d => (d, st.2)
    | .error f => (st.1, st.2 ++ [c.complaint (Call.faultAt name f)])
  let done := o.operands.foldl step (c.disk, [])
  match o.fault with
  | some f => c.badOption 1 f
  | none => ⟨⟨1, c.input⟩ :: done.2, if done.2.isEmpty then 0 else 1, done.1, 0⟩

end Utility
end DocExamples
