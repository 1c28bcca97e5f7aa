/-
# Utilities for files and folders

Utilities that make, copy, move and remove files and folders.
-/

import DocExamples.Finder
import DocExamples.Machine.Utility.Call

namespace DocExamples
namespace Utility

/-- The last name in a path, as the file utilities see it. -/
def lastName (path : Text) : Text :=
  let trimmed := Text.withoutFinal '/' path
  if trimmed.isEmpty then path.take 1 else (trimmed.reverse.takeWhile (· != '/')).reverse

/-- A path below a folder. -/
def below (folder name : Text) : Text :=
  if folder.getLast? = some '/' then folder ++ name else folder ++ '/' :: name

/-- Carries out a step for each operand, and collects the complaints. -/
def perOperand (c : Call) (operands : List Text) (step : Disk → Text → Disk × List Write) :
    Effect :=
  let done := operands.foldl
    (fun (st : Disk × List Write) p =>
      let next := step st.1 p
      (next.1, st.2 ++ next.2)) (c.disk, [])
  ⟨done.2, if done.2.any (·.stream == 2) then 1 else 0, done.1, 0⟩

/-- A text as a word of a shell, in quotes. -/
def quote (s : Text) : Text := Quoting.shell s

/-- The location that a path leads to, a link at its end not followed. -/
def spotOf (d : Disk) (path : Text) : Except Fault Disk.Spot := do
  let spot ← d.locate false (Octet.toText path)
  if spot.entry.isNone then throw .notFound
  return spot

/-! ## Names -/

/-- The names in a folder as octet texts, in order. -/
def namesAt (d : Disk) (path : Text) : List Text :=
  match d.locate true (Octet.toText path) with
  | .ok spot => Finder.sorted ((d.namesIn spot.location).map Octet.ofText)
  | .error _ => []

/-! ## Making and removing -/

/-- The folders that lead to a path, from the top. -/
def pathsTo (path : Text) : List Text :=
  let root := if Text.startsWith ['/'] path then ['/'] else []
  let names := (Text.pieces '/' path).filter (!·.isEmpty)
  (List.range names.length).map fun i => root ++ Text.joined ['/'] (names.take (i + 1))

/-- Makes folders. -/
def mkdir (c : Call) : Effect :=
  let o := c.optionsWith [("parents", 'p'), ("mode", 'm'), ("verbose", 'v')] "m" "pv"
  match o.fault with
  | some f => c.badOption 1 f
  | none =>
    if o.operands.isEmpty then c.refuseWithHint 1 "missing operand".toList
    else
      let cannot (p : Text) (f : Fault) : Write :=
        c.complaint
          ("cannot create directory ".toList ++ Call.inQuotes p ++ ": ".toList ++ f.wording)
      let made (p : Text) : List Write :=
        if o.has 'v' then
          [⟨1, c.name ++ ": created directory ".toList ++ quote p ++ ['\n']⟩]
        else []
      perOperand c o.operands fun d p =>
        if o.has 'p' then
          (pathsTo p).foldl
            (fun (st : Disk × List Write) q =>
              if st.2.any (·.stream == 2) || st.1.isFolderAt q then st
              else
                match st.1.makeFolder (Octet.toText q) with
                | .ok d => (d, st.2 ++ made q)
                | .error .alreadyThere =>
                  (st.1, st.2 ++ [cannot q (if q = p then .alreadyThere else .notFolder)])
                | .error f => (st.1, st.2 ++ [cannot q f]))
            (d, [])
        else
          match d.makeFolder (Octet.toText p) with
          | .ok d => (d, made p)
          | .error f => (d, [cannot p f])

/-- Removes empty folders. -/
def rmdir (c : Call) : Effect :=
  let o := c.optionsWith [("parents", 'p'), ("verbose", 'v')] "" "pv"
  match o.fault with
  | some f => c.badOption 1 f
  | none =>
    if o.operands.isEmpty then c.refuseWithHint 1 "missing operand".toList
    else
      let cannot (what : String) (p : Text) (f : Fault) : Write :=
        c.complaint ("failed to remove ".toList ++ what.toList ++ quote p ++ ": ".toList ++
          f.wording)
      let removing (p : Text) : List Write :=
        if o.has 'v' then [⟨1, c.name ++ ": removing directory, ".toList ++ quote p ++ ['\n']⟩]
        else []
      let removed (what : String) (d : Disk) (p : Text) : Disk × List Write :=
        match spotOf d p with
        | .ok ⟨l, some .folder⟩ =>
          if d.isEmptyFolder l then (d.erase l, removing p)
          else (d, removing p ++ [cannot what p .notEmpty])
        | .ok _ => (d, removing p ++ [cannot what p .notFolder])
        | .error f => (d, removing p ++ [cannot what p f])
      perOperand c o.operands fun d p =>
        let above := if o.has 'p' then (pathsTo (Text.withoutFinal '/' p)).dropLast.reverse else []
        above.foldl
          (fun st q =>
            if st.2.any (·.stream == 2) then st
            else
              let next := removed "directory " st.1 q
              (next.1, st.2 ++ next.2)) (removed "" d p)

/-- All that stands at a path or below it, folders behind what they hold, and whether each is a
folder. -/
def foldersLast (d : Disk) : (depth : Nat) → Text → List (Text × Bool)
  | 0, path => [(path, false)]
  | depth + 1, path =>
    match spotOf d path with
    | .ok ⟨_, some .folder⟩ =>
      ((namesAt d path).flatMap fun n => foldersLast d depth (below path n)) ++ [(path, true)]
    | _ => [(path, false)]

/-- Removes files and folders. -/
def rm (c : Call) : Effect :=
  let o := c.optionsWith [("recursive", 'r'), ("force", 'f'), ("verbose", 'v'), ("dir", 'd')]
    "" "rRfvid"
  match o.fault with
  | some f => c.badOption 1 f
  | none =>
    if o.operands.isEmpty then
      if o.has 'f' then c.exit 0 else c.refuseWithHint 1 "missing operand".toList
    else
      let cannot (p : Text) (f : Fault) : Write :=
        c.complaint ("cannot remove ".toList ++ quote p ++ ": ".toList ++ f.wording)
      let removed (isFolder : Bool) (p : Text) : List Write :=
        if o.has 'v' then
          [⟨1, (if isFolder then "removed directory " else "removed ").toList ++ quote p ++ ['\n']⟩]
        else []
      perOperand c o.operands fun d p =>
        match spotOf d p with
        | .ok ⟨l, some .folder⟩ =>
          if o.has 'r' || o.has 'R' then
            if lastName p = Path.dot ∨ lastName p = Path.dotDot then
              let refusal := "refusing to remove '.' or '..' directory: skipping ".toList
              (d, [c.complaint (refusal ++ quote p)])
            else
              (d.eraseTree l, (foldersLast d 64 p).flatMap fun (q, isFolder) => removed isFolder q)
          else if o.has 'd' then
            if d.isEmptyFolder l then (d.erase l, removed true p) else (d, [cannot p .notEmpty])
          else (d, [cannot p .isFolder])
        | .ok spot => (d.erase spot.location, removed false p)
        | .error f =>
          if o.has 'f' && (f == .notFound || f == .notFolder) then (d, []) else (d, [cannot p f])

/-- Makes empty files, and leaves those that are there. -/
def touch (c : Call) : Effect :=
  let o := c.options "dtr" "acm"
  match o.fault with
  | some f => c.badOption 1 f
  | none =>
    if o.operands.isEmpty then c.refuseWithHint 1 "missing file operand".toList
    else
      perOperand c o.operands fun d p =>
        if d.isThere p || o.has 'c' then (d, [])
        else
          match d.write p [] with
          | .ok d => (d, [])
          | .error f =>
            (d, [c.complaint ("cannot touch ".toList ++ quote p ++ ": ".toList ++ f.wording)])

/-! ## Copying and moving -/

/-- All that stands at a path or below it, folders before what they hold. -/
def foldersFirst (d : Disk) : (depth : Nat) → Text → List Text
  | 0, path => [path]
  | depth + 1, path =>
    match spotOf d path with
    | .ok ⟨_, some .folder⟩ =>
      path :: (namesAt d path).flatMap fun n => foldersFirst d depth (below path n)
    | _ => [path]

/-- Copies what is at one location to another. -/
def copyTree (d : Disk) (source target : Location) : Disk :=
  (d.entries.filter fun e => source.isPrefixOf e.1).foldl
    (fun d e => d.put (target ++ e.1.drop source.length) e.2) d

/-- Moves what is at one location to another. -/
def moveTree (d : Disk) (source target : Location) : Disk :=
  { d with entries := (d.eraseTree target).entries.map fun e =>
      if source.isPrefixOf e.1 then (target ++ e.1.drop source.length, e.2) else e }

/-- What is said when one path becomes another. -/
def arrow (lead source sign target : Text) : Write :=
  ⟨1, lead ++ quote source ++ sign ++ quote target ++ ['\n']⟩

/-- Copies one file or folder. -/
def copyOne (c : Call) (o : Options) (d : Disk) (source target : Text) : Disk × List Write :=
  let recursive := o.has 'r' || o.has 'R' || o.has 'a'
  let found := if o.has 'a' || o.has 'P' || o.has 'd' then spotOf d source
    else do
      let spot ← d.locate true (Octet.toText source)
      if spot.entry.isNone then throw .notFound
      return spot
  match found with
  | .error f =>
    (d, [c.complaint ("cannot stat ".toList ++ quote source ++ ": ".toList ++ f.wording)])
  | .ok spot =>
    match spot.entry with
    | none => (d, [])
    | some .folder =>
      if !recursive then
        (d, [c.complaint ("-r not specified; omitting directory ".toList ++ quote source)])
      else
        match d.locate true (Octet.toText target) with
        | .error f =>
          (d, [c.complaint ("cannot create directory ".toList ++ quote target ++ ": ".toList ++
            f.wording)])
        | .ok t =>
          if t.entry.any (!·.isFolder) then
            (d, [c.complaint ("cannot overwrite non-directory ".toList ++ quote target ++
              " with directory ".toList ++ quote source)])
          else if spot.location.isPrefixOf t.location then
            (d, [c.complaint ("cannot copy a directory, ".toList ++ quote source ++
              ", into itself, ".toList ++ quote target)])
          else (copyTree d spot.location t.location,
            if o.has 'v' then
              (foldersFirst d 64 source).map fun p =>
                arrow [] p " -> ".toList (target ++ p.drop source.length)
            else [])
    | some e =>
      let said := if o.has 'v' then [arrow [] source " -> ".toList target] else []
      match d.locate true (Octet.toText target) with
      | .error f =>
        let parentIsThere :=
          (d.locate true (Octet.toText (Text.withoutFinal '/' target))).toOption.isSome
        let f := if f = .notFound && target.getLast? = some '/' && parentIsThere then .notFolder
          else f
        (d, [c.complaint ("cannot create regular file ".toList ++ quote target ++ ": ".toList ++
          f.wording)])
      | .ok t =>
        if t.location = spot.location then
          (d, [c.complaint (quote source ++ " and ".toList ++ quote target ++
            " are the same file".toList)])
        else if t.entry.isNone && target.getLast? = some '/' then
          (d, [c.complaint ("cannot create regular file ".toList ++ quote target ++ ": ".toList ++
            Fault.notFolder.wording)])
        else
          match t.entry, e with
          | some .folder, _ =>
            (d, [c.complaint ("cannot overwrite directory ".toList ++ quote target ++
              " with non-directory".toList)])
          | some _, .file content mode =>
            if o.has 'n' then (d, [])
            else
              let mode := match t.entry with
                | some (.file _ old) => old
                | _ => mode
              (d.put t.location (.file content mode), said)
          | _, e => (d.put t.location e, said)

/-- Moves one file or folder. -/
def moveOne (c : Call) (o : Options) (d : Disk) (source target : Text) : Disk × List Write :=
  match spotOf d source with
  | .error f =>
    (d, [c.complaint ("cannot stat ".toList ++ quote source ++ ": ".toList ++ f.wording)])
  | .ok spot =>
    match d.locate false (Octet.toText (Text.withoutFinal '/' target)) with
    | .error f =>
      (d, [c.complaint ("cannot move ".toList ++ quote source ++ " to ".toList ++ quote target ++
        ": ".toList ++ f.wording)])
    | .ok t =>
      let fromFolder := spot.entry == some .folder
      if t.location = spot.location then
        (d, [c.complaint (quote source ++ " and ".toList ++ quote target ++
          " are the same file".toList)])
      else if fromFolder && spot.location.isPrefixOf t.location then
        (d, [c.complaint ("cannot move ".toList ++ quote source ++
          " to a subdirectory of itself, ".toList ++ quote target)])
      else if fromFolder && t.entry.any (!·.isFolder) then
        (d, [c.complaint ("cannot overwrite non-directory ".toList ++ quote target ++
          " with directory ".toList ++ quote source)])
      else if !fromFolder && t.entry.any (·.isFolder) then
        (d, [c.complaint ("cannot overwrite directory ".toList ++ quote target ++
          " with non-directory".toList)])
      else if fromFolder && t.entry == some .folder && !d.isEmptyFolder t.location then
        (d, [c.complaint ("cannot move ".toList ++ quote source ++ " to ".toList ++ quote target ++
          ": ".toList ++ Fault.notEmpty.wording)])
      else if o.has 'n' && t.entry.isSome then (d, [])
      else (moveTree d spot.location t.location,
        if o.has 'v' then [arrow "renamed ".toList source " -> ".toList target] else [])

/-- Copies or moves operands to the last of them: into it, if it is a folder. -/
def transfer (c : Call) (o : Options) (one : Disk → Text → Text → Disk × List Write) :
    Effect :=
  let operands := match o.value? 't' with
    | some folder => if o.operands.isEmpty then [] else o.operands ++ [folder]
    | none => o.operands
  match operands.reverse with
  | [] => c.refuseWithHint 1 "missing file operand".toList
  | [p] => c.refuseWithHint 1 ("missing destination file operand after ".toList ++ quote p)
  | target :: sources =>
    let sources := sources.reverse
    if c.disk.isFolderAt target && !o.has 'T' then
      perOperand c sources fun d p => one d p (below target (lastName p))
    else if o.has 'T' then
      match sources with
      | _ :: extra :: _ => c.refuseWithHint 1 ("extra operand ".toList ++ quote extra)
      | _ => perOperand c sources fun d p => one d p target
    else if 1 < sources.length || (o.value? 't').isSome then
      c.refuse 1 ("target ".toList ++ quote target ++ ": ".toList ++
        (if c.disk.isThere target then Fault.notFolder else Fault.notFound).wording)
    else perOperand c sources fun d p => one d p target

/-- Copies files and folders. -/
def cp (c : Call) : Effect :=
  let o := c.optionsWith [("recursive", 'r'), ("archive", 'a'), ("force", 'f'), ("verbose", 'v'),
    ("preserve", 'p'), ("no-clobber", 'n'), ("target-directory", 't'),
    ("no-target-directory", 'T')] "t" "rRafpPdvLnuiT"
  match o.fault with
  | some f => c.badOption 1 f
  | none => transfer c o (copyOne c o)

/-- Moves files and folders. -/
def mv (c : Call) : Effect :=
  let o := c.optionsWith [("force", 'f'), ("verbose", 'v'), ("no-clobber", 'n'),
    ("target-directory", 't'), ("no-target-directory", 'T')] "t" "fvnuiT"
  match o.fault with
  | some f => c.badOption 1 f
  | none => transfer c o (moveOne c o)

/-- Makes one link, or one second copy of a file. -/
def linkOne (c : Call) (o : Options) (d : Disk) (source target : Text) : Disk × List Write :=
  let kind := if o.has 's' then "symbolic".toList else "hard".toList
  let cannot (f : Fault) : Disk × List Write :=
    (d, [c.complaint ("failed to create ".toList ++ kind ++ " link ".toList ++ quote target ++
      ": ".toList ++ f.wording)])
  let said (sign : String) : List Write :=
    if o.has 'v' then [arrow [] target sign.toList source] else []
  match d.locate false (Octet.toText target) with
  | .error f => cannot f
  | .ok t =>
    if t.entry.isSome && !o.has 'f' then cannot .alreadyThere
    else if o.has 's' then
      (d.put t.location (.link (Octet.toText source)), said " -> ")
    else
      match spotOf d source with
      | .ok ⟨_, some e⟩ =>
        if e.isFolder then
          (d, [c.complaint (source ++ ": hard link not allowed for directory".toList)])
        else (d.put t.location e, said " => ")
      | .ok _ => cannot .notFound
      | .error f =>
        (d, [c.complaint ("failed to access ".toList ++ quote source ++ ": ".toList ++ f.wording)])

/-- Makes links, or second copies of files. -/
def ln (c : Call) : Effect :=
  let o := c.optionsWith [("symbolic", 's'), ("force", 'f'), ("no-dereference", 'n'),
    ("verbose", 'v'), ("target-directory", 't'), ("no-target-directory", 'T')] "t" "sfnvT"
  let follows (t : Text) : Bool :=
    c.disk.isFolderAt t && !o.has 'T' &&
      !(o.has 'n' && (spotOf c.disk t).toOption.any fun s => s.entry.any (·.isLink))
  match o.fault, o.operands with
  | some f, _ => c.badOption 1 f
  | none, [] => c.refuseWithHint 1 "missing file operand".toList
  | none, [source] =>
    if (o.value? 't').isSome then transfer c o (linkOne c o)
    else perOperand c [source] fun d p => linkOne c o d p ("./".toList ++ lastName p)
  | none, [source, target] =>
    if (o.value? 't').isSome || follows target then transfer c o (linkOne c o)
    else perOperand c [source] fun d p => linkOne c o d p target
  | none, _ => transfer c o (linkOne c o)

end Utility
end DocExamples
