/-
# The literal that names the documented module

A program names the documented module in a string literal, and whatever runs the program reads the
literal back, as UTF-16 units:

| behind a backslash | stands for |
| --- | --- |
| `b` `t` `n` `v` `f` `r` | a control character |
| `0`, with no digit behind it | NUL |
| `x` and two digits, `u` and four | the unit with this number |
| `u` and digits in braces | the code point with this number |
| the end of a line | nothing |
| any other character, but no digit | itself |

The literal ends at the first quotation mark that has no backslash of its own, and no line feed
and no carriage return may stand in it.  A path is written as JSON, whose escapes are all among
these, so that it is read back as it is, whatever characters it has, and nothing of it is read as
a part of the program.
-/

import DocExamples.Proofs.Escapes
import DocExamples.Synthesis

namespace DocExamples
namespace Literal
open Text
open Json.Token (Spelling spelling_escape)

/-! ### UTF-16 -/

/-- The units of a code point. -/
def units (n : Nat) : List Nat :=
  if n < 0x10000 then [n]
  else [0xD800 + (n - 0x10000) / 0x400, 0xDC00 + (n - 0x10000) % 0x400]

/-- The units of a text. -/
def utf16 (s : Text) : List Nat := s.flatMap fun c => units c.toNat

/-- Units of a character are no units of another one, whatever follows them. -/
theorem units_inj {c d : Char} {us vs : List Nat}
    (h : units c.toNat ++ us = units d.toNat ++ vs) : c = d ∧ us = vs := by
  have hc := Json.Token.not_isHalf_toNat c
  have hd := Json.Token.not_isHalf_toNat d
  have hlarge := Json.Token.toNat_lt c
  have hlarge' := Json.Token.toNat_lt d
  have heq (hn : c.toNat = d.toNat) : c = d := by
    rw [← Char.ofNat_toNat c, hn, Char.ofNat_toNat]
  unfold units at h
  unfold Json.Token.IsHalf at hc hd
  split_ifs at h with hshort hshort' hshort'
  · obtain ⟨hn, hmore⟩ := List.cons.inj h
    exact ⟨heq hn, hmore⟩
  · obtain ⟨hn, -⟩ := List.cons.inj h
    omega
  · obtain ⟨hn, -⟩ := List.cons.inj h
    omega
  · obtain ⟨hhigh, hbehind⟩ := List.cons.inj h
    obtain ⟨hlow, hmore⟩ := List.cons.inj hbehind
    exact ⟨heq (by omega), hmore⟩

/-- **Units belong to one text.** -/
theorem utf16_injective {s t : Text} (h : utf16 s = utf16 t) : s = t := by
  have hunits (c : Char) (s : Text) : utf16 (c :: s) = units c.toNat ++ utf16 s := List.flatMap_cons
  have hne (n : Nat) : units n ≠ [] := by
    unfold units
    split <;> exact List.cons_ne_nil _ _
  induction s generalizing t with
  | nil =>
    cases t with
    | nil => rfl
    | cons d t =>
      rw [hunits] at h
      exact absurd (List.append_eq_nil_iff.1 h.symm).1 (hne _)
  | cons c s ih =>
    cases t with
    | nil =>
      rw [hunits] at h
      exact absurd (List.append_eq_nil_iff.1 h).1 (hne _)
    | cons d t =>
      rw [hunits, hunits] at h
      obtain ⟨rfl, hmore⟩ := units_inj h
      rw [ih hmore]

/-! ### Reading literals -/

/-- Whether a character ends a line. -/
def isLineEnd (c : Char) : Bool := c == '\n' || c == '\r' || c == '\u2028' || c == '\u2029'

/-- The control character that a letter behind a backslash stands for. -/
def control? : Char → Option Nat
  | 'b' => some 0x08
  | 't' => some 0x09
  | 'n' => some 0x0A
  | 'v' => some 0x0B
  | 'f' => some 0x0C
  | 'r' => some 0x0D
  | _ => none

/-- The number of hexadecimal digits. -/
def hexNumber (digits : Text) : Nat :=
  digits.foldl (fun n c => n * 16 + (Json.Token.hexValue? c).getD 0) 0

/-- What follows `\x`. -/
def readByte? : Text → Option (Reading (List Nat))
  | a :: b :: s => do
    let a ← Json.Token.hexValue? a
    let b ← Json.Token.hexValue? b
    return ⟨[a * 16 + b], s⟩
  | _ => none

/-- What follows `\u`. -/
def readUnit? : Text → Option (Reading (List Nat))
  | '\x7b' :: s =>
    let digits := s.takeWhile fun c => (Json.Token.hexValue? c).isSome
    match s.drop digits.length with
    | '\x7d' :: rest =>
      if digits.isEmpty || 0x10FFFF < hexNumber digits then none
      else some ⟨units (hexNumber digits), rest⟩
    | _ => none
  | a :: b :: c :: d :: s => (Json.Token.unit? a b c d).map fun n => ⟨[n], s⟩
  | _ => none

/-- What follows a backslash. -/
def readEscape? : Text → Option (Reading (List Nat))
  | [] => none
  | c :: s =>
    if c = 'x' then readByte? s
    else if c = 'u' then readUnit? s
    else if c = '0' then if s.head?.any Char.isDigit then none else some ⟨[0], s⟩
    else if c.isDigit then none
    else if c = '\r' then some ⟨[], (after? ['\n'] s).getD s⟩
    else if isLineEnd c then some ⟨[], s⟩
    else some ⟨((control? c).map ([·])).getD (units c.toNat), s⟩

variable {s : Text} {r : Reading (List Nat)}

theorem length_readByte?_le (h : readByte? s = some r) : r.rest.length ≤ s.length := by
  unfold readByte? at h
  split at h
  · obtain ⟨m, -, h⟩ := Option.bind_eq_some_iff.1 h
    obtain ⟨n, -, h⟩ := Option.bind_eq_some_iff.1 h
    obtain rfl := Option.some.inj h
    simp only [List.length_cons]
    omega
  · exact nomatch h

theorem length_readUnit?_le (h : readUnit? s = some r) : r.rest.length ≤ s.length := by
  unfold readUnit? at h
  split at h
  · next s =>
    simp only at h
    split at h
    · next rest hrest =>
      have hlength := congrArg List.length hrest
      rw [List.length_drop, List.length_cons] at hlength
      split at h
      · exact nomatch h
      · obtain rfl := Option.some.inj h
        simp only [List.length_cons]
        omega
    · exact nomatch h
  · obtain ⟨n, -, rfl⟩ := Option.map_eq_some_iff.1 h
    simp only [List.length_cons]
    omega
  · exact nomatch h

theorem length_readEscape?_le (h : readEscape? s = some r) : r.rest.length ≤ s.length := by
  cases s with
  | nil => exact nomatch h
  | cons c s =>
    rw [List.length_cons]
    rw [readEscape?] at h
    split_ifs at h
    · exact Nat.le_succ_of_le (length_readByte?_le h)
    · exact Nat.le_succ_of_le (length_readUnit?_le h)
    · obtain rfl := Option.some.inj h
      exact Nat.le_succ _
    · obtain rfl := Option.some.inj h
      cases hfeed : after? ['\n'] s with
      | none => exact Nat.le_succ _
      | some rest =>
        rw [after?_eq_some_iff.1 hfeed]
        simp only [Option.getD_some, List.length_append]
        omega
    · obtain rfl := Option.some.inj h
      exact Nat.le_succ _
    · obtain rfl := Option.some.inj h
      exact Nat.le_succ _

/-- More units before those that were read. -/
def after (us : List Nat) (r : Reading (List Nat)) : Reading (List Nat) := ⟨us ++ r.value, r.rest⟩

/-- Reads a literal up to its closing quotation mark, behind the opening one. -/
def readBody? : Text → Option (Reading (List Nat))
  | [] => none
  | c :: s =>
    if c = '"' then some ⟨[], s⟩
    else if c = '\\' then
      match _h : readEscape? s with
      | some r => (readBody? r.rest).map (after r.value)
      | none => none
    else if c = '\n' ∨ c = '\r' then none
    else (readBody? s).map (after (units c.toNat))
termination_by s => s.length
decreasing_by
  · exact Nat.lt_succ_of_le (length_readEscape?_le _h)
  · exact Nat.lt_succ_self _

/-- Reads a string literal in double quotes. -/
def read? : Text → Option (Reading (List Nat))
  | '"' :: s => readBody? s
  | _ => none

/-- Whether every quotation mark in a text has a backslash of its own in front, and every backslash
a character behind. -/
def isGuarded : Text → Bool
  | [] => true
  | ['\\'] => false
  | '\\' :: _ :: s => isGuarded s
  | c :: s => c != '"' && isGuarded s

/-- A literal that denotes a text. -/
structure Denotes (literal s : Text) : Prop where
  /-- It is printable ASCII. -/
  printable : ∀ c ∈ literal, Json.Token.IsPrintable c
  /-- It stands in quotation marks and holds none without a backslash. -/
  quoted : ∃ body, literal = '"' :: (body ++ ['"']) ∧ isGuarded body = true
  /-- It is read as the text, up to its end, whatever follows. -/
  read : ∀ rest, read? (literal ++ rest) = some ⟨utf16 s, rest⟩

/-- **A literal denotes one text.** -/
theorem Denotes.unique {literal s t : Text} (hs : Denotes literal s) (ht : Denotes literal t) :
    s = t :=
  utf16_injective (congrArg Reading.value (Option.some.inj ((hs.read []).symm.trans (ht.read []))))

/-! ### Written characters are read -/

variable {c : Char} {text : Text}

theorem readBody?_quote (s : Text) : readBody? ('"' :: s) = some ⟨[], s⟩ := by
  rw [readBody?, if_pos rfl]

theorem readBody?_escape (h : readEscape? s = some r) :
    readBody? ('\\' :: s) = (readBody? r.rest).map (after r.value) := by
  rw [readBody?, if_neg (by decide), if_pos rfl]
  split
  · next r' hr' => rw [Option.some.inj (hr'.symm.trans h)]
  · next hnone => exact nomatch hnone.symm.trans h

theorem readBody?_plain (hquote : c ≠ '"') (hslash : c ≠ '\\') (hc : 0x20 ≤ c.toNat) (s : Text) :
    readBody? (c :: s) = (readBody? s).map (after (units c.toNat)) := by
  have hcontrol : ¬ (c = '\n' ∨ c = '\r') := by
    rintro (rfl | rfl) <;> exact absurd hc (by decide)
  rw [readBody?, if_neg hquote, if_neg hslash, if_neg hcontrol]

/-- Four digits are read as their unit. -/
theorem readBody?_unitEscape {n : Nat} (h : n < 0x10000) (rest : Text) :
    readBody? (Json.unitEscape n ++ rest) = (readBody? rest).map (after [n]) := by
  obtain ⟨a, b, c, d, hescape, hunit⟩ := Json.Token.exists_unit?_eq h
  have hbrace : a ≠ '\x7b' := by
    rintro rfl
    exact nomatch hunit
  have hread : readEscape? ('u' :: a :: b :: c :: d :: rest) = some ⟨[n], rest⟩ := by
    rw [readEscape?, if_neg (by decide), if_pos rfl, readUnit?.eq_2 _ _ _ _ _ hbrace,
      hunit]
    rfl
  rw [hescape]
  exact readBody?_escape hread

/-- What JSON reads behind a backslash is read here too. -/
theorem readEscape?_of_escaped? {x : Char} (h : Json.Token.escaped? x = some c) (rest : Text) :
    readEscape? (x :: rest) = some ⟨units c.toNat, rest⟩ := by
  unfold Json.Token.escaped? at h
  split at h
  case h_9 => exact nomatch h
  all_goals
    obtain rfl := Option.some.inj h
    rfl

/-- **A written character is read as its units**, whatever follows. -/
theorem readBody?_spelling (h : Spelling c text) (rest : Text) :
    readBody? (text ++ rest) = (readBody? rest).map (after (units c.toNat)) := by
  cases h with
  | letter x read => exact readBody?_escape (readEscape?_of_escaped? read rest)
  | plain quote slash printable => exact readBody?_plain quote slash printable.1 rest
  | short small => rw [readBody?_unitEscape small, units, if_pos small]
  | long large =>
    have hlt := Json.Token.toNat_lt c
    rw [List.append_assoc, readBody?_unitEscape (by omega), readBody?_unitEscape (by omega),
      Option.map_map, units, if_neg large]
    rfl

theorem readBody?_flatMap (s rest : Text) :
    readBody? (s.flatMap Json.escape ++ '"' :: rest) = some ⟨utf16 s, rest⟩ := by
  induction s with
  | nil => exact readBody?_quote rest
  | cons c s ih =>
    rw [List.flatMap_cons, List.append_assoc, readBody?_spelling (spelling_escape c), ih]
    rfl

/-! ### Written characters are harmless -/

theorem isGuarded_append (h : ∀ c ∈ s, c ≠ '"' ∧ c ≠ '\\') (rest : Text) :
    isGuarded (s ++ rest) = isGuarded rest := by
  induction s with
  | nil => rfl
  | cons c s ih =>
    obtain ⟨⟨hquote, hslash⟩, hs⟩ := List.forall_mem_cons.1 h
    have hcons (t : Text) : isGuarded (c :: t) = (c != '"' && isGuarded t) :=
      isGuarded.eq_4 c t (fun hc _ => hslash hc) fun _ _ hc _ => hslash hc
    rw [List.cons_append, hcons, ih hs, bne_iff_ne.2 hquote, Bool.true_and]

theorem isGuarded_unitEscape (n : Nat) (rest : Text) :
    isGuarded (Json.unitEscape n ++ rest) = isGuarded rest := by
  have hdigit : ∀ k < 16, Nat.digitChar k ≠ '"' ∧ Nat.digitChar k ≠ '\\' := by decide
  exact isGuarded_append (forall_hexadecimal hdigit 4 n) rest

theorem isGuarded_spelling (h : Spelling c text) (rest : Text) :
    isGuarded (text ++ rest) = isGuarded rest := by
  cases h with
  | letter => rfl
  | plain quote slash =>
    exact isGuarded_append (List.forall_mem_singleton.2 ⟨quote, slash⟩) rest
  | short => exact isGuarded_unitEscape _ rest
  | long => rw [List.append_assoc, isGuarded_unitEscape, isGuarded_unitEscape]

/-- **A written text denotes itself.** -/
theorem denotes_writeText (s : Text) : Denotes (Json.writeText s) s where
  printable := by
    refine List.forall_mem_cons.2 ⟨by decide, List.forall_mem_append.2
      ⟨fun d hd => ?_, List.forall_mem_singleton.2 (by decide)⟩⟩
    obtain ⟨c, -, hd⟩ := List.mem_flatMap.1 hd
    exact (spelling_escape c).isPrintable d hd
  quoted := by
    refine ⟨s.flatMap Json.escape, rfl, ?_⟩
    induction s with
    | nil => rfl
    | cons c s ih => rw [List.flatMap_cons, isGuarded_spelling (spelling_escape c), ih]
  read rest := by
    have htext : Json.writeText s ++ rest = '"' :: (s.flatMap Json.escape ++ '"' :: rest) := by
      simp [Json.writeText]
    rw [htext]
    exact readBody?_flatMap s rest

end Literal

namespace Synthesis

/-- **A program imports the documented module under its real path**, in a literal that denotes this
path and no other text, whatever characters it has. -/
theorem exists_literal {d : Disk} {e : Example} {path : Text}
    (h : modulePath d e.origin = .ok path) :
    ∃ literal, (∀ t, Literal.Denotes literal t ↔ t = path) ∧
      (∀ imports exports, Program.prelude e path imports exports =
        Text.unlines (["// Auto-generated test for: ".toList ++ e.name,
            "// From: ".toList ++ e.location, [],
            "import * as __testdoc_module from ".toList ++ literal ++ ";".toList] ++
          imports ++ Program.bindings (Program.ambient imports exports) ++
          [[], Program.assertions])) ∧
      ∀ exports, programWith d exports e =
        .ok (Program.prelude e path (Import.statements d.cwdText e.origin (Text.lines e.code))
            exports ++ "\n\n".toList ++
          Program.wrapped (Import.divide (Text.lines e.code)).others ++ ['\n']) := by
  have hprefix : "import * as ".toList ++ Program.moduleAlias ++ " from ".toList =
      "import * as __testdoc_module from ".toList := by decide
  have hdenotes := Literal.denotes_writeText path
  refine ⟨Json.writeText path, fun t => ⟨fun ht => ht.unique hdenotes, fun ht => ht ▸ hdenotes⟩,
    fun imports exports => ?_, fun exports => ?_⟩
  · rw [Program.prelude, hprefix]
  · rw [programWith, h]
    rfl

/-- A path that would end its literal and its line, with characters of each kind. -/
def hostile : Text := "/m\";\n\u2028é𝄞.ts".toList

theorem exists_literal_hostile :
    modulePath ⟨[], [], 0o022, {}⟩ hostile = .ok hostile ∧
    ∃ literal, (∀ t, Literal.Denotes literal t ↔ t = hostile) ∧
      (∀ imports exports, Program.prelude ⟨hostile, 1, ['f'], [], none⟩ hostile imports exports =
        Text.unlines (["// Auto-generated test for: ".toList ++ ['f'],
            "// From: ".toList ++ Example.location ⟨hostile, 1, ['f'], [], none⟩, [],
            "import * as __testdoc_module from ".toList ++ literal ++ ";".toList] ++
          imports ++ Program.bindings (Program.ambient imports exports) ++
          [[], Program.assertions])) ∧
      ∀ exports, programWith ⟨[], [], 0o022, {}⟩ exports ⟨hostile, 1, ['f'], [], none⟩ =
        .ok (Program.prelude ⟨hostile, 1, ['f'], [], none⟩ hostile
            (Import.statements "/".toList hostile [[]]) exports ++ "\n\n".toList ++
          Program.wrapped (Import.divide [[]]).others ++ ['\n']) := by
  have hpath : modulePath ⟨[], [], 0o022, {}⟩ hostile = .ok hostile := by decide
  exact ⟨hpath, exists_literal (e := ⟨hostile, 1, ['f'], [], none⟩) hpath⟩

example : Json.writeText hostile = "\"/m\\\";\\n\\u2028\\u00e9\\ud834\\udd1e.ts\"".toList := by
  decide

end Synthesis
end DocExamples
