/-
# Escapes

A backslash and what follows it stand for an octet.  Utilities that show their
arguments replace escapes in them, or show them as they are.
-/

import DocExamples.Machine.Utility.Call

namespace DocExamples
namespace Utility

/-- Octets made of escapes; `stopped` says that an escape ended the output. -/
structure Unescaped where
  /-- The octets. -/
  text : Text
  /-- Whether the output ends here. -/
  stopped : Bool

/-- What a letter stands for behind a backslash. -/
def escapeLetter? : Char → Option Char
  | 'a' => some '\x07'
  | 'b' => some '\x08'
  | 'e' => some '\x1b'
  | 'f' => some '\x0c'
  | 'n' => some '\n'
  | 'r' => some '\r'
  | 't' => some '\t'
  | 'v' => some '\x0b'
  | '\\' => some '\\'
  | _ => none

/-- The octet of up to `most` octal digits. -/
def octal (most : Nat) (s : Text) : Text.Reading Char :=
  let digits := (s.takeWhile Octet.isOctal).take most
  ⟨Char.ofNat (Octet.ofOctal digits % 256), s.drop digits.length⟩

/-- Replaces escapes in an argument: a backslash, zero and up to three octal digits, or
a letter; the letter `c` ends the output. -/
def unescape : (fuel : Nat) → Text → Unescaped
  | 0, _ => ⟨[], false⟩
  | _, [] => ⟨[], false⟩
  | fuel + 1, '\\' :: c :: s =>
    if c = 'c' then ⟨[], true⟩
    else if c = '0' then
      let r := octal 3 s
      let u := unescape fuel r.rest
      { u with text := r.value :: u.text }
    else if Octet.isOctal c then
      let r := octal 3 (c :: s)
      let u := unescape fuel r.rest
      { u with text := r.value :: u.text }
    else
      let u := unescape fuel s
      match escapeLetter? c with
      | some x => { u with text := x :: u.text }
      | none => { u with text := '\\' :: c :: u.text }
  | fuel + 1, c :: s =>
    let u := unescape fuel s
    { u with text := c :: u.text }

/-- Shows arguments with a space between each two, escapes replaced. -/
def echo (c : Call) : Effect :=
  let quiet := c.arguments.head? = some ['-', 'n']
  let words := if quiet then c.arguments.drop 1 else c.arguments
  let joined := Text.joined [' '] words
  let u := unescape (joined.length + 1) joined
  c.output (u.text ++ if u.stopped || quiet then [] else ['\n'])

/-- Replaces escapes as the program `echo` knows them: also octal digits without a zero
before them, and two hexadecimal digits behind an `x`. -/
def unescapeAll : (fuel : Nat) → Text → Unescaped
  | 0, _ => ⟨[], false⟩
  | _, [] => ⟨[], false⟩
  | fuel + 1, '\\' :: c :: s =>
    let also (x : Text) (rest : Text) : Unescaped :=
      let u := unescapeAll fuel rest
      { u with text := x ++ u.text }
    if c = 'c' then ⟨[], true⟩
    else if Octet.isOctal c then
      let digits := if c = '0' then s else c :: s
      let r := octal 3 digits
      also [r.value] r.rest
    else if c = 'x' then
      let digits := (s.takeWhile fun d => (Octet.digit? 16 d).isSome).take 2
      if digits.isEmpty then also ['\\', 'x'] s
      else also [Char.ofNat (Octet.ofDigits 16 digits)] (s.drop digits.length)
    else
      match escapeLetter? c with
      | some x => also [x] s
      | none => also ['\\', c] s
  | fuel + 1, c :: s =>
    let u := unescapeAll fuel s
    { u with text := c :: u.text }

/-- Shows arguments with a space between each two: as they are, or with the letter `e`
escapes replaced. -/
def plainEcho (c : Call) : Effect :=
  let isOption (a : Text) : Bool := match a with
    | '-' :: l :: ls => (l :: ls).all fun l => l == 'n' || l == 'e' || l == 'E'
    | _ => false
  let letters := (c.arguments.takeWhile isOption).flatMap (·.drop 1)
  let joined := Text.joined [' '] (c.arguments.dropWhile isOption)
  let replaces := (letters.filter (· != 'n')).getLast? = some 'e'
  let u := if replaces then unescapeAll (joined.length + 1) joined else ⟨joined, false⟩
  c.output (u.text ++ if u.stopped || letters.contains 'n' then [] else ['\n'])

end Utility
end DocExamples
