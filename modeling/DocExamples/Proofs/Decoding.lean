/-
# Octets are decoded into the text they were written for

The octets of a code point are read back as this code point, whatever follows them, and no other
octets are read as it.  The lead octet says how many follow, and the range that it leaves to the
next one shuts out every longer form and every surrogate:

| lead octet | next octet | code points |
| --- | --- | --- |
| `00` to `7F` | | below U+0080 |
| `C2` to `DF` | `80` to `BF` | U+0080 to U+07FF |
| `E0` | `A0` to `BF` | U+0800 to U+0FFF |
| `ED` | `80` to `9F` | U+D000 to U+D7FF |
| other `E` | `80` to `BF` | the others below U+10000 |
| `F0` | `90` to `BF` | U+10000 to U+3FFFF |
| `F4` | `80` to `8F` | U+100000 to U+10FFFF |
| other `F` | `80` to `BF` | the others above |

So strict decoding accepts what encoding gives, and nothing else.
-/

import DocExamples.Proofs.Escapes
import DocExamples.Text.Utf8

namespace DocExamples
namespace Utf8

variable {bits length following least greatest n : Nat} {b : UInt8} {c : Char} {s rest : Octets}

/-! ### Lead octets -/

theorem lead?_one (h : n < 0x80) : lead? n = some ⟨n, 0, 0x80, 0xBF⟩ := by
  rw [lead?, if_pos h]

theorem lead?_two (h : 0xC2 ≤ n) (hn : n < 0xE0) : lead? n = some ⟨n - 0xC0, 1, 0x80, 0xBF⟩ := by
  rw [lead?, if_neg (by omega), if_neg (by omega), if_pos hn]

theorem lead?_three (h : 0xE0 ≤ n) (hn : n < 0xF0) : lead? n = some
    ⟨n - 0xE0, 2, if n = 0xE0 then 0xA0 else 0x80, if n = 0xED then 0x9F else 0xBF⟩ := by
  rw [lead?, if_neg (by omega), if_neg (by omega), if_neg (by omega), if_pos hn]

theorem lead?_four (h : 0xF0 ≤ n) (hn : n < 0xF5) : lead? n = some
    ⟨n - 0xF0, 3, if n = 0xF0 then 0x90 else 0x80, if n = 0xF4 then 0x8F else 0xBF⟩ := by
  rw [lead?, if_neg (by omega), if_neg (by omega), if_neg (by omega), if_neg (by omega), if_pos hn]

theorem lead?_cases (n : Nat) : n < 0x80 ∨ (0xC2 ≤ n ∧ n < 0xE0) ∨ (0xE0 ≤ n ∧ n < 0xF0) ∨
    (0xF0 ≤ n ∧ n < 0xF5) ∨ lead? n = none := by
  by_cases hout : 0x80 ≤ n ∧ n < 0xC2 ∨ 0xF5 ≤ n
  · refine .inr (.inr (.inr (.inr ?_)))
    unfold lead?
    split_ifs
    all_goals first | rfl | omega
  · omega

theorem step_of_lead? (h : lead? b.toNat = some ⟨bits, following, least, greatest⟩) (s : Octets) :
    step b s = continueChar bits 1 following least greatest s := by
  rw [step, h]

/-! ### Continuation octets -/

theorem toNat_continuation (n : Nat) : (continuation n).toNat = 0x80 + n % 0x40 := by
  rw [continuation, UInt8.toNat_ofNat']
  omega

theorem toNat_ofNat (h : n < 0x100) : (UInt8.ofNat n).toNat = n := by
  rw [UInt8.toNat_ofNat', Nat.mod_eq_of_lt h]

theorem eq_ofNat (h : n = b.toNat) : UInt8.ofNat n = b := by
  rw [h, UInt8.ofNat_toNat]

/-- A continuation octet in range adds its six bits. -/
theorem continueChar_continuation (hleast : least ≤ 0x80 + n % 0x40)
    (hgreatest : 0x80 + n % 0x40 ≤ greatest) (rest : Octets) :
    continueChar bits length (following + 1) least greatest (continuation n :: rest) =
      continueChar (bits * 0x40 + n % 0x40) (length + 1) following 0x80 0xBF rest := by
  have hbits : (0x80 + n % 0x40) % 0x40 = n % 0x40 := by omega
  rw [continueChar, toNat_continuation, if_pos (by simp [hleast, hgreatest]), hbits]

/-- A code point that is read goes on with an octet in range. -/
theorem exists_of_continueChar
    (h : continueChar bits length (following + 1) least greatest s = ⟨.char c, rest⟩) :
    ∃ b s', s = b :: s' ∧ (least ≤ b.toNat ∧ b.toNat ≤ greatest) ∧
      continueChar (bits * 0x40 + b.toNat % 0x40) (length + 1) following 0x80 0xBF s' =
        ⟨.char c, rest⟩ := by
  cases s with
  | nil => exact nomatch h
  | cons b s =>
    rw [continueChar] at h
    split at h
    · next hrange =>
      rw [Bool.and_eq_true, decide_eq_true_eq, decide_eq_true_eq] at hrange
      exact ⟨b, s, rfl, hrange, h⟩
    · exact nomatch h

/-- A code point that is read to the end has the number of its bits. -/
theorem toNat_of_continueChar (hvalid : n.isValidChar)
    (h : continueChar n length 0 least greatest s = ⟨.char c, rest⟩) : c.toNat = n ∧ s = rest := by
  rw [continueChar, Step.mk.injEq, Item.char.injEq] at h
  obtain ⟨rfl, rfl⟩ := h
  rw [Char.ofNat, dif_pos hvalid]
  exact ⟨rfl, rfl⟩

/-! ### One code point -/

/-- **The octets of a code point are read as this code point**, whatever follows. -/
theorem step_encodeChar (c : Char) (rest : Octets) :
    ∃ b more, encodeChar c = b :: more ∧ step b (more ++ rest) = ⟨.char c, rest⟩ := by
  have hlt := Json.Token.toNat_lt c
  have hhalf := Json.Token.not_isHalf_toNat c
  rw [Json.Token.IsHalf] at hhalf
  unfold encodeChar
  simp only
  split_ifs with hone htwo hthree
  · refine ⟨_, _, rfl, ?_⟩
    have hlead := lead?_one hone
    rw [← toNat_ofNat (n := c.toNat) (by omega)] at hlead
    rw [step_of_lead? hlead, toNat_ofNat (by omega), List.nil_append, continueChar,
      Char.ofNat_toNat]
  · refine ⟨_, _, rfl, ?_⟩
    have hlead := lead?_two (n := 0xC0 + c.toNat / 0x40) (by omega) (by omega)
    rw [← toNat_ofNat (n := 0xC0 + c.toNat / 0x40) (by omega)] at hlead
    have hnumber : (0xC0 + c.toNat / 0x40 - 0xC0) * 0x40 + c.toNat % 0x40 = c.toNat := by omega
    rw [step_of_lead? hlead, toNat_ofNat (by omega), List.cons_append, List.nil_append,
      continueChar_continuation (by omega) (by omega), continueChar, hnumber, Char.ofNat_toNat]
  · refine ⟨_, _, rfl, ?_⟩
    have hlead := lead?_three (n := 0xE0 + c.toNat / 0x1000) (by omega) (by omega)
    rw [← toNat_ofNat (n := 0xE0 + c.toNat / 0x1000) (by omega)] at hlead
    have hnumber : ((0xE0 + c.toNat / 0x1000 - 0xE0) * 0x40 + c.toNat / 0x40 % 0x40) * 0x40 +
        c.toNat % 0x40 = c.toNat := by omega
    rw [step_of_lead? hlead, toNat_ofNat (by omega), List.cons_append, List.cons_append,
      List.nil_append, continueChar_continuation (by split <;> omega) (by split <;> omega),
      continueChar_continuation (by omega) (by omega), continueChar, hnumber, Char.ofNat_toNat]
  · refine ⟨_, _, rfl, ?_⟩
    have hlead := lead?_four (n := 0xF0 + c.toNat / 0x40000) (by omega) (by omega)
    rw [← toNat_ofNat (n := 0xF0 + c.toNat / 0x40000) (by omega)] at hlead
    have hnumber : (((0xF0 + c.toNat / 0x40000 - 0xF0) * 0x40 + c.toNat / 0x1000 % 0x40) * 0x40 +
        c.toNat / 0x40 % 0x40) * 0x40 + c.toNat % 0x40 = c.toNat := by omega
    rw [step_of_lead? hlead, toNat_ofNat (by omega), List.cons_append, List.cons_append,
      List.cons_append, List.nil_append,
      continueChar_continuation (by split <;> omega) (by split <;> omega),
      continueChar_continuation (by omega) (by omega),
      continueChar_continuation (by omega) (by omega), continueChar, hnumber, Char.ofNat_toNat]

/-- **What is read as a code point is its octets**, and nothing else. -/
theorem eq_encodeChar_of_step (h : step b s = ⟨.char c, rest⟩) :
    b :: s = encodeChar c ++ rest := by
  rcases lead?_cases b.toNat with hone | ⟨hleast, hlt⟩ | ⟨hleast, hlt⟩ | ⟨hleast, hlt⟩ | hnone
  · rw [step_of_lead? (lead?_one hone)] at h
    obtain ⟨hc, rfl⟩ := toNat_of_continueChar (.inl (by omega)) h
    rw [encodeChar, hc, if_pos hone, eq_ofNat rfl, List.singleton_append]
  · rw [step_of_lead? (lead?_two hleast hlt)] at h
    obtain ⟨b₁, s₁, rfl, h₁, h⟩ := exists_of_continueChar h
    obtain ⟨hc, rfl⟩ := toNat_of_continueChar (.inl (by omega)) h
    rw [encodeChar, hc, if_neg (by omega), if_pos (by omega), continuation,
      eq_ofNat (b := b) (by omega), eq_ofNat (b := b₁) (by omega)]
    rfl
  · rw [step_of_lead? (lead?_three hleast hlt)] at h
    obtain ⟨b₁, s₁, rfl, h₁, h⟩ := exists_of_continueChar h
    obtain ⟨b₂, s₂, rfl, h₂, h⟩ := exists_of_continueChar h
    have hlong : 0x80 ≤ b₁.toNat ∧ b₁.toNat ≤ 0xBF ∧ (b.toNat = 0xE0 → 0xA0 ≤ b₁.toNat) ∧
        (b.toNat = 0xED → b₁.toNat ≤ 0x9F) := by
      split_ifs at h₁ <;> omega
    obtain ⟨hc, rfl⟩ := toNat_of_continueChar (n := ((b.toNat - 0xE0) * 0x40 +
      b₁.toNat % 0x40) * 0x40 + b₂.toNat % 0x40) (by unfold Nat.isValidChar; omega) h
    rw [encodeChar, hc, if_neg (by omega), if_neg (by omega), if_pos (by omega), continuation,
      continuation, eq_ofNat (b := b) (by omega), eq_ofNat (b := b₁) (by omega),
      eq_ofNat (b := b₂) (by omega)]
    rfl
  · rw [step_of_lead? (lead?_four hleast hlt)] at h
    obtain ⟨b₁, s₁, rfl, h₁, h⟩ := exists_of_continueChar h
    obtain ⟨b₂, s₂, rfl, h₂, h⟩ := exists_of_continueChar h
    obtain ⟨b₃, s₃, rfl, h₃, h⟩ := exists_of_continueChar h
    have hlong : 0x80 ≤ b₁.toNat ∧ b₁.toNat ≤ 0xBF ∧ (b.toNat = 0xF0 → 0x90 ≤ b₁.toNat) ∧
        (b.toNat = 0xF4 → b₁.toNat ≤ 0x8F) := by
      split_ifs at h₁ <;> omega
    obtain ⟨hc, rfl⟩ := toNat_of_continueChar (n := (((b.toNat - 0xF0) * 0x40 +
      b₁.toNat % 0x40) * 0x40 + b₂.toNat % 0x40) * 0x40 + b₃.toNat % 0x40)
        (by unfold Nat.isValidChar; omega) h
    rw [encodeChar, hc, if_neg (by omega), if_neg (by omega), if_neg (by omega), continuation,
      continuation, continuation, eq_ofNat (b := b) (by omega), eq_ofNat (b := b₁) (by omega),
      eq_ofNat (b := b₂) (by omega), eq_ofNat (b := b₃) (by omega)]
    rfl
  · rw [step, hnone] at h
    exact nomatch h

/-! ### Texts -/

/-- The items behind those that are done. -/
theorem itemsFrom_append (done done' : List Item) (s : Octets) :
    itemsFrom (done ++ done') s = done'.reverse ++ itemsFrom done s := by
  fun_induction itemsFrom done s with
  | case1 done => rw [itemsFrom, List.reverse_append]
  | case2 done b rest ih => rw [itemsFrom, ← List.cons_append, ih]

theorem items_nil : items [] = [] := by
  rw [items, itemsFrom, List.reverse_nil]

theorem items_cons (b : UInt8) (s : Octets) :
    items (b :: s) = (step b s).item :: items (step b s).rest := by
  rw [items, itemsFrom]
  exact itemsFrom_append [] [_] _

theorem items_encodeChar_append (c : Char) (rest : Octets) :
    items (encodeChar c ++ rest) = .char c :: items rest := by
  obtain ⟨b, more, hoctets, hstep⟩ := step_encodeChar c rest
  rw [hoctets, List.cons_append, items_cons, hstep]

/-- Octets fall into the code points of a text exactly if they are the octets of this text. -/
theorem items_eq_map_iff {t : Text} : items s = t.map .char ↔ s = encode t := by
  constructor
  · intro h
    induction t generalizing s with
    | nil =>
      cases s with
      | nil => rfl
      | cons b s =>
        rw [items_cons] at h
        exact absurd h (List.cons_ne_nil _ _)
    | cons c t ih =>
      cases s with
      | nil =>
        rw [items_nil] at h
        exact absurd h.symm (List.cons_ne_nil _ _)
      | cons b s =>
        rw [items_cons, List.map_cons, List.cons.injEq] at h
        obtain ⟨hitem, hrest⟩ := h
        have hstep : step b s = ⟨.char c, (step b s).rest⟩ := by rw [← hitem]
        rw [eq_encodeChar_of_step hstep, ih hrest]
        rfl
  · rintro rfl
    induction t with
    | nil => exact items_nil
    | cons c t ih =>
      rw [encode, List.flatMap_cons, items_encodeChar_append, ← encode, ih]
      rfl

/-- Items are decoded exactly if they are all code points. -/
theorem decodeItems_eq_ok_iff {octets : Octets} {offset : Nat} {done t : Text} {is : List Item} :
    decodeItems octets offset done is = .ok t ↔
      ∃ u : Text, is = u.map .char ∧ t = done.reverse ++ u := by
  induction is generalizing offset done with
  | nil =>
    rw [decodeItems, Except.ok.injEq]
    constructor
    · rintro rfl
      exact ⟨[], rfl, (List.append_nil _).symm⟩
    · rintro ⟨u, hu, rfl⟩
      rw [List.map_eq_nil_iff.1 hu.symm, List.append_nil]
  | cons i is ih =>
    cases i with
    | char c =>
      rw [decodeItems, ih]
      constructor
      · rintro ⟨u, rfl, rfl⟩
        exact ⟨c :: u, rfl, by simp⟩
      · rintro ⟨u, hu, rfl⟩
        obtain ⟨d, v, rfl, hd, hv⟩ := List.map_eq_cons_iff.1 hu.symm
        obtain rfl := Item.char.inj hd
        exact ⟨v, hv.symm, by simp⟩
    | invalid length reason =>
      rw [decodeItems]
      refine ⟨nofun, ?_⟩
      rintro ⟨u, hu, -⟩
      obtain ⟨d, u, -, hd, -⟩ := List.map_eq_cons_iff.1 hu.symm
      exact nomatch hd

/-- **Octets are decoded into a text exactly if they are the octets of this text.** -/
theorem decode_eq_ok_iff {t : Text} : decode s = .ok t ↔ s = encode t := by
  rw [decode, decodeItems_eq_ok_iff, ← items_eq_map_iff]
  constructor
  · rintro ⟨u, hu, rfl⟩
    exact hu
  · exact fun h => ⟨t, h, rfl⟩

end Utf8
end DocExamples
