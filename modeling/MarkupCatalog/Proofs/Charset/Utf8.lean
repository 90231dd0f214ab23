import MarkupCatalog.Charset.Name
import MarkupCatalog.Charset.Utf8

/-!
# UTF-8 reads what it writes

`decode_encode`: the bytes of a text stand for that text and for no other.  Character by
character, each of the four lengths is decoded by its own branch, and the restrictions on
the second byte hold because the number of a character has the least length that it fits in
and is no surrogate.
-/

namespace MarkupCatalog.Charset.Utf8

theorem toNat_toUInt8 {n : Nat} (h : n < 256) : n.toUInt8.toNat = n := by
  rw [Nat.toUInt8_eq, UInt8.toNat_ofNat']
  exact Nat.mod_eq_of_lt h

/-- The numbers of characters: below the surrogates, or above them up to the last one. -/
theorem toNat_bounds (c : Char) : c.toNat < 0xD800 ∨ 0xE000 ≤ c.toNat ∧ c.toNat < 0x110000 := by
  have := c.valid
  simp only [UInt32.isValidChar, Nat.isValidChar] at this
  have htoNat : c.val.toNat = c.toNat := rfl
  omega

theorem isTail_iff {b : UInt8} : isTail b = true ↔ 0x80 ≤ b.toNat ∧ b.toNat < 0xC0 := by
  simp [isTail, UInt8.le_iff_toNat_le, UInt8.lt_iff_toNat_lt]

theorem isSecond_iff {a b : UInt8} :
    isSecond a b = true ↔ isTail b = true ∧ (a.toNat = 0xE0 → 0xA0 ≤ b.toNat) ∧
      (a.toNat = 0xED → b.toNat < 0xA0) ∧ (a.toNat = 0xF0 → 0x90 ≤ b.toNat) ∧
      (a.toNat = 0xF4 → b.toNat < 0x90) := by
  simp only [isSecond, Bool.and_eq_true, Bool.not_eq_true', Bool.and_eq_false_iff,
    beq_eq_false_iff_ne, decide_eq_false_iff_not, UInt8.le_iff_toNat_le, UInt8.lt_iff_toNat_lt,
    ne_eq, ← UInt8.toNat_inj, UInt8.reduceToNat, and_assoc]
  refine and_congr_right fun _ => ?_
  omega

variable {done : Text} {position : Nat} {rest : Bytes}

/-- What comes first in a character of several bytes. -/
theorem decodeOnto_lead {a : UInt8} (ha : 0xC2 ≤ a.toNat ∧ a.toNat < 0xF5) :
    ¬ a < 0x80 ∧ ¬ (a < 0xC2 || 0xF5 ≤ a) = true := by
  simp only [Bool.or_eq_true, decide_eq_true_eq, UInt8.lt_iff_toNat_lt, UInt8.le_iff_toNat_le,
    UInt8.reduceToNat]
  omega

/-- A character of one byte. -/
theorem decodeOnto_one {a : UInt8} (ha : a.toNat < 0x80) :
    decodeOnto done position (a :: rest) =
      decodeOnto (Char.ofNat a.toNat :: done) (position + 1) rest := by
  have hlt : a < 0x80 := UInt8.lt_iff_toNat_lt.mpr ha
  rw [decodeOnto.eq_def]
  simp only [hlt, if_true]

/-- A character of two bytes. -/
theorem decodeOnto_two {a b : UInt8} (ha : 0xC2 ≤ a.toNat ∧ a.toNat < 0xE0)
    (hb : isSecond a b = true) :
    decodeOnto done position (a :: b :: rest) =
      decodeOnto (Char.ofNat (a.toNat % 0x20 * 0x40 + tailBits b) :: done) (position + 2) rest := by
  obtain ⟨hone, hstart⟩ := decodeOnto_lead (a := a) ⟨ha.1, by omega⟩
  have htwo : a < 0xE0 := UInt8.lt_iff_toNat_lt.mpr ha.2
  rw [decodeOnto.eq_def]
  simp only [hone, hstart, htwo, hb, if_true, if_false, Bool.false_eq_true]

/-- A character of three bytes. -/
theorem decodeOnto_three {a b c : UInt8} (ha : 0xE0 ≤ a.toNat ∧ a.toNat < 0xF0)
    (hb : isSecond a b = true) (hc : isTail c = true) :
    decodeOnto done position (a :: b :: c :: rest) =
      decodeOnto (Char.ofNat (a.toNat % 0x10 * 0x1000 + tailBits b * 0x40 + tailBits c) :: done)
        (position + 3) rest := by
  obtain ⟨hone, hstart⟩ := decodeOnto_lead (a := a) ⟨by omega, by omega⟩
  have htwo : ¬ a < 0xE0 := fun h => absurd (UInt8.lt_iff_toNat_lt.mp h) (Nat.not_lt.mpr ha.1)
  have hthree : a < 0xF0 := UInt8.lt_iff_toNat_lt.mpr ha.2
  rw [decodeOnto.eq_def]
  simp only [hone, hstart, htwo, hthree, hb, hc, if_true, if_false, Bool.not_true,
    Bool.false_eq_true]

/-- A character of four bytes. -/
theorem decodeOnto_four {a b c d : UInt8} (ha : 0xF0 ≤ a.toNat ∧ a.toNat < 0xF5)
    (hb : isSecond a b = true) (hc : isTail c = true) (hd : isTail d = true) :
    decodeOnto done position (a :: b :: c :: d :: rest) =
      decodeOnto (Char.ofNat (a.toNat % 0x08 * 0x40000 + tailBits b * 0x1000
        + tailBits c * 0x40 + tailBits d) :: done) (position + 4) rest := by
  obtain ⟨hone, hstart⟩ := decodeOnto_lead (a := a) ⟨by omega, ha.2⟩
  have htwo : ¬ a < 0xE0 := fun h =>
    absurd (UInt8.lt_iff_toNat_lt.mp h) (Nat.not_lt.mpr (Nat.le_trans (by decide) ha.1))
  have hthree : ¬ a < 0xF0 := fun h => absurd (UInt8.lt_iff_toNat_lt.mp h) (Nat.not_lt.mpr ha.1)
  rw [decodeOnto.eq_def]
  simp only [hone, hstart, htwo, hthree, hb, hc, hd, if_true, if_false, Bool.not_true,
    Bool.false_eq_true]

/-- The six bits of a byte that is not the first one are those that were put there. -/
theorem tail_toUInt8 {n : Nat} (h : n < 0x40) :
    (0x80 + n).toUInt8.toNat = 0x80 + n ∧ tailBits (0x80 + n).toUInt8 = n ∧
      isTail (0x80 + n).toUInt8 = true := by
  have hbyte : (0x80 + n).toUInt8.toNat = 0x80 + n := toNat_toUInt8 (by omega)
  refine ⟨hbyte, ?_, ?_⟩
  · rw [tailBits, hbyte]
    omega
  · rw [isTail_iff, hbyte]
    omega

/-- **A character is read from its bytes.** -/
theorem decodeOnto_encodeChar (c : Char) (done : Text) (position : Nat) (rest : Bytes) :
    ∃ position', decodeOnto done position (encodeChar c ++ rest) =
      decodeOnto (c :: done) position' rest := by
  have hbounds := toNat_bounds c
  have hself : Char.ofNat c.toNat = c := Char.ofNat_toNat c
  unfold encodeChar
  generalize c.toNat = n at hbounds hself
  obtain ⟨hlow, hlowBits, hlowTail⟩ := tail_toUInt8 (n := n % 0x40) (by omega)
  obtain ⟨hmid, hmidBits, hmidTail⟩ := tail_toUInt8 (n := n / 0x40 % 0x40) (by omega)
  obtain ⟨hhigh, hhighBits, hhighTail⟩ := tail_toUInt8 (n := n / 0x1000 % 0x40) (by omega)
  by_cases hone : n < 0x80
  · have hlead : n.toUInt8.toNat = n := toNat_toUInt8 (by omega)
    refine ⟨position + 1, ?_⟩
    simp only [if_pos hone, List.cons_append, List.nil_append]
    rw [decodeOnto_one (by omega), hlead, hself]
  by_cases htwo : n < 0x800
  · have hlead : (0xC0 + n / 0x40).toUInt8.toNat = 0xC0 + n / 0x40 := toNat_toUInt8 (by omega)
    have hsecond : isSecond (0xC0 + n / 0x40).toUInt8 (0x80 + n % 0x40).toUInt8 = true := by
      rw [isSecond_iff, hlead, hlow]
      exact ⟨hlowTail, by omega, by omega, by omega, by omega⟩
    refine ⟨position + 2, ?_⟩
    simp only [if_neg hone, if_pos htwo, List.cons_append, List.nil_append]
    rw [decodeOnto_two (by omega) hsecond, hlead, hlowBits]
    have hnumber : (0xC0 + n / 0x40) % 0x20 * 0x40 + n % 0x40 = n := by omega
    rw [hnumber, hself]
  by_cases hthree : n < 0x10000
  · have hlead : (0xE0 + n / 0x1000).toUInt8.toNat = 0xE0 + n / 0x1000 :=
      toNat_toUInt8 (by omega)
    have hsecond :
        isSecond (0xE0 + n / 0x1000).toUInt8 (0x80 + n / 0x40 % 0x40).toUInt8 = true := by
      rw [isSecond_iff, hlead, hmid]
      exact ⟨hmidTail, by omega, by omega, by omega, by omega⟩
    refine ⟨position + 3, ?_⟩
    simp only [if_neg hone, if_neg htwo, if_pos hthree, List.cons_append, List.nil_append]
    rw [decodeOnto_three (by omega) hsecond hlowTail, hlead, hmidBits, hlowBits]
    have hnumber : (0xE0 + n / 0x1000) % 0x10 * 0x1000 + n / 0x40 % 0x40 * 0x40 + n % 0x40 = n := by
      omega
    rw [hnumber, hself]
  · have hlead : (0xF0 + n / 0x40000).toUInt8.toNat = 0xF0 + n / 0x40000 :=
      toNat_toUInt8 (by omega)
    have hsecond :
        isSecond (0xF0 + n / 0x40000).toUInt8 (0x80 + n / 0x1000 % 0x40).toUInt8 = true := by
      rw [isSecond_iff, hlead, hhigh]
      exact ⟨hhighTail, by omega, by omega, by omega, by omega⟩
    refine ⟨position + 4, ?_⟩
    simp only [if_neg hone, if_neg htwo, if_neg hthree, List.cons_append, List.nil_append]
    rw [decodeOnto_four (by omega) hsecond hmidTail hlowTail, hlead, hhighBits, hmidBits, hlowBits]
    have hnumber : (0xF0 + n / 0x40000) % 0x08 * 0x40000 + n / 0x1000 % 0x40 * 0x1000
        + n / 0x40 % 0x40 * 0x40 + n % 0x40 = n := by
      omega
    rw [hnumber, hself]

theorem decodeOnto_encode (text done : Text) (position : Nat) :
    decodeOnto done position (encode text) = .ok (text.reverse ++ done) := by
  induction text generalizing done position with
  | nil => exact decodeOnto.eq_1 done position
  | cons c text ih =>
      obtain ⟨position', hchar⟩ := decodeOnto_encodeChar c done position (encode text)
      show decodeOnto done position (encodeChar c ++ encode text) = _
      rw [hchar, ih, List.reverse_cons, List.append_assoc]
      rfl

/-- **The bytes of a text stand for that text.** -/
theorem decode_encode (text : Text) : decode (encode text) = .ok text := by
  rw [decode, decodeOnto_encode, List.append_nil]
  show Except.ok text.reverse.reverse = _
  rw [List.reverse_reverse]

end MarkupCatalog.Charset.Utf8

namespace MarkupCatalog.Charset

/-! ## Its name -/

/-- No charset has the normal form of the name of UTF-8 as a further name. -/
theorem aliased?_utf8 : aliased? "utf_8" = none := by
  have hnone : (entries.all fun e =>
      e.aliases.all fun known => !decide (known = "utf_8")) = true := by
    decide +kernel
  rw [aliased?, List.find?_eq_none]
  intro e he hany
  obtain ⟨known, hknown, heq⟩ := List.any_eq_true.mp hany
  have hne := List.all_eq_true.mp (List.all_eq_true.mp hnone e he) known hknown
  rw [String.toList_inj.mp (of_decide_eq_true heq)] at hne
  cases hne

/-- The name of UTF-8 stands for UTF-8. -/
theorem conversion?_utf8 : conversion? "utf-8" = some (.text .utf8) := by
  have hnormal : normalName "utf-8" = "utf_8".toList := by decide +kernel
  have hundotted : "utf_8".toList.map (fun c => if c == '.' then '_' else c) = "utf_8".toList := by
    decide +kernel
  have hfirst : entries.find? (fun e => decide (e.name.toList = "utf_8".toList)) =
      some ⟨.text .utf8, "utf_8", ["u8", "utf", "utf8", "utf8_ucs2", "utf8_ucs4", "cp65001"]⟩ := rfl
  simp only [conversion?, hnormal, hundotted, aliased?_utf8, hfirst]
  rfl

end MarkupCatalog.Charset
