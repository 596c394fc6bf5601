import FragmentRunner.Text.Utf8
import Mathlib.Data.List.Basic

/-!
# Decoding bytes

A byte below `80` is a character of its own and never part of another one, so it separates: what
stands before it is decoded as if it were the end, however ill formed it is, and what stands after
it as if it were the beginning. Bytes that encode a text are decoded to that text.

* `decodeLossy_append_ascii`: decoding goes by parts at such a byte.
* `decodeLossy_encode` and `decode?_encode`: decoding undoes encoding.
-/

namespace FragmentRunner.Text.Utf8

variable {lead b : UInt8} {c : Char}

theorem decodeLossy_nil : decodeLossy [] = [] := by
  rw [decodeLossy]

theorem decodeLossy_cons (lead : UInt8) (rest : List UInt8) :
    decodeLossy (lead :: rest) =
      (decodeStep lead rest).1.getD replacement :: decodeLossy (decodeStep lead rest).2 := by
  rw [decodeLossy]

/-! ## Bytes that separate -/

section Ascii

variable (hb : b < 0x80)

include hb

/-- A byte that is a character of its own continues no other one. -/
theorem isContinuation_of_ascii : isContinuation b = false := by
  have hlow : ¬(0x80 ≤ b) := UInt8.not_le.mpr hb
  simp [isContinuation, hlow]

/-- Such a byte is not the second one of three. -/
theorem secondOfThree_of_ascii (lead : UInt8) : secondOfThree lead b = false := by
  have hlow : ¬(0x80 ≤ b) := UInt8.not_le.mpr hb
  have hlow' : ¬(0xA0 ≤ b) := fun h => hlow (UInt8.le_trans (by decide) h)
  rw [secondOfThree]
  split_ifs <;> simp [hlow, hlow']

/-- Such a byte is not the second one of four. -/
theorem secondOfFour_of_ascii (lead : UInt8) : secondOfFour lead b = false := by
  have hlow : ¬(0x80 ≤ b) := UInt8.not_le.mpr hb
  have hlow' : ¬(0x90 ≤ b) := fun h => hlow (UInt8.le_trans (by decide) h)
  rw [secondOfFour]
  split_ifs <;> simp [hlow, hlow']

/-- Such a byte is decoded to a character of its own. -/
theorem decodeStep_of_ascii (rest : List UInt8) :
    decodeStep b rest = (some (Char.ofNat b.toNat), rest) := by
  unfold decodeStep
  rw [if_pos hb]

/-- One step of decoding does not go beyond such a byte. -/
theorem decodeStep_append_ascii (lead : UInt8) (rest tail : List UInt8) :
    decodeStep lead (rest ++ b :: tail) =
      ((decodeStep lead rest).1, (decodeStep lead rest).2 ++ b :: tail) := by
  have hnext := isContinuation_of_ascii hb
  unfold decodeStep
  -- The lead tells how many bytes are looked at, and how they are tested.
  by_cases hone : lead < 0x80
  · rw [if_pos hone, if_pos hone]
  rw [if_neg hone, if_neg hone]
  by_cases htwo : (0xC2 ≤ lead && lead ≤ 0xDF) = true
  · rw [if_pos htwo, if_pos htwo]
    rcases rest with _ | ⟨x, rest⟩
    · simp [hnext]
    · cases hx : isContinuation x <;> simp [hx]
  rw [if_neg htwo, if_neg htwo]
  by_cases hthree : (0xE0 ≤ lead && lead ≤ 0xEF) = true
  · have hsecond := secondOfThree_of_ascii hb lead
    rw [if_pos hthree, if_pos hthree]
    rcases rest with _ | ⟨x, _ | ⟨y, rest⟩⟩
    · cases tail <;> simp [hsecond]
    · cases hx : secondOfThree lead x <;> simp [hx, hnext]
    · cases hx : secondOfThree lead x <;> cases hy : isContinuation y <;> simp [hx, hy]
  rw [if_neg hthree, if_neg hthree]
  by_cases hfour : (0xF0 ≤ lead && lead ≤ 0xF4) = true
  · have hsecond := secondOfFour_of_ascii hb lead
    rw [if_pos hfour, if_pos hfour]
    rcases rest with _ | ⟨x, _ | ⟨y, _ | ⟨z, rest⟩⟩⟩
    · rcases tail with _ | ⟨u, _ | ⟨v, tail⟩⟩ <;> simp [hsecond]
    · cases hx : secondOfFour lead x <;> cases tail <;> simp [hx, hnext]
    · cases hx : secondOfFour lead x <;> cases hy : isContinuation y <;> simp [hx, hy, hnext]
    · cases hx : secondOfFour lead x <;> cases hy : isContinuation y <;>
        cases hz : isContinuation z <;> simp [hx, hy, hz]
  · rw [if_neg hfour, if_neg hfour]

/-- Bytes are decoded by parts at such a byte, whatever stands before and after it. -/
theorem decodeLossy_append_ascii (front tail : List UInt8) :
    decodeLossy (front ++ b :: tail) = decodeLossy front ++ decodeLossy (b :: tail) := by
  induction front using decodeLossy.induct with
  | case1 => rw [decodeLossy_nil, List.nil_append, List.nil_append]
  | case2 lead rest ih =>
    rw [List.cons_append, decodeLossy_cons lead, decodeStep_append_ascii hb, ih,
      decodeLossy_cons lead, List.cons_append]

/-- Such a byte is a character of its own. -/
theorem decodeLossy_cons_ascii (tail : List UInt8) :
    decodeLossy (b :: tail) = Char.ofNat b.toNat :: decodeLossy tail := by
  rw [decodeLossy_cons, decodeStep_of_ascii hb, Option.getD_some]

end Ascii

/-! ## Characters of several bytes -/

section Step

variable {x y z : UInt8} (tail : List UInt8)

/-- A character of two bytes. -/
theorem decodeStep_two (hlead : 0xC2 ≤ lead ∧ lead ≤ 0xDF) (hx : isContinuation x = true) :
    decodeStep lead (x :: tail) =
      (some (Char.ofNat ((lead.toNat - 0xC0) * 0x40 + payload x)), tail) := by
  have hone : ¬lead < 0x80 := UInt8.not_lt.mpr (UInt8.le_trans (by decide) hlead.1)
  simp [decodeStep, hone, hlead, hx]

/-- A character of three bytes. -/
theorem decodeStep_three (hlead : 0xE0 ≤ lead ∧ lead ≤ 0xEF) (hx : secondOfThree lead x = true)
    (hy : isContinuation y = true) :
    decodeStep lead (x :: y :: tail) =
      (some (Char.ofNat ((lead.toNat - 0xE0) * 0x1000 + payload x * 0x40 + payload y)), tail) := by
  have hone : ¬lead < 0x80 := UInt8.not_lt.mpr (UInt8.le_trans (by decide) hlead.1)
  have htwo : ¬lead ≤ 0xDF := UInt8.not_le.mpr (UInt8.lt_of_lt_of_le (by decide) hlead.1)
  simp [decodeStep, hone, htwo, hlead, hx, hy]

/-- A character of four bytes. -/
theorem decodeStep_four (hlead : 0xF0 ≤ lead ∧ lead ≤ 0xF4) (hx : secondOfFour lead x = true)
    (hy : isContinuation y = true) (hz : isContinuation z = true) :
    decodeStep lead (x :: y :: z :: tail) =
      (some (Char.ofNat ((lead.toNat - 0xF0) * 0x40000 + payload x * 0x1000
        + payload y * 0x40 + payload z)), tail) := by
  have hone : ¬lead < 0x80 := UInt8.not_lt.mpr (UInt8.le_trans (by decide) hlead.1)
  have htwo : ¬lead ≤ 0xDF := UInt8.not_le.mpr (UInt8.lt_of_lt_of_le (by decide) hlead.1)
  have hthree : ¬lead ≤ 0xEF := UInt8.not_le.mpr (UInt8.lt_of_lt_of_le (by decide) hlead.1)
  simp [decodeStep, hone, htwo, hthree, hlead, hx, hy, hz]

end Step

/-! ## Bytes that encode a text -/

section Byte

variable {n : Nat} (hn : n < 0x100)

include hn

/-- A byte has the value that it was made of. -/
theorem toNat_byte : (UInt8.ofNat n).toNat = n := by
  rw [UInt8.toNat_ofNat', Nat.mod_eq_of_lt hn]

theorem le_byte_iff : b ≤ UInt8.ofNat n ↔ b.toNat ≤ n := by
  rw [UInt8.le_iff_toNat_le, toNat_byte hn]

theorem byte_le_iff : UInt8.ofNat n ≤ b ↔ n ≤ b.toNat := by
  rw [UInt8.le_iff_toNat_le, toNat_byte hn]

theorem byte_eq_iff : UInt8.ofNat n = b ↔ n = b.toNat := by
  rw [← UInt8.toNat_inj, toNat_byte hn]

end Byte

/-- Six bits are carried by a byte that continues a character. -/
theorem isContinuation_byte (n : Nat) : isContinuation (UInt8.ofNat (n % 64 + 128)) = true := by
  have hn : n % 64 + 128 < 0x100 := by omega
  rw [isContinuation, Bool.and_eq_true, decide_eq_true_iff, decide_eq_true_iff, le_byte_iff hn,
    byte_le_iff hn]
  simp only [UInt8.reduceToNat]
  omega

/-- The six bits are read back. -/
theorem payload_byte (n : Nat) : payload (UInt8.ofNat (n % 64 + 128)) = n % 64 := by
  rw [payload, toNat_byte (by omega)]
  omega

section Encoded

variable {v : Nat} (tail : List UInt8)

/-- A code point of up to 11 bits is read back from two bytes. -/
theorem decodeStep_encoded_two (hlow : 0x7F < v) (hhigh : v ≤ 0x7FF) :
    decodeStep (UInt8.ofNat (v / 64 % 32 + 192)) (UInt8.ofNat (v % 64 + 128) :: tail) =
      (some (Char.ofNat v), tail) := by
  have hbyte : v / 64 % 32 + 192 < 0x100 := by omega
  have hlead : 0xC2 ≤ UInt8.ofNat (v / 64 % 32 + 192) ∧
      UInt8.ofNat (v / 64 % 32 + 192) ≤ 0xDF := by
    rw [le_byte_iff hbyte, byte_le_iff hbyte]
    simp only [UInt8.reduceToNat]
    omega
  have hvalue : (v / 64 % 32 + 192 - 0xC0) * 0x40 + v % 64 = v := by omega
  rw [decodeStep_two tail hlead (isContinuation_byte v), toNat_byte hbyte, payload_byte, hvalue]

/-- A code point of up to 16 bits is read back from three bytes, unless it is a surrogate. -/
theorem decodeStep_encoded_three (hlow : 0x7FF < v) (hhigh : v ≤ 0xFFFF)
    (hsurrogate : v < 0xD800 ∨ 0xDFFF < v) :
    decodeStep (UInt8.ofNat (v / 4096 % 16 + 224))
        (UInt8.ofNat (v / 64 % 64 + 128) :: UInt8.ofNat (v % 64 + 128) :: tail) =
      (some (Char.ofNat v), tail) := by
  have hbyte : v / 4096 % 16 + 224 < 0x100 := by omega
  have hnext : v / 64 % 64 + 128 < 0x100 := by omega
  have hlead : 0xE0 ≤ UInt8.ofNat (v / 4096 % 16 + 224) ∧
      UInt8.ofNat (v / 4096 % 16 + 224) ≤ 0xEF := by
    rw [le_byte_iff hbyte, byte_le_iff hbyte]
    simp only [UInt8.reduceToNat]
    omega
  have hsecond : secondOfThree (UInt8.ofNat (v / 4096 % 16 + 224))
      (UInt8.ofNat (v / 64 % 64 + 128)) = true := by
    rw [secondOfThree, Bool.and_eq_true, decide_eq_true_iff, decide_eq_true_iff, le_byte_iff hnext,
      byte_le_iff hnext]
    simp only [byte_eq_iff hbyte, UInt8.reduceToNat]
    -- The smallest lead excludes overlong forms, and the one before the last two surrogates.
    split_ifs <;> simp only [UInt8.reduceToNat] <;> omega
  have hvalue : (v / 4096 % 16 + 224 - 0xE0) * 0x1000 + v / 64 % 64 * 0x40 + v % 64 = v := by
    omega
  rw [decodeStep_three tail hlead hsecond (isContinuation_byte v), toNat_byte hbyte, payload_byte,
    payload_byte, hvalue]

/-- A larger code point is read back from four bytes. -/
theorem decodeStep_encoded_four (hlow : 0xFFFF < v) (hhigh : v < 0x110000) :
    decodeStep (UInt8.ofNat (v / 262144 % 8 + 240))
        (UInt8.ofNat (v / 4096 % 64 + 128) :: UInt8.ofNat (v / 64 % 64 + 128) ::
          UInt8.ofNat (v % 64 + 128) :: tail) =
      (some (Char.ofNat v), tail) := by
  have hbyte : v / 262144 % 8 + 240 < 0x100 := by omega
  have hnext : v / 4096 % 64 + 128 < 0x100 := by omega
  have hlead : 0xF0 ≤ UInt8.ofNat (v / 262144 % 8 + 240) ∧
      UInt8.ofNat (v / 262144 % 8 + 240) ≤ 0xF4 := by
    rw [le_byte_iff hbyte, byte_le_iff hbyte]
    simp only [UInt8.reduceToNat]
    omega
  have hsecond : secondOfFour (UInt8.ofNat (v / 262144 % 8 + 240))
      (UInt8.ofNat (v / 4096 % 64 + 128)) = true := by
    rw [secondOfFour, Bool.and_eq_true, decide_eq_true_iff, decide_eq_true_iff, le_byte_iff hnext,
      byte_le_iff hnext]
    simp only [byte_eq_iff hbyte, UInt8.reduceToNat]
    -- The smallest lead excludes overlong forms, and the largest what is beyond the last point.
    split_ifs <;> simp only [UInt8.reduceToNat] <;> omega
  have hvalue : (v / 262144 % 8 + 240 - 0xF0) * 0x40000 + v / 4096 % 64 * 0x1000
      + v / 64 % 64 * 0x40 + v % 64 = v := by omega
  rw [decodeStep_four tail hlead hsecond (isContinuation_byte _) (isContinuation_byte v),
    toNat_byte hbyte, payload_byte, payload_byte, payload_byte, hvalue]

end Encoded

/-- A character that is encoded is decoded again, in one step. -/
theorem exists_decodeStep_encodeChar (c : Char) (tail : List UInt8) :
    ∃ lead rest, String.utf8EncodeChar c ++ tail = lead :: rest ∧
      decodeStep lead rest = (some c, tail) := by
  have hvalid : c.val.toNat < 0xD800 ∨ 0xDFFF < c.val.toNat ∧ c.val.toNat < 0x110000 := c.valid
  have hchar : Char.ofNat c.val.toNat = c := Char.ofNat_toNat c
  rw [String.utf8EncodeChar]
  generalize c.val.toNat = v at *
  split_ifs with hone htwo hthree
  · have hbyte : UInt8.ofNat v < 0x80 := by
      rw [UInt8.lt_iff_toNat_lt, toNat_byte (by omega)]
      exact Nat.lt_succ_of_le hone
    refine ⟨_, _, rfl, ?_⟩
    rw [decodeStep_of_ascii hbyte, toNat_byte (by omega), hchar]
    rfl
  · exact ⟨_, _, rfl, hchar ▸ decodeStep_encoded_two tail (by omega) htwo⟩
  · exact ⟨_, _, rfl, hchar ▸ decodeStep_encoded_three tail (by omega) hthree (by omega)⟩
  · exact ⟨_, _, rfl, hchar ▸ decodeStep_encoded_four tail (by omega) (by omega)⟩

/-- A text that is encoded is decoded again. -/
theorem decodeLossy_encode (s : List Char) : decodeLossy (encode s) = s := by
  induction s with
  | nil => exact decodeLossy_nil
  | cons c s ih =>
    obtain ⟨lead, rest, hbytes, hstep⟩ := exists_decodeStep_encodeChar c (encode s)
    rw [encode, List.flatMap_cons, ← encode, hbytes, decodeLossy_cons, hstep, Option.getD_some, ih]

/-- The bytes of a text are well formed. -/
theorem decode?_encode (s : List Char) : decode? (encode s) = some s := by
  induction s with
  | nil => rw [encode, List.flatMap_nil, decode?]
  | cons c s ih =>
    obtain ⟨lead, rest, hbytes, hstep⟩ := exists_decodeStep_encodeChar c (encode s)
    rw [encode, List.flatMap_cons, ← encode, hbytes, decode?, hstep]
    simp only [ih, Option.map_some]

end FragmentRunner.Text.Utf8
