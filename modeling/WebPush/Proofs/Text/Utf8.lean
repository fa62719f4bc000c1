import WebPush.Text.Utf8
/-!
# UTF-8 — texts that read back

A character is written as one to four octets, and what is written is read
back as the character, with the octets behind it left over. So every text
reads back from its octets.
-/

namespace WebPush.Utf8

section Continuation

variable {k : Nat} (hk : k < 64)

include hk

theorem isContinuation_ofNat : isContinuation (UInt8.ofNat (k + 128)) = true := by
  rw [isContinuation, UInt8.toNat_ofNat', beq_iff_eq]
  omega

theorem payload_ofNat : payload (UInt8.ofNat (k + 128)) = k := by
  rw [payload, UInt8.toNat_ofNat']
  omega

end Continuation

/-! ## Characters of one to four octets -/

variable {a b c d : Nat} (rest : Bytes)

theorem decodeChars?_one (ha : a < 0x80) :
    decodeChars? (UInt8.ofNat a :: rest) = (decodeChars? rest).map (Char.ofNat a :: ·) := by
  have hlead : (UInt8.ofNat a).toNat = a := by
    rw [UInt8.toNat_ofNat']
    omega
  rw [decodeChars?.eq_def]
  simp only [hlead, if_pos ha]

theorem decodeChars?_two (ha : 2 ≤ a) (ha' : a < 32) (hb : b < 64) :
    decodeChars? (UInt8.ofNat (a + 192) :: UInt8.ofNat (b + 128) :: rest) =
      (decodeChars? rest).map (Char.ofNat (a * 64 + b) :: ·) := by
  have hlead : (UInt8.ofNat (a + 192)).toNat = a + 192 := by
    rw [UInt8.toNat_ofNat']
    omega
  have hlong : ¬ a + 192 < 0x80 := by omega
  have hrange : (0xC2 ≤ a + 192 && a + 192 < 0xE0) = true := by
    rw [Bool.and_eq_true, decide_eq_true_eq, decide_eq_true_eq]
    omega
  rw [decodeChars?.eq_def]
  simp only [hlead, if_neg hlong, isContinuation_ofNat hb, Bool.not_true, Bool.false_eq_true,
    if_false, hrange, if_true, payload_ofNat hb, Nat.add_sub_cancel]

theorem decodeChars?_three (ha : a < 16) (hb : b < 64) (hc : c < 64)
    (hleast : 0x800 ≤ (a * 64 + b) * 64 + c)
    (hscalar : (a * 64 + b) * 64 + c < 0xD800 ∨ 0xDFFF < (a * 64 + b) * 64 + c) :
    decodeChars? (UInt8.ofNat (a + 224) :: UInt8.ofNat (b + 128) :: UInt8.ofNat (c + 128) :: rest) =
      (decodeChars? rest).map (Char.ofNat ((a * 64 + b) * 64 + c) :: ·) := by
  have hlead : (UInt8.ofNat (a + 224)).toNat = a + 224 := by
    rw [UInt8.toNat_ofNat']
    omega
  have hlong : ¬ a + 224 < 0x80 := by omega
  have htwo : (0xC2 ≤ a + 224 && a + 224 < 0xE0) = false := by
    rw [Bool.and_eq_false_iff, decide_eq_false_iff_not, decide_eq_false_iff_not]
    omega
  have hthree : (0xE0 ≤ a + 224 && a + 224 < 0xF0) = true := by
    rw [Bool.and_eq_true, decide_eq_true_eq, decide_eq_true_eq]
    omega
  have hrange : (0x800 ≤ (a * 64 + b) * 64 + c &&
      !(0xD800 ≤ (a * 64 + b) * 64 + c && (a * 64 + b) * 64 + c ≤ 0xDFFF)) = true := by
    rw [Bool.and_eq_true, Bool.not_eq_true', Bool.and_eq_false_iff, decide_eq_true_eq,
      decide_eq_false_iff_not, decide_eq_false_iff_not]
    omega
  rw [decodeChars?.eq_def]
  simp only [hlead, if_neg hlong, isContinuation_ofNat hb, isContinuation_ofNat hc, Bool.not_true,
    Bool.false_eq_true, if_false, htwo, hthree, if_true, payload_ofNat hb, payload_ofNat hc,
    Nat.add_sub_cancel, hrange]

theorem decodeChars?_four (ha : a < 8) (hb : b < 64) (hc : c < 64) (hd : d < 64)
    (hleast : 0x10000 ≤ ((a * 64 + b) * 64 + c) * 64 + d)
    (hmost : ((a * 64 + b) * 64 + c) * 64 + d < 0x110000) :
    decodeChars? (UInt8.ofNat (a + 240) :: UInt8.ofNat (b + 128) :: UInt8.ofNat (c + 128) ::
        UInt8.ofNat (d + 128) :: rest) =
      (decodeChars? rest).map (Char.ofNat (((a * 64 + b) * 64 + c) * 64 + d) :: ·) := by
  have hlead : (UInt8.ofNat (a + 240)).toNat = a + 240 := by
    rw [UInt8.toNat_ofNat']
    omega
  have hlong : ¬ a + 240 < 0x80 := by omega
  have htwo : (0xC2 ≤ a + 240 && a + 240 < 0xE0) = false := by
    rw [Bool.and_eq_false_iff, decide_eq_false_iff_not, decide_eq_false_iff_not]
    omega
  have hthree : (0xE0 ≤ a + 240 && a + 240 < 0xF0) = false := by
    rw [Bool.and_eq_false_iff, decide_eq_false_iff_not, decide_eq_false_iff_not]
    omega
  have hfour : (0xF0 ≤ a + 240 && a + 240 < 0xF8) = true := by
    rw [Bool.and_eq_true, decide_eq_true_eq, decide_eq_true_eq]
    omega
  have hrange : (0x10000 ≤ ((a * 64 + b) * 64 + c) * 64 + d &&
      ((a * 64 + b) * 64 + c) * 64 + d < 0x110000) = true := by
    rw [Bool.and_eq_true, decide_eq_true_eq, decide_eq_true_eq]
    exact ⟨hleast, hmost⟩
  rw [decodeChars?.eq_def]
  simp only [hlead, if_neg hlong, isContinuation_ofNat hb, isContinuation_ofNat hc,
    isContinuation_ofNat hd, Bool.not_true, Bool.false_eq_true, if_false, htwo, hthree, hfour,
    if_true, payload_ofNat hb, payload_ofNat hc, payload_ofNat hd, Nat.add_sub_cancel, hrange]

/-! ## Texts -/

/-- A character reads back in front of any octets. -/
theorem decodeChars?_utf8EncodeChar (ch : Char) (rest : Bytes) :
    decodeChars? (String.utf8EncodeChar ch ++ rest) = (decodeChars? rest).map (ch :: ·) := by
  obtain ⟨n, hn⟩ : ∃ n, n = ch.toNat := ⟨_, rfl⟩
  have hchar : Char.ofNat n = ch := by rw [hn, Char.ofNat_toNat]
  have hval : ch.val.toNat = n := hn.symm
  have hvalid : n < 0xD800 ∨ (0xDFFF < n ∧ n < 0x110000) := hn ▸ ch.valid
  -- The digits of the number to base 64 are what the octets carry.
  have hd : n % 64 < 64 := Nat.mod_lt _ (by decide)
  have hc : n / 64 % 64 < 64 := Nat.mod_lt _ (by decide)
  have hb : n / 4096 % 64 < 64 := Nat.mod_lt _ (by decide)
  rw [String.utf8EncodeChar.eq_def]
  simp only [hval]
  split
  · rw [List.singleton_append, decodeChars?_one rest (by omega), hchar]
  split
  · have hnumber : n / 64 % 32 * 64 + n % 64 = n := by omega
    rw [List.cons_append, List.singleton_append, decodeChars?_two rest (by omega) (by omega) hd,
      hnumber, hchar]
  split
  · have hnumber : (n / 4096 % 16 * 64 + n / 64 % 64) * 64 + n % 64 = n := by omega
    rw [List.cons_append, List.cons_append, List.singleton_append,
      decodeChars?_three rest (by omega) hc hd (by omega) (by omega), hnumber, hchar]
  · have hnumber :
        ((n / 262144 % 8 * 64 + n / 4096 % 64) * 64 + n / 64 % 64) * 64 + n % 64 = n := by omega
    rw [List.cons_append, List.cons_append, List.cons_append, List.singleton_append,
      decodeChars?_four rest (by omega) hb hc hd (by omega) (by omega), hnumber, hchar]

/-- **Every text reads back from its octets.** -/
theorem decodeChars?_encodeChars (cs : List Char) : decodeChars? (encodeChars cs) = some cs := by
  induction cs with
  | nil => rfl
  | cons c rest ih =>
    rw [encodeChars, List.flatMap_cons, decodeChars?_utf8EncodeChar, ← encodeChars, ih,
      Option.map_some]

end WebPush.Utf8
