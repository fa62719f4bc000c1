import Mathlib.Algebra.Group.Nat.Defs
import WebPush.Number.Double
/-!
# Double — which bits are numbers above zero

A double is above zero just when its sign is clear and the bits below it
write neither zero nor more than infinity. The test for "zero or less"
says the opposite of this of every number, but NaN does not pass it
either. NaN comes from no decimal, however long: rounding ends at
infinity.
-/

namespace WebPush.Double

variable {x : Double}

/-! ## The bits -/

/-- The number that the bits below the sign write. -/
def magnitudeBits (x : Double) : Nat := x.exponentBits * leadingBit + x.fractionBits

/-- A double above zero: its sign is clear, and the bits below it write neither zero nor more than
infinity. -/
def IsPositive (x : Double) : Prop := 0 < x.bits.toNat ∧ x.bits.toNat ≤ infinityBits

theorem isNegative_iff : x.isNegative = true ↔ 2 ^ 63 ≤ x.bits.toNat := by
  have hbits := x.bits.toNat_lt
  rw [isNegative, beq_iff_eq, Nat.shiftRight_eq_div_pow]
  omega

/-- **The bits are the sign and what is below it.** -/
theorem toNat_bits (x : Double) :
    x.bits.toNat = (if x.isNegative then 2 ^ 63 else 0) + x.magnitudeBits := by
  have hbits := x.bits.toNat_lt
  rw [magnitudeBits, exponentBits, fractionBits, leadingBit, Nat.shiftRight_eq_div_pow]
  split
  · rename_i hnegative
    rw [isNegative_iff] at hnegative
    omega
  · rename_i hnegative
    rw [isNegative_iff] at hnegative
    omega

theorem magnitudeBits_lt (x : Double) : x.magnitudeBits < 2 ^ 63 := by
  have hexponent : x.exponentBits < 0x800 := Nat.mod_lt _ (by decide)
  have hfraction : x.fractionBits < leadingBit := Nat.mod_lt _ (by decide)
  rw [magnitudeBits]
  rw [leadingBit] at hfraction ⊢
  omega

theorem isNaN_iff : x.isNaN = true ↔ infinityBits < x.magnitudeBits := by
  have hexponent : x.exponentBits < 0x800 := Nat.mod_lt _ (by decide)
  have hfraction : x.fractionBits < leadingBit := Nat.mod_lt _ (by decide)
  rw [isNaN, Bool.and_eq_true, beq_iff_eq, bne_iff_ne, magnitudeBits, infinityBits]
  rw [leadingBit] at hfraction ⊢
  omega

theorem isInfinite_iff : x.isInfinite = true ↔ x.magnitudeBits = infinityBits := by
  have hfraction : x.fractionBits < leadingBit := Nat.mod_lt _ (by decide)
  rw [isInfinite, Bool.and_eq_true, beq_iff_eq, beq_iff_eq, magnitudeBits, infinityBits]
  rw [leadingBit] at hfraction ⊢
  omega

theorem significand_pos_iff : 0 < x.significand ↔ 0 < x.magnitudeBits := by
  rw [significand, magnitudeBits, leadingBit]
  split <;> omega

theorem isPositive_iff :
    x.IsPositive ↔ x.isNegative = false ∧ 0 < x.magnitudeBits ∧ x.magnitudeBits ≤ infinityBits := by
  have hbits := toNat_bits x
  have hinfinity : infinityBits < 2 ^ 63 := by decide
  rw [IsPositive]
  cases hnegative : x.isNegative with
  | true =>
    rw [hnegative, if_pos rfl] at hbits
    simp only [Bool.true_eq_false, false_and, iff_false]
    omega
  | false =>
    rw [hnegative, if_neg Bool.false_ne_true, Nat.zero_add] at hbits
    simp only [hbits, true_and]

/-- NaN is not above zero. -/
theorem IsPositive.isNaN (h : x.IsPositive) : x.isNaN = false := by
  rw [← Bool.not_eq_true, isNaN_iff, Nat.not_lt]
  exact (isPositive_iff.1 h).2.2

/-! ## Comparing with zero -/

/-- A finite double is above zero by its sign and its bits. -/
theorem scaled_pos_iff : 0 < x.scaled ↔ x.isNegative = false ∧ 0 < x.magnitudeBits := by
  have hmagnitude : 0 < x.significand <<< x.scale ↔ 0 < x.significand := by
    rw [Nat.shiftLeft_eq]
    exact Nat.mul_pos_iff_of_pos_right (Nat.two_pow_pos _)
  rw [scaled, ← significand_pos_iff, ← hmagnitude]
  generalize x.significand <<< x.scale = magnitude
  cases x.isNegative with
  | true => simp
  | false => simp

/-- **Above zero, by its bits.** -/
theorem exceeds_zero_iff : x.exceeds 0 = true ↔ x.IsPositive := by
  rw [exceeds, isPositive_iff]
  split
  · rename_i hnan
    rw [isNaN_iff] at hnan
    simp only [Bool.false_eq_true, false_iff]
    omega
  rename_i hnumber
  rw [isNaN_iff, Nat.not_lt] at hnumber
  split
  · rename_i hinfinite
    rw [isInfinite_iff] at hinfinite
    have hpos : 0 < infinityBits := by decide
    simp [hinfinite, hpos]
  · simp only [decide_eq_true_eq, Int.zero_mul, scaled_pos_iff]
    exact ⟨fun ⟨hsign, hpos⟩ => ⟨hsign, hpos, hnumber⟩, fun ⟨hsign, hpos, _⟩ => ⟨hsign, hpos⟩⟩

theorem unit_pos : 0 < unit := by
  -- For every place of the bit, so that the power is not computed.
  have hpos (place : Nat) : 0 < 1 <<< place := by
    rw [Nat.one_shiftLeft]
    exact Nat.two_pow_pos place
  exact hpos 1074

/-- **What is not below one is above zero**, if it is a number. -/
theorem exceeds_zero_of_isBelow_one (hnumber : x.isNaN = false) (h : x.isBelow 1 = false) :
    x.exceeds 0 = true := by
  rw [exceeds, hnumber]
  rw [isBelow, hnumber] at h
  simp only [Bool.false_eq_true, if_false] at h ⊢
  split
  · rename_i hinfinite
    rw [if_pos hinfinite] at h
    rw [h]
    rfl
  · rename_i hfinite
    rw [if_neg hfinite, decide_eq_false_iff_not, Int.one_mul, Int.not_lt] at h
    rw [decide_eq_true_eq, Int.zero_mul]
    exact Int.lt_of_lt_of_le (Int.natCast_pos.2 unit_pos) h

/-- **What passes for more than zero**: every number above zero, and NaN. -/
theorem isNonPositive_eq_false_iff :
    x.isNonPositive = false ↔ x.isNaN = true ∨ x.IsPositive := by
  rw [isNonPositive, Bool.and_eq_false_iff, Bool.not_eq_false', exceeds_zero_iff]
  constructor
  · rintro (hbelow | hpositive)
    · cases hnan : x.isNaN with
      | true => exact .inl rfl
      | false => exact .inr (exceeds_zero_iff.1 (exceeds_zero_of_isBelow_one hnan hbelow))
    · exact .inr hpositive
  · rintro (hnan | hpositive)
    · exact .inl (by rw [isBelow, if_pos hnan])
    · exact .inr hpositive

/-! ## Doubles that are made -/

theorem magnitudeBits_ofParts (negative : Bool) {magnitude : Nat} (h : magnitude < 2 ^ 63) :
    (ofParts negative magnitude).magnitudeBits = magnitude := by
  have hbits : (ofParts negative magnitude).bits.toNat =
      (if negative then 2 ^ 63 else 0) + magnitude := by
    have hsize : UInt64.size = 2 ^ 64 := rfl
    rw [ofParts]
    refine UInt64.toNat_ofNat_of_lt' ?_
    split <;> omega
  rw [toNat_bits] at hbits
  have hlt := magnitudeBits_lt (ofParts negative magnitude)
  split at hbits <;> split at hbits <;> omega

/-- Up to infinity there is no NaN. -/
theorem isNaN_ofParts (negative : Bool) {magnitude : Nat} (h : magnitude ≤ infinityBits) :
    (ofParts negative magnitude).isNaN = false := by
  have hlt : magnitude < 2 ^ 63 := Nat.lt_of_le_of_lt h (by decide)
  rw [← Bool.not_eq_true, isNaN_iff, magnitudeBits_ofParts negative hlt, Nat.not_lt]
  exact h

theorem isNaN_infinity (negative : Bool) : (infinity negative).isNaN = false :=
  isNaN_ofParts negative (Nat.le_refl _)

theorem isNaN_nan (negative : Bool) : (nan negative).isNaN = true := by
  cases negative <;> decide

theorem isNaN_ofRatio (negative : Bool) (num den : Nat) : (ofRatio negative num den).isNaN = false :=
  isNaN_ofParts negative (Nat.min_le_left _ _)

/-- **A decimal is never NaN.** -/
theorem isNaN_ofDecimal (negative : Bool) (mantissa : Nat) (exponent : Int) :
    (ofDecimal negative mantissa exponent).isNaN = false := by
  rw [ofDecimal]
  split
  · exact isNaN_ofParts negative (Nat.zero_le _)
  split
  · exact isNaN_infinity negative
  split
  · exact isNaN_ofRatio ..
  · exact isNaN_ofRatio ..

end WebPush.Double
