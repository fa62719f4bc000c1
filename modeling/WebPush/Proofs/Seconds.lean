import Mathlib.Algebra.Group.Nat.Defs
import WebPush.Seconds
/-!
# Seconds — readings of a clock

Every finite double is below a fixed power of two, so the whole seconds
of a reading can be written out. Of an integer this has to be asked.
-/

namespace WebPush

/-- The integer part of a finite double is below a fixed power of two. -/
theorem Double.natAbs_truncate_lt (x : Double) : x.truncate.natAbs < 2 ^ 2100 := by
  have hbits : x.fractionBits < 2 ^ 52 := Nat.mod_lt _ (by decide)
  have hsignificand : x.significand < 2 ^ 53 := by
    rw [significand, leadingBit]
    split <;> omega
  have hscale : x.scale ≤ 2046 := by
    have hexponent : x.exponentBits < 0x800 := Nat.mod_lt _ (by decide)
    rw [scale]
    omega
  have hscaled : x.scaled.natAbs = x.significand <<< x.scale := by
    rw [scaled]
    split
    · rw [Int.natAbs_neg]
      rfl
    · rfl
  have htruncate : x.truncate.natAbs < 2 ^ (53 + x.scale) :=
    calc x.truncate.natAbs = x.scaled.natAbs / unit := by rw [truncate, Int.natAbs_tdiv]; rfl
      _ ≤ x.scaled.natAbs := Nat.div_le_self _ _
      _ = x.significand * 2 ^ x.scale := by rw [hscaled, Nat.shiftLeft_eq]
      _ < 2 ^ 53 * 2 ^ x.scale := Nat.mul_lt_mul_of_pos_right hsignificand (Nat.two_pow_pos _)
      _ = 2 ^ (53 + x.scale) := (Nat.pow_add ..).symm
  have hpower {j k : Nat} (hjk : j ≤ k) : 2 ^ j ≤ 2 ^ k := Nat.pow_le_pow_right (by decide) hjk
  exact Nat.lt_of_lt_of_le htruncate (hpower (by omega))

/-- What a clock may read: a finite double, or an integer that can be written out. -/
def Seconds.IsReading : Seconds → Prop
  | .whole n => n.natAbs < 10 ^ 4000
  | .real x => x.isFinite = true

theorem Seconds.isReading_zero : (whole 0).IsReading := by
  have hzero (k : Nat) : (0 : Int).natAbs < 10 ^ k := Nat.pow_pos (by decide)
  exact hzero 4000

/-- **A reading has whole seconds**, and few digits are enough to write them. -/
theorem Seconds.IsReading.exists_toInt {now : Seconds} (h : now.IsReading) :
    ∃ seconds, now.toInt = .ok seconds ∧ seconds.natAbs < 10 ^ 4000 := by
  cases now with
  | whole n => exact ⟨n, rfl, h⟩
  | real x =>
    have hexponent : (x.exponentBits == 0x7FF) = false := by
      simpa [IsReading, Double.isFinite] using h
    have hbound {j k : Nat} (hjk : j ≤ k) : 2 ^ j ≤ 10 ^ k :=
      Nat.le_trans (Nat.pow_le_pow_right (by decide) hjk) (Nat.pow_le_pow_left (by decide) k)
    refine ⟨x.truncate, ?_, Nat.lt_of_lt_of_le x.natAbs_truncate_lt (hbound (by decide))⟩
    simp [toInt, Double.isNaN, Double.isInfinite, hexponent]

/-- A number has no more digits than a power of ten just when it is below the power. -/
theorem Double.decimalLength_le_iff {n k : Nat} (hk : 0 < k) :
    decimalLength n ≤ k ↔ n < 10 ^ k := by
  rw [decimalLength]
  split
  · rename_i hzero
    exact iff_of_true (Nat.zero_le _) (hzero ▸ Nat.pow_pos (by decide))
  · exact Nat.length_toDigits_le_iff (by decide) hk

end WebPush
