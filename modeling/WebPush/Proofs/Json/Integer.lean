import Mathlib.Data.List.TakeDrop
import Mathlib.Data.List.TakeWhile
import WebPush.Json.Printer
import WebPush.Json.Reader
/-!
# Json — integers read back

An integer is written as its digits, with a minus in front if it is
negative, and never with a zero in front of other digits. So the reader
takes all of it as the integer part of a number, and finds the integer
again unless it has too many digits.
-/

namespace WebPush.Json

/-- The digits of a number. -/
theorem isDigit_of_mem_toDigits {n : Nat} : ∀ c ∈ Nat.toDigits 10 n, isDigit c = true :=
  fun _ hc => Nat.isDigit_of_mem_toDigits (by decide) (by decide) hc

/-- **What is written of an integer.** -/
theorem printInt_eq (n : Int) :
    printInt n = if n < 0 then '-' :: Nat.toDigits 10 n.natAbs else Nat.toDigits 10 n.natAbs := by
  rw [printInt, Int.toString_eq_repr, Int.repr_eq_if]
  rcases Int.lt_or_le n 0 with h | h
  · rw [if_neg (Int.not_le.2 h), if_pos h, String.toList_append, Nat.toList_repr,
      show (-n).toNat = n.natAbs by omega]
    rfl
  · rw [if_pos h, if_neg (Int.not_lt.2 h), Nat.toList_repr, show n.toNat = n.natAbs by omega]

/-- A positive number is not written with a zero in front. -/
theorem head?_toDigits_ne_zero {n : Nat} (h : 0 < n) : (Nat.toDigits 10 n).head? ≠ some '0' := by
  induction n using Nat.base_induction 10 (by decide) with
  | single m hm =>
    rw [Nat.toDigits_of_lt_base hm]
    have : ∀ m < 10, 0 < m → [m.digitChar].head? ≠ some '0' := by decide
    exact this m hm h
  | digit m k hk hm ih =>
    cases hd : Nat.toDigits 10 m with
    | nil => exact absurd hd Nat.toDigits_ne_nil
    | cons c rest =>
      have hc := ih hm
      rw [hd] at hc
      rw [← Nat.toDigits_append_toDigits (by decide) hm hk, hd]
      exact hc

/-- The number that digits write. -/
theorem ofDigits_toDigits (n : Nat) :
    Number.ofDigits ((Nat.toDigits 10 n).map digitValue) = n := by
  have hstep : (fun (k : Nat) c => k * 10 + digitValue c) =
      fun k c => 10 * k + (c.toNat - '0'.toNat) := by
    funext k c
    rw [digitValue, Nat.mul_comm]
  rw [Number.ofDigits, List.foldl_map, hstep, ← Nat.ofDigitChars_eq_foldl,
    Nat.ofDigitChars_ten_toDigits]

/-- All of the digits are the integer part. -/
theorem integerPart_toDigits (n : Nat) :
    integerPart (Nat.toDigits 10 n) = (Nat.toDigits 10 n, []) := by
  have hall : (Nat.toDigits 10 n).span isDigit = (Nat.toDigits 10 n, []) := by
    rw [List.span_eq_takeWhile_dropWhile, List.takeWhile_eq_self_iff.2 isDigit_of_mem_toDigits,
      List.dropWhile_eq_nil_iff.2 isDigit_of_mem_toDigits]
  rw [integerPart.eq_def]
  split
  · rename_i rest heq
    rcases Nat.eq_zero_or_pos n with rfl | hpos
    · rw [Nat.toDigits_zero] at heq
      injection heq with _ hrest
      rw [← hrest, Nat.toDigits_zero]
    · exact absurd (heq ▸ rfl) (head?_toDigits_ne_zero hpos)
  · exact hall

/-- Digits make an integer, with or without a minus in front. -/
theorem readNumber_toDigits {n : Nat} (h : (Nat.toDigits 10 n).length ≤ Number.maxDigits) :
    readNumber (Nat.toDigits 10 n) = .ok (.int n) ∧
      readNumber ('-' :: Nat.toDigits 10 n) = .ok (.int (-n)) := by
  have hempty : (Nat.toDigits 10 n).isEmpty = false := by simp
  have hshort : ¬ Number.maxDigits < (Nat.toDigits 10 n).length := Nat.not_lt.2 h
  constructor
  · rw [readNumber]
    · simp only [integerPart_toDigits, fractionPart, exponentPart, hempty, hshort,
        ofDigits_toDigits]
      rfl
    · intro rest hdigits
      exact absurd (isDigit_of_mem_toDigits _ (hdigits ▸ List.mem_cons_self)) (by decide)
  · simp only [readNumber, integerPart_toDigits, fractionPart, exponentPart, hempty, hshort,
      ofDigits_toDigits]
    rfl

/-- **An integer is read back from what is written of it.** -/
theorem readNumber_printInt {n : Int}
    (h : (Nat.toDigits 10 n.natAbs).length ≤ Number.maxDigits) :
    readNumber (printInt n) = .ok (.int n) := by
  rw [printInt_eq]
  split
  · rw [(readNumber_toDigits h).2, show -(n.natAbs : Int) = n by omega]
  · rw [(readNumber_toDigits h).1, show (n.natAbs : Int) = n by omega]

end WebPush.Json
