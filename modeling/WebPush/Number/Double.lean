/-!
# Double — binary floating point in 64 bits

A double is its bit pattern: a sign, eleven bits of exponent and
fifty-two of significand. Reading a decimal rounds exactly, to the
nearest double and to the even one of two equally near; comparing with
an integer and cutting off the fraction are exact as well.
-/

namespace WebPush

/-- A 64-bit binary floating point number, given by its bits. -/
structure Double where
  bits : UInt64
deriving DecidableEq, Repr

namespace Double

/-! ## Parts -/

/-- The sign bit is set. -/
def isNegative (x : Double) : Bool := x.bits.toNat >>> 63 == 1

/-- The eleven exponent bits. -/
def exponentBits (x : Double) : Nat := (x.bits.toNat >>> 52) % 0x800

/-- The bit above the fraction. -/
def leadingBit : Nat := 0x10000000000000

/-- The fifty-two fraction bits. -/
def fractionBits (x : Double) : Nat := x.bits.toNat % leadingBit

/-- Neither an infinity nor a NaN. -/
def isFinite (x : Double) : Bool := x.exponentBits != 0x7FF

/-- An infinity of either sign. -/
def isInfinite (x : Double) : Bool := x.exponentBits == 0x7FF && x.fractionBits == 0

/-- Not a number. -/
def isNaN (x : Double) : Bool := x.exponentBits == 0x7FF && x.fractionBits != 0

/-- The magnitude of a finite double is `significand * 2 ^ (scale - 1074)`. -/
def significand (x : Double) : Nat :=
  if x.exponentBits = 0 then x.fractionBits else leadingBit + x.fractionBits

/-- The power of two that goes with the significand, counted from `2 ^ -1074`. -/
def scale (x : Double) : Nat := x.exponentBits - 1

/-! ## Making doubles -/

/-- The double with a sign and the remaining sixty-three bits. -/
def ofParts (negative : Bool) (magnitude : Nat) : Double :=
  ⟨UInt64.ofNat ((if negative then 0x8000000000000000 else 0) + magnitude)⟩

/-- The bits of infinity, below the sign. -/
def infinityBits : Nat := 0x7FF * leadingBit

/-- The infinity of a sign. -/
def infinity (negative : Bool) : Double := ofParts negative infinityBits

/-- The quiet NaN of a sign. -/
def nan (negative : Bool) : Double := ofParts negative (infinityBits + leadingBit / 2)

/-- A quotient rounded to the nearest integer, halves to the even one. -/
def roundHalfEven (num den : Nat) : Nat :=
  let quotient := num / den
  let twice := 2 * (num % den)
  if twice < den then quotient
  else if den < twice then quotient + 1
  else quotient + quotient % 2

/-- The double nearest to `num / den`, for positive `num` and `den`. The
exponent is the one that gives the quotient fifty-three bits, or the
least one; rounding up to the next power of two carries into it. -/
def ofRatio (negative : Bool) (num den : Nat) : Double :=
  -- the place of the leading bit of the quotient, counted from 2 ^ -1100
  let shifted := num <<< 1100 / den
  let lead : Nat := Nat.log2 shifted
  -- the place of the last bit kept, counted from 2 ^ -1074
  let scale := lead - 52 - 26
  let digits :=
    if scale ≤ 1074 then roundHalfEven (num <<< (1074 - scale)) den
    else roundHalfEven num (den <<< (scale - 1074))
  ofParts negative (min infinityBits (scale * leadingBit + digits))

/-- The count of decimal digits of a number, zero for zero. -/
def decimalLength (n : Nat) : Nat :=
  if n = 0 then 0 else (Nat.toDigits 10 n).length

/-- The double nearest to `mantissa * 10 ^ exponent`. Exponents far outside
the range of doubles are settled by the count of digits. -/
def ofDecimal (negative : Bool) (mantissa : Nat) (exponent : Int) : Double :=
  let place : Int := decimalLength mantissa + exponent
  if mantissa = 0 || place < -330 then ofParts negative 0
  else if 310 < place then infinity negative
  else if 0 ≤ exponent then ofRatio negative (mantissa * Nat.pow 10 exponent.toNat) 1
  else ofRatio negative mantissa (Nat.pow 10 (-exponent).toNat)

/-! ## Comparing and cutting -/

/-- One, counted in the smallest positive double. -/
def unit : Nat := 1 <<< 1074

/-- The number counted in the smallest positive double; of no use for infinities and NaN. -/
def scaled (x : Double) : Int :=
  let magnitude : Int := Int.ofNat (x.significand <<< x.scale)
  if x.isNegative then -magnitude else magnitude

/-- The integer part, toward zero, of a finite double. -/
def truncate (x : Double) : Int := x.scaled.tdiv unit

/-- A finite double without a fraction. -/
def isIntegral (x : Double) : Bool := x.isFinite && x.scaled % unit == 0

/-- The number is above an integer. NaN is above nothing. -/
def exceeds (x : Double) (n : Int) : Bool :=
  if x.isNaN then false
  else if x.isInfinite then !x.isNegative
  else n * unit < x.scaled

/-- The number is below an integer. NaN is below nothing. -/
def isBelow (x : Double) (n : Int) : Bool :=
  if x.isNaN then false
  else if x.isInfinite then x.isNegative
  else x.scaled < n * unit

/-- The number is zero or less. NaN is not. -/
def isNonPositive (x : Double) : Bool := x.isBelow 1 && !x.exceeds 0

end Double

end WebPush
