/-!
# Bytes — octet strings and their big-endian numbers

An octet string of fixed width and the number it writes determine each
other; both directions are here with the lemmas that say so. The module
also holds the cutting of a string into pieces of equal size and the
masking of one string by another.
-/

namespace WebPush

/-- An octet string. -/
abbrev Bytes := List UInt8

namespace Bytes

/-! ## Big-endian numbers -/

/-- The number that an octet string writes, most significant octet first. -/
def toNat (bs : Bytes) : Nat := bs.foldl (fun n b => n * 256 + b.toNat) 0

/-- The `width` low octets of a number, most significant first. -/
def ofNat : (width : Nat) → Nat → Bytes
  | 0, _ => []
  | width + 1, n => ofNat width (n / 256) ++ [UInt8.ofNat (n % 256)]

/-- How many numbers a width has room for: 256 for each octet, multiplied. -/
def capacity : (width : Nat) → Nat
  | 0 => 1
  | width + 1 => 256 * capacity width

@[simp] theorem length_ofNat (width n : Nat) : (ofNat width n).length = width := by
  induction width generalizing n with
  | zero => rfl
  | succ width ih => simp [ofNat, ih]

theorem toNat_append_singleton (bs : Bytes) (b : UInt8) :
    toNat (bs ++ [b]) = toNat bs * 256 + b.toNat := by
  simp [toNat]

/-- **Reading back what was written** loses only what did not fit. -/
theorem toNat_ofNat (width n : Nat) : toNat (ofNat width n) = n % capacity width := by
  induction width generalizing n with
  | zero => simp [ofNat, toNat, capacity, Nat.mod_one]
  | succ width ih =>
    rw [ofNat, toNat_append_singleton, ih, capacity, Nat.mod_mul]
    have : (UInt8.ofNat (n % 256)).toNat = n % 256 := by
      simp
    omega

/-! ## Pieces and masks -/

/-- The first `count` pieces of `size` elements each. -/
def piecesOf {α : Type} (size : Nat) : (count : Nat) → List α → List (List α)
  | 0, _ => []
  | count + 1, xs => xs.take size :: piecesOf size count (xs.drop size)

/-- A list cut into pieces of `size` elements, the last one possibly shorter. -/
def pieces {α : Type} (size : Nat) (xs : List α) : List (List α) :=
  piecesOf size ((xs.length + size - 1) / size) xs

/-- Exclusive or with a mask. Octets beyond the end of the mask stay as they are. -/
def mask : Bytes → Bytes → Bytes
  | b :: bs, m :: ms => (b ^^^ m) :: mask bs ms
  | bs, _ => bs

@[simp] theorem length_mask (bs ms : Bytes) : (mask bs ms).length = bs.length := by
  induction bs generalizing ms with
  | nil => simp [mask]
  | cons b bs ih => cases ms <;> simp [mask, ih]

/-- **Masking twice is masking never.** -/
@[simp] theorem mask_mask (bs ms : Bytes) : mask (mask bs ms) ms = bs := by
  induction bs generalizing ms with
  | nil => simp [mask]
  | cons b bs ih =>
    cases ms with
    | nil => simp [mask]
    | cons m ms => simp only [mask, ih, UInt8.xor_assoc, UInt8.xor_self, UInt8.xor_zero]

end Bytes

end WebPush
