import WebPush.Bytes
/-!
# GHASH — the universal hash of the counter mode

Blocks are elements of the field of `2 ^ 128` elements, written with the
coefficient of the lowest power in the highest bit. The hash of a
sequence of blocks is its value as a polynomial at the hash key.
-/

namespace WebPush.Ghash

/-- A field element: the coefficients of the 64 lower powers, then of the 64 higher ones. -/
structure Element where
  high : UInt64
  low : UInt64
deriving DecidableEq

namespace Element

/-- The element that has no powers at all. -/
def zero : Element := ⟨0, 0⟩

/-- The sum of two elements. -/
def add (x y : Element) : Element := ⟨x.high ^^^ y.high, x.low ^^^ y.low⟩

/-- The element times the first power: one place to the right, reduced. -/
def shift (x : Element) : Element :=
  let carried := (x.high >>> 1) ^^^ (if x.low &&& 1 == 0 then 0 else 0xE100000000000000)
  ⟨carried, (x.low >>> 1) ||| (x.high <<< 63)⟩

/-- The sum of the shifts of `factor` that the leading `count` bits of a word select. -/
def accumulate (word : UInt64) : (count : Nat) → (sum factor : Element) → Element × Element
  | 0, sum, factor => (sum, factor)
  | count + 1, sum, factor =>
    let bit := word >>> UInt64.ofNat count &&& 1
    accumulate word count (if bit == 0 then sum else sum.add factor) factor.shift

/-- The product of two elements. -/
def mul (x y : Element) : Element :=
  let (sum, factor) := accumulate x.high 64 zero y
  (accumulate x.low 64 sum factor).1

/-- The element of a block; a short block is filled up with zeros. -/
def ofBytes (block : Bytes) : Element :=
  let full := block ++ List.replicate (16 - block.length) 0
  ⟨UInt64.ofNat (Bytes.toNat (full.take 8)), UInt64.ofNat (Bytes.toNat (full.drop 8))⟩

/-- The sixteen octets of an element. -/
def toBytes (x : Element) : Bytes := Bytes.ofNat 8 x.high.toNat ++ Bytes.ofNat 8 x.low.toNat

@[simp] theorem length_toBytes (x : Element) : x.toBytes.length = 16 := by simp [toBytes]

end Element

/-- The hash of a sequence of blocks under a hash key. -/
def hash (key : Element) (blocks : List Bytes) : Element :=
  blocks.foldl (fun sum block => (sum.add (.ofBytes block)).mul key) .zero

end WebPush.Ghash
