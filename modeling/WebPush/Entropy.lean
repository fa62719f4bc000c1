import WebPush.Curve.P256
/-!
# Entropy — the random values that messages consume

Every encryption draws one fresh scalar and one fresh salt. The source
is a pair of sequences and two counters of what has been drawn, so a
draw is a function of the source and no value is drawn twice.
-/

namespace WebPush

/-- Sixteen octets: a salt, or the secret shared with a browser. -/
structure Octets16 where
  bytes : Bytes
  length_eq : bytes.length = 16
deriving DecidableEq

namespace Octets16

/-- Sixteen zeros. -/
def zeros : Octets16 := ⟨List.replicate 16 0, by simp⟩

/-- The octet string, if it has sixteen octets. -/
def ofBytes? (bs : Bytes) : Option Octets16 :=
  if h : bs.length = 16 then some ⟨bs, h⟩ else none

@[simp] theorem ofBytes?_bytes (s : Octets16) : ofBytes? s.bytes = some s := by
  simp [ofBytes?, s.length_eq]

end Octets16

/-- Two sequences of random values, and how many of each have been drawn. -/
structure Entropy where
  scalarAt : Nat → P256.Scalar
  saltAt : Nat → Octets16
  scalarsUsed : Nat := 0
  saltsUsed : Nat := 0

namespace Entropy

/-- The next scalar. -/
def drawScalar (e : Entropy) : P256.Scalar × Entropy :=
  (e.scalarAt e.scalarsUsed, { e with scalarsUsed := e.scalarsUsed + 1 })

/-- The next salt. -/
def drawSalt (e : Entropy) : Octets16 × Entropy :=
  (e.saltAt e.saltsUsed, { e with saltsUsed := e.saltsUsed + 1 })

end Entropy

end WebPush
