import WebPush.Entropy
import WebPush.Hash.Hmac
import WebPush.Text.Utf8
/-!
# Entropy — both sequences from a seed

A short random seed is stretched into scalars and salts. Each value is
key material of its own, derived under an info string that names the
sequence and the position in it, so the values are as random as the seed
and no two of them come from the same material.
-/

namespace WebPush

/-- The scalar that a number falls on. Every scalar is the image of itself
less one. -/
def P256.Scalar.reduce (n : Nat) : P256.Scalar where
  val := n % (order - 1) + 1
  pos := Nat.succ_pos _
  lt_order := by
    have : n % (order - 1) < order - 1 := Nat.mod_lt n (by decide)
    omega

namespace Entropy

/-- The info string of a value: the name of its sequence and its position. -/
def seedInfo (name : String) (index : Nat) : Bytes := Utf8.encode name ++ Bytes.ofNat 8 index

/-- The source that a seed gives. The scalars come from sixteen octets more
than they have, which leaves no bias that could be noticed. -/
def ofSeed (seed : Bytes) : Entropy where
  scalarAt i := .reduce (Bytes.toNat (Hkdf.derive [] seed (seedInfo "scalar" i) 48))
  saltAt i := ⟨Hkdf.derive [] seed (seedInfo "salt" i) 16, Hkdf.length_derive ..⟩

end Entropy

end WebPush
