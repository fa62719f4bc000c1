import WebPush.Hash.Sha256
/-!
# HMAC and HKDF over SHA-256

A keyed digest, and key material of any length derived from it: the
input is first extracted into one key under a salt, which is then
expanded block by block under an info string.
-/

namespace WebPush

namespace Hmac

/-- The key as one block: a long key is digested first. -/
def blockKey (key : Bytes) : Bytes :=
  let short := if 64 < key.length then Sha256.digest key else key
  short ++ List.replicate (64 - short.length) 0

/-- The keyed digest of a message. -/
def digest (key message : Bytes) : Bytes :=
  let block := blockKey key
  let inner := block.map (· ^^^ 0x36)
  let outer := block.map (· ^^^ 0x5C)
  Sha256.digest (outer ++ Sha256.digest (inner ++ message))

@[simp] theorem length_digest (key message : Bytes) : (digest key message).length = 32 := by
  simp [digest]

end Hmac

namespace Hkdf

/-- The key extracted from input material under a salt. -/
def extract (salt material : Bytes) : Bytes := Hmac.digest salt material

/-- The output blocks from number `index + 1` on; each depends on the one before. -/
def blocks (key info : Bytes) : (count : Nat) → (index : Nat) → (previous : Bytes) → Bytes
  | 0, _, _ => []
  | count + 1, index, previous =>
    let block := Hmac.digest key (previous ++ info ++ [UInt8.ofNat (index + 1)])
    block ++ blocks key info count (index + 1) block

/-- The first `length` octets of output for an extracted key. -/
def expand (key info : Bytes) (length : Nat) : Bytes :=
  (blocks key info ((length + 31) / 32) 0 []).take length

/-- `length` octets of key material. -/
def derive (salt material info : Bytes) (length : Nat) : Bytes :=
  expand (extract salt material) info length

theorem length_blocks (key info : Bytes) (count index : Nat) (previous : Bytes) :
    (blocks key info count index previous).length = 32 * count := by
  induction count generalizing index previous with
  | zero => rfl
  | succ count ih => simp [blocks, ih]; omega

/-- **The derived material has the length asked for.** -/
@[simp] theorem length_derive (salt material info : Bytes) (length : Nat) :
    (derive salt material info length).length = length := by
  simp only [derive, expand, List.length_take, length_blocks]
  omega

end Hkdf

end WebPush
