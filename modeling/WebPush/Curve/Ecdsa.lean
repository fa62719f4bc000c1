import WebPush.Curve.P256
import WebPush.Hash.Hmac
/-!
# ECDSA — signatures over P-256 and SHA-256

Signing derives its nonce from the private scalar and the digest, so a
message always gets the same signature. Both halves are written with
thirty-two octets; the second half is taken as it comes, high or low.
-/

namespace WebPush.Ecdsa

open P256

/-- A signature. -/
structure Signature where
  r : Nat
  s : Nat
deriving DecidableEq, Repr

/-- The octets of a signature. -/
def Signature.toBytes (σ : Signature) : Bytes := Bytes.ofNat width σ.r ++ Bytes.ofNat width σ.s

/-- The signature in sixty-four octets. -/
def Signature.ofBytes? (bs : Bytes) : Option Signature :=
  if bs.length = 2 * width then
    some ⟨Bytes.toNat (bs.take width), Bytes.toNat (bs.drop width)⟩
  else none

/-! ## Signing -/

/-- The generator of nonces: a key and a chaining value. -/
structure NonceState where
  key : Bytes
  value : Bytes

namespace NonceState

/-- The state mixed with a seed. -/
def update (state : NonceState) (seed : Bytes) : NonceState :=
  let key := Hmac.digest state.key (state.value ++ seed)
  ⟨key, Hmac.digest key state.value⟩

/-- The state before the first candidate. -/
def initial (d : Scalar) (z : Nat) : NonceState :=
  let seed := d.toBytes ++ Bytes.ofNat width (z % order)
  let first : NonceState := ⟨List.replicate 32 0, List.replicate 32 1⟩
  (first.update (0x00 :: seed)).update (0x01 :: seed)

end NonceState

/-- The signature that a nonce gives to a digest, if neither half is zero. -/
def signWith? (d : Scalar) (z k : Nat) : Option Signature :=
  (mul? k generator).bind fun R =>
    let r := R.x % order
    let s := inverseMod k order * (z + r * d.val) % order
    if r = 0 ∨ s = 0 then none else some ⟨r, s⟩

/-- The signature of the first usable candidate among the next `attempts`. -/
def search? (d : Scalar) (z : Nat) : (attempts : Nat) → NonceState → Option Signature
  | 0, _ => none
  | attempts + 1, state =>
    let value := Hmac.digest state.key state.value
    let k := Bytes.toNat value
    let signature := if 0 < k ∧ k < order then signWith? d z k else none
    match signature with
    | some σ => some σ
    | none => search? d z attempts (NonceState.update ⟨state.key, value⟩ [0x00])

/-- The candidates tried. All but one in four thousand million are usable. -/
def maxAttempts : Nat := 64

/-- The signature of a message. -/
def sign (d : Scalar) (message : Bytes) : Signature :=
  let z := Bytes.toNat (Sha256.digest message)
  (search? d z maxAttempts (.initial d z)).getD ⟨1, 1⟩

/-! ## Verifying -/

/-- The signature of a message is right for a public point. -/
def verify (P : Point) (message : Bytes) (σ : Signature) : Bool :=
  if 0 < σ.r ∧ σ.r < order ∧ 0 < σ.s ∧ σ.s < order then
    let z := Bytes.toNat (Sha256.digest message)
    let w := inverseMod σ.s order
    match combine? (z * w % order) (σ.r * w % order) P with
    | none => false
    | some R => R.x % order = σ.r
  else false

@[simp] theorem Signature.length_toBytes (σ : Signature) : σ.toBytes.length = 64 := by
  simp [toBytes, width]

end WebPush.Ecdsa
