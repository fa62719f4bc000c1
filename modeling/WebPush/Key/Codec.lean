import WebPush.Base64Url
import WebPush.Entropy
import WebPush.Key.Basic
/-!
# Keys — their compact encodings

A public key travels as the sixty-five octets of an uncompressed point,
a private key as the thirty-two octets of its scalar, and both also as
base64url text. Loading accepts a key as it is, its octets or its text,
and answers with a key on P-256; the checks run from the outside in, so
the first fault met is the one reported.
-/

namespace WebPush

/-- Key material on the way: octets, or their base64url text. -/
inductive Encoded where
  | raw (bytes : Bytes)
  | text (text : String)

/-- A key, or one of its encodings. -/
inductive KeySource (α : Type) where
  | key (key : α)
  | encoded (material : Encoded)

/-- Why key material was refused. -/
inductive KeyError where
  | notBase64Url
  | publicLength (length : Nat)
  | notUncompressed
  | notOnCurve
  | privateLength (length : Nat)
  | scalarRange
  | foreignPublicKey (curve : ForeignCurve)
  | foreignPrivateKey (curve : ForeignCurve)
  | secretLength (length : Nat)
deriving DecidableEq, Repr

namespace KeyError

/-- The wording of a refusal. -/
def message : KeyError → String
  | .notBase64Url => "Key material is not valid base64url."
  | .publicLength n => s!"Public key must be 65 bytes, got {n}."
  | .notUncompressed => "Public key must use the uncompressed point encoding."
  | .notOnCurve => "Public key is not a point on P-256."
  | .privateLength n => s!"Private key must be 32 bytes, got {n}."
  | .scalarRange => "Private key scalar is out of range for P-256."
  | .foreignPublicKey curve | .foreignPrivateKey curve =>
    "Only P-256 keys are supported, got " ++ curve.name ++ "."
  | .secretLength n => s!"Auth secret must be 16 bytes, got {n}."

/-- The material is a well-formed public key that nobody can encrypt for. -/
def isUnusableRecipient : KeyError → Bool
  | .notOnCurve | .foreignPublicKey _ => true
  | _ => false

end KeyError

/-- The octets of key material. -/
def Encoded.toBytes : Encoded → Except KeyError Bytes
  | .raw bs => .ok bs
  | .text s =>
    match Base64Url.decode? s with
    | some bs => .ok bs
    | none => .error .notBase64Url

/-! ## Public keys -/

namespace PublicKey

/-- The point of a public key on P-256. -/
def requireP256 : PublicKey → Except KeyError P256.Point
  | .p256 P => .ok P
  | .foreign key => .error (.foreignPublicKey key.curve)

/-- The point that sixty-five octets write. -/
def ofBytes (bs : Bytes) : Except KeyError P256.Point :=
  if bs.length ≠ 65 then .error (.publicLength bs.length)
  else if bs.head? ≠ some 0x04 then .error .notUncompressed
  else match P256.Point.ofPair? (P256.Pair.ofBytes bs) with
    | some P => .ok P
    | none => .error .notOnCurve

/-- The point of a public key in any of its forms. -/
def load : KeySource PublicKey → Except KeyError P256.Point
  | .key k => k.requireP256
  | .encoded material => material.toBytes.bind ofBytes

/-- The sixty-five octets of a public key. -/
def save (k : PublicKey) : Except KeyError Bytes := k.requireP256.map fun P => P.toBytes

end PublicKey

/-! ## Private keys -/

namespace PrivateKey

/-- The scalar of a private key on P-256. -/
def requireP256 : PrivateKey → Except KeyError P256.Scalar
  | .p256 d => .ok d
  | .foreign key => .error (.foreignPrivateKey key.curve)

/-- The scalar that thirty-two octets write. -/
def ofBytes (bs : Bytes) : Except KeyError P256.Scalar :=
  if bs.length ≠ 32 then .error (.privateLength bs.length)
  else match P256.Scalar.ofNat? (Bytes.toNat bs) with
    | some d => .ok d
    | none => .error .scalarRange

/-- The scalar of a private key in any of its forms. -/
def load : KeySource PrivateKey → Except KeyError P256.Scalar
  | .key k => k.requireP256
  | .encoded material => material.toBytes.bind ofBytes

/-- The thirty-two octets of a private key. -/
def save (k : PrivateKey) : Except KeyError Bytes := k.requireP256.map fun d => d.toBytes

end PrivateKey

/-! ## Pairs and secrets -/

namespace KeyPair

/-- Both halves from their encodings, the public one first. Whether they
belong together is not checked here. -/
def load (publicKey privateKey : Encoded) : Except KeyError KeyPair := do
  let P ← PublicKey.load (.encoded publicKey)
  let d ← PrivateKey.load (.encoded privateKey)
  return ⟨.p256 P, .p256 d⟩

/-- A fresh pair. -/
def generate (e : Entropy) : KeyPair × Entropy :=
  let (d, e) := e.drawScalar
  (ofScalar d, e)

end KeyPair

/-- The secret shared with a browser, which has sixteen octets. -/
def Octets16.ofSecret (bs : Bytes) : Except KeyError Octets16 :=
  match ofBytes? bs with
  | some secret => .ok secret
  | none => .error (.secretLength bs.length)

/-! ## Laws -/

/-- **A saved point loads back.** -/
theorem PublicKey.ofBytes_toBytes (P : P256.Point) : PublicKey.ofBytes P.toBytes = .ok P := by
  have hhead : P.toBytes.head? = some 0x04 := rfl
  simp [PublicKey.ofBytes, hhead, P256.Pair.ofBytes_toBytes P.onCurve]

/-- **A saved scalar loads back.** -/
theorem PrivateKey.ofBytes_toBytes (d : P256.Scalar) : PrivateKey.ofBytes d.toBytes = .ok d := by
  have bound : P256.order < Bytes.capacity P256.width := by decide +kernel
  have hd : d.val % Bytes.capacity P256.width = d.val :=
    Nat.mod_eq_of_lt (Nat.lt_trans d.lt_order bound)
  have hn : Bytes.toNat d.toBytes = d.val := by simp [P256.Scalar.toBytes, Bytes.toNat_ofNat, hd]
  simp [PrivateKey.ofBytes, hn]

end WebPush
