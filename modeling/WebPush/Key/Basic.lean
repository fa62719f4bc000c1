import WebPush.Curve.P256
/-!
# Keys — public, private, and in pairs

The library computes with keys on P-256 only. Keys on other curves are
known by their curve and the scalar that tells them apart; they are
carried as far as the check that refuses them.
-/

namespace WebPush

/-- A curve that keys may be on, other than P-256, by its registered name. -/
structure ForeignCurve where
  name : String
  foreign : name ≠ "secp256r1"
deriving DecidableEq, Repr

/-- The curve of the same family over a larger field. -/
def ForeignCurve.secp384r1 : ForeignCurve := ⟨"secp384r1", by decide⟩

/-- A key on another curve, or its public half. -/
structure ForeignKey where
  curve : ForeignCurve
  scalar : Nat
deriving DecidableEq, Repr

/-- A public key. -/
inductive PublicKey where
  | p256 (point : P256.Point)
  | foreign (key : ForeignKey)
deriving DecidableEq

/-- A private key. -/
inductive PrivateKey where
  | p256 (scalar : P256.Scalar)
  | foreign (key : ForeignKey)
deriving DecidableEq

/-- The public half of a private key. -/
def PrivateKey.publicKey : PrivateKey → PublicKey
  | .p256 d => .p256 d.publicPoint
  | .foreign key => .foreign key

/-- Both keys of an application server. -/
structure KeyPair where
  publicKey : PublicKey
  privateKey : PrivateKey
deriving DecidableEq

namespace KeyPair

/-- The private key belongs to the public one. -/
def Consistent (pair : KeyPair) : Prop := pair.privateKey.publicKey = pair.publicKey

instance (pair : KeyPair) : Decidable pair.Consistent := inferInstanceAs (Decidable (_ = _))

/-- The pair of a private scalar. -/
def ofScalar (d : P256.Scalar) : KeyPair := ⟨.p256 d.publicPoint, .p256 d⟩

theorem consistent_ofScalar (d : P256.Scalar) : (ofScalar d).Consistent := rfl

end KeyPair

end WebPush
