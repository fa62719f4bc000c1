import WebPush.Bytes
/-!
# P-256 — the curve of every key

A point is a pair of coordinates below the field prime that satisfies
the curve equation; the neutral element has no coordinates and is
`none`. Multiples are computed in Jacobian coordinates, where adding
needs no inversion, one bit of the scalar after the other.
-/

namespace WebPush.P256

/-! ## Parameters -/

/-- The field prime. -/
def prime : Nat := 0xFFFFFFFF00000001000000000000000000000000FFFFFFFFFFFFFFFFFFFFFFFF

/-- The constant term of the curve equation `y² = x³ - 3x + b`. -/
def constantTerm : Nat := 0x5AC635D8AA3A93E7B3EBBD55769886BC651D06B0CC53B0F63BCE3C3E27D2604B

/-- The order of the generator. -/
def order : Nat := 0xFFFFFFFF00000000FFFFFFFFFFFFFFFFBCE6FAADA7179E84F3B9CAC2FC632551

/-- The octets of a coordinate or a scalar. -/
def width : Nat := 32

/-- A pair of coordinates, on the curve or not. -/
structure Pair where
  x : Nat
  y : Nat
deriving DecidableEq, Repr

/-- The pair is a point: coordinates below the prime that satisfy the equation. -/
def Pair.OnCurve (P : Pair) : Prop :=
  P.x < prime ∧ P.y < prime ∧
    P.y * P.y % prime = (P.x * P.x * P.x + (prime - 3) * P.x + constantTerm) % prime

instance (P : Pair) : Decidable P.OnCurve := inferInstanceAs (Decidable (_ ∧ _ ∧ _))

/-- A point other than the neutral element. -/
structure Point extends Pair where
  onCurve : toPair.OnCurve
deriving DecidableEq

/-- The generator. -/
def generator : Point where
  x := 0x6B17D1F2E12C4247F8BCE6E563A440F277037D812DEB33A0F4A13945D898C296
  y := 0x4FE342E2FE1A7F9B8EE7EB4A7C0F9E162BCE33576B315ECECBB6406837BF51F5
  onCurve := by decide +kernel

/-- A private scalar: at least one and below the order. -/
structure Scalar where
  val : Nat
  pos : 0 < val
  lt_order : val < order
deriving DecidableEq

/-! ## Arithmetic modulo a prime -/

/-- The bits of a number below `2 ^ count`, most significant first. -/
def bits : (count : Nat) → Nat → List Bool
  | 0, _ => []
  | count + 1, n => n.testBit count :: bits count n

/-- A power modulo `m`, for exponents below `2 ^ 256`. -/
def powerMod (base exponent m : Nat) : Nat :=
  (bits 256 exponent).foldl
    (fun acc bit => if bit then acc * acc % m * base % m else acc * acc % m) 1

/-- The inverse modulo a prime, as a power. -/
def inverseMod (n m : Nat) : Nat := powerMod n (m - 2) m

/-- The product in the field. -/
def fmul (a b : Nat) : Nat := a * b % prime

/-- The difference in the field. -/
def fsub (a b : Nat) : Nat := (a + (prime - b)) % prime

/-! ## Jacobian coordinates -/

/-- The point `(x / z², y / z³)`, or the neutral element if `z` is zero. -/
structure Jacobian where
  x : Nat
  y : Nat
  z : Nat

namespace Jacobian

/-- The neutral element. -/
def neutral : Jacobian := ⟨1, 1, 0⟩

/-- A pair with `z = 1`. -/
def ofPair (P : Pair) : Jacobian := ⟨P.x, P.y, 1⟩

/-- The coordinates, if there are any. -/
def toPair? (P : Jacobian) : Option Pair :=
  if P.z = 0 then none
  else
    let inverse := inverseMod P.z prime
    let square := fmul inverse inverse
    some ⟨fmul P.x square, fmul P.y (fmul square inverse)⟩

/-- A point added to itself. -/
def double (P : Jacobian) : Jacobian :=
  let delta := fmul P.z P.z
  let gamma := fmul P.y P.y
  let beta := fmul P.x gamma
  let alpha := fmul 3 (fmul (fsub P.x delta) (P.x + delta))
  let x := fsub (fmul alpha alpha) (fmul 8 beta)
  let sum := P.y + P.z
  let z := fsub (fsub (fmul sum sum) gamma) delta
  ⟨x, fsub (fmul alpha (fsub (fmul 4 beta) x)) (fmul 8 (fmul gamma gamma)), z⟩

/-- The sum of two points. -/
def add (P Q : Jacobian) : Jacobian :=
  if P.z = 0 then Q
  else if Q.z = 0 then P
  else
    let pp := fmul P.z P.z
    let qq := fmul Q.z Q.z
    let u1 := fmul P.x qq
    let u2 := fmul Q.x pp
    let s1 := fmul P.y (fmul qq Q.z)
    let s2 := fmul Q.y (fmul pp P.z)
    let h := fsub u2 u1
    let r := fsub s2 s1
    if h = 0 then (if r = 0 then P.double else neutral)
    else
      let hh := fmul h h
      let hhh := fmul hh h
      let v := fmul u1 hh
      let x := fsub (fsub (fmul r r) hhh) (fmul 2 v)
      ⟨x, fsub (fmul r (fsub v x)) (fmul s1 hhh), fmul h (fmul P.z Q.z)⟩

/-- The multiple of a point by a number below `2 ^ 256`. -/
def mul (d : Nat) (P : Jacobian) : Jacobian :=
  (bits 256 d).foldl (fun acc bit => if bit then acc.double.add P else acc.double) neutral

end Jacobian

/-! ## Multiples of points -/

/-- The multiple of a point by a number below `2 ^ 256`. -/
def mul? (d : Nat) (P : Point) : Option Pair := (Jacobian.mul d (.ofPair P.toPair)).toPair?

/-- The sum of a multiple of the generator and a multiple of a point. -/
def combine? (u v : Nat) (P : Point) : Option Pair :=
  ((Jacobian.mul u (.ofPair generator.toPair)).add (Jacobian.mul v (.ofPair P.toPair))).toPair?

/-- The point that a pair is, if it is one. -/
def Point.ofPair? (P : Pair) : Option Point := if h : P.OnCurve then some ⟨P, h⟩ else none

/-- The multiple of the generator by a private scalar. Such a multiple is
always a point, so the generator never stands in for it. -/
def Scalar.publicPoint (d : Scalar) : Point :=
  ((mul? d.val generator).bind Point.ofPair?).getD generator

/-- The secret shared by a private scalar and a public point: the first
coordinate of the multiple. -/
def sharedSecret? (d : Scalar) (P : Point) : Option Bytes :=
  (mul? d.val P).map fun S => Bytes.ofNat width S.x

/-! ## Octets -/

/-- The uncompressed form of a pair: a four, then both coordinates. -/
def Pair.toBytes (P : Pair) : Bytes := 0x04 :: Bytes.ofNat width P.x ++ Bytes.ofNat width P.y

/-- The pair of coordinates behind the first octet of an uncompressed form. -/
def Pair.ofBytes (bs : Bytes) : Pair where
  x := Bytes.toNat ((bs.drop 1).take width)
  y := Bytes.toNat (bs.drop (1 + width))

/-- The octets of a scalar, leading zeros included. -/
def Scalar.toBytes (d : Scalar) : Bytes := Bytes.ofNat width d.val

/-- The scalar that a number is, if it is in range. -/
def Scalar.ofNat? (n : Nat) : Option Scalar :=
  if h : 0 < n ∧ n < order then some ⟨n, h.1, h.2⟩ else none

@[simp] theorem Pair.length_toBytes (P : Pair) : P.toBytes.length = 65 := by
  simp [toBytes, width]

@[simp] theorem Scalar.length_toBytes (d : Scalar) : d.toBytes.length = 32 := by
  simp [toBytes, width]

@[simp] theorem Scalar.ofNat?_val (d : Scalar) : Scalar.ofNat? d.val = some d := by
  simp [ofNat?, d.pos, d.lt_order]

@[simp] theorem Point.ofPair?_toPair (P : Point) : Point.ofPair? P.toPair = some P := by
  simp [ofPair?, P.onCurve]

/-- **A pair of small coordinates reads back from its uncompressed form.** -/
theorem Pair.ofBytes_toBytes {P : Pair} (h : P.OnCurve) : Pair.ofBytes P.toBytes = P := by
  have bound : prime < Bytes.capacity width := by decide +kernel
  have hx : P.x % Bytes.capacity width = P.x := Nat.mod_eq_of_lt (Nat.lt_trans h.1 bound)
  have hy : P.y % Bytes.capacity width = P.y := Nat.mod_eq_of_lt (Nat.lt_trans h.2.1 bound)
  simp [ofBytes, toBytes, Nat.add_comm 1, List.drop_left', Bytes.toNat_ofNat, hx, hy]

end WebPush.P256
