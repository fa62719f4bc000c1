import Mathlib.GroupTheory.Perm.Cycle.Type
import WebPush.Proofs.Curve.Jacobian
/-!
# P-256 — the order of the group

The generator has prime order, and the curve has no other points than
its multiples: a bound on the number of points leaves room for twice the
order at most, and twice the order would take a point of order two,
whose first coordinate is a root of `x³ - 3x + b`. That this cubic has
none is computed: modulo the cubic, the difference between a root and
its power by the field prime is invertible, whereas it is zero.
-/

namespace WebPush

namespace P256

/-! ## The order of the generator -/

theorem order_lt : order < 2 ^ 256 := by decide +kernel

theorem order_nsmul_generator : order • generator.toGroup = 0 := by
  have hnone : mul? order generator = none := by decide +kernel
  rw [mul?_eq order_lt] at hnone
  exact coordinates?_eq_none.1 hnone

/-- **The generator has prime order.** -/
theorem addOrderOf_generator : addOrderOf generator.toGroup = order :=
  have : Fact order.Prime := ⟨prime_order⟩
  addOrderOf_eq_prime order_nsmul_generator (toGroup_ne_zero generator)

/-! ## The cubic has no root -/

/-- A polynomial of degree two, `a x² + b x + c`, read modulo the cubic. -/
structure Quadratic where
  a : Nat
  b : Nat
  c : Nat
deriving DecidableEq

namespace Quadratic

/-- The value at a residue. -/
def eval (p : Quadratic) (r : Coordinate) : Coordinate := p.a * r ^ 2 + p.b * r + p.c

/-- The product modulo `x³ - 3x + b`. -/
def mul (p q : Quadratic) : Quadratic :=
  let fourth := p.a * q.a
  let third := p.a * q.b + p.b * q.a
  ⟨(p.a * q.c + p.b * q.b + p.c * q.a + 3 * fourth) % prime,
    (p.b * q.c + p.c * q.b + 3 * third + (prime - constantTerm) * fourth) % prime,
    (p.c * q.c + (prime - constantTerm) * third) % prime⟩

/-- The polynomial `x`. -/
def unknown : Quadratic := ⟨0, 1, 0⟩

/-- The power of `x` by the field prime, modulo the cubic. -/
def frobenius : Quadratic :=
  (bits 256 prime).foldl (fun acc bit => if bit then (acc.mul acc).mul .unknown else acc.mul acc)
    ⟨0, 0, 1⟩

/-- That power less `x`. -/
def difference : Quadratic := ⟨frobenius.a, fsub frobenius.b 1, frobenius.c⟩

/-- What the difference times it is one modulo the cubic. -/
def inverseDifference : Quadratic where
  a := 0x4cde11cf86cb876cd59cf0115813c55af0ecd3cda667d98bb9a347a56aa74a6d
  b := 0xa4a08891884100c13323460107a8d28eede4387fa3e6e9bfebec9f6d72d0b5cc
  c := 0xa969487079f1744798bf0de6fded091b66e9d328eb0645fe5d979d1339b7f47f

theorem difference_mul_inverseDifference : difference.mul inverseDifference = ⟨0, 0, 1⟩ := by
  decide +kernel

variable {r : Coordinate}

/-- At a root of the cubic, evaluating turns products into products. -/
theorem eval_mul (hr : r ^ 3 - 3 * r + (constantTerm : Coordinate) = 0) (p q : Quadratic) :
    (p.mul q).eval r = p.eval r * q.eval r := by
  have hle : constantTerm ≤ prime := by decide +kernel
  simp only [eval, mul, ZMod.natCast_mod]
  push_cast [Nat.cast_sub hle, ZMod.natCast_self]
  linear_combination -(p.a * q.a * r + p.a * q.b + p.b * q.a : Coordinate) * hr

/-- At a root of the cubic, the power of `x` is the root. -/
theorem eval_frobenius (hr : r ^ 3 - 3 * r + (constantTerm : Coordinate) = 0) :
    frobenius.eval r = r := by
  -- The accumulator is a power of `x` modulo the cubic, so evaluating it gives one of the root.
  have hfold := foldl_bits (fun acc k => eval acc r = r ^ k)
    (fun acc bit => if bit then (acc.mul acc).mul .unknown else acc.mul acc)
    (fun acc k bit hk => by
      have hsquare : (acc.mul acc).eval r = r ^ (2 * k) := by
        rw [eval_mul hr, hk, two_mul, pow_add]
      cases bit with
      | false => exact hsquare
      | true =>
        have hx : Quadratic.unknown.eval r = r := by simp [eval, Quadratic.unknown]
        simp only [if_true, eval_mul hr (acc.mul acc), hsquare, hx, Bool.toNat_true, pow_succ])
    256 prime ⟨0, 0, 1⟩ 0 (by simp [eval])
  rw [Nat.zero_mul, Nat.zero_add, Nat.mod_eq_of_lt (by decide +kernel), ZMod.pow_card] at hfold
  exact hfold

end Quadratic

/-- **The cubic has no root.** -/
theorem cubic_ne_zero (r : Coordinate) : r ^ 3 - 3 * r + (constantTerm : Coordinate) ≠ 0 := by
  intro hr
  have hone : 1 ≤ prime := prime_pos
  have hdifference : Quadratic.difference.eval r = 0 := by
    have hfrobenius := Quadratic.eval_frobenius hr
    simp only [Quadratic.eval, Quadratic.difference, cast_fsub _ hone, Nat.cast_one] at *
    linear_combination hfrobenius
  -- An invertible polynomial cannot vanish at the root.
  have hproduct := Quadratic.eval_mul hr .difference .inverseDifference
  rw [Quadratic.difference_mul_inverseDifference, hdifference, zero_mul] at hproduct
  simp [Quadratic.eval] at hproduct

/-! ## The number of points -/

/-- A group element as a first coordinate and a choice between the two
second ones. -/
def halved : curve.Point → Option (Coordinate × Bool)
  | .zero => none
  | .some x y _ => some (x, decide (y.val ≤ (-y).val))

theorem halved_injective : Function.Injective halved := by
  intro A B h
  cases A with
  | zero =>
    cases B with
    | zero => rfl
    | some x y hB => simp [halved] at h
  | some x y hA =>
    cases B with
    | zero => simp [halved] at h
    | some x' y' hB =>
      simp only [halved, Option.some.injEq, Prod.mk.injEq, decide_eq_decide] at h
      obtain ⟨rfl, hle⟩ := h
      have hcases : y = y' ∨ y = -y' := by
        have := WeierstrassCurve.Affine.Y_eq_of_X_eq hA.1 hB.1 rfl
        rwa [curve, negY_curveOver] at this
      have hy : y = y' := by
        rcases hcases with hy | hy
        · exact hy
        · -- opposite second coordinates give one choice only where they are equal
          rw [hy, neg_neg] at hle
          have hval : (-y').val = y'.val := by omega
          rw [hy, ZMod.val_injective _ hval]
      subst hy
      rfl

instance : Finite curve.Point := Finite.of_injective halved halved_injective

theorem card_point_le : Nat.card curve.Point ≤ 2 * prime + 1 := by
  have hcard := Nat.card_le_card_of_injective halved halved_injective
  have hbool : Nat.card Bool = 2 := by simp
  rw [Finite.card_option, Nat.card_prod, Nat.card_zmod, hbool] at hcard
  omega

/-- **No point is its own negative.** -/
theorem add_self_ne_zero {A : curve.Point} (h : A ≠ 0) : A + A ≠ 0 := by
  cases A with
  | zero => exact absurd rfl h
  | some x y hA =>
    intro hsum
    have hneg := eq_neg_of_add_eq_zero_left hsum
    rw [WeierstrassCurve.Affine.Point.neg_some, WeierstrassCurve.Affine.Point.some.injEq] at hneg
    have hy : y = -y := by simpa only [curve, negY_curveOver, true_and] using hneg
    have hy0 : y = 0 := by
      have htwo : 2 * y = 0 := by linear_combination hy
      exact (mul_eq_zero.1 htwo).resolve_left two_ne_zero_coordinate
    have heq := equation_curveOver.1 hA.1
    refine cubic_ne_zero x ?_
    rw [hy0] at heq
    linear_combination -heq

/-- **The points are as many as the order of the generator says.** -/
theorem card_point : Nat.card curve.Point = order := by
  obtain ⟨k, hk⟩ : order ∣ Nat.card curve.Point :=
    addOrderOf_generator ▸ addOrderOf_dvd_natCard generator.toGroup
  have hpos : 0 < Nat.card curve.Point := Nat.card_pos
  have hle := card_point_le
  have hbound : 2 * prime + 1 < 3 * order := by decide +kernel
  have hk3 : k < 3 := by
    by_contra hge
    have : order * 3 ≤ order * k := Nat.mul_le_mul_left order (by omega)
    omega
  have hk0 : k ≠ 0 := by
    rintro rfl
    omega
  have hk2 : k ≠ 2 := by
    -- an even group has an element of order two, which is its own negative
    rintro rfl
    have : Fact (Nat.Prime 2) := ⟨Nat.prime_two⟩
    obtain ⟨A, hA⟩ := exists_prime_addOrderOf_dvd_card' 2 (hk ▸ dvd_mul_left 2 order)
    have hA0 : A ≠ 0 := by
      rintro rfl
      simp at hA
    refine add_self_ne_zero hA0 ?_
    rw [← two_nsmul, ← hA, addOrderOf_nsmul_eq_zero]
  have hk1 : k = 1 := by omega
  rw [hk, hk1, mul_one]

/-- **Every point has the order of the generator.** -/
theorem addOrderOf_point {A : curve.Point} (h : A ≠ 0) : addOrderOf A = order := by
  have hdvd : addOrderOf A ∣ order := card_point ▸ addOrderOf_dvd_natCard A
  exact ((Nat.dvd_prime prime_order).1 hdvd).resolve_left fun hone =>
    h (AddMonoid.addOrderOf_eq_one_iff.1 hone)

/-- A multiple by a private scalar is never neutral. -/
theorem Scalar.nsmul_ne_zero (d : Scalar) {A : curve.Point} (h : A ≠ 0) : d.val • A ≠ 0 := by
  intro hzero
  have hdvd : order ∣ d.val := addOrderOf_point h ▸ addOrderOf_dvd_of_nsmul_eq_zero hzero
  exact absurd (Nat.le_of_dvd d.pos hdvd) (Nat.not_le.2 d.lt_order)

/-! ## Keys -/

/-- The least private scalar. -/
def Scalar.one : Scalar := ⟨1, by decide, by decide +kernel⟩

theorem Scalar.val_lt (d : Scalar) : d.val < 2 ^ 256 := d.lt_order.trans order_lt

/-- **A multiple of a point by a private scalar is a point.** -/
theorem exists_point_mul? (d : Scalar) (P : Point) :
    ∃ Q : Point, mul? d.val P = some Q.toPair ∧ Q.toGroup = d.val • P.toGroup := by
  obtain ⟨Q, hQ⟩ := exists_point_of_ne_zero (d.nsmul_ne_zero (toGroup_ne_zero P))
  refine ⟨Q, ?_, hQ⟩
  rw [mul?_eq d.val_lt, ← hQ, coordinates?_toGroup]

/-- **The public point is the multiple of the generator.** -/
theorem toGroup_publicPoint (d : Scalar) :
    d.publicPoint.toGroup = d.val • generator.toGroup := by
  obtain ⟨Q, hmul, hQ⟩ := exists_point_mul? d generator
  rw [Scalar.publicPoint, hmul, Option.bind_some, Point.ofPair?_toPair, Option.getD_some, hQ]

/-- **What is agreed on** is the first coordinate of the multiple of the point. -/
theorem exists_sharedSecret?_eq (d : Scalar) (P : Point) : ∃ agreed : Point,
    agreed.toGroup = d.val • P.toGroup ∧
      sharedSecret? d P = some (Bytes.ofNat width agreed.x) := by
  obtain ⟨Q, hmul, hQ⟩ := exists_point_mul? d P
  exact ⟨Q, hQ, by rw [sharedSecret?, hmul, Option.map_some]⟩

/-- **Agreement never fails**, whatever the point. -/
theorem exists_sharedSecret? (d : Scalar) (P : Point) : ∃ secret, sharedSecret? d P = some secret :=
  have ⟨_, _, h⟩ := exists_sharedSecret?_eq d P
  ⟨_, h⟩

/-- **Both sides agree on one secret.** -/
theorem sharedSecret?_publicPoint (d e : Scalar) :
    sharedSecret? e d.publicPoint = sharedSecret? d e.publicPoint := by
  rw [sharedSecret?, sharedSecret?, mul?_eq e.val_lt, mul?_eq d.val_lt, toGroup_publicPoint,
    toGroup_publicPoint, smul_smul, smul_smul, Nat.mul_comm]

end P256

end WebPush
