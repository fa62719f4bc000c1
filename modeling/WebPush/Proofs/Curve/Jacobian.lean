import Mathlib.AlgebraicGeometry.EllipticCurve.Affine.Point
import Mathlib.FieldTheory.Finite.Basic
import Mathlib.Tactic.FieldSimp
import Mathlib.Tactic.LinearCombination
import WebPush.Proofs.Curve.Primality
/-!
# P-256 — Jacobian coordinates and the group they compute in

The points of the curve form a group by the chord and tangent rule.
Jacobian coordinates stand for an element of it (`Represents`), doubling
and adding them stands for adding elements, and so a multiple computed
bit by bit stands for the multiple. `mul?_eq` is the equation everything
about keys and signatures is read off.
-/

namespace WebPush

namespace P256

/-! ## Tangents and chords without division

Over any field, for a curve `y² = x³ - 3x + b`. -/

section Formulas

variable {F : Type*} [Field F]

/-- The curve with a given constant term. -/
def curveOver (b : F) : WeierstrassCurve.Affine F := ⟨0, 0, 0, -3, b⟩

variable {b : F}

theorem equation_curveOver {x y : F} :
    (curveOver b).Equation x y ↔ y ^ 2 = x ^ 3 - 3 * x + b := by
  rw [WeierstrassCurve.Affine.equation_iff]
  simp only [curveOver, zero_mul, add_zero]
  ring_nf

@[simp] theorem negY_curveOver (x y : F) : (curveOver b).negY x y = -y := by
  simp [WeierstrassCurve.Affine.negY, curveOver]

/-- Points with equal coordinates are equal, whatever proves that they are points. -/
theorem some_eq_some {W : WeierstrassCurve.Affine F} {x y x' y' : F} (h : W.Nonsingular x y)
    (hx : x = x') (hy : y = y') :
    ∃ h' : W.Nonsingular x' y',
      WeierstrassCurve.Affine.Point.some x y h = WeierstrassCurve.Affine.Point.some x' y' h' := by
  subst hx hy
  exact ⟨h, rfl⟩

variable [DecidableEq F]

/-- **The tangent.** A point other than its own negative, doubled. -/
theorem some_add_self {x y z : F} (htwo : (2 : F) ≠ 0) (hy : y ≠ 0) (hz : z ≠ 0)
    (h : (curveOver b).Nonsingular (x / z ^ 2) (y / z ^ 3)) {α X Z : F}
    (hα : α = 3 * ((x - z * z) * (x + z * z))) (hX : X = α * α - 8 * (x * (y * y)))
    (hZ : Z = 2 * y * z) :
    ∃ h', WeierstrassCurve.Affine.Point.some _ _ h + WeierstrassCurve.Affine.Point.some _ _ h =
      WeierstrassCurve.Affine.Point.some (X / Z ^ 2)
        ((α * (4 * (x * (y * y)) - X) - 8 * (y * y * (y * y))) / Z ^ 3) h' := by
  have hne : y / z ^ 3 ≠ (curveOver b).negY (x / z ^ 2) (y / z ^ 3) := by
    rw [negY_curveOver, Ne, eq_neg_iff_add_eq_zero, ← two_mul]
    exact mul_ne_zero htwo (div_ne_zero hy (pow_ne_zero 3 hz))
  -- The slope is found first; both coordinates are polynomials in it.
  have hslope : (curveOver b).slope (x / z ^ 2) (x / z ^ 2) (y / z ^ 3) (y / z ^ 3) = α / Z := by
    have hd : y / z ^ 3 - -(y / z ^ 3) = 2 * y / z ^ 3 := by ring
    rw [WeierstrassCurve.Affine.slope_of_Y_ne rfl hne, negY_curveOver, hd, hα, hZ,
      div_eq_div_iff (div_ne_zero (mul_ne_zero htwo hy) (pow_ne_zero 3 hz))
        (mul_ne_zero (mul_ne_zero htwo hy) hz)]
    simp only [curveOver]
    field_simp
    ring
  have hZ0 : Z ≠ 0 := hZ ▸ mul_ne_zero (mul_ne_zero htwo hy) hz
  have hxsum : (curveOver b).addX (x / z ^ 2) (x / z ^ 2) (α / Z) = X / Z ^ 2 := by
    simp only [WeierstrassCurve.Affine.addX, curveOver, hX]
    field_simp
    rw [hZ]
    ring
  rw [WeierstrassCurve.Affine.Point.add_self_of_Y_ne hne]
  refine some_eq_some _ (by rw [hslope, hxsum]) ?_
  rw [hslope, WeierstrassCurve.Affine.addY, WeierstrassCurve.Affine.negAddY, hxsum, negY_curveOver]
  field_simp
  rw [hZ]
  ring

/-- **The chord.** Two points with different first coordinates, added. -/
theorem some_add_some {x y z x' y' z' : F} (hz : z ≠ 0) (hz' : z' ≠ 0)
    (h : (curveOver b).Nonsingular (x / z ^ 2) (y / z ^ 3))
    (h' : (curveOver b).Nonsingular (x' / z' ^ 2) (y' / z' ^ 3)) {H r X Z : F}
    (hH : H = x' * (z * z) - x * (z' * z')) (hr : r = y' * (z * z * z) - y * (z' * z' * z'))
    (hne : H ≠ 0) (hX : X = r * r - H * H * H - 2 * (x * (z' * z') * (H * H)))
    (hZ : Z = H * (z * z')) :
    ∃ h'', WeierstrassCurve.Affine.Point.some _ _ h + WeierstrassCurve.Affine.Point.some _ _ h' =
      WeierstrassCurve.Affine.Point.some (X / Z ^ 2)
        ((r * (x * (z' * z') * (H * H) - X) - y * (z' * z' * z') * (H * H * H)) / Z ^ 3) h'' := by
  have hxne : x / z ^ 2 ≠ x' / z' ^ 2 := by
    intro heq
    rw [div_eq_div_iff (pow_ne_zero 2 hz) (pow_ne_zero 2 hz')] at heq
    exact hne (by rw [hH]; linear_combination -heq)
  have hslope : (curveOver b).slope (x / z ^ 2) (x' / z' ^ 2) (y / z ^ 3) (y' / z' ^ 3) = r / Z := by
    have hd : x / z ^ 2 - x' / z' ^ 2 = -H / (z ^ 2 * z' ^ 2) := by
      rw [hH]
      field_simp
      ring
    rw [WeierstrassCurve.Affine.slope_of_X_ne hxne, hd, hZ, hr]
    field_simp
    ring
  have hZ0 : Z ≠ 0 := hZ ▸ mul_ne_zero hne (mul_ne_zero hz hz')
  have hxsum : (curveOver b).addX (x / z ^ 2) (x' / z' ^ 2) (r / Z) = X / Z ^ 2 := by
    simp only [WeierstrassCurve.Affine.addX, curveOver, hX]
    field_simp
    rw [hZ]
    linear_combination H ^ 2 * z ^ 2 * z' ^ 2 * hH
  rw [WeierstrassCurve.Affine.Point.add_of_X_ne hxne]
  refine some_eq_some _ (by rw [hslope, hxsum]) ?_
  rw [hslope, WeierstrassCurve.Affine.addY, WeierstrassCurve.Affine.negAddY, hxsum, negY_curveOver]
  field_simp
  rw [hZ]
  ring

end Formulas

/-! ## The group of the curve -/

/-- Coordinates are residues. -/
abbrev Coordinate := ZMod prime

instance : Fact prime.Prime := ⟨prime_prime⟩

/-- The curve of every key. -/
def curve : WeierstrassCurve.Affine Coordinate := curveOver (constantTerm : Coordinate)

theorem two_ne_zero_coordinate : (2 : Coordinate) ≠ 0 := by
  have h : ((2 : Nat) : Coordinate) ≠ 0 := by
    rw [Ne, ZMod.natCast_eq_zero_iff]
    decide +kernel
  exact_mod_cast h

/-- The curve has no singular point. -/
theorem discriminant_ne_zero : curve.Δ ≠ 0 := by
  have hΔ : curve.Δ = ((1728 - 432 * (constantTerm : Int) ^ 2 : Int) : Coordinate) := by
    simp only [curve, curveOver, WeierstrassCurve.Δ, WeierstrassCurve.b₂, WeierstrassCurve.b₄,
      WeierstrassCurve.b₆, WeierstrassCurve.b₈]
    push_cast
    ring
  rw [hΔ, Ne, ZMod.intCast_zmod_eq_zero_iff_dvd]
  decide +kernel

/-- **A pair is on the curve** if its coordinates are below the prime and satisfy the curve equation
as residues. -/
theorem onCurve_iff {P : Pair} : P.OnCurve ↔ P.x < prime ∧ P.y < prime ∧
    (P.y : Coordinate) ^ 2 = (P.x : Coordinate) ^ 3 - 3 * P.x + constantTerm := by
  have hthree : 3 ≤ prime := by decide +kernel
  rw [Pair.OnCurve, ← ZMod.natCast_eq_natCast_iff']
  push_cast [Nat.cast_sub hthree, ZMod.natCast_self]
  refine and_congr_right' (and_congr_right' ⟨fun h => ?_, fun h => ?_⟩)
  · linear_combination h
  · linear_combination h

/-- The curve equation over the numbers is the one over the residues. -/
theorem equation_of_onCurve {P : Pair} (h : P.OnCurve) :
    curve.Equation (P.x : Coordinate) (P.y : Coordinate) := by
  rw [curve, equation_curveOver]
  exact (onCurve_iff.1 h).2.2

theorem nonsingular_of_onCurve {P : Pair} (h : P.OnCurve) :
    curve.Nonsingular (P.x : Coordinate) (P.y : Coordinate) :=
  (WeierstrassCurve.Affine.equation_iff_nonsingular_of_Δ_ne_zero discriminant_ne_zero).1
    (equation_of_onCurve h)

/-- The group element of a point. -/
def Point.toGroup (P : Point) : curve.Point :=
  .some (P.x : Coordinate) (P.y : Coordinate) (nonsingular_of_onCurve P.onCurve)

/-- The coordinates of a group element, if it has any. -/
def coordinates? : curve.Point → Option Pair
  | .zero => none
  | .some x y _ => some ⟨x.val, y.val⟩

@[simp] theorem coordinates?_zero : coordinates? 0 = none := rfl

theorem coordinates?_eq_none {A : curve.Point} : coordinates? A = none ↔ A = 0 := by
  cases A with
  | zero => exact iff_of_true rfl rfl
  | some x y h => simp [coordinates?]

/-- A residue's number is below the prime and determines the residue. -/
theorem val_coordinate {n : Nat} (h : n < prime) : (n : Coordinate).val = n :=
  ZMod.val_cast_of_lt h

/-- **A point has the coordinates of its group element.** -/
@[simp] theorem coordinates?_toGroup (P : Point) : coordinates? P.toGroup = some P.toPair := by
  simp only [Point.toGroup, coordinates?, val_coordinate P.onCurve.1, val_coordinate P.onCurve.2.1]

/-- **The coordinates of a group element make a point**, which stands for the element. -/
theorem exists_point_of_ne_zero {A : curve.Point} (h : A ≠ 0) : ∃ P : Point, P.toGroup = A := by
  cases A with
  | zero => exact absurd rfl h
  | some x y hA =>
    have heq : y ^ 2 = x ^ 3 - 3 * x + (constantTerm : Coordinate) :=
      equation_curveOver.1 hA.1
    have hon : Pair.OnCurve ⟨x.val, y.val⟩ := by
      refine onCurve_iff.2 ⟨ZMod.val_lt x, ZMod.val_lt y, ?_⟩
      rw [ZMod.natCast_zmod_val, ZMod.natCast_zmod_val]
      exact heq
    obtain ⟨h', heq'⟩ := some_eq_some hA (ZMod.natCast_zmod_val x).symm
      (ZMod.natCast_zmod_val y).symm
    exact ⟨⟨⟨x.val, y.val⟩, hon⟩, heq'.symm⟩

theorem toGroup_ne_zero (P : Point) : P.toGroup ≠ 0 :=
  WeierstrassCurve.Affine.Point.some_ne_zero _

theorem toGroup_injective : Function.Injective Point.toGroup := by
  intro P Q h
  have hpair : P.toPair = Q.toPair := by
    have := congrArg coordinates? h
    simpa only [coordinates?_toGroup, Option.some.injEq] using this
  cases P
  cases Q
  simp_all

/-! ## Field operations on numbers -/

theorem prime_pos : 0 < prime := prime_prime.pos

@[simp] theorem cast_fmul (a b : Nat) : (fmul a b : Coordinate) = a * b := by
  rw [fmul, ZMod.natCast_mod, Nat.cast_mul]

/-- The difference is one of residues as long as nothing is cut off. -/
theorem cast_fsub (a : Nat) {b : Nat} (h : b ≤ prime) : (fsub a b : Coordinate) = a - b := by
  rw [fsub, ZMod.natCast_mod, Nat.cast_add, Nat.cast_sub h, ZMod.natCast_self]
  ring

theorem fmul_lt (a b : Nat) : fmul a b < prime := Nat.mod_lt _ prime_pos

theorem fsub_lt (a b : Nat) : fsub a b < prime := Nat.mod_lt _ prime_pos

@[simp] theorem cast_fsub_fmul (a b c : Nat) :
    (fsub a (fmul b c) : Coordinate) = a - (fmul b c : Coordinate) :=
  cast_fsub a (fmul_lt b c).le

@[simp] theorem cast_fsub_fsub (a b c : Nat) :
    (fsub a (fsub b c) : Coordinate) = a - (fsub b c : Coordinate) :=
  cast_fsub a (fsub_lt b c).le

theorem cast_eq_zero_iff {n : Nat} (h : n < prime) : (n : Coordinate) = 0 ↔ n = 0 := by
  rw [ZMod.natCast_eq_zero_iff]
  exact ⟨fun hd => Nat.eq_zero_of_dvd_of_lt hd h, fun hn => hn ▸ dvd_zero _⟩

/-- **Inverting by a power** is inverting. -/
theorem cast_inverseMod {n m : Nat} (hm : m.Prime) (hbound : m < 2 ^ 256)
    (hn : (n : ZMod m) ≠ 0) : (inverseMod n m : ZMod m) = (n : ZMod m)⁻¹ := by
  have : Fact m.Prime := ⟨hm⟩
  have htwo := hm.two_le
  rw [inverseMod, cast_powerMod (by omega)]
  refine eq_inv_of_mul_eq_one_left ?_
  rw [← pow_succ, show m - 2 + 1 = m - 1 by omega]
  exact ZMod.pow_card_sub_one_eq_one hn

namespace Jacobian

/-! ## What Jacobian coordinates stand for -/

/-- Jacobian coordinates stand for a group element: the neutral one if the
last of them is zero, and otherwise the one with the quotients as coordinates. -/
def Represents (P : Jacobian) (A : curve.Point) : Prop :=
  P.z < prime ∧ ((P.z = 0 ∧ A = 0) ∨
    (P.z ≠ 0 ∧ ∃ h, A = .some ((P.x : Coordinate) / P.z ^ 2) ((P.y : Coordinate) / P.z ^ 3) h))

theorem represents_neutral : neutral.Represents 0 := ⟨prime_pos, .inl ⟨rfl, rfl⟩⟩

theorem represents_ofPair (P : Point) : (ofPair P.toPair).Represents P.toGroup := by
  refine ⟨prime_prime.one_lt, .inr ⟨one_ne_zero, ?_⟩⟩
  exact some_eq_some _ (by simp [ofPair]) (by simp [ofPair])

theorem cast_double_x (P : Jacobian) : (P.double.x : Coordinate) =
    3 * ((P.x - P.z * P.z) * (P.x + P.z * P.z)) * (3 * ((P.x - P.z * P.z) * (P.x + P.z * P.z))) -
      8 * (P.x * (P.y * P.y)) := by
  simp only [Jacobian.double, cast_fsub_fmul, cast_fmul, Nat.cast_add, Nat.cast_ofNat]

theorem cast_double_y (P : Jacobian) : (P.double.y : Coordinate) =
    3 * ((P.x - P.z * P.z) * (P.x + P.z * P.z)) *
      (4 * (P.x * (P.y * P.y)) - (P.double.x : Coordinate)) -
        8 * (P.y * P.y * (P.y * P.y)) := by
  simp only [Jacobian.double, cast_fsub_fmul, cast_fsub_fsub, cast_fmul, Nat.cast_add,
    Nat.cast_ofNat]

theorem cast_double_z (P : Jacobian) : (P.double.z : Coordinate) = 2 * P.y * P.z := by
  simp only [Jacobian.double, cast_fsub_fmul, cast_fmul, Nat.cast_add]
  ring

theorem double_z_lt (P : Jacobian) : P.double.z < prime := fsub_lt _ _

/-- **Doubling stands for doubling.** -/
theorem Represents.double {P : Jacobian} {A : curve.Point} (h : P.Represents A) :
    P.double.Represents (A + A) := by
  obtain ⟨hz, ⟨hz0, rfl⟩ | ⟨hz0, hns, rfl⟩⟩ := h
  · refine ⟨double_z_lt P, .inl ⟨?_, add_zero 0⟩⟩
    rw [← cast_eq_zero_iff (double_z_lt P), cast_double_z, hz0, Nat.cast_zero, mul_zero]
  have hz : (P.z : Coordinate) ≠ 0 := (cast_eq_zero_iff hz).not.2 hz0
  by_cases hy : (P.y : Coordinate) = 0
  · refine ⟨double_z_lt P, .inl ⟨?_, ?_⟩⟩
    · rw [← cast_eq_zero_iff (double_z_lt P), cast_double_z, hy, mul_zero, zero_mul]
    · refine WeierstrassCurve.Affine.Point.add_self_of_Y_eq ?_
      rw [curve, negY_curveOver, hy, zero_div, neg_zero]
  · refine ⟨double_z_lt P, .inr ⟨?_, ?_⟩⟩
    · rw [Ne, ← cast_eq_zero_iff (double_z_lt P), cast_double_z]
      exact mul_ne_zero (mul_ne_zero two_ne_zero_coordinate hy) hz
    · obtain ⟨h', heq⟩ := some_add_self two_ne_zero_coordinate hy hz hns rfl
        (cast_double_x P) (cast_double_z P)
      exact some_eq_some h' rfl (by rw [cast_double_y]) |>.imp fun _ h => heq.trans h

/-- How far two points are apart in the first coordinate, up to a factor. -/
def run (P Q : Jacobian) : Nat :=
  fsub (fmul Q.x (fmul P.z P.z)) (fmul P.x (fmul Q.z Q.z))

/-- How far two points are apart in the second coordinate, up to a factor. -/
def rise (P Q : Jacobian) : Nat :=
  fsub (fmul Q.y (fmul (fmul P.z P.z) P.z)) (fmul P.y (fmul (fmul Q.z Q.z) Q.z))

variable {P Q : Jacobian}

theorem cast_run (P Q : Jacobian) :
    (run P Q : Coordinate) = Q.x * (P.z * P.z) - P.x * (Q.z * Q.z) := by
  simp only [run, cast_fsub_fmul, cast_fmul]

theorem cast_rise (P Q : Jacobian) :
    (rise P Q : Coordinate) = Q.y * (P.z * P.z * P.z) - P.y * (Q.z * Q.z * Q.z) := by
  simp only [rise, cast_fsub_fmul, cast_fmul]

/-- The sum of two points that are not neutral and not above each other. -/
def chord (P Q : Jacobian) : Jacobian :=
  let h := run P Q
  let r := rise P Q
  let v := fmul (fmul P.x (fmul Q.z Q.z)) (fmul h h)
  let cube := fmul (fmul h h) h
  let x := fsub (fsub (fmul r r) cube) (fmul 2 v)
  ⟨x, fsub (fmul r (fsub v x)) (fmul (fmul P.y (fmul (fmul Q.z Q.z) Q.z)) cube),
    fmul h (fmul P.z Q.z)⟩

theorem add_eq (hP : P.z ≠ 0) (hQ : Q.z ≠ 0) :
    P.add Q = if run P Q = 0 then (if rise P Q = 0 then P.double else neutral) else chord P Q := by
  rw [Jacobian.add, if_neg hP, if_neg hQ]
  rfl

theorem cast_chord_x (P Q : Jacobian) : ((chord P Q).x : Coordinate) =
    rise P Q * rise P Q - run P Q * run P Q * run P Q -
      2 * (P.x * (Q.z * Q.z) * (run P Q * run P Q)) := by
  simp only [chord, cast_fsub_fmul, cast_fmul, Nat.cast_ofNat]

theorem cast_chord_y (P Q : Jacobian) : ((chord P Q).y : Coordinate) =
    rise P Q * (P.x * (Q.z * Q.z) * (run P Q * run P Q) - ((chord P Q).x : Coordinate)) -
      P.y * (Q.z * Q.z * Q.z) * (run P Q * run P Q * run P Q) := by
  simp only [chord, cast_fsub_fmul, cast_fsub_fsub, cast_fmul]

theorem cast_chord_z (P Q : Jacobian) :
    ((chord P Q).z : Coordinate) = run P Q * (P.z * Q.z) := by
  simp only [chord, cast_fmul]

/-- What stands for an element and is not neutral has its coordinates. -/
theorem Represents.exists_some {A : curve.Point} (h : P.Represents A) (h0 : P.z ≠ 0) :
    (P.z : Coordinate) ≠ 0 ∧
      ∃ hns, A = .some ((P.x : Coordinate) / P.z ^ 2) ((P.y : Coordinate) / P.z ^ 3) hns := by
  obtain ⟨hz, ⟨hz0, -⟩ | ⟨-, hsome⟩⟩ := h
  · exact absurd hz0 h0
  · exact ⟨(cast_eq_zero_iff hz).not.2 h0, hsome⟩

/-- Two points with the same first coordinate are the same, or opposite ones. -/
theorem Represents.add_of_run_eq_zero {A B : curve.Point} (hP : P.Represents A)
    (hQ : Q.Represents B) (hP0 : P.z ≠ 0) (hQ0 : Q.z ≠ 0) (hrun : run P Q = 0) :
    (if rise P Q = 0 then P.double else neutral).Represents (A + B) := by
  obtain ⟨hz, hPns, rfl⟩ := hP.exists_some hP0
  obtain ⟨hz', hQns, rfl⟩ := hQ.exists_some hQ0
  have hx : (P.x : Coordinate) / P.z ^ 2 = (Q.x : Coordinate) / Q.z ^ 2 := by
    have h0 := cast_run P Q
    rw [hrun, Nat.cast_zero] at h0
    rw [div_eq_div_iff (pow_ne_zero 2 hz) (pow_ne_zero 2 hz')]
    linear_combination h0
  by_cases hrise : rise P Q = 0
  · have hy : (P.y : Coordinate) / P.z ^ 3 = (Q.y : Coordinate) / Q.z ^ 3 := by
      have h0 := cast_rise P Q
      rw [hrise, Nat.cast_zero] at h0
      rw [div_eq_div_iff (pow_ne_zero 3 hz) (pow_ne_zero 3 hz')]
      linear_combination h0
    obtain ⟨_, heq⟩ := some_eq_some hQns hx.symm hy.symm
    rw [if_pos hrise, heq]
    exact hP.double
  · have hy : (P.y : Coordinate) / P.z ^ 3 ≠ (Q.y : Coordinate) / Q.z ^ 3 := by
      rw [Ne, div_eq_div_iff (pow_ne_zero 3 hz) (pow_ne_zero 3 hz')]
      intro heq
      refine hrise ((cast_eq_zero_iff (fsub_lt _ _)).1 ?_)
      change (rise P Q : Coordinate) = 0
      rw [cast_rise]
      linear_combination -heq
    rw [if_neg hrise, WeierstrassCurve.Affine.Point.add_of_Y_eq hx]
    · exact represents_neutral
    · exact (WeierstrassCurve.Affine.Y_eq_of_X_eq hPns.1 hQns.1 hx).resolve_left hy

/-- Two points with different first coordinates are added along the chord. -/
theorem Represents.chord {A B : curve.Point} (hP : P.Represents A) (hQ : Q.Represents B)
    (hP0 : P.z ≠ 0) (hQ0 : Q.z ≠ 0) (hrun : run P Q ≠ 0) :
    (Jacobian.chord P Q).Represents (A + B) := by
  obtain ⟨hz, hPns, rfl⟩ := hP.exists_some hP0
  obtain ⟨hz', hQns, rfl⟩ := hQ.exists_some hQ0
  have hlt : (Jacobian.chord P Q).z < prime := fmul_lt _ _
  have hrun' : (run P Q : Coordinate) ≠ 0 := (cast_eq_zero_iff (fsub_lt _ _)).not.2 hrun
  refine ⟨hlt, .inr ⟨?_, ?_⟩⟩
  · rw [Ne, ← cast_eq_zero_iff hlt, cast_chord_z]
    exact mul_ne_zero hrun' (mul_ne_zero hz hz')
  · obtain ⟨h', heq⟩ := some_add_some hz hz' hPns hQns (cast_run P Q) (cast_rise P Q) hrun'
      (cast_chord_x P Q) (cast_chord_z P Q)
    exact (some_eq_some h' rfl (by rw [cast_chord_y])).imp fun _ h => heq.trans h

/-- **Adding stands for adding.** -/
theorem Represents.add {A B : curve.Point} (hP : P.Represents A) (hQ : Q.Represents B) :
    (P.add Q).Represents (A + B) := by
  -- A neutral point is the other one's sum with it, by the first two branches.
  obtain ⟨-, ⟨hP0, rfl⟩ | ⟨hP0, -⟩⟩ := id hP
  · rw [Jacobian.add, if_pos hP0, zero_add]
    exact hQ
  obtain ⟨-, ⟨hQ0, rfl⟩ | ⟨hQ0, -⟩⟩ := id hQ
  · rw [Jacobian.add, if_neg hP0, if_pos hQ0, add_zero]
    exact hP
  rw [add_eq hP0 hQ0]
  by_cases hrun : run P Q = 0
  · rw [if_pos hrun]
    exact hP.add_of_run_eq_zero hQ hP0 hQ0 hrun
  · rw [if_neg hrun]
    exact hP.chord hQ hP0 hQ0 hrun

/-- **A multiple computed bit by bit** stands for the multiple. -/
theorem Represents.mul {A : curve.Point} {d : Nat} (hd : d < 2 ^ 256) (h : P.Represents A) :
    (mul d P).Represents (d • A) := by
  -- After each bit the accumulator stands for the multiple by the bits so far.
  have hfold := foldl_bits (fun acc k => Represents acc (k • A))
    (fun acc bit => if bit then acc.double.add P else acc.double)
    (fun acc k bit hk => by
      have hdouble := hk.double
      rw [← two_nsmul, smul_smul] at hdouble
      cases bit with
      | false => simpa using hdouble
      | true => simpa [add_smul] using hdouble.add h)
    256 d neutral 0 (by simpa using represents_neutral)
  rw [Nat.zero_mul, Nat.zero_add, Nat.mod_eq_of_lt hd] at hfold
  exact hfold

/-- **Back to coordinates**: dividing gives those of the group element. -/
theorem Represents.toPair? {A : curve.Point} (h : P.Represents A) :
    P.toPair? = coordinates? A := by
  obtain ⟨hz, ⟨hz0, rfl⟩ | ⟨hz0, hns, rfl⟩⟩ := h
  · rw [Jacobian.toPair?, if_pos hz0, coordinates?_zero]
  have hz : (P.z : Coordinate) ≠ 0 := (cast_eq_zero_iff hz).not.2 hz0
  have hinv := cast_inverseMod prime_prime (by decide +kernel) hz
  have hval : ∀ {a b : Nat} {c : Coordinate}, (fmul a b : Coordinate) = c → fmul a b = c.val := by
    intro a b c hc
    rw [← hc, val_coordinate (fmul_lt a b)]
  rw [Jacobian.toPair?, if_neg hz0]
  simp only [coordinates?, Option.some.injEq, Pair.mk.injEq]
  refine ⟨hval ?_, hval ?_⟩
  · simp only [cast_fmul, hinv]
    field_simp
  · simp only [cast_fmul, hinv]
    field_simp

end Jacobian

/-! ## Multiples -/

/-- **A multiple of a point** has the coordinates of the multiple in the group. -/
theorem mul?_eq {d : Nat} (hd : d < 2 ^ 256) (P : Point) :
    mul? d P = coordinates? (d • P.toGroup) :=
  ((Jacobian.represents_ofPair P).mul hd).toPair?

/-- **A sum of two multiples** likewise. -/
theorem combine?_eq {u v : Nat} (hu : u < 2 ^ 256) (hv : v < 2 ^ 256) (P : Point) :
    combine? u v P = coordinates? (u • generator.toGroup + v • P.toGroup) :=
  (((Jacobian.represents_ofPair generator).mul hu).add
    ((Jacobian.represents_ofPair P).mul hv)).toPair?

end P256

end WebPush
