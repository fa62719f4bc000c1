import WebPush.Curve.Ecdsa
import WebPush.Proofs.Curve.Order
/-!
# ECDSA — a signature verifies

Whatever nonce a signature was made with, the verifier's sum of multiples
is the multiple of the generator by that nonce: both are multiples of
the generator, and their factors agree modulo its order. So a signature
that the search for a nonce has found is one that verification accepts.
And what it accepts are the signatures of the standard (`IsValid`),
whose factors are any that solve its congruences.
-/

namespace WebPush.Ecdsa

open P256

/-- Numbers that agree modulo the order give the same multiple of a point. -/
theorem nsmul_toGroup_eq (P : Point) {a b : Nat} (h : (a : ZMod order) = b) :
    a • P.toGroup = b • P.toGroup := by
  rw [nsmul_eq_nsmul_iff_modEq, addOrderOf_point (toGroup_ne_zero P)]
  exact (ZMod.natCast_eq_natCast_iff _ _ _).1 h

/-- What a signature made with a nonce consists of. -/
theorem signWith?_eq_some {d : Scalar} {z k : Nat} {σ : Signature} (h : signWith? d z k = some σ) :
    ∃ R, mul? k generator = some R ∧ σ.r = R.x % order ∧
      σ.s = inverseMod k order * (z + σ.r * d.val) % order ∧ σ.r ≠ 0 ∧ σ.s ≠ 0 := by
  rw [signWith?, Option.bind_eq_some_iff] at h
  obtain ⟨R, hR, h⟩ := h
  simp only at h
  split at h
  · cases h
  · rename_i hne
    rw [not_or] at hne
    injection h with h
    subst h
    exact ⟨R, hR, rfl, rfl, hne.1, hne.2⟩

/-- The factors that the verifier computes add up to the nonce. -/
theorem factors_eq {k r s z d : Nat} (hk : (k : ZMod order) ≠ 0) (hs0 : (s : ZMod order) ≠ 0)
    (hs : (s : ZMod order) = (inverseMod k order * (z + r * d) : Nat)) :
    ((z * inverseMod s order % order + r * inverseMod s order % order * d : Nat) : ZMod order) =
      k := by
  have : Fact order.Prime := ⟨prime_order⟩
  push_cast [ZMod.natCast_mod, cast_inverseMod prime_order order_lt hk,
    cast_inverseMod prime_order order_lt hs0] at hs ⊢
  -- The signing equation, solved for what signing multiplied by the inverse of the nonce.
  have hks : (k : ZMod order) * s = z + r * d := by
    rw [hs, mul_inv_cancel_left₀ hk]
  field_simp
  linear_combination -hks

/-- **A signature verifies**, whatever nonce it was made with. -/
theorem verify_of_signWith? {d : Scalar} {message : Bytes} {k : Nat} {σ : Signature} (hk : 0 < k)
    (hlt : k < order)
    (h : signWith? d (Bytes.toNat (Sha256.digest message)) k = some σ) :
    verify d.publicPoint message σ = true := by
  obtain ⟨R, hR, hr, hs, hr0, hs0⟩ := signWith?_eq_some h
  have hpos : 0 < order := Nat.lt_trans hk hlt
  have hrlt : σ.r < order := hr ▸ Nat.mod_lt _ hpos
  have hslt : σ.s < order := hs ▸ Nat.mod_lt _ hpos
  have hcast : ∀ {n : Nat}, n ≠ 0 → n < order → (n : ZMod order) ≠ 0 := by
    intro n hn hbound hzero
    exact hn (Nat.eq_zero_of_dvd_of_lt ((ZMod.natCast_eq_zero_iff n order).1 hzero) hbound)
  have hsum := factors_eq (hcast (Nat.ne_of_gt hk) hlt) (hcast hs0 hslt)
    (by rw [hs, ZMod.natCast_mod])
  have hbound : ∀ n, n % order < 2 ^ 256 := fun n => (Nat.mod_lt n hpos).trans order_lt
  have hcombine : combine? (Bytes.toNat (Sha256.digest message) * inverseMod σ.s order % order)
      (σ.r * inverseMod σ.s order % order) d.publicPoint = some R := by
    rw [combine?_eq (hbound _) (hbound _), toGroup_publicPoint, smul_smul, ← add_smul,
      nsmul_toGroup_eq generator hsum, ← mul?_eq (hlt.trans order_lt), hR]
  rw [verify, if_pos ⟨Nat.pos_of_ne_zero hr0, hrlt, Nat.pos_of_ne_zero hs0, hslt⟩]
  simp only [hcombine, ← hr, decide_true]

/-- What the search finds was made with a nonce in range. -/
theorem exists_of_search? {d : Scalar} {z attempts : Nat} {state : NonceState} {σ : Signature}
    (h : search? d z attempts state = some σ) :
    ∃ k, 0 < k ∧ k < order ∧ signWith? d z k = some σ := by
  induction attempts generalizing state with
  | zero => cases h
  | succ attempts ih =>
    rw [search?] at h
    split at h
    · rename_i σ' hfound
      injection h with h
      subst h
      split at hfound
      · rename_i hrange
        exact ⟨_, hrange.1, hrange.2, hfound⟩
      · cases hfound
    · exact ih h

/-- **Verification accepts what signing makes**, if the search for a nonce ends in time. -/
theorem verify_sign (d : Scalar) (message : Bytes)
    (h : (search? d (Bytes.toNat (Sha256.digest message)) maxAttempts
      (.initial d (Bytes.toNat (Sha256.digest message)))).isSome = true) :
    verify d.publicPoint message (sign d message) = true := by
  obtain ⟨σ, hσ⟩ := Option.isSome_iff_exists.1 h
  obtain ⟨k, hpos, hlt, hk⟩ := exists_of_search? hσ
  have hsign : sign d message = σ := by
    simp only [sign, hσ, Option.getD_some]
  rw [hsign]
  exact verify_of_signWith? hpos hlt hk

/-! ## What verification decides -/

/-- A signature of a message that is valid for a public point. Both halves are in
range. With factors that turn the second half into the digest and into the first
half, the generator and the point add up to a point whose first coordinate is the
first half, all of it modulo the order. -/
def IsValid (P : Point) (message : Bytes) (σ : Signature) : Prop :=
  (0 < σ.r ∧ σ.r < order ∧ 0 < σ.s ∧ σ.s < order) ∧
    ∃ (u v : Nat) (R : Pair), σ.s * u ≡ Bytes.toNat (Sha256.digest message) [MOD order] ∧
      σ.s * v ≡ σ.r [MOD order] ∧
      coordinates? (u • generator.toGroup + v • P.toGroup) = some R ∧ R.x % order = σ.r

/-- **The factors of the verifier** are the only ones, modulo the order. -/
theorem mul_modEq_iff {s u n : Nat} (hpos : 0 < s) (hlt : s < order) :
    s * u ≡ n [MOD order] ↔ (u : ZMod order) = (n * inverseMod s order % order : Nat) := by
  have : Fact order.Prime := ⟨prime_order⟩
  have hs : (s : ZMod order) ≠ 0 := fun hzero =>
    absurd (Nat.le_of_dvd hpos ((ZMod.natCast_eq_zero_iff s order).1 hzero)) (Nat.not_le.2 hlt)
  rw [← ZMod.natCast_eq_natCast_iff, ZMod.natCast_mod, Nat.cast_mul, Nat.cast_mul,
    cast_inverseMod prime_order order_lt hs, eq_mul_inv_iff_mul_eq₀ hs, mul_comm]

/-- **Verification decides validity.** -/
theorem verify_eq_true_iff {P : Point} {message : Bytes} {σ : Signature} :
    verify P message σ = true ↔ IsValid P message σ := by
  by_cases hrange : 0 < σ.r ∧ σ.r < order ∧ 0 < σ.s ∧ σ.s < order
  · have hpos := hrange.2.2.1
    have hlt := hrange.2.2.2
    have hbound : ∀ n, n % order < 2 ^ 256 := fun n =>
      (Nat.mod_lt n (Nat.lt_trans hpos hlt)).trans order_lt
    rw [verify, if_pos hrange]
    simp only [combine?_eq (hbound _) (hbound _)]
    constructor
    · intro h
      split at h
      · cases h
      · rename_i R hR
        exact ⟨hrange, _, _, R, (mul_modEq_iff hpos hlt).2 rfl, (mul_modEq_iff hpos hlt).2 rfl, hR,
          of_decide_eq_true h⟩
    · rintro ⟨-, u, v, R, hu, hv, hR, hx⟩
      -- Factors that solve the congruences give the same multiples as the verifier's.
      rw [nsmul_toGroup_eq generator ((mul_modEq_iff hpos hlt).1 hu),
        nsmul_toGroup_eq P ((mul_modEq_iff hpos hlt).1 hv)] at hR
      simp only [hR, hx, decide_true]
  · rw [verify, if_neg hrange, IsValid]
    exact iff_of_false Bool.false_ne_true fun h => hrange h.1

end WebPush.Ecdsa
