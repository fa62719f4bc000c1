import Mathlib.NumberTheory.LucasPrimality
import Mathlib.Tactic.NormNum.Prime
import WebPush.Curve.P256
/-!
# P-256 — its two numbers are prime

The field prime and the order of the generator are certified after
Lucas: a base whose powers run through all residues but zero, and the
prime factors of the number before the prime, which are certified in the
same way. `Certified` is decidable, so that the kernel runs the test with
the very exponentiation that inverts field elements.
-/

namespace WebPush

namespace P256

/-! ## Bits, most significant first -/

/-- **One fold over the bits of a number.** A relation between an
accumulator and a number that every bit keeps, doubling the number and
adding the bit, holds in the end of the number that the bits write. -/
theorem foldl_bits {β : Type*} (R : β → Nat → Prop) (step : β → Bool → β)
    (hstep : ∀ acc k bit, R acc k → R (step acc bit) (2 * k + bit.toNat)) (count n : Nat)
    (acc : β) (k : Nat) (h : R acc k) :
    R ((bits count n).foldl step acc) (k * 2 ^ count + n % 2 ^ count) := by
  induction count generalizing acc k with
  | zero => simpa [bits, Nat.mod_one] using h
  | succ count ih =>
    have hk := ih _ _ (hstep acc k (n.testBit count) h)
    have hnumber : (2 * k + (n.testBit count).toNat) * 2 ^ count + n % 2 ^ count =
        k * 2 ^ (count + 1) + n % 2 ^ (count + 1) := by
      rw [Nat.pow_succ, Nat.mod_mul, Nat.toNat_testBit]
      ring
    rw [hnumber] at hk
    exact hk

/-- **The power that squaring and multiplying computes.** -/
theorem powerMod_modEq {base exponent m : Nat} (h : exponent < 2 ^ 256) :
    powerMod base exponent m ≡ base ^ exponent [MOD m] := by
  have hfold := foldl_bits (fun acc k => acc ≡ base ^ k [MOD m])
    (fun acc bit => if bit then acc * acc % m * base % m else acc * acc % m)
    (fun acc k bit hk => by
      have hsquare : acc * acc % m ≡ base ^ (2 * k) [MOD m] := by
        rw [two_mul, pow_add]
        exact (Nat.mod_modEq _ _).trans (hk.mul hk)
      cases bit with
      | false => exact hsquare
      | true => exact (Nat.mod_modEq _ _).trans (hsquare.mul_right base))
    256 exponent 1 0 (by simp [Nat.ModEq.refl])
  rw [Nat.zero_mul, Nat.zero_add, Nat.mod_eq_of_lt h] at hfold
  exact hfold

/-- The same power, as a residue. -/
theorem cast_powerMod {base exponent m : Nat} (h : exponent < 2 ^ 256) :
    (powerMod base exponent m : ZMod m) = (base : ZMod m) ^ exponent := by
  rw [← Nat.cast_pow]
  exact (ZMod.natCast_eq_natCast_iff _ _ _).2 (powerMod_modEq h)

end P256

/-! ## Certificates -/

/-- A number with what shows that it is prime: a base that generates the
residues, and the prime factors of the number before it. -/
structure PrimeCertificate where
  number : Nat
  base : Nat
  factors : List Nat

namespace PrimeCertificate

/-- The conditions of Lucas's test, with all factors among known primes. -/
def Holds (known : List Nat) (c : PrimeCertificate) : Prop :=
  (1 < c.number ∧ c.number < 2 ^ 256) ∧ (∀ q ∈ c.factors, q ∈ known) ∧
    c.factors.prod = c.number - 1 ∧ P256.powerMod c.base (c.number - 1) c.number % c.number = 1 ∧
    ∀ q ∈ c.factors.dedup, P256.powerMod c.base ((c.number - 1) / q) c.number % c.number ≠ 1

instance (known : List Nat) (c : PrimeCertificate) : Decidable (c.Holds known) :=
  inferInstanceAs (Decidable (_ ∧ _))

/-- Every certificate holds of primes known before the first or certified before it. -/
def Certified : (known : List Nat) → List PrimeCertificate → Prop
  | _, [] => True
  | known, c :: rest => c.Holds known ∧ Certified (c.number :: known) rest

instance decidableCertified :
    (known : List Nat) → (cs : List PrimeCertificate) → Decidable (Certified known cs)
  | _, [] => inferInstanceAs (Decidable True)
  | known, c :: rest =>
    have := decidableCertified (c.number :: known) rest
    inferInstanceAs (Decidable (_ ∧ _))

/-- A power computed to be one is one as a residue, and conversely. -/
theorem cast_pow_eq_one_iff {base exponent m : Nat} (hm : 1 < m) (h : exponent < 2 ^ 256) :
    (base : ZMod m) ^ exponent = 1 ↔ P256.powerMod base exponent m % m = 1 := by
  rw [← P256.cast_powerMod h, ← Nat.cast_one, ZMod.natCast_eq_natCast_iff, Nat.ModEq,
    Nat.mod_eq_of_lt hm]

/-- **A number that passes the test is prime.** -/
theorem Holds.prime {known : List Nat} {c : PrimeCertificate}
    (hknown : ∀ q ∈ known, q.Prime) (h : c.Holds known) : c.number.Prime := by
  obtain ⟨⟨hone, hbound⟩, hfactors, hprod, hfull, hpart⟩ := h
  refine lucas_primality c.number (c.base : ZMod c.number) ?_ ?_
  · exact (cast_pow_eq_one_iff hone (by omega)).2 hfull
  · intro q hq hdvd
    rw [← hprod] at hdvd
    obtain ⟨r, hr, hqr⟩ := (Prime.dvd_prod_iff hq.prime).1 hdvd
    have hqr : q = r := (Nat.prime_dvd_prime_iff_eq hq (hknown r (hfactors r hr))).1 hqr
    have hle : (c.number - 1) / q ≤ c.number - 1 := Nat.div_le_self _ _
    rw [Ne, cast_pow_eq_one_iff hone (by omega), hqr]
    exact hpart r (List.mem_dedup.2 hr)

/-- **So is every number that a chain of certificates leads to.** -/
theorem Certified.prime {known : List Nat} {cs : List PrimeCertificate}
    (hknown : ∀ q ∈ known, q.Prime) (h : Certified known cs) : ∀ c ∈ cs, c.number.Prime := by
  induction cs generalizing known with
  | nil => simp
  | cons c rest ih =>
    obtain ⟨hc, hrest⟩ := h
    have hprime : c.number.Prime := hc.prime hknown
    have hmore : ∀ q ∈ c.number :: known, q.Prime := by
      simpa only [List.forall_mem_cons] using ⟨hprime, hknown⟩
    simpa only [List.forall_mem_cons] using ⟨hprime, ih hmore hrest⟩

end PrimeCertificate

namespace P256

/-- The primes below a million that the certificates rest on. -/
def smallPrimes : List Nat :=
  [2, 3, 5, 7, 11, 17, 19, 23, 29, 41, 43, 53, 71, 107, 127, 131, 173, 197, 229, 257, 311, 373,
    641, 1201, 1297, 1531, 2411, 3023, 3407, 3677, 3769, 16879, 17449, 18169, 38189, 65537, 78283,
    104471, 126241, 155317, 490463, 704251]

theorem prime_of_mem_smallPrimes : ∀ q ∈ smallPrimes, q.Prime := by
  norm_num [smallPrimes]

/-- The certificate of the field prime. -/
def primeCertificate : PrimeCertificate :=
  ⟨prime, 6,
    [2, 3, 5, 5, 17, 257, 641, 1531, 65537, 490463, 6700417,
      835945042244614951780389953367877943453916927241]⟩

/-- The certificate of the order. -/
def orderCertificate : PrimeCertificate :=
  ⟨order, 7,
    [2, 2, 2, 2, 3, 71, 131, 373, 3407, 17449, 38189, 187019741, 622491383, 1002328039319,
      2624747550333869278416773953]⟩

/-- Both certificates, behind those of their factors. -/
def certificates : List PrimeCertificate :=
  [⟨6700417, 5, [2, 2, 2, 2, 2, 2, 2, 3, 17449]⟩,
    ⟨204061199, 11, [2, 11, 23, 107, 3769]⟩,
    ⟨34282281433, 17, [2, 2, 2, 3, 7, 204061199]⟩,
    ⟨66417393611, 6, [2, 5, 53, 173, 197, 3677]⟩,
    ⟨11290956913871, 13, [2, 5, 17, 66417393611]⟩,
    ⟨46076956964474543, 5, [2, 23, 18169, 78283, 704251]⟩,
    ⟨774023187263532362759620327192479577272145303, 3,
      [2, 3, 3, 2411, 34282281433, 11290956913871, 46076956964474543]⟩,
    ⟨835945042244614951780389953367877943453916927241, 11,
      [2, 2, 2, 3, 3, 3, 5, 774023187263532362759620327192479577272145303]⟩,
    primeCertificate,
    ⟨9350987, 2, [2, 17, 229, 1201]⟩,
    ⟨187019741, 2, [2, 2, 5, 9350987]⟩,
    ⟨311245691, 2, [2, 5, 7, 17, 29, 29, 311]⟩,
    ⟨622491383, 5, [2, 311245691]⟩,
    ⟨3969899, 2, [2, 19, 104471]⟩,
    ⟨1002328039319, 19, [2, 126241, 3969899]⟩,
    ⟨191039911, 3, [2, 3, 5, 41, 155317]⟩,
    ⟨208150935158385979, 2, [2, 3, 11, 43, 127, 3023, 191039911]⟩,
    ⟨2624747550333869278416773953, 7,
      [2, 2, 2, 2, 2, 2, 3, 3, 1297, 16879, 208150935158385979]⟩,
    orderCertificate]

theorem certified_certificates : PrimeCertificate.Certified smallPrimes certificates := by
  decide +kernel

theorem prime_of_mem_certificates : ∀ c ∈ certificates, c.number.Prime :=
  certified_certificates.prime prime_of_mem_smallPrimes

/-- **The field prime is prime.** -/
theorem prime_prime : Nat.Prime prime :=
  prime_of_mem_certificates primeCertificate (by simp [certificates])

/-- **And so is the order of the generator.** -/
theorem prime_order : Nat.Prime order :=
  prime_of_mem_certificates orderCertificate (by simp [certificates])

end P256

end WebPush
