import WebPush.Proofs.Curve.Order
import WebPush.Proofs.Key.Codec
/-!
# Keys — exactly what loads

The octets that load as a public key are those that write a point of the
curve, and the octets that load as a private key those that write a
scalar between nothing and the order of the curve. Saving gives back
the octets that were loaded, so a key has one octet string and an octet
string at most one key. A text loads as the octets that it decodes to.
-/

namespace WebPush

/-- A result that is a refusal, either of a key in the wrong form or of one in the right form that
nobody can encrypt for. -/
def IsRefused {α : Type} (unusable : Bool) (result : Except KeyError α) : Prop :=
  ∃ e, result = .error e ∧ e.isUnusableRecipient = unusable

namespace P256

/-- **Octets that write a point**: a four, and two coordinates of thirty-two octets each, which are
below the field prime and satisfy `y² = x³ - 3x + b` modulo the prime. -/
def WritesPoint (bs : Bytes) : Prop :=
  ∃ xs ys : Bytes, bs = 0x04 :: (xs ++ ys) ∧ xs.length = 32 ∧ ys.length = 32 ∧
    Bytes.toNat xs < prime ∧ Bytes.toNat ys < prime ∧
      (Bytes.toNat ys : Int) ^ 2 ≡
        (Bytes.toNat xs : Int) ^ 3 - 3 * Bytes.toNat xs + constantTerm [ZMOD prime]

/-- **Octets that write a scalar**: thirty-two of them, for a number that is at least one and below
the order. -/
def WritesScalar (bs : Bytes) : Prop :=
  bs.length = 32 ∧ 1 ≤ Bytes.toNat bs ∧ Bytes.toNat bs ≤ order - 1

instance (bs : Bytes) : Decidable (WritesScalar bs) := inferInstanceAs (Decidable (_ ∧ _))

/-- The coordinates that octets write are read off their two halves. -/
theorem Pair.ofBytes_halves {xs : Bytes} (hlength : xs.length = 32) (ys : Bytes) :
    Pair.ofBytes (0x04 :: (xs ++ ys)) = ⟨Bytes.toNat xs, Bytes.toNat ys⟩ := by
  have hwidth : xs.length = width := hlength
  have hdrop : (0x04 :: (xs ++ ys)).drop (1 + width) = ys := by
    rw [Nat.add_comm, List.drop_succ_cons, List.drop_left' hwidth]
  rw [Pair.ofBytes, hdrop, List.drop_succ_cons, List.drop_zero, List.take_left' hwidth]

/-- The curve equation over the residues is the one over the integers modulo the prime. -/
theorem onCurve_iff_modEq {P : Pair} : P.OnCurve ↔ P.x < prime ∧ P.y < prime ∧
    (P.y : Int) ^ 2 ≡ (P.x : Int) ^ 3 - 3 * P.x + constantTerm [ZMOD prime] := by
  rw [onCurve_iff, ← ZMod.intCast_eq_intCast_iff]
  push_cast
  rfl

/-- Octets of the right form write a point if the pair that is read off them is one. -/
theorem writesPoint_iff {bs : Bytes} : WritesPoint bs ↔
    bs.length = 65 ∧ bs.head? = some 0x04 ∧ (Pair.ofBytes bs).OnCurve := by
  constructor
  · rintro ⟨xs, ys, rfl, hxs, hys, hcurve⟩
    refine ⟨by simp [hxs, hys], rfl, ?_⟩
    rw [Pair.ofBytes_halves hxs]
    exact onCurve_iff_modEq.2 hcurve
  · rintro ⟨hlength, hhead, hcurve⟩
    obtain ⟨rest, rfl⟩ := List.head?_eq_some_iff.1 hhead
    have hrest : rest.length = 64 := by simpa using hlength
    have hxs : (rest.take 32).length = 32 := List.length_take_of_le (by omega)
    have hys : (rest.drop 32).length = 32 := by
      rw [List.length_drop, hrest]
    rw [← List.take_append_drop 32 rest, Pair.ofBytes_halves hxs] at hcurve
    exact ⟨rest.take 32, rest.drop 32, by rw [List.take_append_drop], hxs, hys,
      onCurve_iff_modEq.1 hcurve⟩

end P256

/-! ## Texts -/

/-- A text loads as the octets that it decodes to. -/
theorem Encoded.toBytes_text {text : String} {bs : Bytes} (h : Base64Url.decode? text = some bs) :
    Encoded.toBytes (.text text) = Encoded.toBytes (.raw bs) := by
  simp only [toBytes, h]

theorem Encoded.toBytes_text_none {text : String} (h : Base64Url.decode? text = none) :
    Encoded.toBytes (.text text) = .error .notBase64Url := by
  rw [toBytes, h]

/-! ## Public keys -/

namespace PublicKey

variable {bs : Bytes} {P : P256.Point}

/-- **The octets that load are those that write a point.** -/
theorem exists_ofBytes_eq_ok_iff : (∃ P, ofBytes bs = .ok P) ↔ P256.WritesPoint bs := by
  rw [P256.writesPoint_iff]
  constructor
  · rintro ⟨P, h⟩
    rw [ofBytes_eq_ok_iff.1 h, P256.Pair.ofBytes_toBytes P.onCurve]
    exact ⟨P256.Pair.length_toBytes _, rfl, P.onCurve⟩
  · rintro ⟨hlength, hhead, hcurve⟩
    exact ⟨⟨_, hcurve⟩, by
      rw [ofBytes, if_neg (not_not.2 hlength), if_neg (not_not.2 hhead), P256.Point.ofPair?,
        dif_pos hcurve]⟩

/-- Octets of the wrong length or with the wrong first octet are in the wrong form. -/
theorem isRefused_ofBytes_of_form (h : bs.length ≠ 65 ∨ bs.head? ≠ some 0x04) :
    IsRefused false (ofBytes bs) := by
  rw [ofBytes]
  split
  · exact ⟨_, rfl, rfl⟩
  rename_i hlength
  rw [if_pos (h.resolve_left hlength)]
  exact ⟨_, rfl, rfl⟩

/-- Octets in the right form that write no point are refused as a key that nobody can encrypt
for. -/
theorem isRefused_ofBytes_of_point (hlength : bs.length = 65) (hhead : bs.head? = some 0x04)
    (hpoint : ¬ P256.WritesPoint bs) : IsRefused true (ofBytes bs) := by
  have hcurve : ¬ (P256.Pair.ofBytes bs).OnCurve := fun hcurve =>
    hpoint (P256.writesPoint_iff.2 ⟨hlength, hhead, hcurve⟩)
  rw [ofBytes, if_neg (not_not.2 hlength), if_neg (not_not.2 hhead), P256.Point.ofPair?,
    dif_neg hcurve]
  exact ⟨_, rfl, rfl⟩

/-- **Public keys and the octets that write points determine each other.** Octets load just when
they write a point, and saving gives them back, so no others load as the same key; otherwise they
are refused, for their form or else for their point. Every key loads from its octets and from the
text of these. A text loads as the octets that it decodes to, and is refused for its form if it
decodes to none. A key on another curve is refused in loading and in saving. -/
theorem loads_exactly_points :
    (∀ bs,
      ((∃ P, load (.encoded (.raw bs)) = .ok P) ↔ P256.WritesPoint bs) ∧
      (∀ P, load (.encoded (.raw bs)) = .ok P → save (.p256 P) = .ok bs ∧
        ∀ others, load (.encoded (.raw others)) = .ok P → others = bs) ∧
      (bs.length ≠ 65 ∨ bs.head? ≠ some 0x04 → IsRefused false (load (.encoded (.raw bs)))) ∧
      (bs.length = 65 → bs.head? = some 0x04 → ¬ P256.WritesPoint bs →
        IsRefused true (load (.encoded (.raw bs))))) ∧
    (∀ P, ∃ bs, save (.p256 P) = .ok bs ∧ load (.encoded (.raw bs)) = .ok P ∧
      load (.encoded (.text (Base64Url.encode bs))) = .ok P) ∧
    (∀ text,
      (∀ bs, Base64Url.decode? text = some bs →
        load (.encoded (.text text)) = load (.encoded (.raw bs))) ∧
      (Base64Url.decode? text = none → IsRefused false (load (.encoded (.text text))))) ∧
    ∀ key : ForeignKey, IsRefused true (load (.key (.foreign key))) ∧
      IsRefused true (save (.foreign key)) := by
  have hraw : ∀ bs, load (.encoded (.raw bs)) = ofBytes bs := fun _ => rfl
  simp only [hraw, ofBytes_eq_ok_iff]
  refine ⟨fun bs => ⟨?_, ?_, isRefused_ofBytes_of_form, isRefused_ofBytes_of_point⟩,
    fun P => ⟨P.toBytes, rfl, rfl, load_text P⟩,
    fun text => ⟨fun bs hdecode => ?_, fun hdecode => ?_⟩,
    fun key => ⟨⟨_, rfl, rfl⟩, ⟨_, rfl, rfl⟩⟩⟩
  · rw [← exists_ofBytes_eq_ok_iff]
    simp only [ofBytes_eq_ok_iff]
  · rintro P rfl
    exact ⟨rfl, fun others hothers => hothers⟩
  · rw [load, Encoded.toBytes_text hdecode]
    rfl
  · rw [load, Encoded.toBytes_text_none hdecode]
    exact ⟨_, rfl, rfl⟩

/-- The point with the least first coordinate, whose octets are zeros for half of their length; the
same with that coordinate written as the prime; a compressed form; a point off the curve; and key
texts with padding and with a blank inside. -/
theorem loads_exactly_points_limits :
    let zeros : Bytes := List.replicate 32 0
    let second : Bytes :=
      Bytes.ofNat 32 0x66485C780E2F83D72433BD5D84A06BB6541C2AF31DAE871728BF856A174F93F4
    let bs : Bytes := 0x04 :: (zeros ++ second)
    (∃ P, load (.encoded (.raw bs)) = .ok P ∧ save (.p256 P) = .ok bs ∧ P.x = 0 ∧
      load (.encoded (.text (Base64Url.encode bs ++ "="))) = .ok P) ∧
    IsRefused true (load (.encoded (.raw (0x04 :: (Bytes.ofNat 32 P256.prime ++ second))))) ∧
    IsRefused true (load (.encoded (.raw (0x04 :: (zeros ++ zeros))))) ∧
    IsRefused false (load (.encoded (.raw (0x03 :: (zeros ++ second))))) ∧
    IsRefused false (load (.encoded (.raw (bs ++ [0])))) ∧
    IsRefused false (load (.encoded (.text "BA AA"))) := by
  intro zeros second bs
  obtain ⟨hbytes, -, htext, -⟩ := loads_exactly_points
  have hpoint : P256.WritesPoint bs := P256.writesPoint_iff.2 (by decide +kernel)
  obtain ⟨P, hP⟩ := (hbytes bs).1.2 hpoint
  have hdecode : Base64Url.decode? (Base64Url.encode bs ++ "=") = some bs := by decide +kernel
  refine ⟨⟨P, hP, ((hbytes bs).2.1 P hP).1, ?_, by rw [(htext _).1 bs hdecode, hP]⟩, ?_, ?_, ?_, ?_,
    ?_⟩
  · have hpair : P256.Pair.ofBytes bs = P.toPair := by
      rw [load_raw_eq_ok_iff.1 hP, P256.Pair.ofBytes_toBytes P.onCurve]
    rw [← hpair]
    decide +kernel
  · exact (hbytes _).2.2.2 (by decide +kernel) rfl
      fun h => absurd (P256.writesPoint_iff.1 h).2.2 (by decide +kernel)
  · exact (hbytes _).2.2.2 (by decide +kernel) rfl
      fun h => absurd (P256.writesPoint_iff.1 h).2.2 (by decide +kernel)
  · exact (hbytes _).2.2.1 (.inr (by decide +kernel))
  · exact (hbytes _).2.2.1 (.inl (by decide +kernel))
  · exact (htext _).2 (by decide +kernel)

end PublicKey

/-! ## Private keys and pairs -/

namespace PrivateKey

variable {bs : Bytes} {d : P256.Scalar}

/-- **The octets that load are those that write a scalar**; all others are in the wrong form. -/
theorem exists_ofBytes_eq_ok_iff : (∃ d, ofBytes bs = .ok d) ↔ P256.WritesScalar bs := by
  have hbound : 0 < P256.order := by decide +kernel
  constructor
  · rintro ⟨d, h⟩
    obtain ⟨d', hok, hbytes, hval⟩ | ⟨herror, -⟩ | ⟨herror, -⟩ := ofBytes_cases bs
    · have hlength : bs.length = 32 := by rw [hbytes, P256.Scalar.length_toBytes]
      have hpos := d'.pos
      have hlt := d'.lt_order
      exact ⟨hlength, by omega, by omega⟩
    all_goals
      rw [h] at herror
      cases herror
  · rintro ⟨hlength, hpos, hle⟩
    obtain ⟨d, hok, -⟩ | ⟨-, hfault⟩ | ⟨-, hfault⟩ := ofBytes_cases bs
    · exact ⟨d, hok⟩
    · exact absurd hlength hfault
    · exact absurd ⟨hpos, by omega⟩ hfault

theorem isRefused_ofBytes (h : ¬ P256.WritesScalar bs) : IsRefused false (ofBytes bs) := by
  obtain ⟨d, hok, -⟩ | ⟨herror, -⟩ | ⟨herror, -⟩ := ofBytes_cases bs
  · exact absurd (exists_ofBytes_eq_ok_iff.1 ⟨d, hok⟩) h
  · exact ⟨_, herror, rfl⟩
  · exact ⟨_, herror, rfl⟩

/-- **Private keys and the octets that write scalars determine each other**, for the order that the
curve has as a group. Octets load just when they write a scalar, the scalar is the number that they
write, and saving gives them back; otherwise they are refused for their form. Every key loads from
its octets. A text loads as the octets that it decodes to, and is refused for its form if it decodes
to none. Both halves of a pair that is drawn, saved and written as texts, load as that pair, which
is consistent: its point is the multiple of the generator by its scalar. -/
theorem loads_exactly_scalars :
    Nat.card P256.curve.Point = P256.order ∧
    (∀ bs,
      ((∃ d, load (.encoded (.raw bs)) = .ok d) ↔ P256.WritesScalar bs) ∧
      (¬ P256.WritesScalar bs → IsRefused false (load (.encoded (.raw bs)))) ∧
      ∀ d, load (.encoded (.raw bs)) = .ok d → d.val = Bytes.toNat bs ∧ save (.p256 d) = .ok bs) ∧
    (∀ d, ∃ bs, save (.p256 d) = .ok bs ∧ bs.length = 32 ∧ load (.encoded (.raw bs)) = .ok d) ∧
    (∀ text,
      (∀ bs, Base64Url.decode? text = some bs →
        load (.encoded (.text text)) = load (.encoded (.raw bs))) ∧
      (Base64Url.decode? text = none → IsRefused false (load (.encoded (.text text))))) ∧
    ∀ e : Entropy, ∃ P d publicBytes privateBytes,
      (KeyPair.generate e).1 = ⟨.p256 P, .p256 d⟩ ∧ d = e.drawScalar.1 ∧
      PublicKey.save (.p256 P) = .ok publicBytes ∧ save (.p256 d) = .ok privateBytes ∧
      KeyPair.load (.text (Base64Url.encode publicBytes)) (.text (Base64Url.encode privateBytes)) =
        .ok (KeyPair.generate e).1 ∧
      (KeyPair.generate e).1.Consistent ∧ P.toGroup = d.val • P256.generator.toGroup := by
  refine ⟨P256.card_point, fun bs => ⟨exists_ofBytes_eq_ok_iff, isRefused_ofBytes, fun d hd => ?_⟩,
    fun d => ⟨d.toBytes, rfl, P256.Scalar.length_toBytes d, load_raw d⟩,
    fun text => ⟨fun bs hdecode => ?_, fun hdecode => ?_⟩, fun e => ?_⟩
  · obtain ⟨d', hok, hbytes, hval⟩ | ⟨herror, -⟩ | ⟨herror, -⟩ := ofBytes_cases bs
    · cases hd.symm.trans hok
      exact ⟨hval, congrArg Except.ok hbytes.symm⟩
    · cases hd.symm.trans herror
    · cases hd.symm.trans herror
  · rw [load, Encoded.toBytes_text hdecode]
    rfl
  · rw [load, Encoded.toBytes_text_none hdecode]
    exact ⟨_, rfl, rfl⟩
  · refine ⟨e.drawScalar.1.publicPoint, e.drawScalar.1, _, _, rfl, rfl, rfl, rfl, ?_, rfl,
      P256.toGroup_publicPoint _⟩
    rw [KeyPair.load, PublicKey.load_text, load_text]
    rfl

/-- Both ends of the range, of which the lower keeps its leading zeros and loads from a padded text;
the order and the greatest number of thirty-two octets; zero; octets that are one too few; and a
text of a length that no octets have. -/
theorem loads_exactly_scalars_limits :
    let least : Bytes := List.replicate 31 0 ++ [1]
    (∃ d, load (.encoded (.raw least)) = .ok d ∧ d.val = 1 ∧ save (.p256 d) = .ok least ∧
      load (.encoded (.text (Base64Url.encode least ++ "="))) = .ok d) ∧
    (∃ d, load (.encoded (.raw (Bytes.ofNat 32 (P256.order - 1)))) = .ok d ∧
      d.val = P256.order - 1) ∧
    IsRefused false (load (.encoded (.raw (Bytes.ofNat 32 P256.order)))) ∧
    IsRefused false (load (.encoded (.raw (List.replicate 32 0xFF)))) ∧
    IsRefused false (load (.encoded (.raw (List.replicate 32 0)))) ∧
    IsRefused false (load (.encoded (.raw (least.drop 1)))) ∧
    IsRefused false (load (.encoded (.text "AAAAA"))) := by
  intro least
  obtain ⟨-, hbytes, -, htext, -⟩ := loads_exactly_scalars
  have hdecode : Base64Url.decode? (Base64Url.encode least ++ "=") = some least := by decide +kernel
  obtain ⟨d, hd⟩ := (hbytes least).1.2 (by decide +kernel)
  obtain ⟨d', hd'⟩ := (hbytes (Bytes.ofNat 32 (P256.order - 1))).1.2 (by decide +kernel)
  refine ⟨⟨d, hd, ?_, ((hbytes _).2.2 d hd).2, ?_⟩, ⟨d', hd', ?_⟩, ?_, ?_, ?_, ?_, ?_⟩
  · rw [((hbytes _).2.2 d hd).1]
    decide +kernel
  · rw [(htext _).1 least hdecode, hd]
  · rw [((hbytes _).2.2 d' hd').1]
    decide +kernel
  · exact (hbytes _).2.1 (by decide +kernel)
  · exact (hbytes _).2.1 (by decide +kernel)
  · exact (hbytes _).2.1 (by decide +kernel)
  · exact (hbytes _).2.1 (by decide +kernel)
  · exact (htext _).2 (by decide +kernel)

end PrivateKey

end WebPush
