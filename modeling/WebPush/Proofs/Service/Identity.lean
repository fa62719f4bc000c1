import WebPush.Proofs.Service.Credentials
/-!
# Service — what an identity is made of

A contact and a pair of keys are checked when a service is made: first
the contact, then whether the keys belong together, then their curve.
None of this is looked at again. A service that was made can sign for
every audience, and when no request is prepared, its identity is not the
reason.
-/

namespace WebPush

/-- **The keys belong together.** On P-256 the public point is the multiple of the generator by
the private scalar, on any other curve both are halves of one key. -/
inductive KeyPair.BelongTogether : KeyPair → Prop
  | p256 {P : P256.Point} {d : P256.Scalar} : P.toGroup = d.val • P256.generator.toGroup →
      BelongTogether ⟨.p256 P, .p256 d⟩
  | foreign (key : ForeignKey) : BelongTogether ⟨.foreign key, .foreign key⟩

/-- What is compared are the public halves. -/
theorem KeyPair.belongTogether_iff {pair : KeyPair} : pair.BelongTogether ↔ pair.Consistent := by
  constructor
  · rintro (h | key)
    · rw [← P256.toGroup_publicPoint] at h
      exact congrArg PublicKey.p256 (P256.toGroup_injective h).symm
    · rfl
  · intro h
    obtain ⟨publicKey, privateKey⟩ := pair
    cases privateKey with
    | p256 d =>
      cases h
      exact .p256 (P256.toGroup_publicPoint d)
    | foreign key =>
      cases h
      exact .foreign key

/-- The subject is a text that begins like a mail address or like a secure page. -/
def HasContact (subject : Option String) : Prop :=
  ∃ text, subject = some text ∧ text ≠ "" ∧
    ((∃ rest, text.toList = "mailto:".toList ++ rest) ∨
      ∃ rest, text.toList = "https:".toList ++ rest)

namespace Service

variable {s : Service}

/-! ## Making a service -/

/-- **How making a service comes out**: the first of the three checks that fails is reported, and
if none does, the service signs with the private scalar. -/
theorem make_cases (gcmApiKey subject : Option String) (pair : KeyPair) :
    (¬ HasContact subject ∧ (make gcmApiKey subject (some pair) = .error .noSubject ∨
      make gcmApiKey subject (some pair) = .error (.signer .subject))) ∨
    (HasContact subject ∧ ¬ pair.BelongTogether ∧
      make gcmApiKey subject (some pair) = .error (.signer .keyPairMismatch)) ∨
    (HasContact subject ∧ ∃ key, pair = ⟨.foreign key, .foreign key⟩ ∧
      make gcmApiKey subject (some pair) =
        .error (.signer (.key (.foreignPublicKey key.curve)))) ∨
    (HasContact subject ∧ ∃ d, pair = .ofScalar d ∧
      ∃ s, make gcmApiKey subject (some pair) = .ok s) := by
  cases subject with
  | none => exact .inl ⟨fun ⟨_, hnone, _⟩ => (nomatch hnone), .inl rfl⟩
  | some text =>
    by_cases hempty : text = ""
    · subst hempty
      refine .inl ⟨?_, .inl rfl⟩
      rintro ⟨_, ⟨⟩, hne, -⟩
      exact hne rfl
    have htext : text.isEmpty = false := by
      rwa [← Bool.not_eq_true, String.isEmpty_iff]
    by_cases hcontact : Vapid.isContact text = true
    case neg =>
      refine .inl ⟨?_, .inr ?_⟩
      · rintro ⟨_, ⟨⟩, -, hstart⟩
        exact hcontact (Vapid.isContact_iff.2 hstart)
      · simp only [make, htext, Bool.false_eq_true, if_false, Vapid.Signer.ofKeyPair,
          dif_neg hcontact]
    have hhas : HasContact (some text) := ⟨text, rfl, hempty, Vapid.isContact_iff.1 hcontact⟩
    by_cases hpair : pair.Consistent
    case neg =>
      refine .inr (.inl ⟨hhas, mt KeyPair.belongTogether_iff.1 hpair, ?_⟩)
      simp only [make, htext, Bool.false_eq_true, if_false, Vapid.Signer.ofKeyPair,
        dif_pos hcontact, if_neg hpair]
    cases KeyPair.belongTogether_iff.2 hpair with
    | foreign key =>
      refine .inr (.inr (.inl ⟨hhas, key, rfl, ?_⟩))
      simp only [make, htext, Bool.false_eq_true, if_false, Vapid.Signer.ofKeyPair,
        dif_pos hcontact, if_pos hpair]
    | @p256 P d =>
      cases hpair
      exact .inr (.inr (.inr ⟨hhas, d, rfl, _, make_ofScalar gcmApiKey hcontact d⟩))

/-- **The public key that is handed out** is the one that the service was made with. -/
theorem vapidPublicKey_of_make {gcmApiKey subject : Option String} {pair : KeyPair}
    (h : make gcmApiKey subject (some pair) = .ok s) :
    ∃ P, pair.publicKey = .p256 P ∧ s.vapidPublicKey = some (Base64Url.encode P.toBytes) := by
  obtain ⟨-, -, ⟨hnone, -⟩ | ⟨_, contact, signer, ⟨⟩, -, hsigner, hsome⟩⟩ := of_make h
  · cases hnone
  · obtain ⟨-, rfl⟩ := Vapid.ofKeyPair_eq_ok hsigner
    exact ⟨signer.scalar.publicPoint, rfl, by rw [vapidPublicKey, hsome]; rfl⟩

/-- It reads back as the point of that key. -/
theorem exists_vapidPublicKey_of_make {gcmApiKey subject : Option String} {pair : KeyPair}
    (h : make gcmApiKey subject (some pair) = .ok s) :
    ∃ text P, s.vapidPublicKey = some text ∧ Base64Url.decode? text = some P.toBytes ∧
      PublicKey.load (.encoded (.text text)) = .ok P ∧ pair.publicKey = .p256 P := by
  obtain ⟨P, hpoint, htext⟩ := vapidPublicKey_of_make h
  exact ⟨_, P, htext, Base64Url.decode?_encode _, PublicKey.load_text P, hpoint⟩

/-! ## Signing -/

/-- **A signer can always sign**, for every audience that looks like an origin. -/
theorem exists_sign_eq_ok (signer : Vapid.Signer) {audience : String}
    (haudience : Text.occursIn "://".toList audience.toList = true) {now : Seconds}
    (hnow : now.IsReading) (trace : Trace) :
    ∃ token after, signer.sign audience now trace = (.ok token, after) := by
  obtain ⟨seconds, hseconds, hsmall⟩ := hnow.exists_toInt
  exact ⟨_, _, Vapid.sign_eq_ok signer haudience hseconds (Vapid.length_toDigits_le hsmall) trace⟩

/-- **Why no request is prepared**: the API key is missing, the lifetime is too long to be
written, the content cannot be encrypted for the recipient, or the endpoint has no origin. -/
theorem of_prepare_eq_error {n : Notification} {now : Seconds} (hnow : now.IsReading)
    {trace after : Trace} {e : PrepareError} (h : s.prepare n now trace = (.error e, after)) :
    e = .missingCredential ∨ e = .ttlTooLong ∨
      (∃ f between, e = .encrypt f ∧ body n trace = (.error f, between)) ∨
      ∃ f, e = .origin f ∧ n.origin = .error f := by
  obtain hmissing | hlong | hencrypt | horigin | ⟨signer, audience, f, between, -, horigin, hsign⟩ :=
    error_of_prepare h
  · exact .inl hmissing
  · exact .inr (.inl hlong)
  · exact .inr (.inr (.inl hencrypt))
  · exact .inr (.inr (.inr horigin))
  · -- An origin looks like one, so this is where a signer does not fail.
    obtain ⟨token, signed, hsigned⟩ :=
      exists_sign_eq_ok signer (Url.occursIn_of_origin horigin) hnow between
    cases hsigned.symm.trans hsign

/-- **A service that was made can sign.** With a pair of keys it is made if and only if there is a
contact, the keys belong together and are on P-256, and otherwise the first of these that is not
so is reported. It then hands out the public key that it was made with, and for every audience
that looks like an origin signing succeeds. So no request fails for the contact or for a key of
the service. -/
theorem make_signs (gcmApiKey subject : Option String) :
    (∀ pair : KeyPair,
      ((∃ s, make gcmApiKey subject (some pair) = .ok s) ↔
        HasContact subject ∧ pair.BelongTogether ∧ ∃ P, pair.publicKey = .p256 P) ∧
      (¬ HasContact subject → make gcmApiKey subject (some pair) = .error .noSubject ∨
        make gcmApiKey subject (some pair) = .error (.signer .subject)) ∧
      (HasContact subject → ¬ pair.BelongTogether →
        make gcmApiKey subject (some pair) = .error (.signer .keyPairMismatch)) ∧
      (HasContact subject → pair.BelongTogether → ∀ key, pair.publicKey = .foreign key →
        make gcmApiKey subject (some pair) =
          .error (.signer (.key (.foreignPublicKey key.curve))))) ∧
    ∀ keyPair s, make gcmApiKey subject keyPair = .ok s →
      (s.vapidEnabled = true ↔ ∃ pair, keyPair = some pair) ∧
      (∀ pair, keyPair = some pair → ∃ text P, s.vapidPublicKey = some text ∧
        Base64Url.decode? text = some P.toBytes ∧
        PublicKey.load (.encoded (.text text)) = .ok P ∧ pair.publicKey = .p256 P) ∧
      ∀ now : Seconds, now.IsReading → ∀ trace,
        (∀ signer, s.signer = some signer → ∀ audience,
          Text.occursIn "://".toList audience.toList = true →
          ∃ token after, signer.sign audience now trace = (.ok token, after)) ∧
        ∀ n e after, s.prepare n now trace = (.error e, after) →
          e = .missingCredential ∨ e = .ttlTooLong ∨
            (∃ f between, e = .encrypt f ∧ body n trace = (.error f, between)) ∨
            ∃ f, e = .origin f ∧ n.origin = .error f := by
  refine ⟨fun pair => ?_, fun keyPair s h => ⟨?_, ?_, fun now hnow trace => ⟨?_, ?_⟩⟩⟩
  · obtain ⟨hnone, hsubject⟩ | ⟨hhas, hapart, hmismatch⟩ | ⟨hhas, key, rfl, hforeign⟩ |
      ⟨hhas, d, rfl, s, hmade⟩ := make_cases gcmApiKey subject pair
    · refine ⟨iff_of_false ?_ fun h => hnone h.1, fun _ => hsubject, fun h => absurd h hnone,
        fun h => absurd h hnone⟩
      rintro ⟨s, hs⟩
      obtain h | h := hsubject <;> cases h.symm.trans hs
    · exact ⟨iff_of_false (fun ⟨_, hs⟩ => nomatch hmismatch.symm.trans hs) fun h => hapart h.2.1,
        fun h => absurd hhas h, fun _ _ => hmismatch, fun _ h => absurd h hapart⟩
    · have htogether := KeyPair.BelongTogether.foreign key
      refine ⟨iff_of_false (fun ⟨_, hs⟩ => nomatch hforeign.symm.trans hs) ?_,
        fun h => absurd hhas h, fun _ h => absurd htogether h, ?_⟩
      · rintro ⟨-, -, _, ⟨⟩⟩
      · rintro - - _ ⟨⟩
        exact hforeign
    · have htogether : (KeyPair.ofScalar d).BelongTogether :=
        .p256 (P256.toGroup_publicPoint d)
      exact ⟨iff_of_true ⟨s, hmade⟩ ⟨hhas, htogether, _, rfl⟩, fun h => absurd hhas h,
        fun _ h => absurd htogether h, fun _ _ _ h => nomatch h⟩
  · rw [vapidEnabled, isSome_signer_of_make h, Option.isSome_iff_exists]
  · rintro pair rfl
    exact exists_vapidPublicKey_of_make h
  · exact fun signer _ audience haudience => exists_sign_eq_ok signer haudience hnow trace
  · exact fun n e after => of_prepare_eq_error hnow

/-- One identity that is complete, three with one fault each, and one with two of them. -/
theorem make_signs_plain :
    let trace := Trace.start ⟨fun _ => .one, fun _ => .zeros, 0, 0⟩
    let contact := some "mailto:a@b"
    let plain : Service := ⟨none, contact, some .plain⟩
    let abroad : ForeignKey := ⟨.secp384r1, 1⟩
    make none contact (some (.ofScalar .one)) = .ok plain ∧
      (∃ token after, Vapid.Signer.plain.sign "a://b" (.whole 0) trace = (.ok token, after)) ∧
      (∀ after, plain.prepare (silentNotificationTo "a:b") (.whole 0) trace ≠
        (.error (.sign .audience), after)) ∧
      make none contact (some ⟨.foreign abroad, .foreign abroad⟩) =
        .error (.signer (.key (.foreignPublicKey .secp384r1))) ∧
      make none contact (some ⟨.p256 P256.generator, .foreign abroad⟩) =
        .error (.signer .keyPairMismatch) ∧
      ∃ e, make none (some "http:a") (some ⟨.p256 P256.generator, .foreign abroad⟩) = .error e ∧
        (e = .noSubject ∨ e = .signer .subject) := by
  intro trace contact plain abroad
  have hmade : make none contact (some (.ofScalar .one)) = .ok plain := make_plain none
  have hcontact : HasContact contact :=
    ⟨_, rfl, by decide, .inl ⟨"a@b".toList, by decide +kernel⟩⟩
  have hnoContact : ¬ HasContact (some "http:a") := by
    rintro ⟨_, ⟨⟩, -, hstart⟩
    exact absurd (Vapid.isContact_iff.2 hstart) (by decide +kernel)
  have hapart : ¬ KeyPair.BelongTogether ⟨.p256 P256.generator, .foreign abroad⟩ := nofun
  obtain ⟨hpair, hsigns⟩ := make_signs none contact
  obtain ⟨-, -, hnow⟩ := hsigns _ plain hmade
  obtain ⟨hsign, hprepare⟩ := hnow (.whole 0) Seconds.isReading_zero trace
  refine ⟨hmade, hsign .plain rfl "a://b" (by decide +kernel), fun after h => ?_,
    (hpair _).2.2.2 hcontact (.foreign abroad) abroad rfl, (hpair _).2.2.1 hcontact hapart, ?_⟩
  · obtain h | h | ⟨f, _, h, -⟩ | ⟨f, h, -⟩ := hprepare _ _ after h <;> cases h
  · obtain h | h := ((make_signs none (some "http:a")).1 _).2.1 hnoContact
    · exact ⟨_, h, .inl rfl⟩
    · exact ⟨_, h, .inr rfl⟩

end Service

end WebPush
