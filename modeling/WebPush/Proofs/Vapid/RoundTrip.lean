import WebPush.Proofs.Json.Objects
import WebPush.Proofs.Key.Codec
import WebPush.Proofs.Vapid.Authentication
import WebPush.Vapid.Signer
/-!
# VAPID — signed tokens verify

The verifier takes a signer's token apart into the texts that the signer
put together: the header with its algorithm, the claims, and a signature
of fixed width. So a token whose signature is accepted verifies, at any
time, to the claims that were signed and no others.
-/

namespace WebPush

namespace Vapid

/-! ## The header and the claims -/

/-- The members of the header. -/
def headerMembers : Json.Members := [("alg", .string "ES256"), ("typ", .string "JWT")]

/-- The members of the claims. -/
def claimsMembers (audience : String) (expiry : Int) (subject : String) : Json.Members :=
  [("aud", .string audience), ("exp", .int expiry), ("sub", .string subject)]

/-- The header is read back. -/
theorem readBytes_headerText (depth : Json.Depth) :
    Json.readBytes depth (Utf8.encodeChars headerText) = .ok (.object headerMembers) := by
  have htexts : Json.AreTextsOf
      [("alg", Json.printString "ES256"), ("typ", Json.printString "JWT")] headerMembers :=
    .cons _ (Json.isTextOf_printString _) (.cons _ (Json.isTextOf_printString _) .nil)
  rw [headerText, htexts.readBytes_printObject depth (by simp [Json.isAscii_printString]),
    Json.Members.ofList_of_nodup (by decide)]

/-- **The claims are read back**, character for character. -/
theorem readBytes_claimsText (depth : Json.Depth) {expiry : Int}
    (h : (Nat.toDigits 10 expiry.natAbs).length ≤ Number.maxDigits) (audience subject : String) :
    Json.readBytes depth (Utf8.encodeChars (claimsText audience expiry subject)) =
      .ok (.object (claimsMembers audience expiry subject)) := by
  have htexts : Json.AreTextsOf
      [("aud", Json.printString audience), ("exp", Json.printInt expiry),
        ("sub", Json.printString subject)] (claimsMembers audience expiry subject) :=
    .cons _ (Json.isTextOf_printString _) (.cons _ (Json.isTextOf_printInt h)
      (.cons _ (Json.isTextOf_printString _) .nil))
  rw [claimsText, htexts.readBytes_printObject depth
      (by simp [Json.isAscii_printString, Json.isAscii_printInt]),
    Json.Members.ofList_of_nodup (by simp [claimsMembers])]

/-! ## Verifying -/

theorem isPlain_headerMembers : IsPlain headerMembers := ⟨rfl, rfl, rfl, rfl⟩

/-- The claims of a signer are none that a clock could object to. -/
theorem checkClaims_claimsMembers (audience : String) (expiry : Int) (subject : String)
    (clock : Seconds) : checkClaims (claimsMembers audience expiry subject) clock = .ok () := rfl

/-- **A signer's token verifies** to what was signed, if its signature does. -/
theorem verifyText_tokenFor (depth : Json.Depth) (s : Signer) (audience : String) {expiry : Int}
    (hdigits : (Nat.toDigits 10 expiry.natAbs).length ≤ Number.maxDigits)
    (haccepted : Ecdsa.verify s.scalar.publicPoint
      (Utf8.encodeChars (signingInput audience expiry s.subject))
      (Ecdsa.sign s.scalar (Utf8.encodeChars (signingInput audience expiry s.subject))) = true)
    (clock : Seconds) :
    verifyText depth (s.tokenFor audience expiry).text.toList s.scalar.publicPoint clock =
      .ok (claimsMembers audience expiry s.subject) := by
  have hauthentic := authenticate_compact (readBytes_headerText depth) isPlain_headerMembers haccepted
  rw [verifyText_eq]
  change authenticate depth (compact _ _ _).toList _ >>= _ = _
  rw [hauthentic]
  change judge depth _ clock = _
  rw [judge_eq (readBytes_claimsText depth hdigits audience s.subject),
    checkClaims_claimsMembers audience expiry s.subject clock]
  rfl

/-! ## Signing -/

/-- **The text of a token** is three segments in base64url. -/
theorem isCompact_tokenFor (s : Signer) (audience : String) (expiry : Int) :
    IsCompact (s.tokenFor audience expiry).text := by
  have hsignature (σ : Ecdsa.Signature) : σ.toBytes ≠ [] :=
    List.ne_nil_of_length_pos (by rw [σ.length_toBytes]; decide)
  refine ⟨segment headerText, segment (claimsText audience expiry s.subject), _,
    String.toList_ofList, ?_, _, decodeSegment?_encodeChars _, Ecdsa.Signature.length_toBytes _⟩
  simp only [List.forall_mem_cons]
  refine ⟨isUrlSafe_encodeChars ?_, isUrlSafe_encodeChars ?_, isUrlSafe_encodeChars (hsignature _),
    by simp⟩
  · exact Text.encodeChars_ne_nil (List.cons_ne_nil _ _)
  · exact Text.encodeChars_ne_nil (List.cons_ne_nil _ _)

/-- The key beside it is written in the same characters. -/
theorem Signer.isUrlSafe_publicKeyText (s : Signer) : Text.IsUrlSafe s.publicKeyText.toList := by
  rw [publicKeyText, Base64Url.encode, String.toList_ofList]
  refine isUrlSafe_encodeChars (List.ne_nil_of_length_pos ?_)
  rw [P256.Pair.length_toBytes]
  decide

/-- Signing succeeds for an origin and a time whose digits can be written. -/
theorem sign_eq_ok (s : Signer) {audience : String}
    (haudience : Text.occursIn "://".toList audience.toList = true) {now : Seconds} {seconds : Int}
    (hnow : now.toInt = .ok seconds)
    (hdigits : (Nat.toDigits 10 (seconds + lifetime).natAbs).length ≤ Number.maxDigits)
    (trace : Trace) :
    s.sign audience now trace = (.ok (s.tokenFor audience (seconds + lifetime)),
      trace.note (Signer.signedRecord audience (seconds + lifetime))) := by
  have hlength : ¬ Number.maxDigits < Double.decimalLength (seconds + lifetime).natAbs := by
    rw [Double.decimalLength]
    split
    · exact Nat.not_lt_zero _
    · exact Nat.not_lt.2 hdigits
  simp only [Signer.sign, haudience, hnow, if_neg hlength, Bool.not_true, Bool.false_eq_true,
    if_false]

/-- **A token that was signed** names an origin and an expiry that can be written. -/
theorem of_sign {s : Signer} {audience : String} {now : Seconds} {trace after : Trace} {token : Token}
    (h : s.sign audience now trace = (.ok token, after)) :
    ∃ seconds, now.toInt = .ok seconds ∧ token = s.tokenFor audience (seconds + lifetime) ∧
      (Nat.toDigits 10 (seconds + lifetime).natAbs).length ≤ Number.maxDigits := by
  rw [Signer.sign] at h
  split at h
  · cases h
  split at h
  · cases h
  rename_i seconds hseconds
  simp only at h
  split at h
  · cases h
  · rename_i hlength
    injection h with htoken
    injection htoken with htoken
    refine ⟨seconds, hseconds, htoken.symm, ?_⟩
    rw [Double.decimalLength] at hlength
    split at hlength
    · rename_i hzero
      rw [hzero]
      decide
    · exact Nat.not_lt.1 hlength

/-- A contact begins like a mail address or like a secure page. -/
theorem isContact_iff {subject : String} : isContact subject = true ↔
    (∃ rest, subject.toList = "mailto:".toList ++ rest) ∨
      ∃ rest, subject.toList = "https:".toList ++ rest := by
  rw [isContact, Bool.or_eq_true, Text.startsWith_eq_true_iff, Text.startsWith_eq_true_iff]

theorem isEmpty_of_isContact {subject : String} (h : isContact subject = true) :
    subject.isEmpty = false := by
  rw [← Bool.not_eq_true, String.isEmpty_iff]
  rintro rfl
  exact absurd h (by decide +kernel)

/-- The pair of a private scalar makes a signer with every contact. -/
theorem ofKeyPair_ofScalar (d : P256.Scalar) {subject : String} (h : isContact subject = true) :
    Signer.ofKeyPair (.ofScalar d) subject = .ok ⟨subject, d, h⟩ := by
  rw [Signer.ofKeyPair, dif_pos h, if_pos (KeyPair.consistent_ofScalar d)]
  rfl

/-- What an accepted pair of keys makes of a signer. -/
theorem ofKeyPair_eq_ok {pair : KeyPair} {subject : String} {s : Signer}
    (h : Signer.ofKeyPair pair subject = .ok s) :
    s.subject = subject ∧ pair = .ofScalar s.scalar := by
  obtain ⟨publicKey, privateKey⟩ := pair
  rw [Signer.ofKeyPair] at h
  split at h
  · split at h
    · rename_i hconsistent
      split at h
      · rename_i d hprivate
        injection h with h
        simp only at hprivate
        subst hprivate h
        rw [KeyPair.Consistent] at hconsistent
        simp only [PrivateKey.publicKey] at hconsistent
        subst hconsistent
        exact ⟨rfl, rfl⟩
      · cases h
    · cases h
  · cases h

/-- A time of few digits has few digits when the lifetime is added. -/
theorem length_toDigits_le {now : Int} (h : now.natAbs < 10 ^ 4000) :
    (Nat.toDigits 10 (now + lifetime).natAbs).length ≤ Number.maxDigits := by
  have hpower {a b : Nat} (hab : a ≤ b) : 10 ^ a ≤ 10 ^ b := Nat.pow_le_pow_right (by decide) hab
  have hnext (k : Nat) (hk : k + 1 ≤ Number.maxDigits) : 10 ^ k * 10 ≤ 10 ^ Number.maxDigits := by
    rw [← Nat.pow_succ]
    exact hpower hk
  -- The powers stay closed: only how they compare is used.
  have hlifetime : 10 ^ 5 ≤ 10 ^ 4000 := hpower (by decide)
  have hlimit := hnext 4000 (by decide)
  rw [Nat.length_toDigits_le_iff (by decide) (by decide), lifetime]
  generalize 10 ^ 4000 = bound at h hlifetime hlimit
  generalize 10 ^ Number.maxDigits = limit at hlimit ⊢
  omega

/-! ## Signing and verifying -/

/-- **A signed token verifies.** For a signer of any accepted pair and subject, any
audience that looks like an origin and any time of signing, signing succeeds; the
token is three segments with a signature of sixty-four octets; and at any later
time, for the pair's public key in any of its forms and a reader of any depth, it
verifies to exactly what was signed. -/
theorem exists_sign_verify {pair : KeyPair} {subject : String} {s : Signer}
    (hsigner : Signer.ofKeyPair pair subject = .ok s) {audience : String}
    (haudience : Text.occursIn "://".toList audience.toList = true) {now : Int}
    (hnow : now.natAbs < 10 ^ 4000)
    (haccepted : Ecdsa.verify s.scalar.publicPoint
      (Utf8.encodeChars (signingInput audience (now + 43200) subject))
      (Ecdsa.sign s.scalar (Utf8.encodeChars (signingInput audience (now + 43200) subject))) = true)
    {key : KeySource PublicKey} (hkey : PublicKey.load key = pair.publicKey.requireP256)
    (trace : Trace) :
    ∃ token after, s.sign audience (.whole now) trace = (.ok token, after) ∧
      IsCompact token.text ∧ token.text.toList.count '.' = 2 ∧
      ∀ (depth : Json.Depth) (clock : Seconds), verify depth token.text key clock =
        .ok [("aud", .string audience), ("exp", .int (now + 43200)), ("sub", .string subject)] := by
  obtain ⟨rfl, rfl⟩ := ofKeyPair_eq_ok hsigner
  have hdigits := length_toDigits_le hnow
  have hcompact := isCompact_tokenFor s audience (now + lifetime)
  refine ⟨_, _, sign_eq_ok s haudience rfl hdigits trace, hcompact, hcompact.count_dot, ?_⟩
  intro depth clock
  rw [verify, hkey, KeyPair.ofScalar, PublicKey.requireP256]
  simp only [verifyText_tokenFor depth s audience hdigits haccepted clock]
  rfl

/-- The sender with the least private scalar. -/
def Signer.plain : Signer where
  subject := "mailto:a@b"
  scalar := .one
  subject_isContact := by decide +kernel

theorem exists_sign_verify_plain :
    Signer.ofKeyPair (.ofScalar .one) "mailto:a@b" = .ok .plain ∧
      ∃ token after,
        Signer.plain.sign "x://\"é" (.whole 0) (.start ⟨fun _ => .one, fun _ => .zeros, 0, 0⟩) =
          (.ok token, after) ∧
        IsCompact token.text ∧ token.text.toList.count '.' = 2 ∧
        ∀ (depth : Json.Depth) (clock : Seconds),
          verify depth token.text (.encoded (.raw P256.Scalar.one.publicPoint.toBytes)) clock =
            .ok [("aud", .string "x://\"é"), ("exp", .int (0 + 43200)),
              ("sub", .string "mailto:a@b")] := by
  have hsigner : Signer.ofKeyPair (.ofScalar .one) "mailto:a@b" = .ok .plain := ofKeyPair_ofScalar _ _
  have hnow (k : Nat) : (0 : Int).natAbs < 10 ^ k := Nat.pow_pos (by decide)
  have haccepted := Ecdsa.verify_sign .one
    (Utf8.encodeChars (signingInput "x://\"é" (0 + 43200) "mailto:a@b")) (by decide +kernel)
  exact ⟨hsigner, exists_sign_verify hsigner (by decide +kernel) (hnow 4000) haccepted
    (PublicKey.load_raw _) (.start ⟨fun _ => .one, fun _ => .zeros, 0, 0⟩)⟩

end Vapid

end WebPush
