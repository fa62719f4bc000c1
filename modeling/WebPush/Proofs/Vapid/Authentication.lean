import WebPush.Proofs.Curve.Ecdsa
import WebPush.Proofs.Vapid.Segments
/-!
# VAPID — authentic tokens, and what is left to judge

Verification first settles whether a token is authentic, by its form,
its header and its signature, and then judges the claims. The octets of
the payload are all that the second part sees. A token that the holder
of a key makes is authentic, so whether it verifies is up to its claims.
-/

namespace WebPush

/-- A signature in range is read back from its octets. -/
theorem Ecdsa.Signature.ofBytes?_toBytes {σ : Ecdsa.Signature} (hr : σ.r < P256.order)
    (hs : σ.s < P256.order) : ofBytes? σ.toBytes = some σ := by
  have hfits : P256.order < 256 ^ P256.width := by decide +kernel
  rw [ofBytes?, if_pos (by rw [length_toBytes]; rfl)]
  simp only [toBytes, List.take_left' (Bytes.length_ofNat P256.width _),
    List.drop_left' (Bytes.length_ofNat P256.width _),
    Bytes.toNat_ofNat_of_lt (Nat.lt_trans hr hfits),
    Bytes.toNat_ofNat_of_lt (Nat.lt_trans hs hfits)]

/-- A signature that verifies is in range. -/
theorem Ecdsa.lt_order_of_verify {P : P256.Point} {message : Bytes} {σ : Ecdsa.Signature}
    (h : Ecdsa.verify P message σ = true) : σ.r < P256.order ∧ σ.s < P256.order := by
  rw [Ecdsa.verify] at h
  split at h
  · rename_i hrange
    exact ⟨hrange.2.1, hrange.2.2.2⟩
  · cases h

namespace Vapid

/-! ## Authentication and judgement -/

/-- The payload of a token that is authentic: its form is right, its header demands nothing
more, and its signature is right. -/
def authenticate (depth : Json.Depth) (token : List Char) (P : P256.Point) :
    Except TokenFault Bytes := do
  let segments ← match Segments.ofToken? token with
    | none => .error .segments
    | some segments => .ok segments
  let headerOctets ← segmentOctets segments.header .headerPadding
  let header ← readObject depth headerOctets .headerJson .headerNotObject
  let payload ← payloadOctets header segments.payload
  let signature ← segmentOctets segments.signature .signaturePadding
  checkKeyId header
  checkCritical header
  checkDetached header
  checkAlgorithm header
  checkSignature P segments signature
  return payload

/-- The claims of a payload, if nothing is held against them. -/
def judge (depth : Json.Depth) (payload : Bytes) (now : Seconds) :
    Except TokenFault Json.Members := do
  let claims ← readObject depth payload .payloadJson .payloadNotObject
  checkClaims claims now
  return claims

variable {depth : Json.Depth}

/-- **Verification** authenticates a token and judges its payload. -/
theorem verifyText_eq (token : List Char) (P : P256.Point) (now : Seconds) :
    verifyText depth token P now =
      authenticate depth token P >>= fun payload => judge depth payload now := by
  rw [verifyText, authenticate]
  cases Segments.ofToken? token with
  | none => rfl
  | some segments => simp only [judge, bind_assoc, pure_bind]

/-- The judgement of a payload that is an object is that of its members. -/
theorem judge_eq {payload : Bytes} {claims : Json.Members}
    (hread : Json.readBytes depth payload = .ok (.object claims)) (now : Seconds) :
    judge depth payload now = (checkClaims claims now).map fun _ => claims := by
  have hobject : readObject depth payload .payloadJson .payloadNotObject = .ok claims := by
    rw [readObject, hread]
  rw [judge, hobject]
  change (checkClaims claims now >>= fun _ => pure claims) = _
  cases checkClaims claims now <;> rfl

/-- A payload that cannot be read gives the error of reading. -/
theorem judge_eq_error {payload : Bytes} {f : Json.Fault}
    (h : Json.readBytes depth payload = .error f) (now : Seconds) :
    judge depth payload now = .error (.payloadJson f) := by
  rw [judge, readObject, h]
  rfl

/-- A signature that verifies is accepted from its octets. -/
theorem checkSignature_eq_ok {P : P256.Point} {segments : Segments} {σ : Ecdsa.Signature}
    (h : Ecdsa.verify P (Utf8.encodeChars segments.signedText) σ = true) :
    checkSignature P segments σ.toBytes = .ok () := by
  obtain ⟨hr, hs⟩ := Ecdsa.lt_order_of_verify h
  rw [checkSignature, Ecdsa.Signature.ofBytes?_toBytes hr hs]
  simp only [h, if_true]

/-! ## Tokens of a key's holder -/

/-- The text that a signature covers, from the octets of the header and the payload. -/
def signedText (header payload : Bytes) : List Char :=
  Base64Url.encodeChars header ++ '.' :: Base64Url.encodeChars payload

/-- The token of a header, a payload and a signature. -/
def compact (header payload : Bytes) (σ : Ecdsa.Signature) : String :=
  .ofList (signedText header payload ++ '.' :: Base64Url.encodeChars σ.toBytes)

/-- A header that names the one algorithm, and none of the other members that are looked at. -/
structure IsPlain (header : Json.Members) : Prop where
  algorithm : header.find? "alg" = some (.string "ES256")
  keyId : header.find? "kid" = none
  critical : header.find? "crit" = none
  detached : header.find? "b64" = none

namespace IsPlain

variable {header : Json.Members} (h : IsPlain header)
include h

theorem isDetached_eq_false : isDetached header = false := by
  rw [isDetached, h.detached]

/-- A plain header passes every check on it. -/
theorem checks_eq_ok : checkKeyId header = .ok () ∧ checkCritical header = .ok () ∧
    checkDetached header = .ok () ∧ checkAlgorithm header = .ok () := by
  refine ⟨?_, ?_, ?_, ?_⟩
  · rw [checkKeyId, h.keyId]
  · rw [checkCritical, h.critical]
  · rw [checkDetached, if_neg (by rw [h.isDetached_eq_false]; exact Bool.false_ne_true)]
  · simp only [checkAlgorithm, h.algorithm]

end IsPlain

/-- **The token of a key's holder is authentic**, whatever its payload. -/
theorem authenticate_compact {header payload : Bytes} {members : Json.Members} {P : P256.Point}
    {σ : Ecdsa.Signature} (hread : Json.readBytes depth header = .ok (.object members))
    (hplain : IsPlain members)
    (haccepted : Ecdsa.verify P (Utf8.encodeChars (signedText header payload)) σ = true) :
    authenticate depth (compact header payload σ).toList P = .ok payload := by
  have hsegments := ofToken?_append (dot_notMem_encodeChars header)
    (Base64Url.encodeChars payload) (dot_notMem_encodeChars σ.toBytes)
  have hheader : readObject depth header .headerJson .headerNotObject = .ok members := by
    rw [readObject, hread]
  have hpayload : payloadOctets members (Base64Url.encodeChars payload) = .ok payload := by
    rw [payloadOctets, if_neg (by rw [hplain.isDetached_eq_false]; exact Bool.false_ne_true),
      decodeSegment?_encodeChars]
  have hsignature : checkSignature P ⟨Base64Url.encodeChars header,
      Base64Url.encodeChars payload, Base64Url.encodeChars σ.toBytes⟩ σ.toBytes = .ok () :=
    checkSignature_eq_ok haccepted
  obtain ⟨hkeyId, hcritical, hdetached, halgorithm⟩ := hplain.checks_eq_ok
  simp only [authenticate, compact, signedText, String.toList_ofList, hsegments, segmentOctets,
    decodeSegment?_encodeChars, bind, Except.bind, hheader, hpayload, hkeyId, hcritical, hdetached,
    halgorithm, hsignature]
  rfl

/-- Such a token verifies to what its payload is judged to be. -/
theorem verify_compact {header payload : Bytes} {members : Json.Members}
    {key : KeySource PublicKey} {P : P256.Point} {σ : Ecdsa.Signature}
    (hread : Json.readBytes depth header = .ok (.object members)) (hplain : IsPlain members)
    (hkey : PublicKey.load key = .ok P)
    (hvalid : Ecdsa.IsValid P (Utf8.encodeChars (signedText header payload)) σ) (now : Seconds) :
    verify depth (compact header payload σ) key now = (judge depth payload now).mapError .token := by
  rw [verify, hkey]
  simp only [verifyText_eq, authenticate_compact hread hplain (Ecdsa.verify_eq_true_iff.2 hvalid)]
  rfl

end Vapid

end WebPush
