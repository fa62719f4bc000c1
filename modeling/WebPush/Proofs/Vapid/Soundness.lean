import WebPush.Proofs.Except
import WebPush.Proofs.Vapid.RoundTrip
/-!
# VAPID — what a token that verifies has in it

Verification returns claims on one path only, and every check on it is
passed. So the claims are those that the token writes, the header beside
them names the one algorithm, and the signature is valid for the very
text that both were read from.
-/

namespace WebPush

namespace Vapid

variable {depth : Json.Depth}

/-! ## Segments as texts -/

/-- A text that writes octets in base64url, with padding behind it or without. -/
def Writes (cs : List Char) (bs : Bytes) : Prop :=
  ∃ padding, cs = Base64Url.encodeChars bs ++ List.replicate padding '='

/-- A text writes octets in one way only. -/
theorem Writes.unique {cs : List Char} {bs bs' : Bytes} (h : Writes cs bs) (h' : Writes cs bs') :
    bs = bs' := by
  obtain ⟨n, rfl⟩ := h
  obtain ⟨n', heq⟩ := h'
  have hchars := congrArg (dropEndWhile (· == '=')) heq
  rw [Base64Url.dropEndWhile_padding (Base64Url.inAlphabet_of_mem_encodeChars bs),
    Base64Url.dropEndWhile_padding (Base64Url.inAlphabet_of_mem_encodeChars bs')] at hchars
  have hoctets := congrArg Base64Url.decodeStrict? hchars
  rw [Base64Url.decodeStrict?_encodeChars, Base64Url.decodeStrict?_encodeChars] at hoctets
  exact Option.some.inj hoctets

/-- **A segment writes the octets that are read off it.** -/
theorem writes_of_decodeSegment? {cs : List Char} {bs : Bytes} (h : decodeSegment? cs = some bs) :
    Writes cs bs := by
  rw [decodeSegment?] at h
  split at h
  · obtain ⟨octets, -, h⟩ := Option.bind_eq_some_iff.1 h
    split at h
    · rename_i hchars
      injection h with h
      subst h
      obtain ⟨tail, hcs, htail⟩ := exists_eq_dropEndWhile_append (· == '=') cs
      have hpadding : tail = List.replicate tail.length '=' :=
        List.eq_replicate_iff.2 ⟨rfl, fun c hc => by simpa using htail c hc⟩
      refine ⟨tail.length, ?_⟩
      rw [← hpadding, hchars]
      exact hcs
    · cases h
  · cases h

namespace Segments

/-- The segments that a token is joined from: a dot behind each of the first two,
and none in the first and the last. -/
def Join (s : Segments) (token : List Char) : Prop :=
  token = s.header ++ '.' :: s.payload ++ '.' :: s.signature ∧
    '.' ∉ s.header ∧ '.' ∉ s.signature

/-- **A token falls into the segments it is joined from**, and no others. -/
theorem ofToken?_eq_some_iff {token : List Char} {s : Segments} :
    ofToken? token = some s ↔ s.Join token := by
  constructor
  · intro h
    obtain ⟨⟨input, signature⟩, hlast, hrest⟩ := Option.bind_eq_some_iff.1 h
    obtain ⟨⟨header, payload⟩, hfirst, rfl⟩ := Option.map_eq_some_iff.1 hrest
    obtain ⟨rfl, hsignature⟩ := Text.splitLast?_eq_some_iff.1 hlast
    obtain ⟨rfl, hheader⟩ := Text.splitFirst?_eq_some_iff.1 hfirst
    exact ⟨rfl, hheader, hsignature⟩
  · rintro ⟨rfl, hheader, hsignature⟩
    exact ofToken?_append hheader s.payload hsignature

theorem Join.unique {token : List Char} {s s' : Segments} (h : s.Join token) (h' : s'.Join token) :
    s = s' := by
  rw [← ofToken?_eq_some_iff] at h h'
  exact Option.some.inj (h.symm.trans h')

/-- The first segment writes a JSON object with these members. -/
def HasHeader (s : Segments) (depth : Json.Depth) (members : Json.Members) : Prop :=
  ∃ octets, Writes s.header octets ∧ Json.readBytes depth octets = .ok (.object members)

/-- The second segment writes a JSON object with these members. -/
def HasClaims (s : Segments) (depth : Json.Depth) (members : Json.Members) : Prop :=
  ∃ octets, Writes s.payload octets ∧ Json.readBytes depth octets = .ok (.object members)

/-- The last segment writes both halves of a signature that is valid for the text
in front of it. -/
def IsSignedBy (s : Segments) (P : P256.Point) : Prop :=
  ∃ first second : Bytes, Writes s.signature (first ++ second) ∧
    first.length = 32 ∧ second.length = 32 ∧
    Ecdsa.IsValid P (Utf8.encodeChars s.signedText) ⟨Bytes.toNat first, Bytes.toNat second⟩

theorem HasHeader.unique {s : Segments} {members members' : Json.Members}
    (h : s.HasHeader depth members) (h' : s.HasHeader depth members') : members = members' := by
  obtain ⟨octets, hwrites, hread⟩ := h
  obtain ⟨octets', hwrites', hread'⟩ := h'
  rw [hwrites.unique hwrites', hread'] at hread
  injection hread with hread
  injection hread with hread
  exact hread.symm

end Segments

/-! ## What each check has seen -/

theorem readObject_eq_ok {octets : Bytes} {malformed : Json.Fault → TokenFault} {other : TokenFault}
    {members : Json.Members} (h : readObject depth octets malformed other = .ok members) :
    Json.readBytes depth octets = .ok (.object members) := by
  rw [readObject] at h
  split at h
  · cases h
  · rename_i members' hread
    injection h with h
    rw [hread, h]
  · cases h

theorem writes_of_segmentOctets {cs : List Char} {fault : TokenFault} {octets : Bytes}
    (h : segmentOctets cs fault = .ok octets) : Writes cs octets := by
  rw [segmentOctets] at h
  split at h
  · cases h
  · rename_i octets' hdecode
    injection h with h
    exact h ▸ writes_of_decodeSegment? hdecode

/-- A payload that is part of the token is what its segment writes. -/
theorem writes_of_payloadOctets {header : Json.Members} {payload : List Char} {octets : Bytes}
    (hattached : checkDetached header = .ok ()) (h : payloadOctets header payload = .ok octets) :
    Writes payload octets := by
  rw [checkDetached] at hattached
  rw [payloadOctets] at h
  split at hattached
  · cases hattached
  · rename_i hpart
    rw [if_neg hpart] at h
    have hsegment : segmentOctets payload .payloadPadding = .ok octets := h
    exact writes_of_segmentOctets hsegment

theorem checkAlgorithm_eq_ok {header : Json.Members} (h : checkAlgorithm header = .ok ()) :
    header.find? "alg" = some (.string "ES256") := by
  rw [checkAlgorithm] at h
  split at h
  · cases h
  · assumption
  · cases h

theorem isSignedBy_of_checkSignature {P : P256.Point} {s : Segments} {octets : Bytes}
    (hwrites : Writes s.signature octets) (h : checkSignature P s octets = .ok ()) :
    s.IsSignedBy P := by
  rw [checkSignature] at h
  split at h
  · cases h
  rename_i σ hσ
  split at h
  · rename_i hverify
    rw [Ecdsa.Signature.ofBytes?] at hσ
    split at hσ
    · rename_i hlength
      injection hσ with hσ
      subst hσ
      have hlength : octets.length = 32 + 32 := hlength
      refine ⟨octets.take 32, octets.drop 32, ?_, ?_, ?_, Ecdsa.verify_eq_true_iff.1 hverify⟩
      · rwa [List.take_append_drop]
      · exact List.length_take_of_le (by omega)
      · rw [List.length_drop, hlength, Nat.add_sub_cancel]
    · cases hσ
  · cases h

/-! ## What all checks together have seen -/

/-- **A token with claims** has segments that write them, a header of the one
algorithm and a valid signature. -/
theorem of_verifyText {token : List Char} {P : P256.Point} {now : Seconds} {claims : Json.Members}
    (h : verifyText depth token P now = .ok claims) :
    ∃ s : Segments, s.Join token ∧
      (∃ header, s.HasHeader depth header ∧ header.find? "alg" = some (.string "ES256")) ∧
      s.HasClaims depth claims ∧ s.IsSignedBy P := by
  rw [verifyText] at h
  split at h
  · cases h
  rename_i s hs
  -- One step for each check, in the order in which they are made.
  obtain ⟨s, ⟨rfl⟩, h⟩ := exists_of_bind_eq_ok h
  obtain ⟨headerOctets, hheaderOctets, h⟩ := exists_of_bind_eq_ok h
  obtain ⟨header, hheader, h⟩ := exists_of_bind_eq_ok h
  obtain ⟨payload, hpayload, h⟩ := exists_of_bind_eq_ok h
  obtain ⟨octets, hoctets, h⟩ := exists_of_bind_eq_ok h
  obtain ⟨-, -, h⟩ := exists_of_bind_eq_ok h
  obtain ⟨-, -, h⟩ := exists_of_bind_eq_ok h
  obtain ⟨_, hattached, h⟩ := exists_of_bind_eq_ok h
  obtain ⟨_, halgorithm, h⟩ := exists_of_bind_eq_ok h
  obtain ⟨_, hsignature, h⟩ := exists_of_bind_eq_ok h
  obtain ⟨claims', hclaims, h⟩ := exists_of_bind_eq_ok h
  obtain ⟨-, -, h⟩ := exists_of_bind_eq_ok h
  injection h with h
  subst h
  refine ⟨s, Segments.ofToken?_eq_some_iff.1 hs, ⟨header, ⟨headerOctets, ?_, ?_⟩, ?_⟩,
    ⟨payload, ?_, readObject_eq_ok hclaims⟩, ?_⟩
  · exact writes_of_segmentOctets hheaderOctets
  · exact readObject_eq_ok hheader
  · exact checkAlgorithm_eq_ok halgorithm
  · exact writes_of_payloadOctets hattached hpayload
  · exact isSignedBy_of_checkSignature (writes_of_segmentOctets hoctets) hsignature

theorem of_verify {token : String} {key : KeySource PublicKey} {now : Seconds}
    {claims : Json.Members} (h : verify depth token key now = .ok claims) :
    ∃ P, PublicKey.load key = .ok P ∧ verifyText depth token.toList P now = .ok claims := by
  rw [verify] at h
  split at h
  · cases h
  · rename_i P hP
    cases hverify : verifyText depth token.toList P now with
    | error f =>
      rw [hverify] at h
      cases h
    | ok claims' =>
      rw [hverify] at h
      injection h with h
      exact ⟨P, hP, by rw [hverify, h]⟩

/-- **Only signed tokens verify.** Claims that verification returns are those of the
token, whose header names the one algorithm and whose signature is valid under the
key for header and claims as they stand. So a token whose header names another
algorithm or none is refused, and so is one whose text is not what was signed. -/
theorem verify_sound (depth : Json.Depth) (token : String) (key : KeySource PublicKey)
    (now : Seconds) :
    (∀ claims, verify depth token key now = .ok claims →
      ∃ (P : P256.Point) (s : Segments), PublicKey.load key = .ok P ∧ s.Join token.toList ∧
        (∃ header, s.HasHeader depth header ∧ header.find? "alg" = some (.string "ES256")) ∧
        s.HasClaims depth claims ∧ s.IsSignedBy P) ∧
    (∀ (s : Segments) header, s.Join token.toList → s.HasHeader depth header →
      header.find? "alg" ≠ some (.string "ES256") → ∃ e, verify depth token key now = .error e) ∧
    (∀ (s : Segments) P, s.Join token.toList → PublicKey.load key = .ok P → ¬ s.IsSignedBy P →
      ∃ e, verify depth token key now = .error e) := by
  refine ⟨?_, ?_, ?_⟩
  · intro claims h
    obtain ⟨P, hP, hverify⟩ := of_verify h
    obtain ⟨s, hjoin, hheader, hclaims, hsigned⟩ := of_verifyText hverify
    exact ⟨P, s, hP, hjoin, hheader, hclaims, hsigned⟩
  · intro s header hjoin hheader halgorithm
    refine exists_eq_error fun claims h => ?_
    obtain ⟨P, -, hverify⟩ := of_verify h
    obtain ⟨s', hjoin', ⟨header', hheader', halgorithm'⟩, -, -⟩ := of_verifyText hverify
    obtain rfl := hjoin.unique hjoin'
    obtain rfl := hheader.unique hheader'
    exact halgorithm halgorithm'
  · intro s P hjoin hP hunsigned
    refine exists_eq_error fun claims h => ?_
    obtain ⟨P', hP', hverify⟩ := of_verify h
    obtain ⟨s', hjoin', -, -, hsigned⟩ := of_verifyText hverify
    obtain rfl := hjoin.unique hjoin'
    rw [hP] at hP'
    injection hP' with hP'
    subst hP'
    exact hunsigned hsigned

/-- The header of a token that claims to need no signature. -/
def unsignedHeader : List Char :=
  Json.printObject .compact [("alg", Json.printString "none")]

/-- Such a token, without claims and without a signature. -/
def unsigned : Segments := ⟨segment unsignedHeader, [], []⟩

theorem hasHeader_unsigned (depth : Json.Depth) :
    unsigned.HasHeader depth [("alg", .string "none")] := by
  have htexts : Json.AreTextsOf [("alg", Json.printString "none")] [("alg", .string "none")] :=
    .cons _ (Json.isTextOf_printString _) .nil
  refine ⟨Utf8.encodeChars unsignedHeader, ⟨0, (List.append_nil _).symm⟩, ?_⟩
  rw [unsignedHeader, htexts.readBytes_printObject depth (by simp [Json.isAscii_printString]),
    Json.Members.ofList_of_nodup (by decide)]

theorem not_isSignedBy_unsigned (P : P256.Point) : ¬ unsigned.IsSignedBy P := by
  rintro ⟨first, second, hwrites, hfirst, -⟩
  have hnil : Writes [] [] := ⟨0, rfl⟩
  obtain ⟨rfl, -⟩ := List.append_eq_nil_iff.1 (hwrites.unique hnil)
  cases hfirst

theorem verify_sound_plain :
    (∃ claims,
      verify .least (Signer.plain.tokenFor "x://a.b" 43200).text
        (.key (.p256 P256.Scalar.one.publicPoint)) (.whole 0) = .ok claims ∧
      ∃ (P : P256.Point) (s : Segments),
        PublicKey.load (.key (.p256 P256.Scalar.one.publicPoint)) = .ok P ∧
        s.Join (Signer.plain.tokenFor "x://a.b" 43200).text.toList ∧
        (∃ header, s.HasHeader .least header ∧ header.find? "alg" = some (.string "ES256")) ∧
        s.HasClaims .least claims ∧ s.IsSignedBy P) ∧
    (∃ e, verify .least (String.ofList (unsigned.signedText ++ ['.']))
      (.key (.p256 P256.Scalar.one.publicPoint)) (.whole 0) = .error e) ∧
    ∃ e, verify .least (String.ofList (unsigned.signedText ++ ['.']))
      (.encoded (.raw P256.Scalar.one.publicPoint.toBytes)) (.whole 0) = .error e := by
  have hnow (k : Nat) : (0 : Int).natAbs < 10 ^ k := Nat.pow_pos (by decide)
  have haccepted := Ecdsa.verify_sign .one
    (Utf8.encodeChars (signingInput "x://a.b" 43200 "mailto:a@b")) (by decide +kernel)
  have hverify : verify .least (Signer.plain.tokenFor "x://a.b" 43200).text
      (.key (.p256 P256.Scalar.one.publicPoint)) (.whole 0) =
      .ok (claimsMembers "x://a.b" 43200 "mailto:a@b") := by
    rw [verify, PublicKey.load]
    simp only [PublicKey.requireP256]
    exact congrArg _ (verifyText_tokenFor .least .plain "x://a.b" (length_toDigits_le (hnow 4000))
      haccepted (.whole 0))
  have hjoin : unsigned.Join (String.ofList (unsigned.signedText ++ ['.'])).toList :=
    ⟨String.toList_ofList, dot_notMem_encodeChars _, List.not_mem_nil⟩
  exact ⟨⟨_, hverify, (verify_sound _ _ _ _).1 _ hverify⟩,
    (verify_sound _ _ _ _).2.1 _ _ hjoin (hasHeader_unsigned _) (by simp [Json.Members.find?]),
    (verify_sound _ _ _ _).2.2 _ _ hjoin (PublicKey.load_raw _) (not_isSignedBy_unsigned _)⟩

end Vapid

end WebPush
