import WebPush.Notification
import WebPush.Proofs.Envelope.Message
/-!
# Envelope — what is encrypted decrypts again

Encrypting makes an envelope of one record, which carries the payload to
the holder of the private scalar. So the round trip is an instance of
what decryption accepts, whatever the payload and its padding.
-/

namespace WebPush.Envelope

/-- The first record is sealed under the base nonce itself. -/
theorem ContentKeys.recordNonce_zero {base : Bytes} (h : base.length = 12) :
    recordNonce base 0 = base := by
  rw [recordNonce, Nat.xor_zero, ← h, Bytes.ofNat_toNat]

theorem ContentKeys.length_derive_nonce (shared auth receiver sender salt : Bytes) :
    (derive shared auth receiver sender salt).nonce.length = 12 := by
  simp [derive]

/-- What encrypting makes of a payload: one chunk, in a record size that has room for it. -/
def Message.ofPayload (payload : Bytes) (padding : Nat) (sender : P256.Point) (salt : Octets16) :
    Message where
  salt := salt
  recordSize := max defaultRecordSize (payload.length + padding + 17)
  sender := sender
  chunks := [⟨payload, padding⟩]

theorem Message.text_ofPayload (payload : Bytes) (padding : Nat) (sender : P256.Point)
    (salt : Octets16) : Chunk.message (ofPayload payload padding sender salt).chunks = payload := by
  simp [ofPayload, Chunk.message]

/-- **An assembled envelope carries the payload**, if one record has room for it. -/
theorem isCarriedBy_assemble {d : P256.Scalar} {sender : P256.Point} {shared : Bytes}
    (hshared : P256.sharedSecret? d sender = some shared) (auth salt : Octets16) {payload : Bytes}
    {padding : Nat} (hroom : payload.length + 1 + padding ≤ maxPlaintext) :
    (Message.ofPayload payload padding sender salt).IsCarriedBy d auth
      (assemble d.publicPoint auth sender shared salt payload padding) := by
  have hrecord (keys : ContentKeys) (hnonce : keys.nonce.length = 12) :
      Gcm.encrypt keys.key keys.nonce (paddedText payload padding) =
        (Chunk.mk payload padding).sealed keys 0 true := by
    rw [Chunk.sealed, ContentKeys.recordNonce_zero hnonce]
    rfl
  refine ⟨shared, hshared, ?_, ?_⟩
  · rw [maxPlaintext] at hroom
    simp only [Message.ofPayload, Chunk.sealAll, List.isEmpty_nil]
    refine ⟨?_, ?_, by simp, _, List.getLast?_singleton, ?_⟩
    · simp only [defaultRecordSize]
      omega
    · simp only [defaultRecordSize]
      omega
    · rw [Chunk.length_sealed]
      simp only
      omega
  · rw [assemble, hrecord _ (ContentKeys.length_derive_nonce _ _ _ _ _), Message.envelope_eq]
    simp only [Message.header, Message.ofPayload, Message.keys, Chunk.sealAll, List.isEmpty_nil,
      Chunk.length_sealed, List.flatten_singleton]

/-- What encrypting gives when one record has room for the payload: the draws
decide everything. -/
theorem encryptFor_eq_ok {trace : Trace} {e : P256.Scalar} {salt : Octets16}
    {entropy entropy' : Entropy} (hscalar : trace.entropy.drawScalar = (e, entropy))
    (hsalt : entropy.drawSalt = (salt, entropy')) {recipient : P256.Point} {shared : Bytes}
    (hshared : P256.sharedSecret? e recipient = some shared) (auth : Octets16) {payload : Bytes}
    {padding : Nat} (hroom : payload.length + 1 + padding ≤ maxPlaintext) :
    let envelope := assemble recipient auth e.publicPoint shared salt payload padding
    encryptFor payload recipient auth padding trace =
      (.ok ⟨envelope, salt, e.publicPoint⟩,
        Trace.note { trace with entropy := entropy' } (encryptedRecord payload padding envelope)) := by
  simp only [encryptFor, hscalar, hshared, hsalt, if_neg (Nat.not_lt.2 hroom)]

/-- Encrypting succeeds only where one record has room for the payload. -/
theorem room_of_encryptFor {trace after : Trace} {recipient : P256.Point} {auth : Octets16}
    {payload : Bytes} {padding : Nat} {encrypted : Encrypted}
    (h : encryptFor payload recipient auth padding trace = (.ok encrypted, after)) :
    payload.length + 1 + padding ≤ maxPlaintext := by
  by_contra hroom
  rw [encryptFor] at h
  split at h
  rename_i e entropy _
  split at h
  · cases h
  · simp only [if_pos (Nat.not_le.1 hroom)] at h
    injection h with hencrypted
    cases hencrypted

/-- **Encrypting for a receiver succeeds** and makes an envelope that carries the payload. -/
theorem exists_encryptFor_eq_ok (d : P256.Scalar) (auth : Octets16) {payload : Bytes} {padding : Nat}
    (hroom : payload.length + 1 + padding ≤ maxPlaintext) (trace : Trace) :
    ∃ encrypted after, encryptFor payload d.publicPoint auth padding trace = (.ok encrypted, after) ∧
      (Message.ofPayload payload padding encrypted.senderKey encrypted.salt).IsCarriedBy d auth
        encrypted.envelope := by
  obtain ⟨e, entropy, hscalar⟩ : ∃ e entropy, trace.entropy.drawScalar = (e, entropy) := ⟨_, _, rfl⟩
  obtain ⟨salt, entropy', hsalt⟩ : ∃ salt entropy', entropy.drawSalt = (salt, entropy') := ⟨_, _, rfl⟩
  obtain ⟨shared, hshared⟩ := P256.exists_sharedSecret? e d.publicPoint
  -- The receiver agrees on the same secret from the public half of the draw.
  have hreceived : P256.sharedSecret? d e.publicPoint = some shared := by
    rw [P256.sharedSecret?_publicPoint, hshared]
  exact ⟨_, _, encryptFor_eq_ok hscalar hsalt hshared auth hroom,
    isCarriedBy_assemble hreceived auth salt hroom⟩

/-- What encrypting made, whenever it did, carries the payload. -/
theorem isCarriedBy_of_encrypt {recipient : KeySource PublicKey} {d : P256.Scalar}
    (hrecipient : PublicKey.load recipient = .ok d.publicPoint) {auth : Octets16} {payload : Bytes}
    {padding : Int} {trace after : Trace} {encrypted : Encrypted}
    (h : encrypt payload recipient auth.bytes padding trace = (.ok encrypted, after)) :
    (Message.ofPayload payload padding.toNat encrypted.senderKey encrypted.salt).IsCarriedBy d auth
      encrypted.envelope := by
  rw [encrypt] at h
  split at h
  · cases h
  simp only [hrecipient, Octets16.ofSecret_bytes] at h
  obtain ⟨encrypted', after', heq, hcarried⟩ :=
    exists_encryptFor_eq_ok d auth (room_of_encryptFor h) trace
  rw [h] at heq
  simp only [Prod.mk.injEq, Except.ok.injEq] at heq
  obtain ⟨rfl, -⟩ := heq
  exact hcarried

/-- **Round trip**: what is encrypted for a key decrypts with its private scalar,
in whatever form either key is given, to the payload and nothing else. -/
theorem exists_encrypt_decrypt (content : Content) {recipient : KeySource PublicKey}
    {key : KeySource PrivateKey} {d : P256.Scalar}
    (hrecipient : PublicKey.load recipient = .ok d.publicPoint)
    (hkey : PrivateKey.load key = .ok d) (auth : Octets16) {padding : Int}
    (hpadding : 0 ≤ padding)
    (hroom : (content.toBytes.length : Int) + 1 + padding ≤ 2 ^ 31 - 1) (trace : Trace) :
    ∃ encrypted after,
      encrypt content.toBytes recipient auth.bytes padding trace = (.ok encrypted, after) ∧
        decrypt encrypted.envelope key auth.bytes = .ok content.toBytes := by
  have hroom' : content.toBytes.length + 1 + padding.toNat ≤ maxPlaintext := by
    rw [maxPlaintext]
    omega
  obtain ⟨encrypted, after, hencrypt, hcarried⟩ := exists_encryptFor_eq_ok d auth hroom' trace
  refine ⟨encrypted, after, ?_, ?_⟩
  · simp only [encrypt, if_neg (Int.not_lt.2 hpadding), hrecipient, Octets16.ofSecret_bytes]
    exact hencrypt
  · rw [hcarried.decrypt_eq_ok hkey, Message.text_ofPayload]

/-- A payload that ends like padding comes back whole. -/
theorem exists_encrypt_decrypt_delimiters :
    PublicKey.load (.encoded (.raw P256.Scalar.one.publicPoint.toBytes)) =
        .ok P256.Scalar.one.publicPoint ∧
      PrivateKey.load (.key (.p256 .one)) = .ok .one ∧
      ∃ encrypted after,
        encrypt [0x61, 0x02, 0x00] (.encoded (.raw P256.Scalar.one.publicPoint.toBytes))
            Octets16.zeros.bytes 2 (.start ⟨fun _ => .one, fun _ => .zeros, 0, 0⟩) =
          (.ok encrypted, after) ∧
        decrypt encrypted.envelope (.key (.p256 .one)) Octets16.zeros.bytes =
          .ok [0x61, 0x02, 0x00] := by
  refine ⟨PublicKey.load_raw _, rfl, ?_⟩
  exact exists_encrypt_decrypt (.raw [0x61, 0x02, 0x00]) (PublicKey.load_raw _) rfl .zeros
    (by decide) (by decide) (.start ⟨fun _ => .one, fun _ => .zeros, 0, 0⟩)

end WebPush.Envelope
