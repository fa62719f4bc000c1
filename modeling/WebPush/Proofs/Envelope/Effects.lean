import WebPush.Proofs.Envelope.RoundTrip
/-!
# Envelope — what encrypting leaves behind

For a key on the curve encrypting always gets as far as drawing: a
scalar first, then a salt. Only then is a payload refused that no record
has room for. What was drawn stands at the front of the envelope, and
the record about it tells how long payload and envelope are.
-/

namespace WebPush

namespace Entropy

/-- The source once a message has drawn from it: a scalar, and then a salt. -/
def advance (e : Entropy) : Entropy := e.drawScalar.2.drawSalt.2

/-- The source once some messages have drawn from it. -/
def skip (e : Entropy) (count : Nat) : Entropy :=
  { e with scalarsUsed := e.scalarsUsed + count, saltsUsed := e.saltsUsed + count }

@[simp] theorem skip_zero (e : Entropy) : e.skip 0 = e := rfl

/-- Messages draw one after the other. -/
theorem advance_skip (e : Entropy) (count : Nat) : (e.skip count).advance = e.skip (count + 1) :=
  rfl

theorem skip_skip (e : Entropy) (count count' : Nat) :
    (e.skip count).skip count' = e.skip (count + count') := by
  simp only [skip, Nat.add_assoc]

end Entropy

namespace Envelope

variable {payload : Bytes} {recipient : P256.Point} {auth : Octets16} {padding : Nat}
  {trace after : Trace} {encrypted : Encrypted}

/-! ## The envelope -/

/-- An envelope that begins with a salt and with the public half of a scalar. -/
def IsMadeWith (envelope : Bytes) (scalar : P256.Scalar) (salt : Octets16) : Prop :=
  envelope.take 16 = salt.bytes ∧
    ∃ header, Header.parse envelope = .ok header ∧ header.keyId = scalar.publicPoint.toBytes

/-- The length of the only record: payload and padding, a delimiter and a tag. -/
theorem length_encrypt_paddedText (key nonce payload : Bytes) (padding : Nat) :
    (Gcm.encrypt key nonce (paddedText payload padding)).length = payload.length + padding + 17 := by
  simp only [Gcm.length_encrypt, paddedText, List.length_append, List.length_cons,
    List.length_replicate]
  omega

/-- **The length of an envelope**: the record behind a header with a key in it. -/
theorem length_assemble (recipient : P256.Point) (auth : Octets16) (sender : P256.Point)
    (shared : Bytes) (salt : Octets16) (payload : Bytes) (padding : Nat) :
    (assemble recipient auth sender shared salt payload padding).length =
      payload.length + padding + 103 := by
  have hheader (size : Nat) :
      (Header.mk salt.bytes size sender.toBytes).toBytes.length = fixedLength + 65 := by
    rw [Header.length_toBytes salt.length_eq, Header.length, P256.Pair.length_toBytes]
  rw [assemble, List.length_append, hheader, length_encrypt_paddedText, fixedLength]
  omega

/-- **The header that is read off an assembled envelope** holds what it was assembled from. -/
theorem parse_assemble (recipient : P256.Point) (auth : Octets16) (sender : P256.Point)
    (shared : Bytes) (salt : Octets16) (hroom : payload.length + 1 + padding ≤ maxPlaintext) :
    Header.parse (assemble recipient auth sender shared salt payload padding) =
      .ok ⟨salt.bytes, max defaultRecordSize (payload.length + padding + 17), sender.toBytes⟩ := by
  rw [maxPlaintext] at hroom
  simp only [assemble, length_encrypt_paddedText]
  refine Header.WellFormed.parse_append ⟨salt.length_eq, ?_, ?_, ?_⟩ _
  · exact Nat.le_trans (by decide) (Nat.le_max_left _ _)
  · simp only [defaultRecordSize]
    omega
  · rw [P256.Pair.length_toBytes]
    decide

/-- An assembled envelope begins with what it was assembled from. -/
theorem isMadeWith_assemble (recipient : P256.Point) (auth : Octets16) (scalar : P256.Scalar)
    (shared : Bytes) (salt : Octets16) (hroom : payload.length + 1 + padding ≤ maxPlaintext) :
    IsMadeWith (assemble recipient auth scalar.publicPoint shared salt payload padding) scalar
      salt := by
  refine ⟨?_, _, parse_assemble recipient auth _ shared salt hroom, rfl⟩
  rw [assemble, Header.toBytes_append, List.take_left' salt.length_eq]

/-! ## Draws and records -/

/-- **What encrypting for a key on the curve comes to.** -/
theorem exists_encryptFor_eq (payload : Bytes) (recipient : P256.Point) (auth : Octets16)
    (padding : Nat) (trace : Trace) :
    let scalar := trace.entropy.drawScalar.1
    let salt := trace.entropy.drawScalar.2.drawSalt.1
    let drawn : Trace := { trace with entropy := trace.entropy.advance }
    ∃ shared, encryptFor payload recipient auth padding trace =
      if maxPlaintext < payload.length + 1 + padding then (.error (.crypto .sealing), drawn)
      else
        let envelope := assemble recipient auth scalar.publicPoint shared salt payload padding
        (.ok ⟨envelope, salt, scalar.publicPoint⟩,
          drawn.note (encryptedRecord payload padding envelope)) := by
  obtain ⟨shared, hshared⟩ := P256.exists_sharedSecret? trace.entropy.drawScalar.1 recipient
  refine ⟨shared, ?_⟩
  simp only [encryptFor, hshared]
  rfl

/-- A scalar and a salt are drawn whether or not there is room for the payload. -/
theorem entropy_encryptFor (payload : Bytes) (recipient : P256.Point) (auth : Octets16)
    (padding : Nat) (trace : Trace) :
    (encryptFor payload recipient auth padding trace).2.entropy = trace.entropy.advance := by
  obtain ⟨shared, heq⟩ := exists_encryptFor_eq payload recipient auth padding trace
  rw [heq]
  split <;> rfl

/-- The envelope is made with what was drawn. -/
theorem isMadeWith_of_encryptFor
    (h : encryptFor payload recipient auth padding trace = (.ok encrypted, after)) :
    IsMadeWith encrypted.envelope trace.entropy.drawScalar.1
      trace.entropy.drawScalar.2.drawSalt.1 := by
  have hroom := room_of_encryptFor h
  obtain ⟨shared, heq⟩ := exists_encryptFor_eq payload recipient auth padding trace
  rw [h, if_neg (Nat.not_lt.2 hroom)] at heq
  injection heq with heq
  injection heq with heq
  rw [heq]
  exact isMadeWith_assemble recipient auth _ shared _ hroom

end Envelope

end WebPush
