import WebPush.Proofs.Curve.Order
import WebPush.Proofs.Envelope.Header
import WebPush.Proofs.Envelope.Records
import WebPush.Proofs.Key.Codec
/-!
# Envelope — the envelopes that decrypt, and the message in them

A sender may cut a message into chunks as it likes, pad each of them and
choose a record size (`Message`). Its envelope is the header followed by
the sealed chunks. Decrypting accepts these envelopes and no others, and
gives back the texts of all chunks put together.
-/

namespace WebPush.Envelope

/-- A message as a sender lays it out. -/
structure Message where
  salt : Octets16
  recordSize : Nat
  sender : P256.Point
  chunks : List Chunk

namespace Message

/-- The content keys that the message is sealed under for a receiver, given
the secret that both sides share. -/
def keys (m : Message) (d : P256.Scalar) (auth : Octets16) (shared : Bytes) : ContentKeys :=
  .derive shared auth.bytes d.publicPoint.toBytes m.sender.toBytes m.salt.bytes

/-- The envelope around records. -/
def envelope (m : Message) (records : List Bytes) : Bytes :=
  m.salt.bytes ++ Bytes.ofNat 4 m.recordSize ++ 0x41 :: m.sender.toBytes ++ records.flatten

/-- Records of the size that the message states: all of them full but the
last, which has a tag and a delimiter at least. -/
structure Fits (m : Message) (records : List Bytes) : Prop where
  least : 18 ≤ m.recordSize
  inFour : m.recordSize < 2 ^ 32
  inner : ∀ record ∈ records.dropLast, record.length = m.recordSize
  final : ∃ record, records.getLast? = some record ∧
    17 ≤ record.length ∧ record.length ≤ m.recordSize

/-- **An envelope that carries the message** to the receiver with a private
scalar and an authentication secret. -/
def IsCarriedBy (m : Message) (d : P256.Scalar) (auth : Octets16) (bytes : Bytes) : Prop :=
  ∃ shared, P256.sharedSecret? d m.sender = some shared ∧
    m.Fits (Chunk.sealAll (m.keys d auth shared) 0 m.chunks) ∧
    bytes = m.envelope (Chunk.sealAll (m.keys d auth shared) 0 m.chunks)

/-- The header of the message's envelope. -/
def header (m : Message) : Header := ⟨m.salt.bytes, m.recordSize, m.sender.toBytes⟩

theorem envelope_eq (m : Message) (records : List Bytes) :
    m.envelope records = m.header.toBytes ++ records.flatten := by
  have hcount : UInt8.ofNat m.sender.toBytes.length = 0x41 := by
    rw [P256.Pair.length_toBytes]
    rfl
  rw [envelope, header, Header.toBytes, hcount]

/-- The header of a message is one that can be read when the record size fits. -/
theorem wellFormed_header_iff (m : Message) :
    m.header.WellFormed ↔ 18 ≤ m.recordSize ∧ m.recordSize < 2 ^ 32 := by
  constructor
  · rintro ⟨-, hleast, hfits, -⟩
    exact ⟨hleast, hfits⟩
  · rintro ⟨hleast, hfits⟩
    refine ⟨m.salt.length_eq, hleast, hfits, ?_⟩
    simp only [header, P256.Pair.length_toBytes]
    decide

end Message

/-! ## The records behind the header -/

/-- The last of sealed chunks has room for a tag and a delimiter. -/
theorem Chunk.le_length_of_mem_sealAll {keys : ContentKeys} {number : Nat} {cs : List Chunk}
    {record : Bytes} (h : record ∈ sealAll keys number cs) : 17 ≤ record.length := by
  induction cs generalizing number with
  | nil => cases h
  | cons c rest ih =>
    rw [sealAll, List.mem_cons] at h
    rcases h with rfl | h
    · rw [length_sealed]
      omega
    · exact ih h

/-- Sealed chunks are cut at the record size when they fit it. -/
theorem Message.fits_sealAll_iff {m : Message} {keys : ContentKeys} :
    m.Fits (Chunk.sealAll keys 0 m.chunks) ↔
      m.header.WellFormed ∧ Bytes.Framed m.recordSize (Chunk.sealAll keys 0 m.chunks) := by
  rw [m.wellFormed_header_iff, Bytes.framed_iff]
  constructor
  · rintro ⟨hleast, hfour, hinner, record, hlast, hlong, hshort⟩
    refine ⟨⟨hleast, hfour⟩, hinner, record, hlast, ?_, hshort⟩
    rintro rfl
    simp at hlong
  · rintro ⟨⟨hleast, hfour⟩, hinner, record, hlast, -, hshort⟩
    exact ⟨hleast, hfour, hinner, record, hlast,
      Chunk.le_length_of_mem_sealAll (List.mem_of_getLast? hlast), hshort⟩

/-- **The bodies that open to a message** are its sealed chunks, framed. -/
theorem openBody_eq_ok_iff {keys : ContentKeys} {size : Nat} (hsize : 0 < size) {body text : Bytes} :
    openBody keys size body = .ok text ↔
      ∃ cs, Bytes.Framed size (Chunk.sealAll keys 0 cs) ∧
        body = (Chunk.sealAll keys 0 cs).flatten ∧ text = Chunk.message cs := by
  rw [openBody]
  cases hempty : body.isEmpty with
  | true =>
    rw [List.isEmpty_iff] at hempty
    constructor
    · intro h
      cases h
    · rintro ⟨cs, hframed, hbody, -⟩
      exact absurd (hbody.symm.trans hempty) (hframed.flatten_ne_nil hsize)
  | false =>
    have hne : body ≠ [] := by
      rintro rfl
      cases hempty
    simp only [Bool.false_eq_true, if_false, openRecords_eq_ok_iff, Bytes.pieces_eq_iff hsize hne]
    constructor
    · rintro ⟨cs, ⟨hframed, hflatten⟩, hmessage⟩
      exact ⟨cs, hframed, hflatten.symm, hmessage⟩
    · rintro ⟨cs, hframed, hflatten, hmessage⟩
      exact ⟨cs, ⟨hframed, hflatten.symm⟩, hmessage⟩

/-! ## The whole envelope -/

/-- The faults of an envelope: its form, the sender's key in it, a tag. -/
def DecryptError.OfEnvelope : DecryptError → Prop
  | .envelope _ => True
  | .key e => (∃ n, e = .publicLength n) ∨ e = .notUncompressed ∨ e = .notOnCurve
  | .crypto f => f = .authentication

theorem openBody_eq_error {keys : ContentKeys} {size : Nat} {body : Bytes} {e : DecryptError}
    (h : openBody keys size body = .error e) : e.OfEnvelope := by
  rw [openBody] at h
  split at h
  · injection h with h
    exact h ▸ trivial
  · obtain ⟨f, rfl⟩ | rfl := openRecords_eq_error h
    · trivial
    · rfl

/-- The content keys of the records behind a header, for a receiver's key and secret. The records
themselves have no part in it. -/
def Header.contentKeys (header : Header) (privateKey : KeySource PrivateKey) (auth : Bytes) :
    Except DecryptError ContentKeys := do
  let d ← (PrivateKey.load privateKey).mapError .key
  let secret ← (Octets16.ofSecret auth).mapError .key
  let sender ← (PublicKey.ofBytes header.keyId).mapError .key
  match P256.sharedSecret? d sender with
  | none => .error (.crypto .agreement)
  | some shared =>
    return .derive shared secret.bytes d.publicPoint.toBytes header.keyId header.salt

/-- **Decryption in three steps**: the header, the content keys, and the records. -/
theorem decrypt_eq_bind (envelope : Bytes) (privateKey : KeySource PrivateKey) (auth : Bytes) :
    decrypt envelope privateKey auth = match Header.parse envelope with
      | .error f => .error (.envelope f)
      | .ok header => header.contentKeys privateKey auth >>= fun keys =>
        openBody keys header.recordSize (envelope.drop header.length) := by
  rw [decrypt]
  cases Header.parse envelope with
  | error f => rfl
  | ok header =>
    simp only [Header.contentKeys, bind_assoc]
    show ((PrivateKey.load privateKey).mapError DecryptError.key >>= _) = _
    refine bind_congr fun d => bind_congr fun secret => bind_congr fun sender => ?_
    cases P256.sharedSecret? d sender <;> rfl

/-- With the receiver's key and secret loaded, the envelope decides. -/
theorem decrypt_eq {key : KeySource PrivateKey} {d : P256.Scalar}
    (hkey : PrivateKey.load key = .ok d) (auth : Octets16) (envelope : Bytes) :
    decrypt envelope key auth.bytes = match Header.parse envelope with
      | .error f => .error (.envelope f)
      | .ok header => match PublicKey.ofBytes header.keyId with
        | .error e => .error (.key e)
        | .ok sender => match P256.sharedSecret? d sender with
          | none => .error (.crypto .agreement)
          | some shared =>
            openBody (.derive shared auth.bytes d.publicPoint.toBytes header.keyId header.salt)
              header.recordSize (envelope.drop header.length) := by
  rw [decrypt, hkey, Octets16.ofSecret_bytes]
  cases Header.parse envelope with
  | error f => rfl
  | ok header =>
    simp only [Except.mapError, bind, Except.bind]
    cases PublicKey.ofBytes header.keyId <;> rfl

/-- An envelope that carries a message decrypts to it. -/
theorem Message.IsCarriedBy.decrypt_eq_ok {key : KeySource PrivateKey} {d : P256.Scalar}
    (hkey : PrivateKey.load key = .ok d) {auth : Octets16} {m : Message} {envelope : Bytes}
    (h : m.IsCarriedBy d auth envelope) :
    decrypt envelope key auth.bytes = .ok (Chunk.message m.chunks) := by
  obtain ⟨shared, hshared, hfits, rfl⟩ := h
  obtain ⟨hheader, hframed⟩ := fits_sealAll_iff.1 hfits
  rw [decrypt_eq hkey, m.envelope_eq, hheader.parse_append]
  simp only [hheader.drop_append]
  simp only [header, PublicKey.ofBytes_toBytes, hshared]
  have hsize : 0 < m.recordSize := Nat.lt_of_lt_of_le (by decide) hfits.least
  exact (openBody_eq_ok_iff hsize).2 ⟨m.chunks, hframed, rfl, rfl⟩

/-- What decrypts carries a message. -/
theorem exists_isCarriedBy {key : KeySource PrivateKey} {d : P256.Scalar}
    (hkey : PrivateKey.load key = .ok d) {auth : Octets16} {envelope text : Bytes}
    (h : decrypt envelope key auth.bytes = .ok text) :
    ∃ m : Message, m.IsCarriedBy d auth envelope ∧ Chunk.message m.chunks = text := by
  rw [decrypt_eq hkey] at h
  -- Each check that was passed shows one part of the envelope.
  split at h
  · cases h
  rename_i header hparse
  obtain ⟨hheader, rest, rfl⟩ := Header.parse_eq_ok_iff.1 hparse
  split at h
  · cases h
  rename_i sender hsender
  have hkeyId := PublicKey.ofBytes_eq_ok_iff.1 hsender
  split at h
  · cases h
  rename_i shared hshared
  have hsize : 0 < header.recordSize := Nat.lt_of_lt_of_le (by decide) hheader.least
  rw [hheader.drop_append, openBody_eq_ok_iff hsize] at h
  obtain ⟨cs, hframed, hrest, rfl⟩ := h
  obtain ⟨salt, recordSize, keyId⟩ := header
  simp only at hkeyId hframed hrest hsize
  subst hkeyId hrest
  refine ⟨⟨⟨salt, hheader.salt⟩, recordSize, sender, cs⟩, ⟨shared, hshared, ?_, ?_⟩, rfl⟩
  · exact Message.fits_sealAll_iff.2 ⟨hheader, hframed⟩
  · rw [Message.envelope_eq]
    rfl

/-- What does not decrypt is refused for a fault of the envelope: with the
receiver's own keys in order, agreement always succeeds. -/
theorem decrypt_eq_error {key : KeySource PrivateKey} {d : P256.Scalar}
    (hkey : PrivateKey.load key = .ok d) {auth : Octets16} {envelope : Bytes} {e : DecryptError}
    (h : decrypt envelope key auth.bytes = .error e) : e.OfEnvelope := by
  rw [decrypt_eq hkey] at h
  split at h
  · injection h with h
    exact h ▸ trivial
  split at h
  · rename_i e' hsender
    injection h with h
    subst h
    obtain rfl | rfl | rfl := PublicKey.ofBytes_eq_error hsender
    · exact .inl ⟨_, rfl⟩
    · exact .inr (.inl rfl)
    · exact .inr (.inr rfl)
  rename_i sender _
  obtain ⟨shared, hshared⟩ := P256.exists_sharedSecret? d sender
  rw [hshared] at h
  exact openBody_eq_error h

/-- **Decryption accepts exactly the envelopes that carry a message**, gives
back that message, and refuses every other envelope for a fault of its own. -/
theorem decrypt_eq_ok_iff_isCarriedBy {key : KeySource PrivateKey} {d : P256.Scalar}
    (hkey : PrivateKey.load key = .ok d) (auth : Octets16) (envelope : Bytes) :
    (∀ text, decrypt envelope key auth.bytes = .ok text ↔
      ∃ m : Message, m.IsCarriedBy d auth envelope ∧ Chunk.message m.chunks = text) ∧
    ((∀ m : Message, ¬ m.IsCarriedBy d auth envelope) →
      ∃ e, decrypt envelope key auth.bytes = .error e ∧ e.OfEnvelope) := by
  constructor
  · intro text
    constructor
    · exact exists_isCarriedBy hkey
    · rintro ⟨m, hm, rfl⟩
      exact hm.decrypt_eq_ok hkey
  · intro hnone
    cases h : decrypt envelope key auth.bytes with
    | ok text =>
      obtain ⟨m, hm, -⟩ := exists_isCarriedBy hkey h
      exact absurd hm (hnone m)
    | error e => exact ⟨e, rfl, decrypt_eq_error hkey h⟩

/-- A message of two records with one character in each. -/
def Message.twoRecords : Message where
  salt := .zeros
  recordSize := 18
  sender := P256.generator
  chunks := [⟨[0x61], 0⟩, ⟨[0x62], 0⟩]

theorem Message.fits_twoRecords (keys : ContentKeys) :
    twoRecords.Fits (Chunk.sealAll keys 0 twoRecords.chunks) where
  least := Nat.le_refl 18
  inFour := by decide
  inner := by simp [twoRecords, Chunk.sealAll, Chunk.length_sealed]
  final := by simp [twoRecords, Chunk.sealAll, Chunk.length_sealed]

theorem decrypt_twoRecords :
    PrivateKey.load (.key (.p256 .one)) = .ok .one ∧
      ∃ shared, P256.sharedSecret? .one P256.generator = some shared ∧
        decrypt (Message.twoRecords.envelope
            (Chunk.sealAll (Message.twoRecords.keys .one .zeros shared) 0 Message.twoRecords.chunks))
          (.key (.p256 .one)) Octets16.zeros.bytes = .ok [0x61, 0x62] := by
  obtain ⟨shared, hshared⟩ := P256.exists_sharedSecret? .one P256.generator
  refine ⟨rfl, shared, hshared, ?_⟩
  exact ((decrypt_eq_ok_iff_isCarriedBy rfl .zeros _).1 _).2
    ⟨.twoRecords, ⟨shared, hshared, Message.fits_twoRecords _, rfl⟩, rfl⟩

end WebPush.Envelope
