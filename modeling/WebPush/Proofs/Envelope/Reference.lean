import WebPush.Proofs.Envelope.Effects
/-!
# Envelope — what the standards say it is

The layout of an envelope is that of RFC 8188 with a single record, its
keys are those of RFC 8291, derived as in RFC 5869. This module writes
the three down as formulas over the keyed digest and the cipher, and
proves that encrypting gives the octets that the formulas give. Reading
alone could not tell: a reader that shares a wrong layout with its
writer reads everything back.
-/

namespace WebPush

/-! ## Deriving keys -/

namespace Hkdf

/-- The output blocks of an expansion, each the keyed digest of the one before it, the info string
and its own number. The block before the first one is empty. -/
def block (key info : Bytes) : Nat → Bytes
  | 0 => []
  | number + 1 => Hmac.digest key (block key info number ++ info ++ [UInt8.ofNat (number + 1)])

/-- `length` octets of key material: the front of the blocks that it takes, under the key that is
the digest of the input material keyed with the salt. -/
def reference (salt material info : Bytes) (length : Nat) : Bytes :=
  ((List.range ((length + 31) / 32)).flatMap fun index =>
    block (Hmac.digest salt material) info (index + 1)).take length

/-- The blocks that are made one after the other are those with the numbers that follow. -/
theorem blocks_block (key info : Bytes) (count index : Nat) :
    blocks key info count index (block key info index) =
      (List.range' index count).flatMap fun index => block key info (index + 1) := by
  induction count generalizing index with
  | zero => rfl
  | succ count ih => rw [blocks, List.range'_succ, List.flatMap_cons, ← ih (index + 1)]; rfl

/-- **Deriving follows the formula**, for every length. -/
theorem derive_eq_reference (salt material info : Bytes) (length : Nat) :
    derive salt material info length = reference salt material info length := by
  rw [derive, expand, extract, reference, List.range_eq_range', ← blocks_block]
  rfl

end Hkdf

/-! ## Sealing -/

namespace Gcm

/-- A sealed text with a tag that also covers data beside the text. -/
def sealBeside (associated key nonce text : Bytes) : Bytes :=
  let keys := Aes128.roundKeys key
  let masked := maskText keys nonce text
  let hashKey := Ghash.Element.ofBytes (Aes128.encryptWith keys (List.replicate 16 0))
  let lengths := Bytes.ofNat 8 (associated.length * 8) ++ Bytes.ofNat 8 (masked.length * 8)
  let sum := Ghash.hash hashKey
    (Bytes.pieces 16 associated ++ Bytes.pieces 16 masked ++ [lengths])
  masked ++ (sum.add (.ofBytes (Aes128.encryptWith keys (counterBlock nonce 1)))).toBytes

/-- Sealing covers no data beside the text. -/
theorem encrypt_eq_sealBeside (key nonce text : Bytes) :
    encrypt key nonce text = sealBeside [] key nonce text := rfl

end Gcm

namespace Envelope

/-! ## The envelope -/

/-- The octets of an ASCII text. -/
def asciiBytes (text : String) : Bytes := text.toList.map fun c => UInt8.ofNat c.toNat

/-- A number in four octets, the most significant one first. -/
def fourOctets (n : Nat) : Bytes :=
  [UInt8.ofNat (n / 2 ^ 24), UInt8.ofNat (n / 2 ^ 16), UInt8.ofNat (n / 2 ^ 8), UInt8.ofNat n]

/-- **The envelope according to the standards**, for a receiver's point, the sender's point, the
first coordinate that both agree on, the browser's secret and the salt of the message. -/
def reference (receiver sender : P256.Point) (agreed : Nat) (auth salt payload : Bytes)
    (padding : Nat) : Bytes :=
  let shared := Bytes.ofNat 32 agreed
  let info := asciiBytes "WebPush: info" ++ 0 :: (receiver.toBytes ++ sender.toBytes)
  let material := Hkdf.reference auth shared info 32
  let key := Hkdf.reference salt material (asciiBytes "Content-Encoding: aes128gcm" ++ [0]) 16
  let nonce := Hkdf.reference salt material (asciiBytes "Content-Encoding: nonce" ++ [0]) 12
  salt ++ fourOctets (max 4096 (payload.length + padding + 17)) ++ 0x41 :: sender.toBytes ++
    Gcm.sealBeside [] key nonce (payload ++ 0x02 :: List.replicate padding 0)

theorem ofNat_four (n : Nat) : Bytes.ofNat 4 n = fourOctets n := by
  have hlow (m : Nat) : UInt8.ofNat (m % 256) = UInt8.ofNat m := UInt8.ofNat_mod_size
  simp only [Bytes.ofNat, hlow, Nat.div_div_eq_div_mul, List.nil_append, List.cons_append]
  rfl

/-- **An envelope is assembled according to the standards.** -/
theorem assemble_eq_reference (receiver sender : P256.Point) (agreed : Nat) (auth salt : Octets16)
    (payload : Bytes) (padding : Nat) :
    assemble receiver auth sender (Bytes.ofNat P256.width agreed) salt payload padding =
      reference receiver sender agreed auth.bytes salt.bytes payload padding := by
  have hinfo : keyInfo ++ receiver.toBytes ++ sender.toBytes =
      asciiBytes "WebPush: info" ++ 0 :: (receiver.toBytes ++ sender.toBytes) := by
    have hfront : keyInfo = asciiBytes "WebPush: info" ++ [0] := by decide +kernel
    rw [hfront, List.append_assoc, List.append_assoc, List.singleton_append]
  have hkey : contentKeyInfo = asciiBytes "Content-Encoding: aes128gcm" ++ [0] := by
    decide +kernel
  have hnonce : nonceInfo = asciiBytes "Content-Encoding: nonce" ++ [0] := by decide +kernel
  simp only [assemble, ContentKeys.derive, Header.toBytes, length_encrypt_paddedText, hinfo, hkey,
    hnonce, Hkdf.derive_eq_reference, ofNat_four, P256.Pair.length_toBytes]
  rw [Gcm.encrypt_eq_sealBeside]
  rfl

/-! ## Encrypting -/

variable {recipient : KeySource PublicKey} {receiver : P256.Point} {payload : Bytes}
  {padding : Int}

/-- There is room for a payload with its padding, if the text they make is not too long. -/
theorem le_maxPlaintext (hpadding : 0 ≤ padding)
    (hroom : (payload.length : Int) + 1 + padding ≤ 2 ^ 31 - 1) :
    payload.length + 1 + padding.toNat ≤ maxPlaintext := by
  rw [maxPlaintext]
  omega

/-- What encrypting comes to where one record has room for the payload. -/
theorem exists_encrypt_eq (hrecipient : PublicKey.load recipient = .ok receiver)
    (auth : Octets16) (hpadding : 0 ≤ padding)
    (hroom : (payload.length : Int) + 1 + padding ≤ 2 ^ 31 - 1) (trace : Trace) :
    let scalar := trace.entropy.drawScalar.1
    let salt := trace.entropy.drawScalar.2.drawSalt.1
    ∃ (agreed : P256.Point) (after : Trace), agreed.toGroup = scalar.val • receiver.toGroup ∧
      encrypt payload recipient auth.bytes padding trace =
        (.ok ⟨assemble receiver auth scalar.publicPoint (Bytes.ofNat P256.width agreed.x) salt
          payload padding.toNat, salt, scalar.publicPoint⟩, after) := by
  intro scalar salt
  have hfits := le_maxPlaintext hpadding hroom
  obtain ⟨agreed, hagreed, hshared⟩ := P256.exists_sharedSecret?_eq scalar receiver
  have hencrypt : encrypt payload recipient auth.bytes padding trace =
      encryptFor payload receiver auth padding.toNat trace := by
    simp only [encrypt, if_neg (Int.not_lt.2 hpadding), hrecipient, Octets16.ofSecret_bytes]
  exact ⟨agreed, _, hagreed,
    hencrypt.trans (encryptFor_eq_ok rfl rfl hshared auth hfits)⟩

/-- **The header of an envelope** is made of the salt, the sender's point and the common length of
payload and padding. -/
theorem take_assemble (sender : P256.Point) (shared : Bytes) (auth salt : Octets16) (padding : Nat) :
    (assemble receiver auth sender shared salt payload padding).take 86 =
      (Header.mk salt.bytes (max defaultRecordSize (payload.length + padding + 17))
        sender.toBytes).toBytes := by
  simp only [assemble, length_encrypt_paddedText]
  refine List.take_left' ?_
  rw [Header.length_toBytes salt.length_eq, Header.length, P256.Pair.length_toBytes]
  rfl

/-- **Encrypting gives what the standards say**, for every payload and padding that one record has
room for: the octets of the envelope are those of the formulas for the multiples of the generator
and of the receiver's point by the scalar that was drawn, and for the salt that was drawn. The
record size fits into its four octets and the record into it; what is read off the header is what
is returned beside the envelope. Payloads that are as long with their padding give envelopes that
are as long and begin with the same header. -/
theorem encrypt_eq_reference (hrecipient : PublicKey.load recipient = .ok receiver)
    (auth : Octets16) (payload : Bytes) (padding : Int) (hpadding : 0 ≤ padding)
    (hroom : (payload.length : Int) + 1 + padding ≤ 2 ^ 31 - 1) (trace : Trace) :
    let scalar := trace.entropy.drawScalar.1
    let salt := trace.entropy.drawScalar.2.drawSalt.1
    let size := max 4096 (payload.length + padding.toNat + 17)
    ∃ (sender agreed : P256.Point) (encrypted : Encrypted) (after : Trace),
      sender.toGroup = scalar.val • P256.generator.toGroup ∧
      agreed.toGroup = scalar.val • receiver.toGroup ∧
      encrypt payload recipient auth.bytes padding trace = (.ok encrypted, after) ∧
      encrypted.envelope = reference receiver sender agreed.x auth.bytes salt.bytes payload
        padding.toNat ∧
      encrypted.salt = salt ∧ encrypted.senderKey = sender ∧
      encrypted.envelope.length = payload.length + padding.toNat + 103 ∧
      size < 2 ^ 32 ∧ (encrypted.envelope.drop 86).length ≤ size ∧
      (∃ header, Header.parse encrypted.envelope = .ok header ∧
        header.salt = encrypted.salt.bytes ∧ header.recordSize = size ∧
        header.keyId = encrypted.senderKey.toBytes ∧ header.length = 86) ∧
      ∀ (recipient' : KeySource PublicKey) (payload' : Bytes) (padding' : Int) (trace' : Trace),
        PublicKey.load recipient' = .ok receiver → 0 ≤ padding' →
        payload'.length + padding' = payload.length + padding →
        trace'.entropy = trace.entropy → ∃ encrypted' after',
          encrypt payload' recipient' auth.bytes padding' trace' = (.ok encrypted', after') ∧
          encrypted'.envelope.length = encrypted.envelope.length ∧
          encrypted'.envelope.take 86 = encrypted.envelope.take 86 := by
  intro scalar salt size
  -- The envelope is known as assembled; the formulas and the header are facts about that.
  obtain ⟨agreed, after, hagreed, hencrypt⟩ :=
    exists_encrypt_eq hrecipient auth hpadding hroom trace
  have hfits := le_maxPlaintext hpadding hroom
  refine ⟨scalar.publicPoint, agreed, _, after, P256.toGroup_publicPoint scalar, hagreed, hencrypt,
    assemble_eq_reference receiver _ agreed.x auth salt payload padding.toNat, rfl, rfl,
    length_assemble .., by omega, ?_, ⟨_, parse_assemble receiver auth _ _ salt hfits, rfl, rfl,
      rfl, ?_⟩, ?_⟩
  · rw [List.length_drop, length_assemble]
    omega
  · rw [Header.length, P256.Pair.length_toBytes]
    rfl
  · intro recipient' payload' padding' trace' hrecipient' hpadding' hsame hentropy
    have hroom' : (payload'.length : Int) + 1 + padding' ≤ 2 ^ 31 - 1 := by omega
    obtain ⟨agreed', after', -, hencrypt'⟩ :=
      exists_encrypt_eq hrecipient' auth hpadding' hroom' trace'
    have hlength : payload'.length + padding'.toNat = payload.length + padding.toNat := by omega
    rw [hentropy] at hencrypt'
    refine ⟨_, after', hencrypt', ?_, ?_⟩
    · rw [length_assemble, length_assemble, hlength]
    · rw [take_assemble, take_assemble, hlength]

/-- A short payload with little padding, and one with as much padding as there is room for. -/
theorem encrypt_eq_reference_limits :
    let trace := Trace.start ⟨fun _ => .one, fun _ => .zeros, 0, 0⟩
    let recipient : KeySource PublicKey := .encoded (.raw P256.Scalar.one.publicPoint.toBytes)
    let yields (payload : Bytes) (padding : Int) (recordSize length : Nat) : Prop :=
      ∃ encrypted after header,
        encrypt payload recipient Octets16.zeros.bytes padding trace = (.ok encrypted, after) ∧
          Header.parse encrypted.envelope = .ok header ∧ header.recordSize = recordSize ∧
          encrypted.envelope.length = length
    PublicKey.load recipient = .ok P256.Scalar.one.publicPoint ∧
      yields [0x61, 0x02, 0x00] 2 4096 108 ∧
      yields [0x61] (2 ^ 31 - 3) (2 ^ 31 + 15) (2 ^ 31 + 101) := by
  intro trace recipient yields
  have hrecipient : PublicKey.load recipient = .ok P256.Scalar.one.publicPoint :=
    PublicKey.load_raw _
  refine ⟨hrecipient, ?_, ?_⟩
  · obtain ⟨-, -, encrypted, after, -, -, hencrypt, -, -, -, hlength, -, -,
      ⟨header, hparse, -, hsize, -⟩, -⟩ := encrypt_eq_reference hrecipient .zeros
        [0x61, 0x02, 0x00] 2 (by decide) (by decide) trace
    exact ⟨encrypted, after, header, hencrypt, hparse, hsize, hlength⟩
  · obtain ⟨-, -, encrypted, after, -, -, hencrypt, -, -, -, hlength, -, -,
      ⟨header, hparse, -, hsize, -⟩, -⟩ := encrypt_eq_reference hrecipient .zeros
        [0x61] (2 ^ 31 - 3) (by decide) (by decide) trace
    have hpadding : (2 ^ 31 - 3 : Int).toNat = 2147483645 := by decide
    rw [hpadding] at hsize hlength
    exact ⟨encrypted, after, header, hencrypt, hparse, hsize, hlength⟩

end Envelope

end WebPush
