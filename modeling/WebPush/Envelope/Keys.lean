import WebPush.Entropy
import WebPush.Hash.Hmac
import WebPush.Text.Utf8
/-!
# Envelope — the keys of one message

Sender and browser agree on a shared secret. It is mixed with the
browser's authentication secret and both public keys, and under the salt
of the message it yields the content key and the base nonce. The nonce
of a record is the base nonce with the record's number added bit by bit.
-/

namespace WebPush.Envelope

/-- The content key and the base nonce of a message. -/
structure ContentKeys where
  key : Bytes
  nonce : Bytes
deriving DecidableEq, Repr

/-- The info string in front of the two public keys. -/
def keyInfo : Bytes := Utf8.encode "WebPush: info" ++ [0]

/-- The info string of the content key. -/
def contentKeyInfo : Bytes := Utf8.encode "Content-Encoding: aes128gcm" ++ [0]

/-- The info string of the nonce. -/
def nonceInfo : Bytes := Utf8.encode "Content-Encoding: nonce" ++ [0]

/-- The keys of a message. `receiver` and `sender` are the public keys in
their uncompressed form. -/
def ContentKeys.derive (sharedSecret auth receiver sender salt : Bytes) : ContentKeys :=
  let material := Hkdf.derive auth sharedSecret (keyInfo ++ receiver ++ sender) 32
  ⟨Hkdf.derive salt material contentKeyInfo 16, Hkdf.derive salt material nonceInfo 12⟩

/-- The nonce of the record with a given number. -/
def ContentKeys.recordNonce (base : Bytes) (number : Nat) : Bytes :=
  Bytes.ofNat 12 (Bytes.toNat base ^^^ number)

@[simp] theorem ContentKeys.length_recordNonce (base : Bytes) (number : Nat) :
    (recordNonce base number).length = 12 := by
  simp [recordNonce]

end WebPush.Envelope
