import WebPush.Cipher.Gcm
import WebPush.CryptoFault
import WebPush.Envelope.Header
import WebPush.Envelope.Keys
import WebPush.Key.Codec
import WebPush.Trace
/-!
# Envelope — encrypting a message

A message becomes a single record: the payload, the delimiter of the
last record, and zeros as padding. The record size grows with the
payload, so one record always suffices. Each message has a fresh key of
its own and a fresh salt; `Envelope.assemble` is the part that is a
function of them, `Envelope.encrypt` draws them and keeps the log.
-/

namespace WebPush

namespace Envelope

/-- The name of the content coding. -/
def contentEncoding : String := "aes128gcm"

/-- The record size of messages that fit into it. -/
def defaultRecordSize : Nat := 4096

/-- The longest text that one record can hold. -/
def maxPlaintext : Nat := 0x7FFFFFFF

/-- The delimiter of the last record. -/
def lastDelimiter : UInt8 := 0x02

/-- The delimiter of every other record. -/
def innerDelimiter : UInt8 := 0x01

/-- Why a message could not be encrypted. -/
inductive EncryptError where
  | negativePadding
  | key (e : KeyError)
  | crypto (f : CryptoFault)
deriving DecidableEq, Repr

/-- The wording of an encryption error. -/
def EncryptError.message : EncryptError → String
  | .negativePadding => "padding_length must be zero or positive."
  | .key e => e.message
  | .crypto f => f.message

/-- An encrypted message: the envelope, its salt and the sender's key. -/
structure Encrypted where
  envelope : Bytes
  salt : Octets16
  senderKey : P256.Point

/-- The text of the only record. -/
def paddedText (payload : Bytes) (padding : Nat) : Bytes :=
  payload ++ lastDelimiter :: List.replicate padding 0

/-- The envelope of a payload, given the shared secret of both sides. -/
def assemble (recipient : P256.Point) (auth : Octets16) (sender : P256.Point)
    (sharedSecret : Bytes) (salt : Octets16) (payload : Bytes) (padding : Nat) : Bytes :=
  let keys := ContentKeys.derive sharedSecret auth.bytes recipient.toBytes sender.toBytes salt.bytes
  let record := Gcm.encrypt keys.key keys.nonce (paddedText payload padding)
  let header : Header := ⟨salt.bytes, max defaultRecordSize record.length, sender.toBytes⟩
  header.toBytes ++ record

/-- The record about an encrypted message. -/
def encryptedRecord (payload : Bytes) (padding : Nat) (envelope : Bytes) : Log.Record where
  source := "vapidpush.notifications.encryption"
  level := .debug
  message := "Encrypted push payload plaintext_bytes=" ++ toString payload.length ++
    " padding=" ++ toString padding ++ " envelope_bytes=" ++ toString envelope.length

/-- A payload encrypted for a browser's key, which is known to be on P-256. -/
def encryptFor (payload : Bytes) (recipient : P256.Point) (auth : Octets16) (padding : Nat) :
    Traced EncryptError Encrypted := fun trace =>
  let (ephemeral, entropy) := trace.entropy.drawScalar
  match P256.sharedSecret? ephemeral recipient with
  | none => (.error (.crypto .agreement), { trace with entropy })
  | some secret =>
    let (salt, entropy) := entropy.drawSalt
    let trace := { trace with entropy }
    if maxPlaintext < payload.length + 1 + padding then (.error (.crypto .sealing), trace)
    else
      let sender := ephemeral.publicPoint
      let envelope := assemble recipient auth sender secret salt payload padding
      (.ok ⟨envelope, salt, sender⟩, trace.note (encryptedRecord payload padding envelope))

/-- A payload encrypted for a browser's key and authentication secret. -/
def encrypt (payload : Bytes) (recipient : KeySource PublicKey) (auth : Bytes) (padding : Int) :
    Traced EncryptError Encrypted := fun trace =>
  if padding < 0 then (.error .negativePadding, trace)
  else match PublicKey.load recipient with
    | .error e => (.error (.key e), trace)
    | .ok point =>
      match Octets16.ofSecret auth with
      | .error e => (.error (.key e), trace)
      | .ok secret => encryptFor payload point secret padding.toNat trace

end Envelope

end WebPush
