import WebPush.Envelope.Encrypt
/-!
# Envelope — decrypting a message

An envelope may have any number of records, all of full size but the
last. Each opens under the nonce of its number and ends in a delimiter
that says whether more records follow, with zeros behind it. The texts
before the delimiters make up the message.
-/

namespace WebPush.Envelope

/-- Why an envelope could not be decrypted. -/
inductive DecryptError where
  | envelope (f : Fault)
  | key (e : KeyError)
  | crypto (f : CryptoFault)
deriving DecidableEq, Repr

/-- The wording of a decryption error. -/
def DecryptError.message : DecryptError → String
  | .envelope f => f.message
  | .key e => e.message
  | .crypto f => f.message

/-- The delimiter of a record. -/
def delimiter (last : Bool) : UInt8 := if last then lastDelimiter else innerDelimiter

/-- The text of an opened record, without its delimiter and padding. -/
def unpad (last : Bool) (opened : Bytes) : Except Fault Bytes :=
  let stripped := dropEndWhile (· == 0) opened
  match stripped.getLast? with
  | none => .error .noDelimiter
  | some d => if d = delimiter last then .ok stripped.dropLast else .error .wrongDelimiter

/-- The text of one sealed record. -/
def openRecord (keys : ContentKeys) (number : Nat) (last : Bool) (record : Bytes) :
    Except DecryptError Bytes :=
  if record.length ≤ Gcm.tagLength then .error (.envelope .shortRecord)
  else match Gcm.decrypt? keys.key (ContentKeys.recordNonce keys.nonce number) record with
    | none => .error (.crypto .authentication)
    | some opened => (unpad last opened).mapError .envelope

/-- The texts of the records from a number on, put together. -/
def openRecords (keys : ContentKeys) : (number : Nat) → List Bytes → Except DecryptError Bytes
  | _, [] => .ok []
  | number, record :: rest => do
    let text ← openRecord keys number rest.isEmpty record
    let more ← openRecords keys (number + 1) rest
    return text ++ more

/-- The records behind a header. -/
def openBody (keys : ContentKeys) (recordSize : Nat) (body : Bytes) : Except DecryptError Bytes :=
  if body.isEmpty then .error (.envelope .noRecords)
  else openRecords keys 0 (Bytes.pieces recordSize body)

/-- The message in an envelope, for the browser's private key and
authentication secret. -/
def decrypt (envelope : Bytes) (privateKey : KeySource PrivateKey) (auth : Bytes) :
    Except DecryptError Bytes := do
  let header ← (Header.parse envelope).mapError .envelope
  let d ← (PrivateKey.load privateKey).mapError .key
  let secret ← (Octets16.ofSecret auth).mapError .key
  let sender ← (PublicKey.ofBytes header.keyId).mapError .key
  match P256.sharedSecret? d sender with
  | none => .error (.crypto .agreement)
  | some shared =>
    let receiver := d.publicPoint.toBytes
    let keys := ContentKeys.derive shared secret.bytes receiver header.keyId header.salt
    openBody keys header.recordSize (envelope.drop header.length)

end WebPush.Envelope
