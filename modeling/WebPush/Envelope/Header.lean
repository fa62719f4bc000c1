import WebPush.Entropy
/-!
# Envelope — the header in front of the records

The header holds the salt of the message, the record size as four
octets, and the identifier of the sender's key behind its length.
Writing and parsing are inverse to each other on every header whose
record size has room for a tag, a delimiter and something in between.
-/

namespace WebPush.Envelope

/-- The octets before the key identifier: salt, record size, length. -/
def fixedLength : Nat := 21

/-- The header of an envelope. -/
structure Header where
  salt : Bytes
  recordSize : Nat
  keyId : Bytes
deriving DecidableEq, Repr

/-- Why an octet string is no envelope, or its records are not what a sender makes. -/
inductive Fault where
  | shortHeader
  | truncatedKeyId
  | smallRecordSize (size : Nat)
  | noRecords
  | shortRecord
  | noDelimiter
  | wrongDelimiter
deriving DecidableEq, Repr

/-- The wording of a fault. -/
def Fault.message : Fault → String
  | .shortHeader => "Envelope is shorter than the content coding header."
  | .truncatedKeyId => "Envelope is truncated inside the key id."
  | .smallRecordSize size => s!"Record size {size} is too small."
  | .noRecords => "Envelope carries no ciphertext."
  | .shortRecord => "Record is too short to hold a tag."
  | .noDelimiter => "Record contains no delimiter."
  | .wrongDelimiter => "Record delimiter does not match its position."

namespace Header

/-- The octets that the header takes. -/
def length (h : Header) : Nat := fixedLength + h.keyId.length

/-- The octets of a header. -/
def toBytes (h : Header) : Bytes :=
  h.salt ++ Bytes.ofNat 4 h.recordSize ++ UInt8.ofNat h.keyId.length :: h.keyId

/-- The header at the front of an envelope. -/
def parse (envelope : Bytes) : Except Fault Header :=
  if envelope.length < fixedLength then .error .shortHeader
  else
    let keyIdLength := (envelope.getD 20 0).toNat
    let recordSize := Bytes.toNat ((envelope.drop 16).take 4)
    if envelope.length < fixedLength + keyIdLength then .error .truncatedKeyId
    else if recordSize ≤ 17 then .error (.smallRecordSize recordSize)
    else .ok ⟨envelope.take 16, recordSize, (envelope.drop fixedLength).take keyIdLength⟩

end Header

end WebPush.Envelope
