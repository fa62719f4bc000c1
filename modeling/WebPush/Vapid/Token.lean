import WebPush.Curve.Ecdsa
import WebPush.Json.Reader
import WebPush.Key.Codec
import WebPush.Seconds
import WebPush.Text.Split
/-!
# VAPID — verifying tokens

A token has a header, a payload and a signature, joined by dots, each in
strict base64url. Verification looks at the form of all three, then at
what the header demands, then at the signature over the very text it has
read, and only then at the claims. Audience and expiry are left to the
caller.
-/

namespace WebPush.Vapid

/-- Why a token was rejected. -/
inductive TokenFault where
  | segments
  | headerPadding
  | headerJson (f : Json.Fault)
  | headerNotObject
  | detachedPayload
  | payloadPadding
  | signaturePadding
  | keyId
  | criticalList
  | criticalNames
  | criticalUnsupported (name : String)
  | criticalMissing (name : String)
  | undeclaredDetachment
  | noDetachedPayload
  | noAlgorithm
  | algorithm
  | signature
  | payloadJson (f : Json.Fault)
  | payloadNotObject
  | issuedAt
  | issuedInFuture
  | notBefore
  | notYetValid
  | subject
  | tokenId
deriving DecidableEq, Repr

/-- The wording of a fault, without the remark that the token was rejected. Of a text that could
not be read, be it malformed, nested too deeply or with too long an integer in it, only the place
is worded. -/
def TokenFault.reason : TokenFault → String
  | .segments => "Not enough segments"
  | .headerPadding => "Invalid header padding"
  | .headerJson _ => "Invalid header string: "
  | .headerNotObject => "Invalid header string: must be a json object"
  | .detachedPayload => "Payload segment must be empty when 'b64' is false."
  | .payloadPadding => "Invalid payload padding"
  | .signaturePadding => "Invalid crypto padding"
  | .keyId => "Key ID header parameter must be a string"
  | .criticalList => "Invalid 'crit' header: must be a non-empty list"
  | .criticalNames => "Invalid 'crit' header: values must be strings"
  | .criticalUnsupported name => "Unsupported critical extension: " ++ name
  | .criticalMissing name => "Critical extension '" ++ name ++ "' is missing from headers"
  | .undeclaredDetachment => "The 'b64' header parameter requires 'b64' to be listed in 'crit'."
  | .noDetachedPayload =>
    "It is required that you pass in a value for the \"detached_payload\" argument to decode a " ++
      "message having the b64 header set to false."
  | .noAlgorithm => "Algorithm not specified"
  | .algorithm => "The specified alg value is not allowed"
  | .signature => "Signature verification failed"
  | .payloadJson _ => "Invalid payload string: "
  | .payloadNotObject => "Invalid payload string: must be a json object"
  | .issuedAt => "Issued At claim (iat) must be an integer."
  | .issuedInFuture => "The token is not yet valid (iat)"
  | .notBefore => "Not Before claim (nbf) must be an integer."
  | .notYetValid => "The token is not yet valid (nbf)"
  | .subject => "Subject must be a string"
  | .tokenId => "JWT ID must be a string"

/-- The wording of a fault. -/
def TokenFault.message (f : TokenFault) : String := "VAPID token rejected: " ++ f.reason

/-- Why a verification gave no claims. -/
inductive VerifyError where
  | key (e : KeyError)
  | token (f : TokenFault)
deriving DecidableEq, Repr

/-! ## Form -/

/-- The octets of a segment. Padding is allowed only where it fills the last
group of four, and the unused bits of the last character are zero. -/
def decodeSegment? (cs : List Char) : Option Bytes :=
  let body := dropEndWhile (· == '=') cs
  let padding := cs.length - body.length
  if padding = 0 ∨ (padding ≤ 2 ∧ cs.length % 4 = 0) then
    (Base64Url.decodeStrict? body).bind fun bs =>
      if Base64Url.encodeChars bs = body then some bs else none
  else none

/-- The three segments of a token. The payload segment may hold dots. -/
structure Segments where
  header : List Char
  payload : List Char
  signature : List Char
deriving DecidableEq, Repr

/-- The segments of a token: the signature behind its last dot, the header
before its first. -/
def Segments.ofToken? (token : List Char) : Option Segments :=
  (Text.splitLast? '.' token).bind fun (input, signature) =>
    (Text.splitFirst? '.' input).map fun (header, payload) => ⟨header, payload, signature⟩

/-- The text that the signature covers. -/
def Segments.signedText (s : Segments) : List Char := s.header ++ '.' :: s.payload

/-- The members of a JSON object in octets. -/
def readObject (depth : Json.Depth) (bs : Bytes) (malformed : Json.Fault → TokenFault)
    (other : TokenFault) : Except TokenFault Json.Members :=
  match Json.readBytes depth bs with
  | .error f => .error (malformed f)
  | .ok (.object members) => .ok members
  | .ok _ => .error other

/-- The header says that the payload is not part of the token. -/
def isDetached (header : Json.Members) : Bool :=
  match header.find? "b64" with
  | some (.bool false) => true
  | _ => false

/-! ## Demands of the header -/

/-- The identifier of the key, if there is one, is a string. -/
def checkKeyId (header : Json.Members) : Except TokenFault Unit :=
  match header.find? "kid" with
  | none | some (.string _) => .ok ()
  | some _ => .error .keyId

/-- Every name in the list of critical parameters is one that verification
knows and that the header has. -/
def checkCriticalNames (header : Json.Members) : List Json → Except TokenFault Unit
  | [] => .ok ()
  | .string name :: rest =>
    if name ≠ "b64" then .error (.criticalUnsupported name)
    else if (header.find? name).isNone then .error (.criticalMissing name)
    else checkCriticalNames header rest
  | _ :: _ => .error .criticalNames

/-- The list of critical parameters, if there is one, is a list of names that can be honoured. -/
def checkCritical (header : Json.Members) : Except TokenFault Unit :=
  match header.find? "crit" with
  | none => .ok ()
  | some (.array []) => .error .criticalList
  | some (.array names) => checkCriticalNames header names
  | some _ => .error .criticalList

/-- A payload that is not part of the token is never at hand. -/
def checkDetached (header : Json.Members) : Except TokenFault Unit :=
  if isDetached header then
    .error (if (header.find? "crit").isSome then .noDetachedPayload else .undeclaredDetachment)
  else .ok ()

/-- The algorithm is the one and only. -/
def checkAlgorithm (header : Json.Members) : Except TokenFault Unit :=
  match header.find? "alg" with
  | none => .error .noAlgorithm
  | some (.string "ES256") => .ok ()
  | some _ => .error .algorithm

/-- The signature is right for the text it covers. -/
def checkSignature (P : P256.Point) (segments : Segments) (octets : Bytes) :
    Except TokenFault Unit :=
  match Ecdsa.Signature.ofBytes? octets with
  | none => .error .signature
  | some σ =>
    if Ecdsa.verify P (Utf8.encodeChars segments.signedText) σ then .ok () else .error .signature

/-! ## Claims -/

/-- The whole seconds that a claim names: a number, a truth value, or an
integer in a string. -/
def claimSeconds? : Json → Option Int
  | .int n => some n
  | .bool b => some (if b then 1 else 0)
  | .real x => (Seconds.toInt (.real x)).toOption
  | .string s => (Number.readInt s.toList).toOption
  | _ => none

/-- A claim names a second that is not in the future. -/
def checkTime (claims : Json.Members) (name : String) (now : Seconds)
    (malformed future : TokenFault) : Except TokenFault Unit :=
  match claims.find? name with
  | none => .ok ()
  | some value =>
    match claimSeconds? value with
    | none => .error malformed
    | some second => if now.isBefore second then .error future else .ok ()

/-- A claim, if present, is a string. -/
def checkText (claims : Json.Members) (name : String) (fault : TokenFault) :
    Except TokenFault Unit :=
  match claims.find? name with
  | none | some (.string _) => .ok ()
  | some _ => .error fault

/-- The claims that verification judges. -/
def checkClaims (claims : Json.Members) (now : Seconds) : Except TokenFault Unit := do
  checkTime claims "iat" now .issuedAt .issuedInFuture
  checkTime claims "nbf" now .notBefore .notYetValid
  checkText claims "sub" .subject
  checkText claims "jti" .tokenId

/-! ## Verification -/

/-- The octets of the payload segment; none may be there if the payload is detached. -/
def payloadOctets (header : Json.Members) (payload : List Char) : Except TokenFault Bytes :=
  if isDetached header then
    if payload.isEmpty then .ok [] else .error .detachedPayload
  else match decodeSegment? payload with
    | none => .error .payloadPadding
    | some bs => .ok bs

/-- The octets of a segment, or a fault. -/
def segmentOctets (cs : List Char) (fault : TokenFault) : Except TokenFault Bytes :=
  match decodeSegment? cs with
  | none => .error fault
  | some bs => .ok bs

/-- The claims of a token that is valid for a public point. -/
def verifyText (depth : Json.Depth) (token : List Char) (P : P256.Point) (now : Seconds) :
    Except TokenFault Json.Members := do
  let segments ← match Segments.ofToken? token with
    | none => .error .segments
    | some segments => .ok segments
  let headerOctets ← segmentOctets segments.header .headerPadding
  let header ← readObject depth headerOctets .headerJson .headerNotObject
  let payload ← payloadOctets header segments.payload
  let signature ← segmentOctets segments.signature .signaturePadding
  checkKeyId header
  checkCritical header
  checkDetached header
  checkAlgorithm header
  checkSignature P segments signature
  let claims ← readObject depth payload .payloadJson .payloadNotObject
  checkClaims claims now
  return claims

/-- The claims of a token that is valid for a public key. -/
def verify (depth : Json.Depth) (token : String) (key : KeySource PublicKey) (now : Seconds) :
    Except VerifyError Json.Members :=
  match PublicKey.load key with
  | .error e => .error (.key e)
  | .ok P => (verifyText depth token.toList P now).mapError .token

end WebPush.Vapid
