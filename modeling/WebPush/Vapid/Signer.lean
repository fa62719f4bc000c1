import WebPush.CryptoFault
import WebPush.Curve.Ecdsa
import WebPush.Json.Printer
import WebPush.Key.Codec
import WebPush.Number.Literal
import WebPush.Seconds
import WebPush.Text.Split
import WebPush.Text.Utf8
import WebPush.Trace
/-!
# VAPID — signing tokens for push services

A token names the origin of a push service, an expiry twelve hours out
and a contact of the sender, and is signed with the sender's key. A
`Signer` is a sender whose contact and keys have been checked, so the
only thing left to go wrong at signing is the audience or the clock.
-/

namespace WebPush.Vapid

/-- How long a token is valid, in seconds. -/
def lifetime : Int := 43200

/-- The contact is a mail address or a secure page. -/
def isContact (subject : String) : Bool :=
  Text.startsWith subject "mailto:" || Text.startsWith subject "https:"

/-- Why a sender's identity was refused. -/
inductive SignerError where
  | subject
  | keyPairMismatch
  | key (e : KeyError)
deriving DecidableEq, Repr

/-- The wording about keys that do not belong together. -/
def keyPairMismatchMessage : String :=
  "VAPID private key does not correspond to the configured public key."

/-- The wording of such a refusal. -/
def SignerError.message : SignerError → String
  | .subject => "VAPID subject must be a mailto: or https: URI."
  | .keyPairMismatch => keyPairMismatchMessage
  | .key e => e.message

/-- A sender: a contact and a private scalar, from which the public key follows. -/
structure Signer where
  subject : String
  scalar : P256.Scalar
  subject_isContact : isContact subject = true

/-- Why a token could not be signed. -/
inductive SignError where
  | audience
  | clock (f : SecondsFault)
  | crypto (f : CryptoFault)
deriving DecidableEq, Repr

/-- The wording of a signing error. -/
def SignError.message : SignError → String
  | .audience => "VAPID audience must be an origin such as https://push.example.net."
  | .clock f => f.message
  | .crypto f => f.message

/-- A signed token and the text of the key that verifies it. -/
structure Token where
  text : String
  publicKey : String
deriving DecidableEq, Repr

namespace Token

/-- The value of the authorization header. -/
def authorization (t : Token) : String := "vapid t=" ++ t.text ++ ",k=" ++ t.publicKey

/-- The sender's part of the key header. -/
def cryptoKey (t : Token) : String := "p256ecdsa=" ++ t.publicKey

end Token

/-- A key header with one more part. -/
def mergeCryptoKey (existing : Option String) (contribution : String) : String :=
  match existing with
  | some value => if value.isEmpty then contribution else value ++ ";" ++ contribution
  | none => contribution

/-! ## The text of a token -/

/-- The header of every token. -/
def headerText : List Char :=
  Json.printObject .compact
    [("alg", Json.printString "ES256"), ("typ", Json.printString "JWT")]

/-- The claims of a token. -/
def claimsText (audience : String) (expiry : Int) (subject : String) : List Char :=
  Json.printObject .compact
    [("aud", Json.printString audience), ("exp", Json.printInt expiry),
      ("sub", Json.printString subject)]

/-- The segment of a token that holds a text. -/
def segment (cs : List Char) : List Char := Base64Url.encodeChars (Utf8.encodeChars cs)

/-- The part of a token that the signature covers. -/
def signingInput (audience : String) (expiry : Int) (subject : String) : List Char :=
  segment headerText ++ '.' :: segment (claimsText audience expiry subject)

namespace Signer

/-- The sender of a key pair and a contact. The contact is checked first,
then whether the keys belong together, then their curve. -/
def ofKeyPair (pair : KeyPair) (subject : String) : Except SignerError Signer :=
  if h : isContact subject = true then
    if pair.Consistent then
      match pair.privateKey with
      | .p256 d => .ok ⟨subject, d, h⟩
      | .foreign key => .error (.key (.foreignPublicKey key.curve))
    else .error .keyPairMismatch
  else .error .subject

/-- The public key in text form. -/
def publicKeyText (s : Signer) : String := Base64Url.encode s.scalar.publicPoint.toBytes

/-- The token for an audience with a given expiry. -/
def tokenFor (s : Signer) (audience : String) (expiry : Int) : Token :=
  let input := signingInput audience expiry s.subject
  let signature := Ecdsa.sign s.scalar (Utf8.encodeChars input)
  ⟨String.ofList (input ++ '.' :: Base64Url.encodeChars signature.toBytes), s.publicKeyText⟩

/-- The record about a signed token. -/
def signedRecord (audience : String) (expiry : Int) : Log.Record where
  source := "vapidpush.notifications.vapid"
  level := .debug
  message := "Signed VAPID token aud=" ++ audience ++ " exp=" ++ toString expiry

/-- A token for the origin of a push service, signed at a given time. -/
def sign (s : Signer) (audience : String) (now : Seconds) : Traced SignError Token := fun trace =>
  if !Text.occursIn "://".toList audience.toList then (.error .audience, trace)
  else match now.toInt with
    | .error f => (.error (.clock f), trace)
    | .ok seconds =>
      let expiry := seconds + lifetime
      if Number.maxDigits < Double.decimalLength expiry.natAbs then
        (.error (.crypto .signing), trace)
      else (.ok (s.tokenFor audience expiry), trace.note (signedRecord audience expiry))

end Signer

end WebPush.Vapid
