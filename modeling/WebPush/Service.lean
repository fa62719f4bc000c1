import WebPush.Envelope.Encrypt
import WebPush.Notification
import WebPush.Vapid.Signer
/-!
# Service — a sender's identity, and the requests it makes

A service may hold an API key for old endpoints and a signer for all
others. What it was built from has been checked, so preparing a request
fails in few ways: the API key is missing where it is needed, the
browser's key is on another curve, or the endpoint has no origin.
-/

namespace WebPush

/-- Why a service cannot be. -/
inductive ServiceError where
  | key (e : KeyError)
  | noSubject
  | signer (e : Vapid.SignerError)
deriving DecidableEq, Repr

/-- The wording of such an error. -/
def ServiceError.message : ServiceError → String
  | .key e => e.message
  | .noSubject => "A VAPID subject is required when a key pair is configured."
  | .signer e => e.message

/-- A sender's identity. -/
structure Service where
  gcmApiKey : Option String
  subject : Option String
  signer : Option Vapid.Signer

/-- A request ready for delivery. -/
structure Request where
  endpoint : String
  headers : List (String × String)
  body : Bytes
deriving DecidableEq, Repr

/-- Why no request could be prepared. -/
inductive PrepareError where
  | missingCredential
  | ttlTooLong
  | encrypt (e : Envelope.EncryptError)
  | origin (f : Url.Fault)
  | sign (e : Vapid.SignError)
deriving DecidableEq, Repr

/-- The wording of a preparation error. -/
def PrepareError.message : PrepareError → String
  | .missingCredential => "A GCM API key is needed to send a push notification to a GCM endpoint."
  | .ttlTooLong =>
    "Exceeds the limit (4300 digits) for integer string conversion; " ++
      "use sys.set_int_max_str_digits() to increase the limit"
  | .encrypt e => e.message
  | .origin f => f.message
  | .sign e => e.message

/-- A text is there and not empty. -/
def hasText (text : Option String) : Bool := text.any (!·.isEmpty)

namespace Service

/-- The service of an API key, a contact and a key pair. -/
def make (gcmApiKey subject : Option String) (keyPair : Option KeyPair) :
    Except ServiceError Service :=
  match keyPair with
  | none => .ok ⟨gcmApiKey, subject, none⟩
  | some pair =>
    match subject with
    | some contact =>
      if contact.isEmpty then .error .noSubject
      else match Vapid.Signer.ofKeyPair pair contact with
        | .ok signer => .ok ⟨gcmApiKey, subject, some signer⟩
        | .error e => .error (.signer e)
    | none => .error .noSubject

/-- The service of keys in encoded form. -/
def ofEncodedKeys (publicKey privateKey : Encoded) (subject : Option String)
    (gcmApiKey : Option String) : Except ServiceError Service :=
  match KeyPair.load publicKey privateKey with
  | .ok pair => make gcmApiKey subject (some pair)
  | .error e => .error (.key e)

/-- Requests carry signed tokens. -/
def vapidEnabled (s : Service) : Bool := s.signer.isSome

/-- The public key to hand to browsers. -/
def vapidPublicKey (s : Service) : Option String := s.signer.map Vapid.Signer.publicKeyText

/-! ## Preparing requests -/

/-- The headers of the content, if there is any. -/
def contentHeaders (n : Notification) : List (String × String) :=
  if n.hasPayload then
    [("Content-Type", "application/octet-stream"), ("Content-Encoding", Envelope.contentEncoding)]
  else []

/-- The headers that describe the notification. -/
def noticeHeaders (n : Notification) : List (String × String) :=
  [("TTL", toString n.ttl)] ++ contentHeaders n ++
    (n.urgency.map fun u => ("Urgency", u.word)).toList ++
    (n.topic.map fun t => ("Topic", t.text)).toList

/-- The encrypted content, empty if there is none. -/
def body (n : Notification) : Traced Envelope.EncryptError Bytes := fun trace =>
  match n.content? with
  | none => (.ok [], trace)
  | some content =>
    match Envelope.encrypt content (.key n.subscription.publicKey) n.subscription.auth.bytes 0
        trace with
    | (.ok encrypted, trace) => (.ok encrypted.envelope, trace)
    | (.error e, trace) => (.error e, trace)

/-- The headers that say who is sending. -/
def credentialHeaders (s : Service) (n : Notification) (now : Seconds) :
    Traced PrepareError (List (String × String)) := fun trace =>
  if n.isGcm then (.ok [("Authorization", "key=" ++ s.gcmApiKey.getD "")], trace)
  else match s.signer with
    | none => (.ok [], trace)
    | some signer =>
      match n.origin with
      | .error f => (.error (.origin f), trace)
      | .ok audience =>
        match signer.sign audience now trace with
        | (.error e, trace) => (.error (.sign e), trace)
        | (.ok token, trace) =>
          (.ok [("Authorization", token.authorization),
            ("Crypto-Key", Vapid.mergeCryptoKey none token.cryptoKey)], trace)

/-- The record about a prepared request. -/
def preparedRecord (s : Service) (n : Notification) (origin : String) : Log.Record where
  source := "vapidpush.notifications.request_builder"
  level := .debug
  message := "Prepared push request origin=" ++ origin ++
    " payload=" ++ Log.showBool n.hasPayload ++ " gcm=" ++ Log.showBool n.isGcm ++
    " vapid=" ++ Log.showBool (s.vapidEnabled && !n.isGcm)

/-- The request that delivers a notification. A missing API key is found
before anything is drawn. -/
def prepare (s : Service) (n : Notification) (now : Seconds) : Traced PrepareError Request :=
  fun trace =>
    if n.isGcm && !hasText s.gcmApiKey then (.error .missingCredential, trace)
    else if Number.maxDigits < Double.decimalLength n.ttl then (.error .ttlTooLong, trace)
    else match body n trace with
      | (.error e, trace) => (.error (.encrypt e), trace)
      | (.ok body, trace) =>
        match s.credentialHeaders n now trace with
        | (.error e, trace) => (.error e, trace)
        | (.ok credentials, trace) =>
          match n.origin with
          | .error f => (.error (.origin f), trace)
          | .ok origin =>
            (.ok ⟨n.endpoint, noticeHeaders n ++ credentials, body⟩,
              trace.note (s.preparedRecord n origin))

end Service

end WebPush
