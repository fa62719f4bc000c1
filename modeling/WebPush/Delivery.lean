import WebPush.Service
import WebPush.Url.Target
/-!
# Delivery — sending prepared requests and judging the answers

A sender prepares a request, hands it to the push service exactly once
and judges what comes back: an expired subscription, another rejection,
or acceptance. A service that cannot be reached is an outcome too. What
the push service answers is an argument here, so a delivery is a
function of the notification, the clock, the entropy and that answer.
-/

namespace WebPush

/-- What comes of handing a request to the push service. -/
inductive Transport where
  | answered (status : Int) (text : String)
  | failed (kind message : String)
deriving DecidableEq, Repr

/-- An answer that was not a rejection. -/
structure Answer where
  status : Int
  text : String
deriving DecidableEq, Repr

/-- What the push service receives. -/
structure Transmission where
  method : String
  url : String
  headers : List (String × String)
  body : Bytes
  timeout : Seconds
deriving DecidableEq, Repr

/-- A run of characters outside ASCII in a header value. -/
structure HeaderFault where
  first : Char
  start : Nat
  length : Nat
deriving DecidableEq, Repr

/-- Why a request could not be sent at all. -/
inductive RequestFault where
  | target (f : Url.TargetFault)
  | header (f : HeaderFault)
  | hostName (f : HostName.NameFault)
deriving DecidableEq, Repr

/-- Why a delivery failed. -/
inductive DeliveryError where
  | prepare (e : PrepareError)
  | request (f : RequestFault)
  | unreachable (kind message : String)
  /-- There is an answer, but the address of the request has no scheme. -/
  | noScheme (url : String)
  | expired (status : Int)
  | rejected (status : Int)
deriving DecidableEq, Repr

/-- A character as an escape that shows its code point. -/
def showCodePoint (c : Char) : List Char :=
  if c.toNat < 0x100 then '\\' :: 'x' :: Text.hexDigits 2 c.toNat
  else if c.toNat < 0x10000 then '\\' :: 'u' :: Text.hexDigits 4 c.toNat
  else '\\' :: 'U' :: Text.hexDigits 8 c.toNat

/-- The wording of such a fault. -/
def HeaderFault.message (f : HeaderFault) : String :=
  let place :=
    if f.length = 1 then
      "character '" ++ String.ofList (showCodePoint f.first) ++ "' in position " ++ toString f.start
    else
      "characters in position " ++ toString f.start ++ "-" ++ toString (f.start + f.length - 1)
  "'ascii' codec can't encode " ++ place ++ ": ordinal not in range(128)"

/-- The wording of a delivery error. -/
def DeliveryError.message : DeliveryError → String
  | .prepare e => e.message
  | .request (.target f) => f.message
  | .request (.header f) => f.message
  | .request (.hostName f) => f.message
  | .unreachable _ message => "Push request failed: " ++ message
  | .noScheme url => "unknown url type: " ++ Text.quotedString url
  | .expired status => "Push subscription is invalid (status=" ++ toString status ++ ")"
  | .rejected status => "Push delivery failed (status=" ++ toString status ++ ")"

/-- A sender: disabled, or a service with a limit on the time a request may take. -/
inductive Sender where
  | disabled
  | http (service : Service) (timeout : Seconds)

/-! ## Transmission -/

/-- The character is in ASCII. -/
def isAscii (c : Char) : Bool := c.toNat < 0x80

/-- The first run of characters outside ASCII in a text. -/
def headerFault? (value : List Char) : Option HeaderFault :=
  let before := value.takeWhile isAscii
  match value.dropWhile isAscii with
  | [] => none
  | first :: rest => some ⟨first, before.length, 1 + (rest.takeWhile (!isAscii ·)).length⟩

/-- The headers with one of them set. -/
def setHeader (headers : List (String × String)) (name value : String) : List (String × String) :=
  headers.filter (fun (n, _) => n ≠ name) ++ [(name, value)]

/-- A name and a password as the value of an authorization header. -/
def basicAuthorization (name password : List Char) : String :=
  let urlSafe := Base64Url.encodeChars (Utf8.encodeChars (name ++ ':' :: password))
  let padding := List.replicate ((4 - urlSafe.length % 4) % 4) '='
  let standard := urlSafe.map fun c => if c = '-' then '+' else if c = '_' then '/' else c
  "Basic " ++ String.ofList (standard ++ padding)

/-- The headers as they are sent: with the length of the body, and with the
name and password of the address in place of other credentials. -/
def sentHeaders (request : Request) (target : Url.Target) : List (String × String) :=
  let headers := request.headers ++ [("Content-Length", toString request.body.length)]
  match target.credentials? with
  | none => headers
  | some (name, password) => setHeader headers "Authorization" (basicAuthorization name password)

/-- Why a request cannot be sent to a target: the first header value that is not
in ASCII, a host that is no name, or the host itself in a header. -/
def Request.sendFault? (request : Request) (target : Url.Target) : Option RequestFault :=
  match request.headers.findSome? fun (_, value) => headerFault? value.toList with
  | some f => some (.header f)
  | none =>
    match target.nameFault? with
    | some f => some (.hostName f)
    | none => (headerFault? target.hostAndPort).map .header

/-- What the push service receives of a request. -/
def Request.transmit (request : Request) (timeout : Seconds) : Except RequestFault Transmission :=
  match Url.Target.ofText request.endpoint.toList with
  | .error f => .error (.target f)
  | .ok target =>
    match request.sendFault? target with
    | some f => .error f
    | none => .ok ⟨"POST", target.render, sentHeaders request target, request.body, timeout⟩

/-! ## Clients -/

/-- A client that requests are posted with. It waits for an answer as long as
its own limit says, unless a request comes with another. -/
structure Client where
  timeout : Seconds
deriving DecidableEq, Repr

/-- What the push service receives of a request posted with a client. -/
def Client.post (client : Client) (request : Request) (limit : Option Seconds) :
    Except RequestFault Transmission :=
  request.transmit (limit.getD client.timeout)

/-- What the push service receives of a request from a sender with a limit. A
client that the sender was given has a limit of its own, so the sender's goes
with the request; otherwise a client is opened that has the sender's. -/
def Request.post (request : Request) (given : Option Client) (timeout : Seconds) :
    Except RequestFault Transmission :=
  match given with
  | some client => client.post request (some timeout)
  | none => (Client.mk timeout).post request none

/-- The clients that a sender was given: one to send with at once, one for tasks. -/
structure Clients where
  immediate : Option Client := none
  awaited : Option Client := none

/-! ## Judging answers -/

/-- The most characters of a rejection's text that go into the log. -/
def maxLoggedText : Nat := 512

/-- A record of the delivery itself. -/
def deliveryRecord (level : Log.Level) (message : String) : Log.Record :=
  ⟨"vapidpush.notifications.push_sender", level, message⟩

/-- The address begins with a scheme. -/
def hasScheme (url : String) : Bool :=
  match Text.splitFirst? ':' url.toList with
  | some (scheme, _) => !scheme.isEmpty && !scheme.contains '/'
  | none => false

/-- What an answer to a request from an origin means, and the record about it if there is one. -/
def judgeAnswer (origin : String) (status : Int) (text : String) :
    Except DeliveryError Answer × Option Log.Record :=
  if status = 404 ∨ status = 410 then (.error (.expired status), none)
  else if 400 ≤ status then
    (.error (.rejected status),
      some (deliveryRecord .error ("Push service rejected request origin=" ++ origin ++
        " status=" ++ toString status ++ " body=" ++
        String.ofList (text.toList.take maxLoggedText))))
  else
    (.ok ⟨status, text⟩,
      some (deliveryRecord .debug ("Push accepted origin=" ++ origin ++
        " status=" ++ toString status)))

/-- The result of a delivery to an address, and the record about it if there is one. -/
def judge (origin url : String) : Transport → Except DeliveryError Answer × Option Log.Record
  | .failed kind message =>
    (.error (.unreachable kind message),
      some (deliveryRecord .error ("Push request to " ++ origin ++ " failed: " ++ message)))
  | .answered status text =>
    if hasScheme url then judgeAnswer origin status text else (.error (.noScheme url), none)

/-! ## Sending -/

/-- The result of a delivery, and what the push service received. -/
structure Delivery where
  result : Except DeliveryError Answer
  received : List Transmission

/-- A notification sent with a service, by a client that was given or one of its own. -/
def Service.send (s : Service) (timeout : Seconds) (n : Notification) (now : Seconds)
    (transport : Transport) (trace : Trace) (given : Option Client := none) : Delivery × Trace :=
  match s.prepare n now trace with
  | (.error e, trace) => (⟨.error (.prepare e), []⟩, trace)
  | (.ok request, trace) =>
    match request.post given timeout with
    | .error f => (⟨.error (.request f), []⟩, trace)
    | .ok transmission =>
      match n.origin with
      | .error f => (⟨.error (.prepare (.origin f)), [transmission]⟩, trace)
      | .ok origin =>
        let (result, record) := judge origin transmission.url transport
        (⟨result, [transmission]⟩, record.elim trace trace.note)

/-- The record about a notification that a disabled sender drops. -/
def droppedRecord (n : Notification) : Log.Record :=
  deliveryRecord .debug ("Push notifications disabled; dropping push endpoint_present=" ++
    Log.showBool (!n.endpoint.isEmpty))

end WebPush
