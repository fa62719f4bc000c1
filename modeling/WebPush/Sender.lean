import WebPush.Delivery
import WebPush.Settings
/-!
# Sender — from a configuration to deliveries

Without any credential a configuration gives the disabled sender, which
drops what it is given; with one it gives a service and a time limit.
-/

namespace WebPush

/-- The service that a configuration describes. -/
def Service.ofSettings (s : Settings) : Except ServiceError Service :=
  match s.vapidPublicKey, s.vapidPrivateKey with
  | some publicKey, some privateKey =>
    Service.ofEncodedKeys (.text publicKey) (.text privateKey)
      (some ((s.vapidSubject.map Text.Filled.text).getD "")) (s.gcmApiKey.map Text.Filled.text)
  | _, _ => Service.make (s.gcmApiKey.map Text.Filled.text) none none

/-- The record about a sender that will not deliver. -/
def disabledRecord : Log.Record where
  source := "vapidpush.notifications.factory"
  level := .info
  message := "No VAPID keys or GCM API key configured; push delivery disabled"

namespace Sender

/-- The sender that a configuration describes, and the record about it if it is disabled. -/
def ofSettings (s : Settings) : Except ServiceError Sender × Option Log.Record :=
  if !s.vapidConfigured && !s.gcmConfigured then (.ok .disabled, some disabledRecord)
  else ((Service.ofSettings s).map fun service => .http service (.real s.timeout), none)

/-- Why nothing came back from a sender. -/
inductive SendError where
  | delivery (e : DeliveryError)
  /-- There is no sender, or it has no way to send and wait. -/
  | unsupported
deriving DecidableEq, Repr

/-- What comes of sending: an answer, or none from a disabled sender, and what
the push service received. -/
structure Sent where
  result : Except SendError (Option Answer)
  received : List Transmission

/-- What comes of a delivery. -/
def Sent.ofDelivery (delivery : Delivery) : Sent :=
  ⟨(delivery.result.map some).mapError .delivery, delivery.received⟩

/-- A notification sent at once. -/
def send (sender : Sender) (n : Notification) (now : Seconds) (transport : Transport)
    (trace : Trace) (clients : Clients := {}) : Sent × Trace :=
  match sender with
  | .disabled => (⟨.ok none, []⟩, trace.note (droppedRecord n))
  | .http service timeout =>
    let (delivery, trace) := service.send timeout n now transport trace clients.immediate
    (.ofDelivery delivery, trace)

/-- A notification sent by a task that waits for the answer. The disabled
sender has no such task. -/
def sendAwaited (sender : Sender) (n : Notification) (now : Seconds) (transport : Transport)
    (trace : Trace) (clients : Clients := {}) : Sent × Trace :=
  match sender with
  | .disabled => (⟨.error .unsupported, []⟩, trace)
  | .http service timeout =>
    let (delivery, trace) := service.send timeout n now transport trace clients.awaited
    (.ofDelivery delivery, trace)

end Sender

end WebPush
