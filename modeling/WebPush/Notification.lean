import WebPush.Subscription.Basic
import WebPush.Text.Quoted
import WebPush.Text.Split
import WebPush.Text.Utf8
import WebPush.Url.Origin
/-!
# Notification — one message for one subscription

A notification may carry a payload, and says how long the push service
should keep it, how urgent it is and which earlier one it replaces. The
constraints on these are in the types; `Notification.make` checks them
in a fixed order.
-/

namespace WebPush

/-- How urgently a push service should deliver. -/
inductive Urgency where
  | veryLow
  | low
  | normal
  | high
deriving DecidableEq, Repr

namespace Urgency

/-- The word for an urgency. -/
def word : Urgency → String
  | veryLow => "very-low"
  | low => "low"
  | normal => "normal"
  | high => "high"

/-- All urgencies, the least first. -/
def all : List Urgency := [veryLow, low, normal, high]

/-- The urgency that a word stands for. -/
def ofWord? (s : String) : Option Urgency := all.find? fun u => u.word = s

theorem ofWord?_word (u : Urgency) : ofWord? u.word = some u := by
  cases u <;> decide +kernel

end Urgency

/-- One to thirty-two characters of the URL-safe alphabet. -/
def isTopic (s : String) : Bool :=
  1 ≤ s.toList.length && s.toList.length ≤ 32 && s.toList.all Base64Url.inAlphabet

/-- The name that later messages use to replace this one. -/
structure Topic where
  text : String
  isTopic_text : isTopic text = true
deriving DecidableEq

/-- The name as a topic, if it is one. -/
def Topic.ofText? (s : String) : Option Topic := if h : isTopic s = true then some ⟨s, h⟩ else none

/-- Why a notification cannot be. -/
inductive NotificationFault where
  | negativeTtl
  | urgency (word : String)
  | topic
deriving DecidableEq, Repr

/-- The wording of a fault. -/
def NotificationFault.message : NotificationFault → String
  | .negativeTtl => "TTL must be zero or a positive number of seconds."
  | .urgency word => Text.quotedString word ++ " is not a valid Urgency"
  | .topic => "Topic must be 1-32 characters from the URL-safe base64 alphabet."

/-- Content to be delivered. -/
inductive Content where
  | text (text : String)
  | raw (bytes : Bytes)

/-- The octets of a content. -/
def Content.toBytes : Content → Bytes
  | .text s => Utf8.encode s
  | .raw bs => bs

/-- A message for one subscription. -/
structure Notification where
  subscription : Subscription
  payload : Option Bytes
  ttl : Nat
  urgency : Option Urgency
  topic : Option Topic

namespace Notification

/-- How long push services keep a message unless told otherwise: four weeks. -/
def defaultTtl : Int := 2419200

/-- A notification with the given traits, if they are in order. -/
def make (subscription : Subscription) (payload : Option Content) (ttl : Int)
    (urgency topic : Option String) : Except NotificationFault Notification := do
  if ttl < 0 then .error .negativeTtl else .ok ()
  let urgency ← match urgency with
    | none => .ok none
    | some word =>
      match Urgency.ofWord? word with
      | some u => .ok (some u)
      | none => .error (.urgency word)
  let topic ← match topic with
    | none => .ok none
    | some text =>
      match Topic.ofText? text with
      | some t => .ok (some t)
      | none => .error .topic
  return ⟨subscription, payload.map Content.toBytes, ttl.toNat, urgency, topic⟩

/-- The address to deliver to. -/
def endpoint (n : Notification) : String := n.subscription.endpoint

/-- The octets to be encrypted, if there are any. -/
def content? (n : Notification) : Option Bytes := n.payload.filter (!·.isEmpty)

/-- There is something to encrypt. -/
def hasPayload (n : Notification) : Bool := n.content?.isSome

/-- The start of endpoints that authenticate with an API key. -/
def gcmPrefix : String := "https://android.googleapis.com/gcm/send"

/-- The endpoint authenticates with an API key. -/
def isGcm (n : Notification) : Bool := Text.startsWith n.endpoint gcmPrefix

/-- The origin of the endpoint, which tokens name as their audience. -/
def origin (n : Notification) : Except Url.Fault String := Url.origin n.endpoint

end Notification

end WebPush
