import WebPush.Json.Basic
import WebPush.Number.Plain
import WebPush.Subscription.Basic
import WebPush.Url.Authority
/-!
# Subscription — the object that a browser hands out

The object has an endpoint, perhaps an expiration time, and keys in
base64url text. Reading it reports every fault with the path of the
member at fault: the known members in their order, each followed by what
it contains, and then the members that should not be there.
-/

namespace WebPush.Subscription

/-- What is wrong with one member. -/
inductive FieldFault where
  | missing
  | notObject (model : String)
  | notString
  | tooShort (least : Nat)
  | tooLong (most : Nat)
  | unknown
  | notInteger
  | notFinite
  | fractional
  | unreadableInteger
  | integerTooLarge
  | badUrl (f : Url.Fault)
  | notHttps
  | noHost
  | keyFormat
deriving DecidableEq, Repr

namespace FieldFault

/-- The short name of a fault. -/
def code : FieldFault → String
  | .missing => "missing"
  | .notObject _ => "model_type"
  | .notString => "string_type"
  | .tooShort _ => "string_too_short"
  | .tooLong _ => "string_too_long"
  | .unknown => "extra_forbidden"
  | .notInteger => "int_type"
  | .notFinite => "finite_number"
  | .fractional => "int_from_float"
  | .unreadableInteger => "int_parsing"
  | .integerTooLarge => "int_parsing_size"
  | .badUrl _ => "value_error"
  | .notHttps => "push_endpoint_https"
  | .noHost => "push_endpoint_host"
  | .keyFormat => "push_key_format"

/-- A count of characters in words. -/
def showCharacters (n : Nat) : String :=
  toString n ++ (if n = 1 then " character" else " characters")

/-- The wording of a fault. -/
def message : FieldFault → String
  | .missing => "Field required"
  | .notObject model => "Input should be a valid dictionary or instance of " ++ model
  | .notString => "Input should be a valid string"
  | .tooShort least => "String should have at least " ++ showCharacters least
  | .tooLong most => "String should have at most " ++ showCharacters most
  | .unknown => "Extra inputs are not permitted"
  | .notInteger => "Input should be a valid integer"
  | .notFinite => "Input should be a finite number"
  | .fractional => "Input should be a valid integer, got a number with a fractional part"
  | .unreadableInteger => "Input should be a valid integer, unable to parse string as an integer"
  | .integerTooLarge => "Unable to parse input string as an integer, exceeded maximum size"
  | .badUrl f => "Value error, " ++ f.message
  | .notHttps => "endpoint must use https."
  | .noHost => "endpoint must include a host."
  | .keyFormat => "push subscription keys must be base64url encoded."

end FieldFault

/-- A fault and the path of the member it is in. -/
structure LocatedFault where
  path : List String
  fault : FieldFault
deriving DecidableEq, Repr

/-- The object in checked form, with the blanks around its texts removed. -/
structure BrowserInfo where
  endpoint : String
  expirationTime : Option Int
  publicKey : String
  auth : String
deriving DecidableEq, Repr

/-- The subscription that a browser's object describes. -/
def BrowserInfo.toSubscription (info : BrowserInfo) : Except KeyError Subscription :=
  ofKeys info.endpoint (.text info.publicKey) (.text info.auth)

/-! ## Single members -/

/-- A string whose length in characters lies between two bounds. -/
def readText (least most : Nat) : Json → Except FieldFault String
  | .string s =>
    if s.length < least then .error (.tooShort least)
    else if most < s.length then .error (.tooLong most)
    else .ok s
  | _ => .error .notString

/-- A secure address with a host, without the blanks around it. -/
def readEndpoint (value : Json) : Except FieldFault String := do
  let s ← readText 1 2048 value
  let text := Text.trim s.toList
  let parts ← (Url.Parts.ofText text).mapError .badUrl
  if parts.scheme ≠ "https".toList then .error .notHttps
  else if parts.host.isEmpty then .error .noHost
  else return String.ofList text

/-- A text of the URL-safe alphabet with at most two padding characters. -/
def isKeyText (cs : List Char) : Bool :=
  let body := dropEndWhile (· == '=') cs
  !body.isEmpty && body.all Base64Url.inAlphabet && cs.length ≤ body.length + 2

/-- Key material in base64url, without the blanks around it. -/
def readKeyText (least most : Nat) (value : Json) : Except FieldFault String := do
  let s ← readText least most value
  let text := Text.trim s.toList
  if isKeyText text then return String.ofList text else .error .keyFormat

/-- The bound that a number with a point must stay below, on both sides. -/
def wideBound : Int := 0x8000000000000000

/-- An integer in a text. -/
def readIntegerText (s : String) : Except FieldFault Int :=
  (Number.readTidied s.toList).mapError fun
    | .unreadable => .unreadableInteger
    | .tooLong => .integerTooLarge

/-- An integer in one of the forms that count as one, or nothing. -/
def readExpiration : Json → Except FieldFault (Option Int)
  | .null => .ok none
  | .int n => .ok (some n)
  | .bool b => .ok (some (if b then 1 else 0))
  | .real x =>
    if !x.isFinite then .error .notFinite
    else if !x.isIntegral then .error .fractional
    else if -wideBound < x.truncate ∧ x.truncate < wideBound then .ok (some x.truncate)
    else .error .integerTooLarge
  | .string s => (readIntegerText s).map some
  | _ => .error .notInteger

/-! ## The whole object -/

/-- The value of a required member, or the faults it gives rise to. -/
def required {α : Type} (ms : Json.Members) (path : List String) (name : String)
    (read : Json → Except FieldFault α) : Option α × List LocatedFault :=
  match ms.find? name with
  | none => (none, [⟨path ++ [name], .missing⟩])
  | some value =>
    match read value with
    | .ok x => (some x, [])
    | .error f => (none, [⟨path ++ [name], f⟩])

/-- The faults of members that should not be there. -/
def unknownMembers (ms : Json.Members) (path known : List String) : List LocatedFault :=
  (ms.filter fun (name, _) => !known.contains name).map fun (name, _) => ⟨path ++ [name], .unknown⟩

/-- The two keys of a browser's object. -/
def readKeys (value : Json) : Option (String × String) × List LocatedFault :=
  match value with
  | .object ms =>
    let (publicKey, faults1) := required ms ["keys"] "p256dh" (readKeyText 80 100)
    let (auth, faults2) := required ms ["keys"] "auth" (readKeyText 16 32)
    let pair := publicKey.bind fun p => auth.map fun a => (p, a)
    (pair, faults1 ++ faults2 ++ unknownMembers ms ["keys"] ["p256dh", "auth"])
  | _ => (none, [⟨["keys"], .notObject "PushSubscriptionKeys"⟩])

/-- The name under which an object gives its expiration time. -/
def expirationName (ms : Json.Members) : String :=
  if (ms.find? "expirationTime").isNone && (ms.find? "expiration_time").isSome then
    "expiration_time"
  else "expirationTime"

/-- The checked form of an object's members, or all their faults. -/
def BrowserInfo.ofMembers (ms : Json.Members) : Except (List LocatedFault) BrowserInfo :=
  let (endpoint, faults1) := required ms [] "endpoint" readEndpoint
  let timeName := expirationName ms
  let (time, faults2) :=
    if (ms.find? timeName).isNone then (some none, [])
    else required ms [] timeName readExpiration
  let (keys, faults3) :=
    match ms.find? "keys" with
    | none => (none, [⟨["keys"], .missing⟩])
    | some keys => readKeys keys
  let faults := faults1 ++ faults2 ++ faults3 ++ unknownMembers ms [] ["endpoint", timeName, "keys"]
  match endpoint, time, keys, faults with
  | some endpoint, some time, some (publicKey, auth), [] => .ok ⟨endpoint, time, publicKey, auth⟩
  | _, _, _, _ => .error faults

/-- The checked form of a browser's object, or all its faults. -/
def BrowserInfo.ofJson (value : Json) : Except (List LocatedFault) BrowserInfo :=
  match value with
  | .object ms => ofMembers ms
  | _ => .error [⟨[], .notObject "PushSubscriptionInfo"⟩]

end WebPush.Subscription
