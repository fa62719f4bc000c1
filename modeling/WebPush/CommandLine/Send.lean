import WebPush.CommandLine.Generate
import WebPush.Json.Printer
import WebPush.Json.Reader
import WebPush.Session
import WebPush.Subscription.Browser
/-!
# Command line — sending a test message

The program reads a browser's subscription from a file, takes the
sender's identity from the environment, and sends one message with a
title and a body. What goes wrong with the subscription or the delivery
is reported; what goes wrong with the configuration is not caught here.
-/

namespace WebPush.CommandLine.Send

/-- The parameters of the program. -/
def parameters : List Parameter :=
  [{ name := "--subscription", isRequired := true },
    { name := "--title" },
    { name := "--body" },
    { name := "--ttl", accepts := fun s => (Number.readInt s.toList).toOption.isSome },
    { name := "--urgency", accepts := fun s => (Urgency.ofWord? s).isSome },
    { name := "--topic" }]

/-- What the program was asked to send. -/
structure Order where
  subscriptionPath : String
  title : String
  body : String
  ttl : Option Int
  urgency : Option String
  topic : Option String
deriving DecidableEq, Repr

/-- The order in the values of parameters. -/
def Order.ofParsed (parsed : Parsed) : Order where
  subscriptionPath := (parsed.value? "--subscription").getD ""
  title := (parsed.value? "--title").getD "Test notification"
  body := (parsed.value? "--body").getD "Sent from vapidpush"
  ttl := (parsed.value? "--ttl").bind fun s => (Number.readInt s.toList).toOption
  urgency := parsed.value? "--urgency"
  topic := parsed.value? "--topic"

/-- The message that an order sends. -/
def Order.payload (order : Order) : List Char :=
  Json.printObject .spaced
    [("title", Json.printString order.title), ("body", Json.printString order.body)]

/-! ## Reading the subscription -/

/-- Why no subscription was read. -/
inductive ReadError where
  | file (e : Files.FileError)
  | nulInPath
  | encoding
  | json (f : Json.Fault)
  | faults (all : List Subscription.LocatedFault)
deriving DecidableEq, Repr

/-- The browser's object in a file. -/
def readInfo (depth : Json.Depth) (tree : Files.Tree) (path : String) :
    Except ReadError Subscription.BrowserInfo :=
  if Environment.hasNul path then .error .nulInPath
  else match tree.read (Files.Path.ofString path) with
    | .error e => .error (.file e)
    | .ok content =>
      match Utf8.decodeChars? content with
      | none => .error .encoding
      | some text =>
        match Json.read depth text with
        | .error f => .error (.json f)
        | .ok value => (Subscription.BrowserInfo.ofJson value).mapError .faults

/-- The heading above the faults of a subscription. -/
def faultsHeading (count : Nat) : String :=
  toString count ++ (if count = 1 then " validation error" else " validation errors") ++
    " for PushSubscriptionInfo"

/-- One fault under the heading. -/
def showFault (f : Subscription.LocatedFault) : String :=
  "\n" ++ ".".intercalate f.path ++ "\n  " ++ f.fault.message ++ " [type=" ++ f.fault.code ++ "]"

/-- The wording of a reading error. -/
def ReadError.message : ReadError → String
  | .file e => e.message
  | .nulInPath => "embedded null byte"
  | .encoding => "the file does not hold UTF-8"
  | .json .malformed => "the file does not hold a JSON value"
  | .json (.tooDeep _) => "the value in the file is nested too deeply"
  | .json (.longInteger digits) => Number.tooLongMessage digits
  | .faults all => faultsHeading all.length ++ String.join (all.map showFault)

/-- The program catches the error. -/
def ReadError.isReported : ReadError → Bool
  | .file _ | .json .malformed | .faults _ => true
  | _ => false

/-! ## Running -/

/-- What the program does not catch. -/
inductive Escape where
  | session (f : Session.Fault)
  | read (e : ReadError)
  | delivery (e : DeliveryError)
deriving DecidableEq, Repr

/-- The wording of what is not caught. -/
def Escape.message : Escape → String
  | .session f => f.message?.getD "a file of settings does not hold UTF-8"
  | .read e => e.message
  | .delivery e => e.message

/-- The program catches the error. Only an address that is no target, and a
clock without end, are not expected of a delivery. -/
def isReported : DeliveryError → Bool
  | .request (.target _) => false
  | .prepare (.sign (.clock .infinite)) => false
  | _ => true

/-- Why the message was not sent, once the subscription had been read. -/
inductive Failure where
  | key (e : KeyError)
  | notification (f : NotificationFault)
  | service (e : ServiceError)
  | delivery (e : DeliveryError)
deriving DecidableEq, Repr

/-- The wording of a failure. -/
def Failure.message : Failure → String
  | .key e => e.message
  | .notification f => f.message
  | .service e => e.message
  | .delivery e => e.message

/-- The notification that an order describes. -/
def Order.notification (order : Order) (info : Subscription.BrowserInfo) (defaultTtl : Nat) :
    Except Failure Notification :=
  match info.toSubscription with
  | .error e => .error (.key e)
  | .ok subscription =>
    (Notification.make subscription (some (.text (String.ofList order.payload)))
      (order.ttl.getD defaultTtl) order.urgency order.topic).mapError .notification

/-- What comes of a run: how the program ended or what it did not catch, what
the push service received, and the session that is left. -/
structure Run where
  result : Except Escape (Except Stop Outcome)
  received : List Transmission := []
  session : Session

/-- The end of a run that reports an error. -/
def Run.failed (session : Session) (message : String) (received : List Transmission) : Run :=
  ⟨.ok (.ok { status := 1, errors := session.errorStream ++ "ERROR: " ++ message ++ "\n" }),
    received, session⟩

/-- The message sent, once the subscription has been read. -/
def deliver (order : Order) (info : Subscription.BrowserInfo) (settings : Settings)
    (transport : Transport) (session : Session) : Run :=
  match order.notification info settings.defaultTtl with
  | .error failure => .failed session failure.message []
  | .ok n =>
    match session.buildSender settings with
    | (.error (.service e), session) => .failed session e.message []
    | (.error f, session) => ⟨.error (.session f), [], session⟩
    | (.ok _, session) =>
      let (sent, session) := session.send n transport false
      match sent.result with
      | .ok _ =>
        ⟨.ok (.ok { status := 0, output := "Sent\n", errors := session.errorStream }),
          sent.received, session⟩
      | .error (.delivery e) =>
        if isReported e then .failed session e.message sent.received
        else ⟨.error (.delivery e), sent.received, session⟩
      | .error .unsupported => ⟨.ok (.ok { status := 1 }), sent.received, session⟩

/-- The run for an order. -/
def runOrder (depth : Json.Depth) (order : Order) (withLog : Bool) (transport : Transport)
    (session : Session) : Run :=
  match session.cachedSettings with
  | (.error f, session) => ⟨.error (.session f), [], session⟩
  | (.ok settings, session) =>
    match if withLog then session.setUpLog settings else .ok session with
    | .error f => ⟨.error (.session (.log f)), [], session⟩
    | .ok session =>
      match readInfo depth session.files order.subscriptionPath with
      | .error e =>
        if e.isReported then .failed session ("could not read subscription: " ++ e.message) []
        else ⟨.error (.read e), [], session⟩
      | .ok info => deliver order info settings transport session

/-- The run for the arguments of the program. -/
def run (depth : Json.Depth) (args : List String) (withLog : Bool) (transport : Transport)
    (session : Session) : Run :=
  match parse parameters args with
  | .error stop => ⟨.ok (.error stop), [], session⟩
  | .ok parsed => runOrder depth (.ofParsed parsed) withLog transport session

end WebPush.CommandLine.Send
