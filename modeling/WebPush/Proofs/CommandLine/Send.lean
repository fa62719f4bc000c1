import Mathlib.Data.List.Nodup
import WebPush.CommandLine.Send
import WebPush.Proofs.CommandLine.Parameter
import WebPush.Proofs.Json.Objects
import WebPush.Proofs.Sender.Arrival
import WebPush.Proofs.Sender.Configuration
import WebPush.Proofs.Session
import WebPush.Proofs.Subscription.Browser
/-!
# Command line — the message that was asked for arrives

Arguments that spell an order, a file with what a browser handed out and
a configuration with a key pair are all that sending takes, where the
push service accepts. Each part of the program is followed in turn: the
order, the file, the notification and the sender.
-/

namespace WebPush

namespace CommandLine.Send

variable {depth : Json.Depth}

/-! ## The order -/

theorem isLong_parameters : ∀ p ∈ parameters, p.IsLong := by
  simp only [parameters, List.forall_mem_cons]
  refine ⟨?_, ?_, ?_, ?_, ?_, ?_, List.forall_mem_nil _⟩
  all_goals exact ⟨⟨_, _, rfl⟩, by decide +kernel, by decide +kernel⟩

/-- A name belongs to one parameter. -/
theorem eq_of_name_eq {p q : Parameter} (hp : p ∈ parameters) (hq : q ∈ parameters)
    (hname : p.name = q.name) : p = q := by
  have hnodup : (parameters.map (·.name)).Nodup := by decide +kernel
  exact List.inj_on_of_nodup_map hnodup hp hq hname

variable {given : List (String × String)} {args : List String}

/-- The lifetime of an order has few digits. -/
theorem natAbs_lt_of_ofParsed {parsed : Parsed} {ttl : Int}
    (h : (Order.ofParsed parsed).ttl = some ttl) : ttl.natAbs < 10 ^ Number.maxDigits := by
  obtain ⟨text, -, hread⟩ := Option.bind_eq_some_iff.1 h
  cases hresult : Number.readInt text.toList with
  | error e =>
    rw [hresult] at hread
    cases hread
  | ok n =>
    rw [hresult] at hread
    cases hread
    exact Number.natAbs_lt_of_readInt hresult

/-- An urgency that is spelled is one. -/
theorem isSome_ofWord?_of_spells (h : Spells parameters given args) {word : String}
    (hword : (Order.ofParsed ⟨given, false⟩).urgency = some word) :
    (Urgency.ofWord? word).isSome = true := by
  obtain ⟨p, hp, hname, haccepts⟩ := h.exists_accepts (mem_of_value? hword)
  obtain rfl : p = parameters[4] := eq_of_name_eq hp (List.getElem_mem _) hname
  exact haccepts

/-- Arguments that spell values are understood, if they name a file. -/
theorem parse_eq_ok (hargs : Spells parameters given args)
    (hsubscription : "--subscription" ∈ given.map Prod.fst) :
    parse parameters args = .ok ⟨given, false⟩ := by
  refine parse_of_spells isLong_parameters hargs ?_
  simp only [parameters, List.forall_mem_cons]
  exact ⟨fun _ => hsubscription, nofun, nofun, nofun, nofun, nofun, nofun⟩

/-- What can be asked for: a lifetime that is not negative, a topic that is one, and a message
that fits into a record. -/
structure Order.IsSound (order : Order) : Prop where
  ttl : ∀ ttl, order.ttl = some ttl → 0 ≤ ttl
  topic : ∀ text, order.topic = some text → isTopic text = true
  room : order.payload.length < Envelope.maxPlaintext

/-! ## The message -/

theorem isAscii_payload (order : Order) : Text.IsAscii order.payload := by
  refine Json.isAscii_printObject Json.isReadable_spaced ?_
  simp only [List.forall_mem_cons]
  exact ⟨Json.isAscii_printString _, Json.isAscii_printString _, List.forall_mem_nil _⟩

/-- **The message is read as its title and its body.** -/
theorem read_payload (depth : Json.Depth) (order : Order) : Json.read depth order.payload =
    .ok (.object [("title", .string order.title), ("body", .string order.body)]) := by
  have htexts : Json.AreTextsOf
      [("title", Json.printString order.title), ("body", Json.printString order.body)]
      [("title", .string order.title), ("body", .string order.body)] :=
    .cons _ (Json.isTextOf_printString _) (.cons _ (Json.isTextOf_printString _) .nil)
  have hnodup : ["title", "body"].Nodup := by decide
  rw [Order.payload, htexts.read_printObject depth Json.isReadable_spaced]
  exact congrArg (fun ms => Except.ok (Json.object ms)) (Json.Members.ofList_of_nodup hnodup)

/-- The octets of the message are as many as its characters. -/
theorem length_encodeChars_payload (order : Order) :
    (Utf8.encodeChars order.payload).length = order.payload.length := by
  rw [(isAscii_payload order).encodeChars, List.length_map]

theorem payload_ne_nil (order : Order) : order.payload ≠ [] := by
  rw [Order.payload, Json.printObject]
  exact List.cons_ne_nil _ _

/-- **The notification of an order** is for the subscription that was read, and says what the
order says. -/
theorem exists_notification_eq_ok {order : Order} (hsound : order.IsSound)
    (hurgency : ∀ word, order.urgency = some word → (Urgency.ofWord? word).isSome = true)
    {info : Subscription.BrowserInfo} {subscription : Subscription}
    (hinfo : info.toSubscription = .ok subscription) (defaultTtl : Nat) :
    ∃ n, order.notification info defaultTtl = .ok n ∧ n.subscription = subscription ∧
      n.content? = some (Utf8.encodeChars order.payload) ∧
      (n.ttl : Int) = order.ttl.getD defaultTtl := by
  have httl : 0 ≤ order.ttl.getD defaultTtl := by
    cases h : order.ttl with
    | none => exact Int.natCast_nonneg _
    | some ttl => exact hsound.ttl ttl h
  obtain ⟨n, hmake⟩ := Notification.exists_make_eq_ok subscription
    (some (.text (String.ofList order.payload))) httl hurgency hsound.topic
  obtain ⟨-, hsubscription, hpayload, hnttl, -, -⟩ := Notification.of_make hmake
  have hoctets : Content.octets (some (.text (String.ofList order.payload))) =
      Utf8.encodeChars order.payload := by
    simp only [Content.octets, Option.map_some, Option.getD_some, Content.toBytes, Utf8.encode,
      String.toList_ofList]
  refine ⟨n, ?_, hsubscription, ?_, ?_⟩
  · simp only [Order.notification, hinfo, hmake]
    rfl
  · rw [Notification.content?_eq hpayload, hoctets,
      if_neg (Text.encodeChars_ne_nil (payload_ne_nil order))]
  · rw [hnttl, Int.toNat_of_nonneg httl]

/-! ## The file -/

/-- A file holds what a browser handed out for an endpoint, a key and a secret. -/
def HoldsSubscription (depth : Json.Depth) (tree : Files.Tree) (path endpoint : String)
    (P : P256.Point) (auth : Octets16) : Prop :=
  Environment.hasNul path = false ∧ ∃ content text ms,
    tree.read (.ofString path) = .ok content ∧ Utf8.decodeChars? content = some text ∧
      Json.read depth text = .ok (.object ms) ∧ Subscription.IsHandedOut ms endpoint P auth

/-- **What a browser handed out is read from its file.** -/
theorem HoldsSubscription.exists_readInfo_eq_ok {tree : Files.Tree} {path endpoint : String}
    {P : P256.Point} {auth : Octets16} (h : HoldsSubscription depth tree path endpoint P auth)
    (hendpoint : Subscription.IsSecureAddress endpoint) :
    ∃ info, readInfo depth tree path = .ok info ∧
      info.toSubscription = .ok ⟨endpoint, .p256 P, auth⟩ := by
  obtain ⟨hnul, content, text, ms, hread, hdecode, hjson, hms⟩ := h
  obtain ⟨info, hofJson, hsubscription⟩ := Subscription.exists_ofJson_eq_ok hms hendpoint
  refine ⟨info, ?_, hsubscription⟩
  simp only [readInfo, hnul, Bool.false_eq_true, if_false, hread, hdecode, hjson, hofJson]
  rfl

/-- An address that is too long is the one thing that is reported of such a file. -/
theorem HoldsSubscription.readInfo_eq_tooLong {tree : Files.Tree} {path endpoint : String}
    {P : P256.Point} {auth : Octets16} (h : HoldsSubscription depth tree path endpoint P auth)
    (hlong : 2048 < endpoint.length) :
    readInfo depth tree path = .error (.faults [⟨["endpoint"], .tooLong 2048⟩]) := by
  obtain ⟨hnul, content, text, ms, hread, hdecode, hjson, hms⟩ := h
  simp only [readInfo, hnul, Bool.false_eq_true, if_false, hread, hdecode, hjson,
    Subscription.ofJson_eq_tooLong hms hlong]
  rfl

/-! ## The run -/

variable {order : Order} {session ready : Session} {settings : Settings} {withLog : Bool}
  {endpoint : String} {auth : Octets16}

/-- What is left of a run once its order is known and the session is ready. -/
theorem run_eq_of_readies (depth : Json.Depth) {parsed : Parsed}
    (hparse : parse parameters args = .ok parsed)
    (hready : session.Readies withLog settings ready) (transport : Transport) :
    run depth args withLog transport session =
      match readInfo depth ready.files (Order.ofParsed parsed).subscriptionPath with
      | .error e =>
        if e.isReported then .failed ready ("could not read subscription: " ++ e.message) []
        else ⟨.error (.read e), [], ready⟩
      | .ok info => deliver (.ofParsed parsed) info settings transport ready := by
  obtain ⟨remembered, hcached, hlog⟩ := hready
  cases hinfo : readInfo depth ready.files (Order.ofParsed parsed).subscriptionPath <;>
    simp only [run, hparse, runOrder, hcached, hlog, hinfo]

/-- What is left of a run once its order, its configuration and its log are in place. -/
theorem run_eq (depth : Json.Depth) (hargs : Spells parameters given args)
    (hsubscription : "--subscription" ∈ given.map Prod.fst)
    (horder : Order.ofParsed ⟨given, false⟩ = order) (hnew : session.settings = none)
    (hload : Settings.load session.environment = .ok settings)
    (hready : session.readied settings withLog = .ok ready) (transport : Transport) :
    run depth args withLog transport session =
      match readInfo depth ready.files order.subscriptionPath with
      | .error e =>
        if e.isReported then .failed ready ("could not read subscription: " ++ e.message) []
        else ⟨.error (.read e), [], ready⟩
      | .ok info => deliver order info settings transport ready := by
  rw [run_eq_of_readies depth (parse_eq_ok hargs hsubscription)
    (Session.readies_of_readied hnew hload hready), horder]

/-- **A lifetime of more digits than are read** ends the program at once. -/
theorem run_of_long_ttl (hargs : Spells parameters given args) {digits : List Char}
    (hdigits : ∀ c ∈ digits, c.isDigit = true) (hlong : Number.maxDigits < digits.length)
    (withLog : Bool) (transport : Transport) (session : Session) :
    run depth (("--ttl" ++ "=" ++ String.ofList digits) :: args) withLog transport session =
      ⟨.ok (.error .invalid), [], session⟩ := by
  have hrefused : ∀ q ∈ parameters, q.name = "--ttl" →
      q.accepts (String.ofList digits) = false := by
    intro q hq hname
    obtain rfl : q = parameters[3] := eq_of_name_eq hq (List.getElem_mem _) hname
    change (Number.readInt (String.ofList digits).toList).toOption.isSome = false
    rw [String.toList_ofList, Number.readInt_eq_tooLong hdigits hlong]
    rfl
  have hparse := parse_eq_invalid (p := parameters[3]) isLong_parameters (List.getElem_mem _)
    hrefused hargs
  have hname : parameters[3].name = "--ttl" := rfl
  rw [hname] at hparse
  simp only [run, hparse]

/-- **For an endpoint that is too long** the program reports the file, and sends nothing. -/
theorem run_of_long_endpoint (hargs : Spells parameters given args)
    (hsubscription : "--subscription" ∈ given.map Prod.fst)
    (horder : Order.ofParsed ⟨given, false⟩ = order) (hnew : session.settings = none)
    (hload : Settings.load session.environment = .ok settings)
    (hready : session.readied settings withLog = .ok ready) {P : P256.Point}
    (hholds : HoldsSubscription depth ready.files order.subscriptionPath endpoint P auth)
    (hlong : 2048 < endpoint.length) (transport : Transport) :
    run depth args withLog transport session =
      .failed ready ("could not read subscription: " ++
        ReadError.message (.faults [⟨["endpoint"], .tooLong 2048⟩])) [] := by
  rw [run_eq depth hargs hsubscription horder hnew hload hready transport,
    hholds.readInfo_eq_tooLong hlong]
  rfl

/-- The end of a run whose notification was handed to the sender. -/
theorem exists_deliver_eq {info : Subscription.BrowserInfo} {n : Notification}
    (hn : order.notification info settings.defaultTtl = .ok n) {sender : Sender}
    (hsender : (Sender.ofSettings settings).1 = .ok sender) (transport : Transport)
    (session : Session) :
    let sent := (sender.send n session.now transport (.start session.entropy)).1
    ∃ after : Session, deliver order info settings transport session =
      match sent.result with
      | .ok _ =>
        ⟨.ok (.ok { status := 0, output := "Sent\n", errors := after.errorStream }), sent.received,
          after⟩
      | .error (.delivery e) =>
        if isReported e then .failed after e.message sent.received
        else ⟨.error (.delivery e), sent.received, after⟩
      | .error .unsupported => ⟨.ok (.ok { status := 1 }), sent.received, after⟩ := by
  obtain ⟨placed, hplaced, hsome, hnow, hentropy⟩ :=
    Session.exists_buildSender_eq_ok (s := session) hsender
  simp only [← hnow, ← hentropy]
  obtain ⟨after, hsend⟩ := Session.exists_send_eq hsome n transport
  refine ⟨after, ?_⟩
  generalize (sender.send n placed.now transport (.start placed.entropy)).1 = sent at hsend ⊢
  obtain ⟨result, received⟩ := sent
  cases result with
  | ok answer => simp only [deliver, hn, hplaced, hsend]
  | error e => cases e <;> simp only [deliver, hn, hplaced, hsend]

/-- **The message that was asked for arrives.** For arguments that spell an order, in an
environment with a key pair and with a file that holds what a browser handed out, the program
ends well where the push service accepts. It has sent one request, which opens to the title and
the body and has the lifetime of the order or that of the configuration. -/
theorem run_delivers (hargs : Spells parameters given args)
    (hsubscription : "--subscription" ∈ given.map Prod.fst)
    (horder : Order.ofParsed ⟨given, false⟩ = order) (hsound : order.IsSound)
    (hnew : session.settings = none) (hload : Settings.load session.environment = .ok settings)
    {e : P256.Scalar} (hkeys : settings.HasKeyPair e)
    (hready : session.readied settings withLog = .ok ready) (hnow : session.now.IsReading)
    {d : P256.Scalar}
    (hholds : HoldsSubscription depth ready.files order.subscriptionPath endpoint d.publicPoint auth)
    (hsecure : Subscription.IsSecureAddress endpoint) {target : Url.Target}
    (hreachable : Url.IsReachable endpoint target) {status : Int} (hstatus : status < 400)
    (text : String) :
    ∃ errors t after content message,
      run depth args withLog (.answered status text) session =
        ⟨.ok (.ok { status := 0, output := "Sent\n", errors }), [t], after⟩ ∧
      t.method = "POST" ∧ t.url = target.render ∧
      List.lookup "TTL" t.headers = some (toString (order.ttl.getD settings.defaultTtl)) ∧
      (∀ key, PrivateKey.load key = .ok d →
        Envelope.decrypt t.body key auth.bytes = .ok content) ∧
      Utf8.decodeChars? content = some message ∧
      ∀ reader, Json.read reader message =
        .ok (.object [("title", .string order.title), ("body", .string order.body)]) := by
  have hrun := run_eq depth hargs hsubscription horder hnew hload hready (.answered status text)
  subst horder
  obtain ⟨info, hinfo, htoSubscription⟩ := hholds.exists_readInfo_eq_ok hsecure
  obtain ⟨n, hn, hnsubscription, hcontent, hnttl⟩ := exists_notification_eq_ok hsound
    (fun _ => isSome_ofWord?_of_spells hargs) htoSubscription settings.defaultTtl
  obtain ⟨service, hsender⟩ := Sender.exists_ofSettings_eq hload hkeys
  -- The lifetime was read from a text, on the command line or in the environment, so it can be
  -- written into a header again.
  have hsmall : n.ttl < 10 ^ Number.maxDigits := by
    cases httl : (Order.ofParsed ⟨given, false⟩).ttl with
    | none =>
      rw [httl, Option.getD_none, Int.natCast_inj] at hnttl
      exact hnttl ▸ (Settings.of_load hload).1
    | some ttl =>
      rw [httl, Option.getD_some] at hnttl
      have hdigits := natAbs_lt_of_ofParsed httl
      rwa [← hnttl, Int.natAbs_natCast] at hdigits
  -- From here on everything is said of the notification, which `Sender` knows alone.
  have hroom := hsound.room
  rw [← length_encodeChars_payload] at hroom
  rw [← Session.now_of_readied hready] at hnow
  have hendpoint : n.endpoint = endpoint := congrArg Subscription.endpoint hnsubscription
  have hauth : n.subscription.auth = auth := congrArg Subscription.auth hnsubscription
  rw [← hendpoint] at hreachable
  obtain ⟨t, trace, hsent, hmethod, hurl, httl, hopens⟩ :=
    Sender.exists_send_eq_accepted service hreachable
      (congrArg Subscription.publicKey hnsubscription) hcontent hroom hsmall hnow hstatus text
      (.real settings.timeout) (.start ready.entropy)
  obtain ⟨after, hdeliver⟩ := exists_deliver_eq hn (congrArg Prod.fst hsender)
    (.answered status text) ready
  rw [hsent] at hdeliver
  refine ⟨after.errorStream, t, after, _, _, ?_, hmethod, hurl, ?_, ?_,
    Utf8.decodeChars?_encodeChars _, fun reader => read_payload reader _⟩
  · simp only [hrun, hinfo, hdeliver]
  · rw [httl, ← hnttl]
    rfl
  · rw [← hauth]
    exact hopens

/-! ## A run in full -/

open Subscription (plainKeyText plainSecretText plainMembers)

/-- The keys of a browser's plain object, written out. -/
def plainKeysText : List Char :=
  Json.printObject .compact
    [("p256dh", Json.printString plainKeyText), ("auth", Json.printString plainSecretText)]

/-- The whole of the object, written out. -/
def plainText (endpoint : String) : List Char :=
  '{' :: (Json.printString "endpoint" ++ ':' :: (Json.printString endpoint ++
    ',' :: (Json.printString "keys" ++ ':' :: (plainKeysText ++ ['}']))))

/-- A process with a key pair in its environment, and with the plain object of a browser in a file. -/
def plainSession (endpoint : String) (extra : List (String × String)) : Session :=
  { Session.start
      ⟨[("VAPIDPUSH_VAPID_PUBLIC_KEY", plainKeyText),
        ("VAPIDPUSH_VAPID_PRIVATE_KEY", "AAAAAAAAAAAAAAAAAAAAAAAAAAAAAAAAAAAAAAAAAAE"),
        ("VAPIDPUSH_VAPID_SUBJECT", "mailto:a@b")] ++ extra⟩
      ⟨fun _ => .one, fun _ => .zeros, 0, 0⟩ (.whole 0) (fun _ => "00:00:00") with
    files := ⟨[(["sub.json".toList], Utf8.encodeChars (plainText endpoint))], []⟩ }

theorem read_plainText (depth : Json.Depth) (endpoint : String) :
    Json.read depth (plainText endpoint) = .ok (.object (plainMembers endpoint)) := by
  have hkeys : Json.AreTextsOf
      [("p256dh", Json.printString plainKeyText), ("auth", Json.printString plainSecretText)]
      [("p256dh", .string plainKeyText), ("auth", .string plainSecretText)] :=
    .cons _ (Json.isTextOf_printString _) (.cons _ (Json.isTextOf_printString _) .nil)
  have hreads : Json.Reads depth .start (plainText endpoint)
      (.deliver [] (.object (plainMembers endpoint))) := by
    refine .cons (Json.step_openObject depth.limit_pos)
      ((Json.reads_printString_name "endpoint" true).append ?_)
    refine .cons rfl ((Json.reads_printString endpoint).append ?_)
    refine .cons rfl ((Json.reads_printString_name "keys" false).append ?_)
    refine .cons rfl ((hkeys.reads_printObject Json.isReadable_compact ?_).append ?_)
    · exact depth.two_le
    · exact .single rfl
  rw [Json.read, hreads]
  rfl

/-- **The file of such a process holds the subscription** of its browser. -/
theorem holdsSubscription_plain (depth : Json.Depth) (endpoint : String)
    (extra : List (String × String)) :
    HoldsSubscription depth (plainSession endpoint extra).files "sub.json" endpoint
      P256.Scalar.one.publicPoint .zeros := by
  have hpoint : P256.Scalar.one.publicPoint = P256.generator := by decide +kernel
  exact ⟨by decide +kernel, _, plainText endpoint, plainMembers endpoint, rfl,
    Utf8.decodeChars?_encodeChars _, read_plainText depth endpoint,
    hpoint ▸ Subscription.isHandedOut_plainMembers endpoint⟩

/-- The arguments of a short message, with characters that are escaped in it. -/
def plainArgs : List String :=
  ["--subscription" ++ "=" ++ "sub.json", "--title" ++ "=" ++ "\"é\" 😀", "--body" ++ "=" ++ ""]

/-- The values that these arguments give. -/
def plainGiven : List (String × String) :=
  [("--subscription", "sub.json"), ("--title", "\"é\" 😀"), ("--body", "")]

theorem spells_plain : Spells parameters plainGiven plainArgs := by
  refine .joined (p := parameters[0]) (List.getElem_mem _) rfl ?_
  refine .joined (p := parameters[1]) (List.getElem_mem _) rfl ?_
  exact .joined (p := parameters[2]) (List.getElem_mem _) rfl .nil

/-- The configuration of the process. -/
def plainSettings : Settings where
  vapidPublicKey := some ⟨plainKeyText, by decide +kernel⟩
  vapidPrivateKey := some ⟨"AAAAAAAAAAAAAAAAAAAAAAAAAAAAAAAAAAAAAAAAAAE", by decide⟩
  vapidSubject := some ⟨"mailto:a@b", by decide⟩
  gcmApiKey := none
  timeout := Settings.defaultTimeout
  defaultTtl := 2419200
  logLevel := .info
  logFile := none
  logMaxBytes := 5242880
  logBackupCount := 10

theorem load_plain (endpoint : String) :
    Settings.load (plainSession endpoint []).environment = .ok plainSettings := by
  have hload : Settings.load (plainSession "" []).environment = .ok plainSettings := by
    decide +kernel
  exact hload

/-- With its log set up, the process still has the subscription. -/
theorem exists_readied_plain (depth : Json.Depth) (endpoint : String) :
    ∃ ready, (plainSession endpoint []).readied plainSettings true = .ok ready ∧
      HoldsSubscription depth ready.files "sub.json" endpoint P256.Scalar.one.publicPoint .zeros := by
  have hfile : plainSettings.logFile = none := rfl
  obtain ⟨ready, hready, hfiles⟩ :=
    Session.exists_readied_eq_ok (s := plainSession endpoint []) rfl hfile true
  exact ⟨ready, hready, hfiles ▸ holdsSubscription_plain depth endpoint []⟩

/-- A message with a lifetime and an urgency arrives. -/
theorem run_delivers_plain : ∃ errors t after content message,
    run .least ("--ttl" :: "7" :: "--urgency=high" :: plainArgs) true (.answered 201 "")
        (plainSession "https://a/b" []) =
      ⟨.ok (.ok { status := 0, output := "Sent\n", errors }), [t], after⟩ ∧
    t.method = "POST" ∧ t.url = "https://a/b" ∧ List.lookup "TTL" t.headers = some "7" ∧
    Envelope.decrypt t.body (.key (.p256 .one)) Octets16.zeros.bytes = .ok content ∧
    Utf8.decodeChars? content = some message ∧
    ∀ reader, Json.read reader message =
      .ok (.object [("title", .string "\"é\" 😀"), ("body", .string "")]) := by
  have hspells : Spells parameters (("--ttl", "7") :: ("--urgency", "high") :: plainGiven)
      ("--ttl" :: "7" :: "--urgency=high" :: plainArgs) := by
    refine .separate (p := parameters[3]) (List.getElem_mem _) (by decide +kernel)
      (by decide +kernel) ?_
    exact .joined (p := parameters[4]) (List.getElem_mem _) (by decide +kernel) spells_plain
  have horder : Order.ofParsed ⟨("--ttl", "7") :: ("--urgency", "high") :: plainGiven, false⟩ =
      ⟨"sub.json", "\"é\" 😀", "", some 7, some "high", none⟩ := by decide +kernel
  have hsound : Order.IsSound ⟨"sub.json", "\"é\" 😀", "", some 7, some "high", none⟩ :=
    ⟨by rintro _ ⟨⟩; decide, nofun, by decide +kernel⟩
  have hkeys : plainSettings.HasKeyPair .one :=
    ⟨⟨_, rfl, by decide +kernel⟩, ⟨_, rfl, by decide +kernel⟩⟩
  obtain ⟨ready, hready, hholds⟩ := exists_readied_plain .least "https://a/b"
  have hsecure : Subscription.IsSecureAddress "https://a/b" :=
    ⟨by decide +kernel, by decide +kernel, ⟨"https".toList, ['a']⟩, rfl, rfl, rfl⟩
  have hreachable : Url.IsReachable "https://a/b"
      ⟨"https".toList, [], ['a'], none, "/b".toList, none, none⟩ :=
    ⟨by decide +kernel, ⟨"https://a", by decide +kernel⟩, rfl, rfl, rfl, rfl⟩
  have hnow : (plainSession "https://a/b" []).now.IsReading := Seconds.isReading_zero
  have haccepted : (201 : Int) < 400 := by decide
  obtain ⟨errors, t, after, content, message, hrun, hmethod, hurl, httl, hopens, hdecode, hread⟩ :=
    run_delivers hspells (by decide) horder hsound rfl (load_plain _) hkeys hready hnow hholds
      hsecure hreachable haccepted ""
  exact ⟨errors, t, after, content, message, hrun, hmethod, hurl, httl, hopens _ rfl, hdecode,
    hread⟩

/-- **What keeps a message back**: a lifetime of too many digits, an endpoint that is too long,
another mistake in the configuration, a log that cannot be made, and a log that is written into
the file of the subscription. -/
theorem run_plain_refused :
    (run .least (("--ttl" ++ "=" ++ String.ofList (List.replicate 4301 '1')) :: plainArgs) true
        (.answered 201 "") (plainSession "https://a/b" [])).result = .ok (.error .invalid) ∧
    (∃ errors, (run .least plainArgs true (.answered 201 "")
        (plainSession (String.ofList ("https://a/".toList ++ List.replicate 2039 'b')) [])).result =
          .ok (.ok { status := 1, errors })) ∧
    (run .least plainArgs true (.answered 201 "")
        (plainSession "https://a/b" [("VAPIDPUSH_TIMEOUT_SECONDS", "0")])).result =
      .error (.session (.settings .timeout)) ∧
    (run .least plainArgs true (.answered 201 "")
        (plainSession "https://a/b" [("VAPIDPUSH_LOG_FILE", "sub.json/log")])).result =
      .error (.session (.log (.folder "sub.json" ⟨.exists, "sub.json"⟩))) ∧
    (run .least plainArgs true (.answered 201 "")
        (plainSession "https://a/b" [("VAPIDPUSH_LOG_FILE", "sub.json")])).result =
      .ok (.ok { status := 1, errors :=
        "00:00:00 - vapidpush - INFO - Logging initialized at level INFO\n" ++
          "ERROR: could not read subscription: the file does not hold a JSON value\n" }) := by
  refine ⟨?_, ?_, by decide +kernel, by decide +kernel, by decide +kernel⟩
  · have hdigits : ∀ c ∈ List.replicate 4301 '1', c.isDigit = true :=
      List.forall_mem_replicate.2 (.inr (by decide))
    have hlong : Number.maxDigits < (List.replicate 4301 '1').length := by
      rw [List.length_replicate]
      decide
    rw [run_of_long_ttl spells_plain hdigits hlong]
  · have hlong :
        2048 < (String.ofList ("https://a/".toList ++ List.replicate 2039 'b')).length := by
      rw [String.length_ofList, List.length_append, List.length_replicate]
      decide
    generalize String.ofList ("https://a/".toList ++ List.replicate 2039 'b') = endpoint at hlong
    obtain ⟨ready, hready, hholds⟩ := exists_readied_plain .least endpoint
    rw [run_of_long_endpoint spells_plain (by decide) rfl rfl (load_plain _) hready hholds hlong]
    exact ⟨_, rfl⟩

end CommandLine.Send

end WebPush
