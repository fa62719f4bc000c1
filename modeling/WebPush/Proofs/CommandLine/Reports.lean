import WebPush.Proofs.CommandLine.Send
import WebPush.Proofs.Json.Depth
/-!
# Command line — which failures are reported

A run whose configuration is in order either sends its message, or
reports a failure, or stops with an error that it does not catch. Four
faults of the file with the subscription are of the last kind, and two of
the delivery. What they are is told here from the file, the notification
and the sender, without the program; every other failure is reported.
-/

namespace WebPush

namespace CommandLine.Send

/-! ## The file -/

/-- **The file is not read, and the program does not expect it**: its path is none, its octets are
no text, or its text is one that the reader gives up on. -/
inductive Unread (depth : Json.Depth) (tree : Files.Tree) (path : String) : ReadError → Prop
  | nulInPath : Environment.hasNul path = true → Unread depth tree path .nulInPath
  | encoding {content : Bytes} : Environment.hasNul path = false →
      tree.read (.ofString path) = .ok content → Utf8.decodeChars? content = none →
      Unread depth tree path .encoding
  | tooDeep {content : Bytes} {text : List Char} {insideObject : Bool} :
      Environment.hasNul path = false → tree.read (.ofString path) = .ok content →
      Utf8.decodeChars? content = some text → Json.NestsTooDeeply depth insideObject text →
      Unread depth tree path (.json (.tooDeep insideObject))
  | longInteger {content : Bytes} {text : List Char} {digits : Nat} :
      Environment.hasNul path = false → tree.read (.ofString path) = .ok content →
      Utf8.decodeChars? content = some text → Json.read depth text = .error (.longInteger digits) →
      Unread depth tree path (.json (.longInteger digits))

theorem unread_iff {depth : Json.Depth} {tree : Files.Tree} {path : String} {e : ReadError} :
    Unread depth tree path e ↔ readInfo depth tree path = .error e ∧ e.isReported = false := by
  constructor
  · rintro (hnul | ⟨hnul, hread, hdecode⟩ | ⟨hnul, hread, hdecode, hdeep⟩ |
      ⟨hnul, hread, hdecode, hlong⟩)
    · exact ⟨by rw [readInfo, if_pos hnul], rfl⟩
    · exact ⟨by simp only [readInfo, hnul, Bool.false_eq_true, if_false, hread, hdecode], rfl⟩
    · exact ⟨by simp only [readInfo, hnul, Bool.false_eq_true, if_false, hread, hdecode,
        Json.read_eq_tooDeep_iff.2 hdeep], rfl⟩
    · exact ⟨by simp only [readInfo, hnul, Bool.false_eq_true, if_false, hread, hdecode, hlong],
        rfl⟩
  · rintro ⟨h, hreported⟩
    rw [readInfo] at h
    split at h
    · rename_i hnul
      cases h
      exact .nulInPath hnul
    rename_i hnul
    rw [Bool.not_eq_true] at hnul
    split at h
    · cases h
      cases hreported
    rename_i content hread
    split at h
    · rename_i hdecode
      cases h
      exact .encoding hnul hread hdecode
    rename_i text hdecode
    split at h
    · rename_i f hjson
      cases h
      cases f with
      | malformed => cases hreported
      | tooDeep insideObject =>
        exact .tooDeep hnul hread hdecode (Json.read_eq_tooDeep_iff.1 hjson)
      | longInteger digits => exact .longInteger hnul hread hdecode hjson
    · rename_i value _
      cases hofJson : Subscription.BrowserInfo.ofJson value with
      | ok info =>
        rw [hofJson] at h
        cases h
      | error faults =>
        rw [hofJson] at h
        cases h
        cases hreported

/-! ## The delivery -/

/-- **The message is not delivered, and the program does not expect it**: a request was prepared
for an address that is no target, or the token could not be dated by the clock. -/
inductive Undelivered (service : Service) (n : Notification) (now : Seconds) (trace : Trace) :
    DeliveryError → Prop
  | target {r : Request} {after : Trace} {f : Url.TargetFault} :
      service.prepare n now trace = (.ok r, after) →
      Url.Target.ofText n.endpoint.toList = .error f →
      Undelivered service n now trace (.request (.target f))
  | clock {after : Trace} :
      service.prepare n now trace = (.error (.sign (.clock .infinite)), after) →
      Undelivered service n now trace (.prepare (.sign (.clock .infinite)))

/-- What an answer is judged to be is reported. -/
theorem isReported_of_judge {origin url : String} {transport : Transport} {e : DeliveryError}
    (h : (judge origin url transport).1 = .error e) : isReported e = true := by
  cases transport with
  | failed kind message =>
    cases h
    rfl
  | answered status text =>
    simp only [judge, judgeAnswer] at h
    repeat' split at h
    all_goals cases h
    all_goals rfl

theorem transmit_eq_target_iff {r : Request} (timeout : Seconds) {f : Url.TargetFault} :
    r.transmit timeout = .error (.target f) ↔ Url.Target.ofText r.endpoint.toList = .error f := by
  rw [Request.transmit]
  constructor
  · intro h
    split at h
    · rename_i f' hread
      cases h
      exact hread
    rename_i target _
    split at h
    · rename_i f' hfault
      cases h
      rw [Request.sendFault?] at hfault
      split at hfault
      · cases hfault
      split at hfault
      · cases hfault
      · cases hheader : headerFault? target.hostAndPort <;> rw [hheader] at hfault <;> cases hfault
    · cases h
  · intro h
    rw [h]

theorem undelivered_iff {service : Service} {n : Notification} {now : Seconds} {trace : Trace}
    {e : DeliveryError} (timeout : Seconds) (transport : Transport) :
    Undelivered service n now trace e ↔
      (service.send timeout n now transport trace).1.result = .error e ∧
        isReported e = false := by
  constructor
  · rintro (⟨hprepare, htarget⟩ | hprepare)
    · have hendpoint : _ = n.endpoint := Service.endpoint_of_prepare hprepare
      rw [← hendpoint, ← transmit_eq_target_iff timeout] at htarget
      exact ⟨by simp only [Service.send, hprepare, Request.post_eq_transmit, htarget], rfl⟩
    · exact ⟨by simp only [Service.send, hprepare], rfl⟩
  · rintro ⟨h, hreported⟩
    rw [Service.send] at h
    split at h
    · rename_i e' after hprepare
      cases h
      rw [isReported.eq_def] at hreported
      split at hreported
      · rename_i heq
        cases heq
      · rename_i heq
        cases heq
        exact .clock hprepare
      · cases hreported
    rename_i r after hprepare
    rw [Request.post_eq_transmit] at h
    split at h
    · rename_i f hfault
      cases h
      cases f with
      | target f =>
        have hendpoint : r.endpoint = n.endpoint := Service.endpoint_of_prepare hprepare
        rw [transmit_eq_target_iff, hendpoint] at hfault
        exact .target hprepare hfault
      | header f | hostName f => cases hreported
    split at h
    · cases h
      cases hreported
    · cases hreported.symm.trans (isReported_of_judge h)

end CommandLine.Send

namespace Sender

variable {n : Notification} {now : Seconds} {transport : Transport} {trace : Trace}

theorem send_eq_error {service : Service} {timeout : Seconds} {e : DeliveryError}
    (h : (service.send timeout n now transport trace).1.result = .error e) :
    ((http service timeout).send n now transport trace).1.result = .error (.delivery e) := by
  change ((service.send timeout n now transport trace).1.result.map some).mapError
    SendError.delivery = .error (.delivery e)
  rw [h]
  rfl

/-- An error of a sender is one of its service. -/
theorem of_send_eq_error {sender : Sender} {e : SendError}
    (h : (sender.send n now transport trace).1.result = .error e) :
    ∃ service timeout error, sender = .http service timeout ∧ e = .delivery error ∧
      (service.send timeout n now transport trace).1.result = .error error := by
  cases sender with
  | disabled => cases h
  | http service timeout =>
    change ((service.send timeout n now transport trace).1.result.map some).mapError .delivery =
      .error e at h
    cases hresult : (service.send timeout n now transport trace).1.result with
    | ok answer =>
      rw [hresult] at h
      cases h
    | error error =>
      rw [hresult] at h
      cases h
      exact ⟨service, timeout, error, rfl, rfl, hresult⟩

end Sender

namespace CommandLine.Send

/-! ## The run -/

section Run

variable {settings : Settings} {ready : Session}

/-- **The message is sent**: the subscription is read and makes a notification, the configuration
makes a sender, and the sender returns. -/
def Order.IsSent (order : Order) (depth : Json.Depth) (settings : Settings) (ready : Session)
    (transport : Transport) : Prop :=
  ∃ info n sender answer, readInfo depth ready.files order.subscriptionPath = .ok info ∧
    order.notification info settings.defaultTtl = .ok n ∧
    (Sender.ofSettings settings).1 = .ok sender ∧
    (sender.send n ready.now transport (.start ready.entropy)).1.result = .ok answer

/-- **The program stops**, with an error in its file or in the delivery that it does not
expect. -/
inductive Order.Stops (order : Order) (depth : Json.Depth) (settings : Settings) (ready : Session) :
    Escape → Prop
  | read {e : ReadError} :
      Unread depth ready.files order.subscriptionPath e → Stops order depth settings ready (.read e)
  | delivery {info : Subscription.BrowserInfo} {n : Notification} {service : Service}
      {timeout : Seconds} {e : DeliveryError} :
      readInfo depth ready.files order.subscriptionPath = .ok info →
      order.notification info settings.defaultTtl = .ok n →
      (Sender.ofSettings settings).1 = .ok (.http service timeout) →
      Undelivered service n ready.now (.start ready.entropy) e →
      Stops order depth settings ready (.delivery e)

/-- A run that ends well and says so, with nothing but its log on the error stream. -/
def Run.Succeeds (run : Run) : Prop :=
  run.result = .ok (.ok { status := 0, output := "Sent\n", errors := run.session.errorStream })

/-- A run that ends with a status of one and with the reason on the error stream, behind its log. -/
def Run.Reports (run : Run) : Prop :=
  ∃ message, run.result = .ok (.ok
    { status := 1, errors := run.session.errorStream ++ "ERROR: " ++ message ++ "\n" })

theorem Run.reports_failed (session : Session) (message : String) (received : List Transmission) :
    (Run.failed session message received).Reports :=
  ⟨message, rfl⟩

variable (depth : Json.Depth) {args : List String} {withLog : Bool} {session : Session}
  {parsed : Parsed}

section

variable (hparse : parse parameters args = .ok parsed)
  (hready : session.Readies withLog settings ready) (transport : Transport)
include hparse hready

/-- **A message that is sent** ends the run well. -/
theorem succeeds_of_isSent (h : (Order.ofParsed parsed).IsSent depth settings ready transport) :
    (run depth args withLog transport session).Succeeds := by
  obtain ⟨info, n, sender, answer, hinfo, hn, hsender, hresult⟩ := h
  obtain ⟨after, hdeliver⟩ := exists_deliver_eq hn hsender transport ready
  rw [hresult] at hdeliver
  simp only [run_eq_of_readies depth hparse hready, hinfo, hdeliver]
  rfl

/-- **What stops the program** is what the run ends with. -/
theorem result_of_stops {e : Escape} (h : (Order.ofParsed parsed).Stops depth settings ready e) :
    (run depth args withLog transport session).result = .error e := by
  rw [run_eq_of_readies depth hparse hready]
  cases h with
  | read hunread =>
    obtain ⟨hinfo, hreported⟩ := unread_iff.1 hunread
    simp only [hinfo, hreported, Bool.false_eq_true, if_false]
  | @delivery info n service timeout e hinfo hn hsender hundelivered =>
    obtain ⟨hresult, hreported⟩ := (undelivered_iff timeout transport).1 hundelivered
    obtain ⟨after, hdeliver⟩ := exists_deliver_eq hn hsender transport ready
    rw [Sender.send_eq_error hresult] at hdeliver
    simp only [hreported, Bool.false_eq_true, if_false] at hdeliver
    rw [hinfo]
    exact congrArg Run.result hdeliver

/-- **Every other failure** is reported. -/
theorem reports_of_not (hsent : ¬ (Order.ofParsed parsed).IsSent depth settings ready transport)
    (hstops : ∀ e, ¬ (Order.ofParsed parsed).Stops depth settings ready e) :
    (run depth args withLog transport session).Reports := by
  rw [run_eq_of_readies depth hparse hready]
  cases hinfo : readInfo depth ready.files (Order.ofParsed parsed).subscriptionPath with
  | error e =>
    cases hreported : e.isReported with
    | false => exact absurd (.read (unread_iff.2 ⟨hinfo, hreported⟩)) (hstops (.read e))
    | true =>
      simp only [hreported, if_true]
      exact Run.reports_failed _ _ _
  | ok info =>
    cases hn : (Order.ofParsed parsed).notification info settings.defaultTtl with
    | error failure =>
      simp only [deliver, hn]
      exact Run.reports_failed _ _ _
    | ok n =>
      cases hsender : (Sender.ofSettings settings).1 with
      | error e =>
        obtain ⟨after, hplaced⟩ := Session.exists_buildSender_eq_error (s := ready) hsender
        simp only [deliver, hn, hplaced]
        exact Run.reports_failed _ _ _
      | ok sender =>
        obtain ⟨after, hdeliver⟩ := exists_deliver_eq hn hsender transport ready
        cases hresult :
            (sender.send n ready.now transport (.start ready.entropy)).1.result with
        | ok answer => exact absurd ⟨info, n, sender, answer, hinfo, hn, hsender, hresult⟩ hsent
        | error e =>
          obtain ⟨service, timeout, e, rfl, rfl, herror⟩ := Sender.of_send_eq_error hresult
          cases hreported : isReported e with
          | false =>
            have hundelivered := (undelivered_iff timeout transport).2 ⟨herror, hreported⟩
            exact absurd (.delivery hinfo hn hsender hundelivered) (hstops (.delivery e))
          | true =>
            rw [hresult] at hdeliver
            simp only [hreported, if_true] at hdeliver
            simp only [hdeliver]
            exact Run.reports_failed _ _ _

end

/-- **How a run ends whose configuration is in order.** It ends well, and says so, if and only if
the message was sent. It ends with an error if and only if that error is one of those that stop
the program: four in reading its file, two in the delivery. In all other cases it ends with a
status of one and reports why. -/
theorem run_reports (hparse : parse parameters args = .ok parsed)
    (hready : session.Readies withLog settings ready) (transport : Transport) :
    let order := Order.ofParsed parsed
    let outcome := run depth args withLog transport session
    (outcome.Succeeds ↔ order.IsSent depth settings ready transport) ∧
      (∀ e, outcome.result = .error e ↔ order.Stops depth settings ready e) ∧
      (outcome.Reports ↔
        ¬ order.IsSent depth settings ready transport ∧
          ∀ e, ¬ order.Stops depth settings ready e) := by
  intro order outcome
  have hsucceeds := succeeds_of_isSent depth hparse hready transport
  have hresult := fun e => result_of_stops depth hparse hready transport (e := e)
  have hreports := reports_of_not depth hparse hready transport
  -- Whichever the run ends in, the other two ends are excluded by its result.
  by_cases hsent : order.IsSent depth settings ready transport
  · have hend := hsucceeds hsent
    have hnever : ∀ e, outcome.result ≠ .error e := fun e h => by cases hend.symm.trans h
    refine ⟨iff_of_true hend hsent,
      fun e => iff_of_false (hnever e) fun hstops => hnever e (hresult e hstops),
      iff_of_false ?_ fun h => h.1 hsent⟩
    rintro ⟨message, h⟩
    cases hend.symm.trans h
  by_cases hstops : ∃ e, order.Stops depth settings ready e
  · obtain ⟨e, hstops⟩ := hstops
    have hend := hresult e hstops
    refine ⟨iff_of_false ?_ hsent, fun e' => ⟨fun h => ?_, hresult e'⟩,
      iff_of_false ?_ fun h => h.2 e hstops⟩
    · intro h
      cases hend.symm.trans h
    · cases hend.symm.trans h
      exact hstops
    · rintro ⟨message, h⟩
      cases hend.symm.trans h
  · have hnone := not_exists.1 hstops
    obtain ⟨message, hend⟩ := hreports hsent hnone
    refine ⟨iff_of_false ?_ hsent, fun e => iff_of_false ?_ (hnone e),
      iff_of_true ⟨message, hend⟩ ⟨hsent, hnone⟩⟩
    · intro h
      cases hend.symm.trans h
    · intro h
      cases hend.symm.trans h

end Run

/-! ## Runs in full -/

/-- A process like the plain one, whose file of that name has other octets in it. -/
def sessionWithFile (content : Bytes) : Session :=
  { plainSession "" [] with files := ⟨[(["sub.json".toList], content)], []⟩ }

theorem exists_readies_sessionWithFile (content : Bytes) : ∃ ready,
    (sessionWithFile content).Readies true plainSettings ready ∧
      ready.files = (sessionWithFile content).files := by
  have hfile : plainSettings.logFile = none := rfl
  obtain ⟨ready, hready, hfiles⟩ :=
    Session.exists_readied_eq_ok (s := sessionWithFile content) rfl hfile true
  exact ⟨ready, Session.readies_of_readied rfl (load_plain "") hready, hfiles⟩

/-- An empty file is reported. -/
theorem run_reports_empty :
    (run .least plainArgs true (.answered 201 "") (sessionWithFile [])).Reports := by
  obtain ⟨ready, hready, hfiles⟩ := exists_readies_sessionWithFile []
  have hparse : parse parameters plainArgs = .ok ⟨plainGiven, false⟩ :=
    parse_eq_ok spells_plain (by decide)
  have hinfo : readInfo .least ready.files (Order.ofParsed ⟨plainGiven, false⟩).subscriptionPath =
      .error (.json .malformed) := by
    rw [hfiles]
    decide +kernel
  refine (run_reports .least hparse hready (.answered 201 "")).2.2.2 ⟨?_, fun e hstops => ?_⟩
  · rintro ⟨info, -, -, -, hok, -⟩
    cases hinfo.symm.trans hok
  · cases hstops with
    | read hunread =>
      obtain ⟨herror, hreported⟩ := unread_iff.1 hunread
      cases hinfo.symm.trans herror
      cases hreported
    | delivery hok => cases hinfo.symm.trans hok

/-- A file with one octet that is no text stops the program, in a configuration that is in order. -/
theorem exists_run_stopped :
    (∃ parsed, parse parameters plainArgs = .ok parsed) ∧
      (∃ settings ready, (sessionWithFile [0xFF]).Readies true settings ready) ∧
      (run .least plainArgs true (.answered 201 "") (sessionWithFile [0xFF])).result =
        .error (.read .encoding) := by
  obtain ⟨ready, hready, -⟩ := exists_readies_sessionWithFile [0xFF]
  exact ⟨⟨_, parse_eq_ok spells_plain (by decide)⟩, ⟨_, _, hready⟩, by decide +kernel⟩

end CommandLine.Send

end WebPush
