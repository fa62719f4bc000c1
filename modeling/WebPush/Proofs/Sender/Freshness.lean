import WebPush.Proofs.Seconds
import WebPush.Proofs.Sender.Outcomes
import WebPush.Proofs.Service.Draws
/-!
# Sender — no random value is used for two messages

Services and senders of a process share one source of random values.
Every call draws a scalar and a salt, or nothing at all, and the message
that it makes is made with what it drew. So over any sequence of calls
the messages use up both sequences of values in step, each its own.
-/

namespace WebPush

/-! ## Single deliveries -/

/-- What is received of a request has its body. -/
theorem Request.body_of_transmit {r : Request} {timeout : Seconds} {t : Transmission}
    (h : r.transmit timeout = .ok t) : t.body = r.body := by
  rw [transmit] at h
  split at h
  · cases h
  split at h
  · cases h
  · injection h with h
    rw [← h]

namespace Service

variable {s : Service} {n : Notification} {now timeout : Seconds} {trace : Trace}
  {transport : Transport} {given : Option Client}

/-- Sending draws what preparing draws. -/
theorem entropy_send (s : Service) (timeout : Seconds) (n : Notification) (now : Seconds)
    (transport : Transport) (trace : Trace) (given : Option Client) :
    (s.send timeout n now transport trace given).2.entropy =
      (s.prepare n now trace).2.entropy := by
  rw [send]
  split <;> rename_i heq <;> rw [heq]
  split
  · rfl
  split
  · rfl
  rename_i transmission _ _ origin _
  cases hjudged : judge origin transmission.url transport with
  | mk result record => cases record <;> rfl

/-- What is received is empty, or it is made with what was drawn. -/
theorem body_of_received {t : Transmission}
    (h : t ∈ (s.send timeout n now transport trace given).1.received) :
    if s.encrypts n then
      Envelope.IsMadeWith t.body trace.entropy.drawScalar.1 trace.entropy.drawScalar.2.drawSalt.1
    else t.body = [] := by
  rw [send] at h
  split at h
  · cases h
  rename_i r between hprepare
  rw [Request.post_eq_transmit] at h
  split at h
  · cases h
  rename_i t' htransmit
  have hbody := body_of_prepare hprepare
  rw [← Request.body_of_transmit htransmit] at hbody
  split at h <;> rw [List.mem_singleton.1 h] <;> exact hbody

end Service

/-! ## Calls -/

/-- One use of a service in a process: to prepare a request, or to send a notification
at once or by a task. -/
inductive Call where
  | prepare (service : Service) (n : Notification) (now : Seconds)
  | send (service : Service) (n : Notification) (now timeout : Seconds) (transport : Transport)
      (clients : Clients)
  | sendAwaited (service : Service) (n : Notification) (now timeout : Seconds)
      (transport : Transport) (clients : Clients)

/-- The service that is used. -/
def Call.service : Call → Service
  | prepare service _ _ | send service _ _ _ _ _ | sendAwaited service _ _ _ _ _ => service

/-- The notification that it is used for. -/
def Call.notification : Call → Notification
  | prepare _ n _ | send _ n _ _ _ _ | sendAwaited _ n _ _ _ _ => n

/-- What comes of a call. -/
inductive Outcome where
  | prepared (result : Except PrepareError Request)
  | sent (sent : Sender.Sent)

/-- The bodies of the requests that were given back or received. -/
def Outcome.bodies : Outcome → List Bytes
  | .prepared (.ok r) => [r.body]
  | .prepared (.error _) => []
  | .sent made => made.received.map Transmission.body

namespace Call

/-- A call that starts from a trace. -/
def run : Call → Trace → Outcome × Trace
  | prepare service n now, trace =>
    let (result, trace) := service.prepare n now trace
    (.prepared result, trace)
  | send service n now timeout transport clients, trace =>
    let (sent, trace) := (Sender.http service timeout).send n now transport trace clients
    (.sent sent, trace)
  | sendAwaited service n now timeout transport clients, trace =>
    let (sent, trace) := (Sender.http service timeout).sendAwaited n now transport trace clients
    (.sent sent, trace)

/-- Calls made one after the other. -/
def runAll : List Call → Trace → List Outcome × Trace
  | [], trace => ([], trace)
  | call :: rest, trace =>
    let (outcome, trace) := call.run trace
    let (outcomes, trace) := runAll rest trace
    (outcome :: outcomes, trace)

/-- The call comes to encrypting a message. -/
def encrypts (call : Call) : Bool := call.service.encrypts call.notification

/-- **Which calls encrypt**: those with the API key that they may need, with content, for a key on
the curve, and with a time to live of at most 4300 digits. -/
theorem encrypts_eq (call : Call) : call.encrypts =
    (!(call.notification.isGcm && !hasText call.service.gcmApiKey) &&
      call.notification.hasPayload && call.notification.subscription.publicKey.isP256 &&
      decide (call.notification.ttl < 10 ^ 4300)) := by
  have httl : decide (Double.decimalLength call.notification.ttl ≤ Number.maxDigits) =
      decide (call.notification.ttl < 10 ^ 4300) := by
    have hlimit : Number.maxDigits = 4300 := rfl
    rw [decide_eq_decide, hlimit, Double.decimalLength_le_iff (by decide)]
  rw [encrypts, Service.encrypts, Service.admits, httl]
  simp only [Bool.and_assoc, Bool.and_comm, Bool.and_left_comm]

/-! ### One call -/

/-- **What a call draws**: a scalar and then a salt if it comes to encrypting, and
otherwise nothing. -/
theorem entropy_run (call : Call) (trace : Trace) :
    (call.run trace).2.entropy =
      if call.encrypts then trace.entropy.advance else trace.entropy := by
  cases call with
  | prepare service n now => exact Service.entropy_prepare service n now trace
  | send service n now timeout transport clients
  | sendAwaited service n now timeout transport clients =>
    exact (Service.entropy_send _ _ _ _ _ _ _).trans (Service.entropy_prepare service n now trace)

/-- **What a call makes** is made with what it drew, or is empty if it drew nothing. -/
theorem bodies_run (call : Call) (trace : Trace) : ∀ body ∈ (call.run trace).1.bodies,
    if call.encrypts then
      Envelope.IsMadeWith body trace.entropy.drawScalar.1 trace.entropy.drawScalar.2.drawSalt.1
    else body = [] := by
  intro body hbody
  cases call with
  | send service n now timeout transport clients
  | sendAwaited service n now timeout transport clients =>
    obtain ⟨t, ht, rfl⟩ := List.mem_map.1 hbody
    exact Service.body_of_received ht
  | prepare service n now =>
    cases hprepare : service.prepare n now trace with
    | mk result after =>
    simp only [run, hprepare] at hbody
    cases result with
    | error e => cases hbody
    | ok r =>
      obtain rfl : body = r.body := List.mem_singleton.1 hbody
      exact Service.body_of_prepare hprepare

/-! ### All calls -/

theorem runAll_append (calls calls' : List Call) (trace : Trace) :
    runAll (calls ++ calls') trace =
      ((runAll calls trace).1 ++ (runAll calls' (runAll calls trace).2).1,
        (runAll calls' (runAll calls trace).2).2) := by
  induction calls generalizing trace with
  | nil => rfl
  | cons call rest ih => simp only [List.cons_append, runAll, ih]

theorem length_runAll (calls : List Call) (trace : Trace) :
    (runAll calls trace).1.length = calls.length := by
  induction calls generalizing trace with
  | nil => rfl
  | cons call rest ih => simp only [runAll, List.length_cons, ih]

/-- **Every call that encrypts moves the source on by one message**, and no other does. -/
theorem entropy_runAll (calls : List Call) (trace : Trace) :
    (runAll calls trace).2.entropy = trace.entropy.skip (calls.countP encrypts) := by
  induction calls generalizing trace with
  | nil => rfl
  | cons call rest ih =>
    have hcall := entropy_run call trace
    simp only [runAll, ih, hcall, List.countP_cons]
    split
    · rw [← Entropy.skip_zero trace.entropy, Entropy.advance_skip, Entropy.skip_skip,
        Nat.add_comm, Entropy.skip_zero, Nat.zero_add]
    · rfl

/-- The outcome of a call among others is that of the call after those before it. -/
theorem getElem?_runAll {calls : List Call} {i : Nat} {call : Call} (h : calls[i]? = some call)
    (trace : Trace) : (runAll calls trace).1[i]? =
      some (call.run (runAll (calls.take i) trace).2).1 := by
  obtain ⟨hlt, hget⟩ := List.getElem?_eq_some_iff.1 h
  have hsplit : calls.take i ++ call :: calls.drop (i + 1) = calls := by
    rw [← hget, ← List.drop_eq_getElem_cons hlt, List.take_append_drop]
  have hlength : (runAll (calls.take i) trace).1.length = i := by
    rw [length_runAll, List.length_take_of_le (Nat.le_of_lt hlt)]
  -- The calls stand on both sides, and only those that are run are split up.
  conv_lhs => rw [← hsplit, runAll_append]
  rw [List.getElem?_append_right (Nat.le_of_eq hlength), hlength, Nat.sub_self]
  rfl

/-- More calls encrypt before one call than before an earlier one that encrypts itself. -/
theorem countP_take_lt {calls : List Call} {i j : Nat} {call : Call} (h : calls[i]? = some call)
    (hencrypts : call.encrypts = true) (hlt : i < j) :
    (calls.take i).countP encrypts < (calls.take j).countP encrypts := by
  have hsucc : (calls.take (i + 1)).countP encrypts = (calls.take i).countP encrypts + 1 := by
    rw [List.take_add_one, h, Option.toList_some, List.countP_append,
      List.countP_cons_of_pos hencrypts, List.countP_nil]
  have hprefix : calls.take (i + 1) <+: calls.take j := List.take_prefix_take_left hlt
  have hle := hprefix.sublist.countP_le (p := encrypts)
  omega

/-- **No random value is used twice.** Over any sequence of calls as many scalars are
drawn as salts, one of each for every call that draws and none for any other. A call draws
if it has the API key that it may need, content, and a key on the curve, and if its time to
live can be written, which takes at most 4300 digits. The message of such a call begins with
the salt and names the public half of the scalar whose place is the number of such calls
before it, so no two messages share either. What another call sends is empty. -/
theorem runAll_fresh (calls : List Call) (trace : Trace) :
    let draws (call : Call) : Bool :=
      !(call.notification.isGcm && !hasText call.service.gcmApiKey) &&
        call.notification.hasPayload && call.notification.subscription.publicKey.isP256 &&
        decide (call.notification.ttl < 10 ^ 4300)
    let drawn (i : Nat) : Nat := (calls.take i).countP draws
    (runAll calls trace).2.entropy = trace.entropy.skip (calls.countP draws) ∧
    ∀ i call, calls[i]? = some call →
      let before := (runAll (calls.take i) trace).2
      (runAll calls trace).1[i]? = some (call.run before).1 ∧
      before.entropy = trace.entropy.skip (drawn i) ∧
      (draws call = true →
        (call.run before).2.entropy = before.entropy.drawScalar.2.drawSalt.2 ∧
        (∀ body ∈ (call.run before).1.bodies, Envelope.IsMadeWith body
          (trace.entropy.scalarAt (trace.entropy.scalarsUsed + drawn i))
          (trace.entropy.saltAt (trace.entropy.saltsUsed + drawn i))) ∧
        ∀ j call', calls[j]? = some call' → draws call' = true → i ≠ j → drawn i ≠ drawn j) ∧
      (draws call = false → (call.run before).2.entropy = before.entropy ∧
        ∀ body ∈ (call.run before).1.bodies, body = []) := by
  intro draws drawn
  have hdraws : draws = encrypts := (funext encrypts_eq).symm
  clear_value draws
  subst hdraws
  refine ⟨entropy_runAll calls trace, fun i call hcall => ?_⟩
  intro before
  have hbefore : before.entropy = trace.entropy.skip (drawn i) := entropy_runAll _ trace
  have hdraws := entropy_run call before
  have hbodies := bodies_run call before
  refine ⟨getElem?_runAll hcall trace, hbefore, ?_, ?_⟩
  · intro hencrypts
    simp only [hencrypts, if_true] at hdraws hbodies
    rw [hbefore] at hbodies
    refine ⟨hdraws, hbodies, fun j call' hcall' hencrypts' hne => ?_⟩
    obtain hlt | hlt := Nat.lt_or_gt_of_ne hne
    · exact Nat.ne_of_lt (countP_take_lt hcall hencrypts hlt)
    · exact Nat.ne_of_gt (countP_take_lt hcall' hencrypts' hlt)
  · intro hnot
    simp only [hnot, Bool.false_eq_true, if_false] at hdraws hbodies
    exact ⟨hdraws, hbodies⟩

/-- A source with two different salts. -/
def twoSalts : Entropy :=
  ⟨fun _ => .one, fun i => if i = 0 then .zeros else ⟨List.replicate 16 1, rfl⟩, 0, 0⟩

/-- With a message in front and one without content between. -/
theorem runAll_fresh_third :
    let message := prepare Sender.plainService (Sender.plainNotificationTo "https://a/b") (.whole 0)
    let silent := prepare Sender.plainService
      { Sender.plainNotificationTo "https://a/b" with payload := none } (.whole 0)
    let all := runAll [message, silent, message] (.start twoSalts)
    all.2.entropy.scalarsUsed = 2 ∧ all.2.entropy.saltsUsed = 2 ∧
      ∃ r, all.1[2]? = some (.prepared (.ok r)) ∧
        r.body.take 16 = List.replicate 16 1 ∧ r.body.take 16 ≠ (twoSalts.saltAt 0).bytes := by
  intro message silent all
  have hfresh := runAll_fresh [message, silent, message] (.start twoSalts)
  simp only [← encrypts_eq] at hfresh
  obtain ⟨hall, hcalls⟩ := hfresh
  obtain ⟨houtcome, -, hencrypts, -⟩ := hcalls 2 message rfl
  obtain ⟨-, hmade, -⟩ := hencrypts (by decide +kernel)
  have hcount : [message, silent, message].countP encrypts = 2 := by decide +kernel
  have hdrawn : ([message, silent, message].take 2).countP encrypts = 1 := by decide +kernel
  rw [hcount] at hall
  obtain ⟨r, after, hprepare⟩ := Sender.exists_prepare_plain (by decide +kernel)
    (by decide +kernel : Url.origin "https://a/b" = .ok "https://a")
    (runAll ([message, silent, message].take 2) (.start twoSalts)).2
  have hrun : (message.run (runAll ([message, silent, message].take 2) (.start twoSalts)).2).1 =
      .prepared (.ok r) := by
    rw [run, hprepare]
  rw [hrun] at houtcome hmade
  have hmessage := hmade r.body (List.mem_singleton.2 rfl)
  simp only [hdrawn] at hmessage
  have hsalt : r.body.take 16 = List.replicate 16 1 := hmessage.1
  simp only [all, hall]
  refine ⟨rfl, rfl, r, houtcome, hsalt, ?_⟩
  rw [hsalt]
  decide

/-- A message of two octets for the holder of the least private scalar, with a time to live. -/
def lastingNotification (ttl : Nat) : Notification :=
  ⟨⟨"https://a/b", .p256 P256.Scalar.one.publicPoint, .zeros⟩, some [0x68, 0x69], ttl, none, none⟩

theorem make_lastingNotification (ttl : Nat) :
    Notification.make ⟨"https://a/b", .p256 P256.Scalar.one.publicPoint, .zeros⟩
      (some (.raw [0x68, 0x69])) ttl none none = .ok (lastingNotification ttl) := by
  rw [Notification.make, if_neg (Int.not_lt.2 (Int.natCast_nonneg ttl))]
  rfl

/-- **A time to live that cannot be written** keeps a message from being drawn for, though it
needs no API key and has content for a key on the curve. -/
theorem exists_content_not_drawn :
    let s : Service := ⟨none, none, none⟩
    let n := lastingNotification (10 ^ 4300)
    let trace := Trace.start twoSalts
    Service.make none none none = .ok s ∧
      Notification.make ⟨"https://a/b", .p256 P256.Scalar.one.publicPoint, .zeros⟩
        (some (.raw [0x68, 0x69])) (10 ^ 4300 : Nat) none none = .ok n ∧
      (n.isGcm && !hasText s.gcmApiKey) = false ∧ n.hasPayload = true ∧
      n.subscription.publicKey.isP256 = true ∧
      (prepare s n (.whole 0)).run trace = (.prepared (.error .ttlTooLong), trace) := by
  intro s n trace
  have hlimit : Number.maxDigits < Double.decimalLength n.ttl := by decide +kernel
  have hcredential : (n.isGcm && !hasText s.gcmApiKey) = false := by decide +kernel
  refine ⟨rfl, make_lastingNotification _, hcredential, rfl, rfl, ?_⟩
  simp only [run, Service.prepare, hcredential, Bool.false_eq_true, if_false, if_pos hlimit]

end Call

end WebPush
