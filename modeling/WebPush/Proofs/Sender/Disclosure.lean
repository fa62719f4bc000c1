import WebPush.Proofs.Sender.Freshness
import WebPush.Proofs.Service.Credentials
/-!
# Sender — what the log tells of a message

A record names the origin of an endpoint, the length of a message and its
envelope, the expiry of a token, and the status and text of an answer.
So two deliveries that look alike in these add the same records, however
they differ in everything else: the rest of the endpoint, the content, the
keys and secrets on both sides, and what was drawn.
-/

namespace WebPush

/-- Two computations have added the same records to what was in the log. -/
def SameRecords (trace trace' after after' : Trace) : Prop :=
  ∃ records, after.log = trace.log ++ records ∧ after'.log = trace'.log ++ records

namespace SameRecords

variable {trace trace' between between' after after' : Trace}

theorem refl (trace trace' : Trace) : SameRecords trace trace' trace trace' :=
  ⟨[], (List.append_nil _).symm, (List.append_nil _).symm⟩

theorem trans (h : SameRecords trace trace' between between')
    (h' : SameRecords between between' after after') : SameRecords trace trace' after after' := by
  obtain ⟨records, hlog, hlog'⟩ := h
  obtain ⟨more, hmore, hmore'⟩ := h'
  refine ⟨records ++ more, ?_, ?_⟩
  · rw [hmore, hlog, List.append_assoc]
  · rw [hmore', hlog', List.append_assoc]

/-- One more record, which is the same. -/
theorem note (h : SameRecords trace trace' after after') {record record' : Log.Record}
    (hrecord : record = record') :
    SameRecords trace trace' (after.note record) (after'.note record') :=
  h.trans ⟨[record], rfl, hrecord ▸ rfl⟩

end SameRecords

/-- Two computations add the same records, and both succeed or both fail. -/
structure Alike {ε α : Type} (trace trace' : Trace) (done done' : Except ε α × Trace) : Prop where
  isOk : done.1.isOk = done'.1.isOk
  records : SameRecords trace trace' done.2 done'.2

namespace Alike

variable {ε α : Type} {trace trace' after after' : Trace}

theorem ok (a a' : α) (h : SameRecords trace trace' after after') :
    Alike (ε := ε) trace trace' (.ok a, after) (.ok a', after') :=
  ⟨rfl, h⟩

theorem error (e e' : ε) (h : SameRecords trace trace' after after') :
    Alike (α := α) trace trace' (.error e, after) (.error e', after') :=
  ⟨rfl, h⟩

/-- The two ways in which both end. -/
theorem cases {done done' : Except ε α × Trace} (h : Alike trace trace' done done') :
    (∃ e e' after after', done = (.error e, after) ∧ done' = (.error e', after') ∧
        SameRecords trace trace' after after') ∨
      ∃ a a' after after', done = (.ok a, after) ∧ done' = (.ok a', after') ∧
        SameRecords trace trace' after after' := by
  obtain ⟨result, after⟩ := done
  obtain ⟨result', after'⟩ := done'
  obtain ⟨hok, hrecords⟩ := h
  cases result with
  | error e =>
    cases result' with
    | error e' => exact .inl ⟨e, e', after, after', rfl, rfl, hrecords⟩
    | ok a' => cases hok
  | ok a =>
    cases result' with
    | error e' => cases hok
    | ok a' => exact .inr ⟨a, a', after, after', rfl, rfl, hrecords⟩

end Alike

namespace Service

/-- **Two deliveries that look alike to a reader of the log**: endpoints of the same origin
and kind, contents of the same length for keys on the curve, the same kinds of credentials,
and times to live that both can be written or both cannot. -/
structure LookAlike (s s' : Service) (n n' : Notification) : Prop where
  origin : n.origin.toOption = n'.origin.toOption
  isGcm : n.isGcm = n'.isGcm
  length : (n.payload.getD []).length = (n'.payload.getD []).length
  recipient : ∃ P, n.subscription.publicKey = .p256 P
  recipient' : ∃ P, n'.subscription.publicKey = .p256 P
  apiKey : hasText s.gcmApiKey = hasText s'.gcmApiKey
  vapid : s.vapidEnabled = s'.vapidEnabled
  ttl : Double.decimalLength n.ttl ≤ Number.maxDigits ↔ Double.decimalLength n'.ttl ≤ Number.maxDigits

variable {s s' : Service} {n n' : Notification} {trace trace' : Trace}

/-! ## Preparing -/

/-- The content is the payload, unless it is empty. -/
theorem content?_eq (n : Notification) :
    n.content? = if n.payload.getD [] = [] then none else some (n.payload.getD []) := by
  rw [Notification.content?]
  cases n.payload with
  | none => rfl
  | some bytes => cases bytes <;> rfl

theorem LookAlike.hasPayload (h : LookAlike s s' n n') : n.hasPayload = n'.hasPayload := by
  rw [Notification.hasPayload, Notification.hasPayload, content?_eq, content?_eq]
  simp only [← List.length_eq_zero_iff, h.length]
  split <;> rfl

theorem LookAlike.admits (h : LookAlike s s' n n') : s.admits n = s'.admits n' := by
  simp only [Service.admits, h.isGcm, h.apiKey, h.ttl]

/-- The record about a request shows what both requests share. -/
theorem LookAlike.preparedRecord (h : LookAlike s s' n n') (origin : String) :
    s.preparedRecord n origin = s'.preparedRecord n' origin := by
  simp only [Service.preparedRecord, h.hasPayload, h.isGcm, h.vapid]

/-- Encrypting tells the length of the message. -/
theorem alike_encryptFor {content content' : Bytes} (hlength : content.length = content'.length)
    (P P' : P256.Point) (auth auth' : Octets16) (trace trace' : Trace) :
    Alike trace trace' (Envelope.encryptFor content P auth 0 trace)
      (Envelope.encryptFor content' P' auth' 0 trace') := by
  obtain ⟨shared, heq⟩ := Envelope.exists_encryptFor_eq content P auth 0 trace
  obtain ⟨shared', heq'⟩ := Envelope.exists_encryptFor_eq content' P' auth' 0 trace'
  -- Draws are no records.
  have hdrawn (entropy entropy' : Entropy) :
      SameRecords trace trace' { trace with entropy } { trace' with entropy := entropy' } :=
    ⟨[], (List.append_nil _).symm, (List.append_nil _).symm⟩
  rw [heq, heq', hlength]
  split
  · exact .error _ _ (hdrawn _ _)
  · refine .ok _ _ ((hdrawn _ _).note ?_)
    simp only [Envelope.encryptedRecord, Envelope.length_assemble, hlength]

/-- The body tells the length of the content. -/
theorem alike_body (h : LookAlike s s' n n') (trace trace' : Trace) :
    Alike trace trace' (body n trace) (body n' trace') := by
  have hcontent := content?_eq n
  have hcontent' := content?_eq n'
  by_cases hempty : n.payload.getD [] = []
  · have hempty' : n'.payload.getD [] = [] := by
      rw [← List.length_eq_zero_iff, ← h.length, hempty, List.length_nil]
    rw [if_pos hempty] at hcontent
    rw [if_pos hempty'] at hcontent'
    rw [body_eq_nil hcontent, body_eq_nil hcontent']
    exact .ok _ _ (.refl trace trace')
  · have hempty' : n'.payload.getD [] ≠ [] := by
      rw [← List.length_pos_iff, ← h.length]
      exact List.length_pos_iff.2 hempty
    rw [if_neg hempty] at hcontent
    rw [if_neg hempty'] at hcontent'
    obtain ⟨P, hP⟩ := h.recipient
    obtain ⟨P', hP'⟩ := h.recipient'
    rw [body_eq hcontent hP, body_eq hcontent' hP']
    obtain ⟨e, e', after, after', heq, heq', hrecords⟩ |
        ⟨encrypted, encrypted', after, after', heq, heq', hrecords⟩ :=
      (alike_encryptFor h.length P P' n.subscription.auth n'.subscription.auth trace trace').cases
    · rw [heq, heq']
      exact .error e e' hrecords
    · rw [heq, heq']
      exact .ok _ _ hrecords

/-- Signing tells the audience and the expiry. -/
theorem alike_sign (signer signer' : Vapid.Signer) (audience : String) (now : Seconds)
    (trace trace' : Trace) :
    Alike trace trace' (signer.sign audience now trace) (signer'.sign audience now trace') := by
  have hsame := SameRecords.refl trace trace'
  rw [Vapid.Signer.sign, Vapid.Signer.sign]
  split
  · exact .error _ _ hsame
  split
  · exact .error _ _ hsame
  dsimp only
  split
  · exact .error _ _ hsame
  · exact .ok _ _ (hsame.note rfl)

/-- Origins that look the same are the same, or there is none. -/
theorem LookAlike.origin_cases (h : LookAlike s s' n n') :
    (∃ origin, n.origin = .ok origin ∧ n'.origin = .ok origin) ∨
      ∃ f f', n.origin = .error f ∧ n'.origin = .error f' := by
  have horigin := h.origin
  cases hn : n.origin <;> cases hn' : n'.origin <;> rw [hn, hn'] at horigin
  case error.error f f' => exact .inr ⟨f, f', rfl, rfl⟩
  case ok.ok origin origin' =>
    injection horigin with horigin
    exact .inl ⟨origin, rfl, congrArg _ horigin.symm⟩
  all_goals cases horigin

/-- Both sign, or neither does. -/
theorem LookAlike.signer_cases (h : LookAlike s s' n n') :
    (s.signer = none ∧ s'.signer = none) ∨
      ∃ signer signer', s.signer = some signer ∧ s'.signer = some signer' := by
  have hvapid := h.vapid
  rw [vapidEnabled, vapidEnabled] at hvapid
  cases hs : s.signer <;> cases hs' : s'.signer <;> rw [hs, hs'] at hvapid
  case none.none => exact .inl ⟨rfl, rfl⟩
  case some.some signer signer' => exact .inr ⟨signer, signer', rfl, rfl⟩
  all_goals cases hvapid

/-- Credentials tell whether they are signed, for which origin and how long. -/
theorem alike_credentialHeaders (h : LookAlike s s' n n') (now : Seconds) (trace trace' : Trace) :
    Alike trace trace' (s.credentialHeaders n now trace) (s'.credentialHeaders n' now trace') := by
  have hsame := SameRecords.refl trace trace'
  rw [credentialHeaders, credentialHeaders, ← h.isGcm]
  split
  · exact .ok _ _ hsame
  obtain ⟨hsigner, hsigner'⟩ | ⟨signer, signer', hsigner, hsigner'⟩ := h.signer_cases
  · rw [hsigner, hsigner']
    exact .ok _ _ hsame
  rw [hsigner, hsigner']
  obtain ⟨origin, horigin, horigin'⟩ | ⟨f, f', horigin, horigin'⟩ := h.origin_cases
  · rw [horigin, horigin']
    obtain ⟨e, e', after, after', heq, heq', hrecords⟩ |
        ⟨token, token', after, after', heq, heq', hrecords⟩ :=
      (alike_sign signer signer' origin now trace trace').cases
    · simp only [heq, heq']
      exact .error _ _ hrecords
    · simp only [heq, heq']
      exact .ok _ _ hrecords
  · rw [horigin, horigin']
    exact .error _ _ hsame

/-- **Preparing adds the same records** for deliveries that look alike. -/
theorem alike_prepare (h : LookAlike s s' n n') (now : Seconds) (trace trace' : Trace) :
    Alike trace trace' (s.prepare n now trace) (s'.prepare n' now trace') := by
  cases hadmits : s.admits n with
  | false =>
    obtain ⟨e, heq⟩ := exists_prepare_eq_error hadmits now trace
    obtain ⟨e', heq'⟩ := exists_prepare_eq_error (h.admits ▸ hadmits) now trace'
    rw [heq, heq']
    exact .error e e' (.refl trace trace')
  | true =>
    rw [prepare_eq_of_admits hadmits, prepare_eq_of_admits (h.admits ▸ hadmits)]
    obtain ⟨e, e', between, between', heq, heq', hbody⟩ |
        ⟨bytes, bytes', between, between', heq, heq', hbody⟩ := (alike_body h trace trace').cases
    · rw [heq, heq']
      exact .error _ _ hbody
    rw [heq, heq']
    obtain ⟨e, e', signed, signed', heq, heq', hcredentials⟩ |
        ⟨credentials, credentials', signed, signed', heq, heq', hcredentials⟩ :=
      (alike_credentialHeaders h now between between').cases
    · simp only [heq, heq']
      exact .error _ _ (hbody.trans hcredentials)
    simp only [heq, heq']
    obtain ⟨origin, horigin, horigin'⟩ | ⟨f, f', horigin, horigin'⟩ := h.origin_cases
    · rw [horigin, horigin']
      exact .ok _ _ ((hbody.trans hcredentials).note (h.preparedRecord origin))
    · rw [horigin, horigin']
      exact .error _ _ (hbody.trans hcredentials)

end Service

/-! ## Sending -/

/-- The client refused: it did not send the request, or did not take the answer. -/
def DeliveryError.isRefusal : DeliveryError → Bool
  | .request _ | .noScheme _ => true
  | _ => false

/-- The record about an answer that the client took, or about its failure to get one. -/
def judgedRecord (origin : String) : Transport → Option Log.Record
  | .answered status text => (judgeAnswer origin status text).2
  | .failed _ message =>
    some (deliveryRecord .error ("Push request to " ++ origin ++ " failed: " ++ message))

/-- An answer that is not taken leaves no record, any other outcome the same for every address. -/
theorem judge_cases (origin url : String) (transport : Transport) :
    (∃ e, e.isRefusal = true ∧ judge origin url transport = (.error e, none)) ∨
      (judge origin url transport).2 = judgedRecord origin transport ∧
        ∀ e, (judge origin url transport).1 = .error e → e.isRefusal = false := by
  cases transport with
  | failed kind message =>
    refine .inr ⟨rfl, ?_⟩
    rintro e ⟨⟩
    rfl
  | answered status text =>
    rw [judge]
    split
    · refine .inr ⟨rfl, ?_⟩
      rw [judgeAnswer]
      split
      · rintro e ⟨⟩
        rfl
      split
      · rintro e ⟨⟩
        rfl
      · rintro e ⟨⟩
    · exact .inl ⟨_, rfl, rfl⟩

/-- What a delivery adds once its request was prepared: nothing if the client refused,
and otherwise what the origin and the outcome decide. -/
theorem Service.send_cases {s : Service} {n : Notification} {now : Seconds} {trace between : Trace}
    {r : Request} (h : s.prepare n now trace = (.ok r, between)) {origin : String}
    (horigin : n.origin = .ok origin) (timeout : Seconds) (transport : Transport)
    (given : Option Client) :
    let done := s.send timeout n now transport trace given
    (∃ e, done.1.result = .error e ∧ e.isRefusal = true ∧ done.2 = between) ∨
      (∀ e, done.1.result = .error e → e.isRefusal = false) ∧
        done.2 = (judgedRecord origin transport).elim between between.note := by
  simp only [send, h, Request.post_eq_transmit, horigin]
  cases r.transmit timeout with
  | error f => exact .inl ⟨_, rfl, rfl, rfl⟩
  | ok transmission =>
    dsimp only
    obtain ⟨e, he, hjudge⟩ | ⟨hrecord, herror⟩ := judge_cases origin transmission.url transport
    · rw [hjudge]
      exact .inl ⟨e, rfl, he, rfl⟩
    · exact .inr ⟨herror, by rw [hrecord]⟩

namespace Sender

/-- The client refused the request or the answer. -/
def Sent.isRefused (sent : Sent) : Bool :=
  match sent.result with
  | .error (.delivery e) => e.isRefusal
  | _ => false

/-- A delivery with a service, at once or by a task, with any clients and time limit. -/
inductive Delivers (service : Service) (n : Notification) (now : Seconds) (transport : Transport)
    (trace : Trace) : Sent → Trace → Prop
  | atOnce {timeout : Seconds} {clients : Clients} {sent : Sent} {after : Trace} :
      (http service timeout).send n now transport trace clients = (sent, after) →
        Delivers service n now transport trace sent after
  | awaited {timeout : Seconds} {clients : Clients} {sent : Sent} {after : Trace} :
      (http service timeout).sendAwaited n now transport trace clients = (sent, after) →
        Delivers service n now transport trace sent after

variable {service service' : Service} {n n' : Notification} {now : Seconds} {transport : Transport}
  {trace trace' after after' : Trace} {sent sent' : Sent}

/-- Either way of sending is a delivery by the service. -/
theorem Delivers.exists_send (h : Delivers service n now transport trace sent after) :
    ∃ timeout given, sent = .ofDelivery (service.send timeout n now transport trace given).1 ∧
      after = (service.send timeout n now transport trace given).2 := by
  cases h with
  | atOnce h | awaited h =>
    injection h with hsent hafter
    exact ⟨_, _, hsent.symm, hafter.symm⟩

/-- What the service delivers, a task of a sender with its client does. -/
theorem Delivers.of_send {timeout : Seconds} {given : Option Client} {delivery : Delivery}
    (h : service.send timeout n now transport trace given = (delivery, after)) :
    Delivers service n now transport trace (.ofDelivery delivery) after := by
  have hsent : (http service timeout).sendAwaited n now transport trace ⟨none, given⟩ =
      (.ofDelivery delivery, after) := by
    simp only [sendAwaited, h]
  exact .awaited hsent

/-- What was delivered is refused if the service's delivery is. -/
theorem isRefused_ofDelivery {delivery : Delivery} {e : DeliveryError}
    (h : delivery.result = .error e) : (Sent.ofDelivery delivery).isRefused = e.isRefusal := by
  simp only [Sent.ofDelivery, Sent.isRefused, h, Except.map, Except.mapError]

theorem isRefused_ofDelivery_eq_false {delivery : Delivery}
    (h : ∀ e, delivery.result = .error e → e.isRefusal = false) :
    (Sent.ofDelivery delivery).isRefused = false := by
  cases hresult : delivery.result with
  | error e => rw [isRefused_ofDelivery hresult, h e hresult]
  | ok answer => simp only [Sent.ofDelivery, Sent.isRefused, hresult, Except.map, Except.mapError]

/-- What a delivery adds once its request was prepared. -/
theorem Delivers.eq_of_prepare (h : Delivers service n now transport trace sent after) {r : Request}
    {between : Trace} (hprepare : service.prepare n now trace = (.ok r, between)) {origin : String}
    (horigin : n.origin = .ok origin) :
    after = if sent.isRefused then between
      else (judgedRecord origin transport).elim between between.note := by
  obtain ⟨timeout, given, rfl, rfl⟩ := h.exists_send
  obtain ⟨e, hresult, he, hafter⟩ | ⟨herror, hafter⟩ :=
    Service.send_cases hprepare horigin timeout transport given
  · rw [isRefused_ofDelivery hresult, he, hafter, if_pos rfl]
  · rw [isRefused_ofDelivery_eq_false herror, hafter]
    rfl

/-- **The log tells nothing else.** Two deliveries that look alike, at the same time and
with the same outcome, add the same records to the log if the client refuses both or
neither: whatever stands in the endpoints besides the origin, in the contents, keys,
secrets and contacts, and whatever was drawn. -/
theorem sameRecords_of_lookAlike (h : service.LookAlike service' n n')
    (hsent : Delivers service n now transport trace sent after)
    (hsent' : Delivers service' n' now transport trace' sent' after')
    (hrefused : sent.isRefused = sent'.isRefused) :
    ∃ records, after.log = trace.log ++ records ∧ after'.log = trace'.log ++ records := by
  obtain ⟨e, e', between, between', heq, heq', hrecords⟩ |
      ⟨r, r', between, between', heq, heq', hrecords⟩ :=
    (Service.alike_prepare h now trace trace').cases
  · -- Where no request could be prepared, neither delivery goes on.
    obtain ⟨timeout, given, -, rfl⟩ := hsent.exists_send
    obtain ⟨timeout', given', -, rfl⟩ := hsent'.exists_send
    simp only [Service.send, heq, heq']
    exact hrecords
  · obtain ⟨-, -, _, _, _, _, origin, -, -, horigin, -⟩ := Service.of_prepare heq
    have horigin' : n'.origin = .ok origin := by
      obtain ⟨origin', hsame, hsame'⟩ | ⟨f, -, hnone, -⟩ := h.origin_cases
      · cases horigin.symm.trans hsame
        exact hsame'
      · cases horigin.symm.trans hnone
    rw [hsent.eq_of_prepare heq horigin, hsent'.eq_of_prepare heq' horigin', ← hrefused]
    split
    · exact hrecords
    cases judgedRecord origin transport with
    | none => exact hrecords
    | some record => exact hrecords.note rfl

/-- No outcome that is judged is a refusal. -/
theorem Judged.isRefused {result : Except SendError (Option Answer)} (h : Judged transport result)
    (received : List Transmission) : (Sent.mk result received).isRefused = false := by
  cases h <;> rfl

/-- With another content, another time to live and a name and a password in the address,
by a task. -/
theorem sameRecords_of_lookAlike_credentials :
    let trace := Trace.start ⟨fun _ => .one, fun _ => .zeros, 0, 0⟩
    let trace' := Trace.start Call.twoSalts
    let n := plainNotificationTo "https://a/b"
    let n' := { plainNotificationTo "https://u:p@a/b" with payload := some [0x68, 0x6A], ttl := 5 }
    ∃ sent after sent' after',
      Delivers plainService n (.whole 0) (.answered 500 "no") trace sent after ∧
        Delivers plainService n' (.whole 0) (.answered 500 "no") trace' sent' after' ∧
        after.log = after'.log := by
  intro trace trace' n n'
  have horigin : n.origin = .ok "https://a" := by decide +kernel
  have horigin' : n'.origin = .ok "https://a" := by decide +kernel
  have hgcm : n.isGcm = false := by decide +kernel
  have hgcm' : n'.isGcm = false := by decide +kernel
  have haccepts : Url.Accepts "https://a/b"
      ⟨"https".toList, [], ['a'], none, "/b".toList, none, none⟩ := ⟨rfl, rfl, rfl, rfl⟩
  have haccepts' : Url.Accepts "https://u:p@a/b"
      ⟨"https".toList, "u:p".toList, ['a'], none, "/b".toList, none, none⟩ := ⟨rfl, rfl, rfl, rfl⟩
  have httl : Double.decimalLength n.ttl ≤ Number.maxDigits := by decide +kernel
  have httl' : Double.decimalLength n'.ttl ≤ Number.maxDigits := by decide +kernel
  have halike : plainService.LookAlike plainService n n' :=
    ⟨by rw [horigin, horigin'], by rw [hgcm, hgcm'], rfl, ⟨_, rfl⟩, ⟨_, rfl⟩, rfl, rfl,
      iff_of_true httl httl'⟩
  obtain ⟨r, between, hprepare⟩ := exists_prepare_plain hgcm horigin trace
  have hroom : ∀ content, n'.content? = some content →
      content.length + 1 ≤ Envelope.maxPlaintext := by
    rintro _ ⟨⟩
    decide
  obtain ⟨r', between', hprepare'⟩ := Service.exists_prepare_eq_ok (s := plainService) (n := n')
    (fun h => absurd (hgcm'.symm.trans h) Bool.false_ne_true) httl' rfl hroom horigin'
    (rfl : (Seconds.whole 0).toInt = .ok 0) (by decide) trace'
  obtain ⟨origin, hsend⟩ := exists_send_eq_of_prepare hprepare (hasAsciiKey_plain n) haccepts
    (.whole 10) (.answered 500 "no") {}
  obtain ⟨origin', hsend'⟩ := Service.exists_send_eq_of_prepare hprepare' (hasAsciiKey_plain n')
    haccepts' (.whole 10) (.answered 500 "no") (some ⟨.whole 5⟩)
  have hsent := Delivers.atOnce hsend
  have hsent' := Delivers.of_send hsend'
  have hjudged := judged_judge origin
    (Url.hasScheme_render haccepts.reads haccepts.absolute) (.answered 500 "no")
  have hjudged' := judged_judge origin'
    (Url.hasScheme_render haccepts'.reads haccepts'.absolute) (.answered 500 "no")
  obtain ⟨records, hlog, hlog'⟩ := sameRecords_of_lookAlike halike hsent hsent'
    ((hjudged.isRefused _).trans (hjudged'.isRefused _).symm)
  exact ⟨_, _, _, _, hsent, hsent', hlog.trans hlog'.symm⟩

/-- The records of one delivery with these traits and this answer. -/
def recordsOf (n : Notification) : List Log.Record :=
  ((http ⟨none, none, none⟩ (.whole 10)).send n (.whole 0) (.answered 201 "")
    (.start ⟨fun _ => .one, fun _ => .zeros, 0, 0⟩)).2.log

/-- **The log tells whether the client takes the answer**, and whether the time to live
can be written, of deliveries that agree in all else. -/
theorem recordsOf_ne :
    let n := Service.silentNotificationTo "https://a/b"
    let blank := Service.silentNotificationTo " https://a/b"
    let long := { n with ttl := 10 ^ 4300 }
    Service.LookAlike ⟨none, none, none⟩ ⟨none, none, none⟩ n blank ∧
      (recordsOf n).length = 2 ∧ (recordsOf blank).length = 1 ∧ (recordsOf long).length = 0 := by
  intro n blank long
  have horigin : n.origin.toOption = blank.origin.toOption := by decide +kernel
  have hgcm : n.isGcm = blank.isGcm := by decide +kernel
  refine ⟨⟨horigin, hgcm, rfl, ⟨_, rfl⟩, ⟨_, rfl⟩, rfl, rfl, Iff.rfl⟩, ?_, ?_, ?_⟩
  · decide +kernel
  · decide +kernel
  · decide +kernel

end Sender

end WebPush
