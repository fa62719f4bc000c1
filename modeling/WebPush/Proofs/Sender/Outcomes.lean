import WebPush.Proofs.Lookup
import WebPush.Proofs.Service.HeaderValues
import WebPush.Proofs.Url.Target
import WebPush.Sender
/-!
# Sender — what comes of sending

A sender hands a prepared request to the push service once, whichever
client it uses, and judges the answer by its status. Nothing is handed
over if nothing was prepared. What arrives is the request as it was
prepared, unless its address has a name and a password in front of the
host: these take the place of the sender's own credentials.
-/

namespace WebPush

/-! ## Addresses -/

namespace Url

/-- **The address of an absolute target begins with a scheme.** -/
theorem hasScheme_render {cs : List Char} {t : Target} (h : Target.ofText cs = .ok t)
    (habsolute : t.isAbsolute = true) : hasScheme t.render = true := by
  obtain ⟨hempty, hchars⟩ := Target.scheme_of_isAbsolute h habsolute
  obtain ⟨rest, hrest⟩ := Target.exists_render_eq hempty
  have hsplit : Text.splitFirst? ':' t.render.toList = some (t.scheme, rest) :=
    Text.splitFirst?_eq_some_iff.2 ⟨hrest, fun hc => (hchars _ hc).1 rfl⟩
  have hslash : t.scheme.contains '/' = false := by
    rw [← Bool.not_eq_true, List.contains_iff_mem]
    exact fun hc => (hchars _ hc).2 rfl
  rw [hasScheme, hsplit]
  simp only [hempty, hslash, Bool.not_false, Bool.and_self]

/-- The address of an endpoint is accepted by a client: it names a service by scheme
and host, and the host can be looked up and written into a header. -/
structure Accepts (endpoint : String) (target : Target) : Prop where
  reads : Target.ofText endpoint.toList = .ok target
  absolute : target.isAbsolute = true
  named : target.nameFault? = none
  shown : headerFault? target.hostAndPort = none

end Url

/-! ## Transmission -/

theorem headerFault?_eq_none {value : List Char} (h : ∀ c ∈ value, isAscii c = true) :
    headerFault? value = none := by
  have hall : value.dropWhile isAscii = [] := List.dropWhile_eq_nil_iff.2 h
  simp only [headerFault?, hall]

/-- Which client a request is posted with makes no difference. -/
theorem Request.post_eq_transmit (r : Request) (given : Option Client) (timeout : Seconds) :
    r.post given timeout = r.transmit timeout := by
  cases given <;> rfl

/-- An API key is in ASCII where one is used. -/
def Service.HasAsciiKey (s : Service) (n : Notification) : Prop :=
  n.isGcm = true → ∀ apiKey, s.gcmApiKey = some apiKey → ∀ c ∈ apiKey.toList, isAscii c = true

namespace Service

variable {s : Service} {n : Notification} {now : Seconds} {trace between : Trace} {r : Request}
  {target : Url.Target}

/-- The values of all headers are in ASCII. -/
theorem isAscii_of_prepare (h : s.prepare n now trace = (.ok r, between)) (hkey : s.HasAsciiKey n) :
    ∀ header ∈ r.headers, ∀ c ∈ header.2.toList, isAscii c = true := by
  intro header hheader c hc
  obtain hform | ⟨hgcm, rfl⟩ := isHeader_of_prepare h header hheader
  · exact decide_eq_true (hform.isPrintable.isAscii c hc).2
  · rw [String.toList_append, List.mem_append] at hc
    rcases hc with hc | hc
    · have hstart : Text.IsAscii "key=".toList := by decide +kernel
      exact decide_eq_true (hstart c hc).2
    · cases hapiKey : s.gcmApiKey with
      | none =>
        rw [hapiKey] at hc
        cases hc
      | some apiKey =>
        rw [hapiKey] at hc
        exact hkey hgcm apiKey hapiKey c hc

/-- **A prepared request can be sent** to an address that is accepted. -/
theorem transmit_of_prepare (h : s.prepare n now trace = (.ok r, between)) (hkey : s.HasAsciiKey n)
    (haccepts : Url.Accepts n.endpoint target) (timeout : Seconds) :
    r.transmit timeout =
      .ok ⟨"POST", target.render, sentHeaders r target, r.body, timeout⟩ := by
  obtain ⟨hreads, -, hnamed, hshown⟩ := haccepts
  have hendpoint : r.endpoint = n.endpoint := endpoint_of_prepare h
  have hfault : r.sendFault? target = none := by
    rw [Request.sendFault?, List.findSome?_eq_none_iff.2, hnamed, hshown]
    · rfl
    · exact fun header hheader => headerFault?_eq_none (isAscii_of_prepare h hkey header hheader)
  rw [Request.transmit, hendpoint, hreads]
  simp only [hfault]

/-- What a delivery comes to when its request could be prepared. -/
theorem exists_send_eq_of_prepare (h : s.prepare n now trace = (.ok r, between))
    (hkey : s.HasAsciiKey n) (haccepts : Url.Accepts n.endpoint target) (timeout : Seconds)
    (transport : Transport) (given : Option Client) :
    ∃ origin, s.send timeout n now transport trace given =
      (⟨(judge origin target.render transport).1,
          [⟨"POST", target.render, sentHeaders r target, r.body, timeout⟩]⟩,
        (judge origin target.render transport).2.elim between between.note) := by
  obtain ⟨-, -, _, _, _, _, origin, -, -, horigin, -⟩ := of_prepare h
  refine ⟨origin, ?_⟩
  simp only [send, h, Request.post_eq_transmit, transmit_of_prepare h hkey haccepts timeout, horigin]

/-- Which client a delivery uses makes no difference. -/
theorem send_given (s : Service) (timeout : Seconds) (n : Notification) (now : Seconds)
    (transport : Transport) (trace : Trace) (given given' : Option Client) :
    s.send timeout n now transport trace given = s.send timeout n now transport trace given' := by
  simp only [send, Request.post_eq_transmit]

end Service

/-! ## Headers that are set -/

/-- A header that was set has the value it was set to, and the others keep theirs. -/
theorem lookup_setHeader (headers : List (String × String)) (name value other : String) :
    List.lookup other (setHeader headers name value) =
      if other = name then some value else List.lookup other headers := by
  rw [setHeader, List.lookup_append, lookup_filter (fun n => decide (n ≠ name))]
  by_cases h : other = name
  · subst h
    rw [if_neg (by simp), if_pos rfl, Option.none_or, List.lookup_cons_self]
  · have hlast : List.lookup other [(name, value)] = none :=
      lookup_eq_none_iff_notMem.2 (by simpa using h)
    rw [if_pos (decide_eq_true h), if_neg h, hlast, Option.or_none]

/-- What stands in a header of a request to an address with a name and a password. -/
theorem lookup_sentHeaders {r : Request} {target : Url.Target} {name password : List Char}
    (h : target.credentials? = some (name, password)) :
    List.lookup "Authorization" (sentHeaders r target) = some (basicAuthorization name password) := by
  simp only [sentHeaders, h, lookup_setHeader, if_true]

namespace Sender

/-! ## Outcomes -/

/-- What is made of a transport: an expired subscription of two statuses, a rejection
of the others from four hundred on, an answer of those below. -/
inductive Judged : Transport → Except SendError (Option Answer) → Prop
  | unreachable (kind message : String) :
      Judged (.failed kind message) (.error (.delivery (.unreachable kind message)))
  | expired {status : Int} (text : String) :
      status = 404 ∨ status = 410 →
        Judged (.answered status text) (.error (.delivery (.expired status)))
  | rejected {status : Int} (text : String) :
      400 ≤ status → status ≠ 404 → status ≠ 410 →
        Judged (.answered status text) (.error (.delivery (.rejected status)))
  | accepted {status : Int} (text : String) :
      status < 400 → Judged (.answered status text) (.ok (some ⟨status, text⟩))

/-- **An answer is judged by its status alone.** -/
theorem judged_judge (origin : String) {url : String} (hscheme : hasScheme url = true)
    (transport : Transport) :
    Judged transport (((judge origin url transport).1.map some).mapError .delivery) := by
  cases transport with
  | failed kind message => exact .unreachable kind message
  | answered status text =>
    simp only [judge, hscheme, if_true, judgeAnswer]
    split
    · rename_i hexpired
      exact .expired text hexpired
    rename_i hother
    obtain ⟨hnotFound, hgone⟩ := not_or.1 hother
    split
    · rename_i hrejected
      exact .rejected text hrejected hnotFound hgone
    · rename_i haccepted
      exact .accepted text (Int.not_le.1 haccepted)

/-- A subscription is found expired for two statuses and no other. -/
theorem Judged.eq_expired_iff {status : Int} {text : String}
    {result : Except SendError (Option Answer)} (h : Judged (.answered status text) result) :
    result = .error (.delivery (.expired status)) ↔ status = 404 ∨ status = 410 := by
  cases h with
  | expired _ hexpired => exact iff_of_true rfl hexpired
  | rejected _ _ hnotFound hgone => exact iff_of_false nofun (not_or.2 ⟨hnotFound, hgone⟩)
  | accepted _ hbelow => exact iff_of_false nofun (by omega)

/-- Below four hundred the answer itself is what comes back. -/
theorem Judged.eq_accepted {status : Int} {text : String}
    {result : Except SendError (Option Answer)} (h : Judged (.answered status text) result)
    (hstatus : status < 400) : result = .ok (some ⟨status, text⟩) := by
  cases h with
  | expired _ hexpired => omega
  | rejected _ hrejected => omega
  | accepted _ _ => rfl

variable {service : Service} {n : Notification} {target : Url.Target}

/-- What is sent, received and made of it when a request could be prepared. -/
theorem exists_send_eq_of_prepare {now : Seconds} {trace between : Trace} {r : Request}
    (h : service.prepare n now trace = (.ok r, between)) (hkey : service.HasAsciiKey n)
    (haccepts : Url.Accepts n.endpoint target) (timeout : Seconds) (transport : Transport)
    (clients : Clients) :
    ∃ origin, (Sender.http service timeout).send n now transport trace clients =
      (⟨((judge origin target.render transport).1.map some).mapError .delivery,
          [⟨"POST", target.render, sentHeaders r target, r.body, timeout⟩]⟩,
        (judge origin target.render transport).2.elim between between.note) := by
  obtain ⟨origin, hsend⟩ :=
    Service.exists_send_eq_of_prepare h hkey haccepts timeout transport clients.immediate
  refine ⟨origin, ?_⟩
  simp only [send, hsend]
  rfl

/-- **How sending comes out.** What could not be prepared is not sent. A request that
could be is received once, as it was prepared: in its headers a name and a password
of the address, if there are any, take the place of the sender's credentials. What
comes of it is judged by its status, and nothing more is drawn. With any clients, or
with none, at once or by a task, the outcome is the same, and so are the records. -/
theorem send_outcome (haccepts : Url.Accepts n.endpoint target) (hkey : service.HasAsciiKey n)
    (timeout now : Seconds) (transport : Transport) (trace : Trace) (clients : Clients) :
    let sender := Sender.http service timeout
    (∀ e after, service.prepare n now trace = (.error e, after) →
      sender.send n now transport trace clients = (⟨.error (.delivery (.prepare e)), []⟩, after)) ∧
    (∀ r between, service.prepare n now trace = (.ok r, between) → ∃ result headers after,
      sender.send n now transport trace clients =
          (⟨result, [⟨"POST", target.render, headers, r.body, timeout⟩]⟩, after) ∧
        Judged transport result ∧ after.entropy = between.entropy ∧
        (target.credentials? = none →
          headers = r.headers ++ [("Content-Length", toString r.body.length)]) ∧
        ∀ name password, target.credentials? = some (name, password) →
          headers = setHeader (r.headers ++ [("Content-Length", toString r.body.length)])
            "Authorization" (basicAuthorization name password)) ∧
    ∀ clients', sender.send n now transport trace clients' =
          sender.send n now transport trace clients ∧
        sender.sendAwaited n now transport trace clients' =
          sender.send n now transport trace clients := by
  refine ⟨?_, ?_, ?_⟩
  · intro e after hprepare
    simp only [send, Service.send, hprepare]
    rfl
  · intro r between hprepare
    obtain ⟨origin, hsent⟩ :=
      exists_send_eq_of_prepare hprepare hkey haccepts timeout transport clients
    have hscheme := Url.hasScheme_render haccepts.reads haccepts.absolute
    refine ⟨_, _, _, hsent, judged_judge origin hscheme transport, ?_, ?_, ?_⟩
    · cases (judge origin target.render transport).2 <;> rfl
    · intro hnone
      simp only [sentHeaders, hnone]
    · intro name password hsome
      simp only [sentHeaders, hsome]
  · intro clients'
    have hgiven (given : Option Client) :=
      service.send_given timeout n now transport trace given clients.immediate
    constructor
    · simp only [send, hgiven clients'.immediate]
    · simp only [sendAwaited, send, hgiven clients'.awaited]

/-- A message of two octets for the holder of the least private scalar, at an address. -/
def plainNotificationTo (endpoint : String) : Notification :=
  { Service.plainNotification with
    subscription := ⟨endpoint, .p256 P256.Scalar.one.publicPoint, .zeros⟩ }

/-- The sender of such messages. -/
def plainService : Service := ⟨none, some "mailto:a@b", some .plain⟩

theorem hasAsciiKey_plain (n : Notification) : plainService.HasAsciiKey n := by
  intro _ apiKey hsome
  cases hsome

/-- A request is prepared for every address that has an origin. -/
theorem exists_prepare_plain {endpoint origin : String}
    (hgcm : (plainNotificationTo endpoint).isGcm = false)
    (horigin : Url.origin endpoint = .ok origin) (trace : Trace) :
    ∃ r after, plainService.prepare (plainNotificationTo endpoint) (.whole 0) trace =
      (.ok r, after) := by
  have hroom : ∀ content, (plainNotificationTo endpoint).content? = some content →
      content.length + 1 ≤ Envelope.maxPlaintext := by
    intro content hcontent
    injection hcontent with hcontent
    subst hcontent
    decide
  have hnow : (Seconds.whole 0).toInt = .ok 0 := rfl
  have httl : Double.decimalLength 60 ≤ Number.maxDigits := by decide +kernel
  refine Service.exists_prepare_eq_ok (fun h => ?_) httl rfl hroom horigin hnow (by decide) trace
  cases hgcm.symm.trans h

/-- With the status of an expired subscription, in all ways of sending. -/
theorem send_outcome_gone :
    let trace := Trace.start ⟨fun _ => .one, fun _ => .zeros, 0, 0⟩
    let sender := Sender.http plainService (.whole 10)
    let n := plainNotificationTo "https://a/b"
    ∃ r between headers after, plainService.prepare n (.whole 0) trace = (.ok r, between) ∧
      sender.send n (.whole 0) (.answered 410 "") trace =
        (⟨.error (.delivery (.expired 410)),
          [⟨"POST", "https://a/b", headers, r.body, .whole 10⟩]⟩, after) ∧
      headers = r.headers ++ [("Content-Length", toString r.body.length)] ∧
      sender.sendAwaited n (.whole 0) (.answered 410 "") trace ⟨none, some ⟨.whole 5⟩⟩ =
        sender.send n (.whole 0) (.answered 410 "") trace := by
  intro trace sender n
  have haccepts : Url.Accepts "https://a/b"
      ⟨"https".toList, [], ['a'], none, "/b".toList, none, none⟩ := ⟨rfl, rfl, rfl, rfl⟩
  have horigin : Url.origin "https://a/b" = .ok "https://a" := by decide +kernel
  obtain ⟨r, between, hprepare⟩ := exists_prepare_plain (by decide +kernel) horigin trace
  obtain ⟨-, hsend, hsame⟩ := send_outcome (n := n) haccepts (hasAsciiKey_plain n) (.whole 10)
    (.whole 0) (.answered 410 "") trace {}
  obtain ⟨result, headers, after, hsent, hjudged, -, hheaders, -⟩ := hsend r between hprepare
  rw [hjudged.eq_expired_iff.2 (.inr rfl)] at hsent
  exact ⟨r, between, headers, after, hprepare, hsent, hheaders rfl, (hsame _).2⟩

/-- **The token does not arrive** where the address has a name and a password. -/
theorem exists_authorization_replaced :
    let trace := Trace.start ⟨fun _ => .one, fun _ => .zeros, 0, 0⟩
    let n := plainNotificationTo "https://u:p@a/b"
    ∃ r between transmission delivery after token key,
      plainService.prepare n (.whole 0) trace = (.ok r, between) ∧
      (Sender.http plainService (.whole 10)).send n (.whole 0) (.answered 201 "") trace =
        (delivery, after) ∧
      delivery.received = [transmission] ∧
      r.header? "Authorization" = some ("vapid t=" ++ token ++ ",k=" ++ key) ∧
      List.lookup "Authorization" transmission.headers = some "Basic dTpw" ∧
      List.lookup "Authorization" transmission.headers ≠ r.header? "Authorization" := by
  intro trace n
  have haccepts : Url.Accepts "https://u:p@a/b"
      ⟨"https".toList, "u:p".toList, ['a'], none, "/b".toList, none, none⟩ := ⟨rfl, rfl, rfl, rfl⟩
  have horigin : Url.origin "https://u:p@a/b" = .ok "https://a" := by decide +kernel
  have hgcm : n.isGcm = false := by decide +kernel
  have hseconds : (Seconds.whole 0).toInt = .ok 0 := rfl
  obtain ⟨r, between, hprepare⟩ := exists_prepare_plain hgcm horigin trace
  obtain ⟨origin, hsent⟩ := exists_send_eq_of_prepare hprepare (hasAsciiKey_plain n) haccepts
    (.whole 10) (.answered 201 "") {}
  obtain ⟨_, -, _, token, key, -, hauthorization, -⟩ :=
    Service.isSigned_of_prepare hprepare hgcm rfl hseconds
  have hcredentials : (Url.Target.mk "https".toList "u:p".toList ['a'] none "/b".toList none
      none).credentials? = some (['u'], ['p']) := by decide +kernel
  have hbasic : basicAuthorization ['u'] ['p'] = "Basic dTpw" := by decide +kernel
  have hreceived := (lookup_sentHeaders (r := r) hcredentials).trans (congrArg some hbasic)
  refine ⟨r, between, _, _, _, token, key, hprepare, hsent, rfl, hauthorization, hreceived, ?_⟩
  rw [hreceived, hauthorization]
  intro heq
  have hfirst := congrArg (fun text : Option String => (text.getD "").toList.head?) heq
  simp [String.toList_append] at hfirst

end Sender

end WebPush
