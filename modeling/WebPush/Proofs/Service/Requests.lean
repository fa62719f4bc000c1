import WebPush.Proofs.Lookup
import WebPush.Proofs.Service.Progress
import WebPush.Proofs.Service.Steps
/-!
# Service — what a prepared request holds

A request that could be prepared has exactly the headers that its
notification and its sender call for. Its body decrypts to the payload,
and the token in its authorization verifies under the key beside it to
the origin of the endpoint.
-/

namespace WebPush

/-! ## Headers -/

/-- The value of a header. -/
def Request.header? (r : Request) (name : String) : Option String := List.lookup name r.headers

/-- The names of a request's headers, given what it is to say: something
encrypted, an urgency, a topic, an API key, a token. -/
def headerNames (encrypted urgent topical keyed signed : Bool) : List String :=
  ["TTL"] ++ (if encrypted then ["Content-Type", "Content-Encoding"] else []) ++
    (if urgent then ["Urgency"] else []) ++ (if topical then ["Topic"] else []) ++
    (if keyed || signed then ["Authorization"] else []) ++ (if signed then ["Crypto-Key"] else [])

theorem Service.map_fst_noticeHeaders (n : Notification) :
    (Service.noticeHeaders n).map Prod.fst =
      headerNames n.hasPayload n.urgency.isSome n.topic.isSome false false := by
  rw [noticeHeaders, contentHeaders, headerNames]
  cases n.hasPayload <;> cases n.urgency <;> cases n.topic <;> rfl

/-- The headers that describe a notification do not say who is sending. -/
theorem Service.notMem_noticeHeaders (n : Notification) {name : String}
    (hname : name = "Authorization" ∨ name = "Crypto-Key") :
    name ∉ (Service.noticeHeaders n).map Prod.fst := by
  rw [map_fst_noticeHeaders, headerNames]
  rcases hname with rfl | rfl <;>
    cases n.hasPayload <;> cases n.urgency.isSome <;> cases n.topic.isSome <;> decide

theorem Service.lookup_noticeHeaders (n : Notification) {name : String}
    (hname : name = "Authorization" ∨ name = "Crypto-Key") :
    List.lookup name (Service.noticeHeaders n) = none :=
  lookup_eq_none_iff_notMem.2 (notMem_noticeHeaders n hname)

/-- The octets of a payload, if there is one. -/
def Content.octets (payload : Option Content) : Bytes := (payload.map Content.toBytes).getD []

/-- What is encrypted is the payload, unless it is empty. -/
theorem Notification.content?_eq {n : Notification} {payload : Option Content}
    (h : n.payload = payload.map Content.toBytes) :
    n.content? = if Content.octets payload = [] then none else some (Content.octets payload) := by
  rw [content?, h, Content.octets]
  cases payload with
  | none => rfl
  | some content =>
    cases hcontent : content.toBytes with
    | nil => simp [hcontent]
    | cons b rest => simp [hcontent]

theorem Notification.hasPayload_eq {n : Notification} {payload : Option Content}
    (h : n.payload = payload.map Content.toBytes) :
    n.hasPayload = !(Content.octets payload).isEmpty := by
  rw [hasPayload, content?_eq h]
  cases Content.octets payload <;> rfl

/-! ## Tokens in headers -/

/-- A request that is signed with a pair of keys: token and key stand in the
authorization on the two sides of its only comma, the key stands in the other
header too, and under that key the token verifies to an audience, an expiry and a
contact, if its signature is accepted. -/
def Request.IsSigned (r : Request) (pair : KeyPair) (audience : String) (expiry : Int)
    (contact : String) : Prop :=
  ∃ (d : P256.Scalar) (token key : String), pair = .ofScalar d ∧
    r.header? "Authorization" = some ("vapid t=" ++ token ++ ",k=" ++ key) ∧
    (∀ before after, ("vapid t=" ++ token ++ ",k=" ++ key).toList = before ++ ',' :: after →
      before = ("vapid t=" ++ token).toList ∧ after = ("k=" ++ key).toList) ∧
    r.header? "Crypto-Key" = some ("p256ecdsa=" ++ key) ∧
    key = Base64Url.encode d.publicPoint.toBytes ∧
    PublicKey.load (.encoded (.text key)) = .ok d.publicPoint ∧
    Vapid.IsCompact token ∧
    (Ecdsa.verify d.publicPoint
        (Utf8.encodeChars (Vapid.signingInput audience expiry contact))
        (Ecdsa.sign d (Utf8.encodeChars (Vapid.signingInput audience expiry contact))) = true →
      ∀ (depth : Json.Depth) (clock : Seconds),
        Vapid.verify depth token (.encoded (.text key)) clock =
          .ok [("aud", .string audience), ("exp", .int expiry), ("sub", .string contact)])

/-- The comma of an authorization is the one between token and key. -/
theorem Vapid.split_authorization {token key : String} (htoken : ',' ∉ token.toList)
    (hkey : ',' ∉ key.toList) {before after : List Char}
    (h : ("vapid t=" ++ token ++ ",k=" ++ key).toList = before ++ ',' :: after) :
    before = ("vapid t=" ++ token).toList ∧ after = ("k=" ++ key).toList := by
  have hcomma : ("vapid t=" ++ token ++ ",k=" ++ key).toList =
      ("vapid t=" ++ token).toList ++ ',' :: ("k=" ++ key).toList := by
    simp [String.toList_append]
  have hbefore : ',' ∉ ("vapid t=" ++ token).toList := by
    rw [String.toList_append, List.mem_append, not_or]
    exact ⟨by decide, htoken⟩
  have hafter : ',' ∉ ("k=" ++ key).toList := by
    rw [String.toList_append, List.mem_append, not_or]
    exact ⟨by decide, hkey⟩
  rw [hcomma] at h
  obtain ⟨hleft, -, hright⟩ := (List.append_cons_inj_of_notMem hbefore hafter).1 h
  exact ⟨hleft.symm, hright.symm⟩

/-- **A request with a signer's token is signed** with the pair of the signer. -/
theorem Vapid.isSigned_of_sign {s : Signer} {audience : String} {now : Seconds} {seconds : Int}
    (hnow : now.toInt = .ok seconds) {trace after : Trace} {token : Token}
    (hsign : s.sign audience now trace = (.ok token, after)) {r : Request}
    (hauthorization : r.header? "Authorization" = some token.authorization)
    (hcryptoKey : r.header? "Crypto-Key" = some token.cryptoKey) :
    r.IsSigned (.ofScalar s.scalar) audience (seconds + 43200) s.subject := by
  obtain ⟨seconds', hseconds, rfl, hdigits⟩ := of_sign hsign
  rw [hnow] at hseconds
  injection hseconds with hseconds
  subst hseconds
  have hcompact := isCompact_tokenFor s audience (seconds + lifetime)
  have hkey : ',' ∉ s.publicKeyText.toList := s.isUrlSafe_publicKeyText.notMem (by decide)
  refine ⟨s.scalar, _, _, rfl, hauthorization,
    fun before after => split_authorization hcompact.comma_notMem hkey, hcryptoKey, rfl,
    PublicKey.load_text _, hcompact, ?_⟩
  intro haccepted depth clock
  rw [verify, Signer.tokenFor, Signer.publicKeyText, PublicKey.load_text]
  exact congrArg (Except.mapError VerifyError.token)
    (verifyText_tokenFor depth s audience hdigits haccepted clock)

/-! ## The parts of a prepared request -/

namespace Service

variable {s : Service} {n : Notification} {now : Seconds} {trace after : Trace} {r : Request}

theorem endpoint_of_prepare (h : s.prepare n now trace = (.ok r, after)) :
    r.endpoint = n.subscription.endpoint := by
  obtain ⟨-, -, _, _, _, _, _, -, -, -, rfl, -⟩ := of_prepare h
  rfl

theorem header?_ttl (h : s.prepare n now trace = (.ok r, after)) :
    r.header? "TTL" = some (toString n.ttl) := by
  obtain ⟨-, -, _, _, _, _, _, -, -, -, rfl, -⟩ := of_prepare h
  rfl

/-- **The names of the headers** of a request that could be prepared. -/
theorem map_fst_headers (h : s.prepare n now trace = (.ok r, after)) :
    r.headers.map Prod.fst =
      headerNames n.hasPayload n.urgency.isSome n.topic.isSome n.isGcm
        (s.signer.isSome && !n.isGcm) := by
  obtain ⟨-, -, _, _, credentials, _, _, -, hcredentials, -, rfl, -⟩ := of_prepare h
  rw [List.map_append, map_fst_noticeHeaders]
  obtain ⟨hgcm, rfl, -⟩ | ⟨hgcm, hsigner, rfl, -⟩ |
    ⟨signer, audience, token, hgcm, hsigner, -, -, rfl⟩ := of_credentialHeaders hcredentials
  · simp [headerNames, hgcm]
  · simp [headerNames, hgcm, hsigner]
  · simp [headerNames, hgcm, hsigner]

/-- Who is sending is said by the credentials alone. -/
theorem lookup_append_noticeHeaders (n : Notification) (credentials : List (String × String))
    {name : String} (hname : name = "Authorization" ∨ name = "Crypto-Key") :
    List.lookup name (noticeHeaders n ++ credentials) = List.lookup name credentials := by
  rw [List.lookup_append, lookup_noticeHeaders n hname, Option.none_or]

/-- **The API key** authorizes a request to an endpoint that takes one. -/
theorem header?_of_isGcm (h : s.prepare n now trace = (.ok r, after)) (hgcm : n.isGcm = true) :
    ∃ apiKey, s.gcmApiKey = some apiKey ∧ apiKey ≠ "" ∧
      r.header? "Authorization" = some ("key=" ++ apiKey) := by
  obtain ⟨hcredential, -, _, _, credentials, _, _, -, hcredentials, -, rfl, -⟩ := of_prepare h
  have htext := hcredential hgcm
  obtain ⟨-, rfl, -⟩ | ⟨hnot, -⟩ | ⟨_, _, _, hnot, -⟩ := of_credentialHeaders hcredentials
  · cases hkey : s.gcmApiKey with
    | none =>
      rw [hkey] at htext
      cases htext
    | some apiKey =>
      refine ⟨apiKey, rfl, ?_, ?_⟩
      · simpa [hasText, hkey] using htext
      · rw [Request.header?, lookup_append_noticeHeaders n _ (.inl rfl)]
        rfl
  · cases hnot.symm.trans hgcm
  · cases hnot.symm.trans hgcm

/-- **A token of the signer** authorizes a request to any other endpoint. -/
theorem isSigned_of_prepare (h : s.prepare n now trace = (.ok r, after)) (hgcm : n.isGcm = false)
    {signer : Vapid.Signer} (hsigner : s.signer = some signer) {seconds : Int}
    (hnow : now.toInt = .ok seconds) :
    ∃ audience, n.origin = .ok audience ∧
      r.IsSigned (.ofScalar signer.scalar) audience (seconds + 43200) signer.subject := by
  obtain ⟨-, -, _, _, credentials, _, _, -, hcredentials, -, rfl, -⟩ := of_prepare h
  obtain ⟨hnot, -⟩ | ⟨-, hnone, -⟩ | ⟨_, audience, token, -, hsome, haudience, hsign, rfl⟩ :=
    of_credentialHeaders hcredentials
  · cases hnot.symm.trans hgcm
  · cases hnone.symm.trans hsigner
  · cases hsome.symm.trans hsigner
    exact ⟨audience, haudience, Vapid.isSigned_of_sign hnow hsign
      (lookup_append_noticeHeaders n _ (.inl rfl)) (lookup_append_noticeHeaders n _ (.inr rfl))⟩

/-- **The body** is empty where nothing is to be delivered, and otherwise an envelope
that decrypts to the content. -/
theorem decrypt_of_prepare (h : s.prepare n now trace = (.ok r, after)) {d : P256.Scalar}
    (hrecipient : n.subscription.publicKey = .p256 d.publicPoint) :
    (n.content? = none ∧ r.body = []) ∨
      ∃ content, n.content? = some content ∧ r.body ≠ [] ∧
        ∀ key, PrivateKey.load key = .ok d →
          Envelope.decrypt r.body key n.subscription.auth.bytes = .ok content := by
  obtain ⟨-, -, bytes, _, _, _, _, hbody, -, -, rfl, -⟩ := of_prepare h
  obtain ⟨hnone, hempty, -⟩ | ⟨content, encrypted, hcontent, hencrypt, rfl⟩ := of_body hbody
  · exact .inl ⟨hnone, hempty⟩
  have hload : PublicKey.load (.key n.subscription.publicKey) = .ok d.publicPoint := by
    rw [hrecipient, PublicKey.load_key]
  have hcarried := Envelope.isCarriedBy_of_encrypt hload hencrypt
  have hdecrypt : ∀ key, PrivateKey.load key = .ok d →
      Envelope.decrypt encrypted.envelope key n.subscription.auth.bytes = .ok content := by
    intro key hkey
    rw [hcarried.decrypt_eq_ok hkey, Envelope.Message.text_ofPayload]
  refine .inr ⟨content, hcontent, ?_, hdecrypt⟩
  -- An empty envelope would not even have a header.
  intro (hempty : encrypted.envelope = [])
  have hfail := hdecrypt (.key (.p256 d)) rfl
  rw [hempty, Envelope.decrypt_eq rfl] at hfail
  cases hfail

/-! ## The whole request -/

/-- **A prepared request** goes to the endpoint of its subscription; has exactly the
headers called for; has a body just when there is something to deliver, which
decrypts to that; and carries the API key where the endpoint takes one, and
elsewhere a token of the key pair, if there is one. -/
theorem prepare_spec {gcmApiKey subject : Option String} {keyPair : Option KeyPair}
    {service : Service} (hservice : Service.make gcmApiKey subject keyPair = .ok service)
    {subscription : Subscription} {payload : Option Content} {ttl : Int}
    {urgency topic : Option String} {n : Notification}
    (hnotification : Notification.make subscription payload ttl urgency topic = .ok n)
    {d : P256.Scalar} (hrecipient : subscription.publicKey = .p256 d.publicPoint) {now : Seconds}
    {seconds : Int} (hnow : now.toInt = .ok seconds) {trace after : Trace} {r : Request}
    (hprepare : service.prepare n now trace = (.ok r, after)) :
    let content := Content.octets payload
    let keyed := Text.startsWith subscription.endpoint "https://android.googleapis.com/gcm/send"
    r.endpoint = subscription.endpoint ∧
      r.headers.map Prod.fst = headerNames (!content.isEmpty) urgency.isSome topic.isSome keyed
        (keyPair.isSome && !keyed) ∧
      r.header? "TTL" = some (toString ttl) ∧
      (r.body = [] ↔ content = []) ∧
      (content ≠ [] → ∀ key, PrivateKey.load key = .ok d →
        Envelope.decrypt r.body key subscription.auth.bytes = .ok content) ∧
      (keyed = true → ∃ apiKey, gcmApiKey = some apiKey ∧ apiKey ≠ "" ∧
        r.header? "Authorization" = some ("key=" ++ apiKey)) ∧
      (keyed = false → ∀ pair, keyPair = some pair → ∃ audience contact,
        Url.origin subscription.endpoint = .ok audience ∧ subject = some contact ∧
          r.IsSigned pair audience (seconds + 43200) contact) := by
  obtain ⟨httl, rfl, hpayload, hnttl, hurgency, htopic⟩ := Notification.of_make hnotification
  obtain ⟨rfl, -, hsigner⟩ := of_make hservice
  have hnames := map_fst_headers hprepare
  have hbody := decrypt_of_prepare hprepare hrecipient
  rw [Notification.hasPayload_eq hpayload, isSome_signer_of_make hservice] at hnames
  rw [Notification.content?_eq hpayload] at hbody
  refine ⟨endpoint_of_prepare hprepare, ?_, ?_, ?_, ?_, header?_of_isGcm hprepare, ?_⟩
  · rw [hnames, ← hurgency, ← htopic, Option.isSome_map, Option.isSome_map]
    rfl
  · -- An integer that is not negative is written like the natural number.
    rw [header?_ttl hprepare, Int.toString_eq_repr, Int.repr_eq_if, if_pos httl, hnttl]
    rfl
  · obtain ⟨hnone, hempty⟩ | ⟨content, hsome, hne, -⟩ := hbody
    · exact iff_of_true hempty (by simpa using hnone)
    · refine iff_of_false hne fun hnil => ?_
      rw [if_pos hnil] at hsome
      cases hsome
  · intro hne key hkey
    rw [if_neg hne] at hbody
    obtain ⟨hnone, -⟩ | ⟨content, hsome, -, hdecrypt⟩ := hbody
    · cases hnone
    · injection hsome with hsome
      rw [hsome]
      exact hdecrypt key hkey
  · intro hkeyed pair hpair
    obtain ⟨rfl, -⟩ | ⟨pair, contact, signer, rfl, hcontact, hmade, hsome⟩ := hsigner
    · cases hpair
    injection hpair with hpair
    subst hpair
    obtain ⟨rfl, rfl⟩ := Vapid.ofKeyPair_eq_ok hmade
    obtain ⟨audience, haudience, hissigned⟩ := isSigned_of_prepare hprepare hkeyed hsome hnow
    exact ⟨audience, signer.subject, haudience, hcontact, hissigned⟩

/-- A message of two octets for the holder of the least private scalar. -/
def plainNotification : Notification where
  subscription := ⟨"https://a/b", .p256 P256.Scalar.one.publicPoint, .zeros⟩
  payload := some [0x68, 0x69]
  ttl := 60
  urgency := some .high
  topic := none

/-- A signed request: the token is for the endpoint's origin, and the body opens. -/
theorem prepare_spec_signed :
    ∃ r after, Service.prepare ⟨none, some "mailto:a@b", some .plain⟩ plainNotification (.whole 0)
        (.start ⟨fun _ => .one, fun _ => .zeros, 0, 0⟩) = (.ok r, after) ∧
      r.headers.map Prod.fst = headerNames true true false false true ∧
      Envelope.decrypt r.body (.key (.p256 .one)) Octets16.zeros.bytes = .ok [0x68, 0x69] ∧
      ∃ audience contact, Url.origin "https://a/b" = .ok audience ∧
        some "mailto:a@b" = some contact ∧
          r.IsSigned (.ofScalar .one) audience (0 + 43200) contact := by
  have hservice : Service.make none (some "mailto:a@b") (some (.ofScalar .one)) =
      .ok ⟨none, some "mailto:a@b", some .plain⟩ := by
    have hsigner : Vapid.Signer.ofKeyPair (.ofScalar .one) "mailto:a@b" = .ok .plain :=
      Vapid.ofKeyPair_ofScalar _ _
    have hcontact : "mailto:a@b".isEmpty = false := by decide +kernel
    simp only [make, hcontact, Bool.false_eq_true, if_false, hsigner]
  have hnotification : Notification.make plainNotification.subscription
      (some (.raw [0x68, 0x69])) 60 (some "high") none = .ok plainNotification := by
    rfl
  have horigin : plainNotification.origin = .ok "https://a" := by decide +kernel
  have hroom : ∀ content, plainNotification.content? = some content →
      content.length + 1 ≤ Envelope.maxPlaintext := by
    intro content hcontent
    injection hcontent with hcontent
    subst hcontent
    decide
  have hnow : (Seconds.whole 0).toInt = .ok 0 := rfl
  obtain ⟨r, after, hprepare⟩ := exists_prepare_eq_ok (s := ⟨none, some "mailto:a@b", some .plain⟩)
    (by decide +kernel) (by decide +kernel) rfl hroom horigin hnow (by decide)
    (.start ⟨fun _ => .one, fun _ => .zeros, 0, 0⟩)
  obtain ⟨-, hnames, -, -, hdecrypt, -, hsigned⟩ :=
    prepare_spec hservice hnotification rfl hnow hprepare
  have hkeyed : Text.startsWith plainNotification.subscription.endpoint
      "https://android.googleapis.com/gcm/send" = false := by decide +kernel
  rw [hkeyed] at hnames
  exact ⟨r, after, hprepare, hnames, hdecrypt (by decide) (.key (.p256 .one)) rfl,
    hsigned hkeyed (.ofScalar .one) rfl⟩

end Service

end WebPush
