import WebPush.Proofs.Seconds
import WebPush.Proofs.Service.Requests
/-!
# Service — the three ways in which no request is prepared

What a service and a notification were built from has been checked, so
three things are left that may be missing: an API key, a recipient on the
right curve and an origin. They are looked for in this order, the first
two before anything is drawn, signed or logged.
-/

namespace WebPush

/-! ## What may be missing -/

theorem hasText_eq_true_iff {text : Option String} :
    hasText text = true ↔ ∃ content, text = some content ∧ content ≠ "" := by
  cases text with
  | none => simp [hasText]
  | some content => simp [hasText]

/-- An endpoint that takes an API key is given one. -/
def IsAuthorized (gcmApiKey : Option String) (endpoint : String) : Prop :=
  Text.startsWith endpoint Notification.gcmPrefix = true →
    ∃ apiKey, gcmApiKey = some apiKey ∧ apiKey ≠ ""

/-- Where there is something to encrypt, the key is on the curve. -/
def IsEncryptable (publicKey : PublicKey) (content : Bytes) : Prop :=
  content = [] ∨ ∃ P, publicKey = .p256 P

/-- The address has an origin. -/
def HasOrigin (endpoint : String) : Prop := ∃ origin, Url.origin endpoint = .ok origin

namespace Service

variable {s : Service} {n : Notification} {content : Bytes}

theorem hasText_of_isAuthorized (h : IsAuthorized s.gcmApiKey n.endpoint) (hgcm : n.isGcm = true) :
    hasText s.gcmApiKey = true :=
  hasText_eq_true_iff.2 (h hgcm)

/-- Without an API key where one is needed nothing is done. -/
theorem prepare_eq_missingCredential (h : ¬ IsAuthorized s.gcmApiKey n.endpoint) (now : Seconds)
    (trace : Trace) : s.prepare n now trace = (.error .missingCredential, trace) := by
  obtain ⟨hgcm, hnone⟩ := Classical.not_imp.1 h
  rw [← hasText_eq_true_iff, Bool.not_eq_true] at hnone
  have hneeded : (n.isGcm && !hasText s.gcmApiKey) = true := by
    rw [hnone, Bool.not_false, Bool.and_true]
    exact hgcm
  simp only [prepare, hneeded, if_true]

/-- For a key on another curve nothing is encrypted, signed or logged. -/
theorem exists_prepare_eq_unusableRecipient (hauthorized : IsAuthorized s.gcmApiKey n.endpoint)
    (httl : Double.decimalLength n.ttl ≤ Number.maxDigits)
    (hcontent : n.content? = if content = [] then none else some content)
    (h : ¬ IsEncryptable n.subscription.publicKey content) (now : Seconds) (trace : Trace) :
    ∃ e : KeyError, e.isUnusableRecipient = true ∧
      s.prepare n now trace = (.error (.encrypt (.key e)), trace) := by
  obtain ⟨hne, hcurve⟩ := not_or.1 h
  rw [if_neg hne] at hcontent
  cases hkey : n.subscription.publicKey with
  | p256 P => exact absurd ⟨P, hkey⟩ hcurve
  | foreign key =>
    have hbody : body n trace = (.error (.key (.foreignPublicKey key.curve)), trace) := by
      simp only [body, hcontent, hkey, Envelope.encrypt, Int.lt_irrefl, if_false, PublicKey.load,
        PublicKey.requireP256]
    refine ⟨.foreignPublicKey key.curve, rfl, ?_⟩
    simp only [prepare, needsCredential_eq_false (hasText_of_isAuthorized hauthorized),
      Bool.false_eq_true, if_false, if_neg (Nat.not_lt.2 httl), hbody]

/-- A body can be made if the key is on the curve or there is nothing to encrypt. -/
theorem exists_body_of_isEncryptable
    (hcontent : n.content? = if content = [] then none else some content)
    (hroom : content.length + 1 ≤ Envelope.maxPlaintext)
    (h : IsEncryptable n.subscription.publicKey content) (trace : Trace) :
    ∃ bytes after, body n trace = (.ok bytes, after) := by
  obtain hnil | ⟨P, hP⟩ := h
  · rw [body, hcontent, if_pos hnil]
    exact ⟨_, _, rfl⟩
  · refine exists_body_eq_ok hP (fun content' hsome => ?_) trace
    rw [hcontent] at hsome
    split at hsome
    · cases hsome
    · injection hsome with hsome
      exact hsome ▸ hroom

/-- Without an origin the credentials are made without it, or not made for its fault. -/
theorem credentialHeaders_of_origin {f : Url.Fault} (horigin : n.origin = .error f) (now : Seconds)
    (trace : Trace) : (∃ credentials, s.credentialHeaders n now trace = (.ok credentials, trace)) ∨
      s.credentialHeaders n now trace = (.error (.origin f), trace) := by
  rw [credentialHeaders]
  split
  · exact .inl ⟨_, rfl⟩
  split
  · exact .inl ⟨_, rfl⟩
  · rw [horigin]
    exact .inr rfl

/-- Of an endpoint without an origin the fault is reported, with a signer or without. -/
theorem prepare_eq_origin (hauthorized : IsAuthorized s.gcmApiKey n.endpoint)
    (httl : Double.decimalLength n.ttl ≤ Number.maxDigits) {bytes : Bytes} {trace between : Trace}
    (hbody : body n trace = (.ok bytes, between)) {f : Url.Fault} (horigin : n.origin = .error f)
    (now : Seconds) : s.prepare n now trace = (.error (.origin f), between) := by
  simp only [prepare, needsCredential_eq_false (hasText_of_isAuthorized hauthorized),
    Bool.false_eq_true, if_false, if_neg (Nat.not_lt.2 httl), hbody]
  obtain ⟨credentials, hcredentials⟩ | hfault :=
    credentialHeaders_of_origin (s := s) horigin now between
  · simp only [hcredentials, horigin]
  · simp only [hfault]

/-! ## All outcomes -/

/-- **The four ways in which preparing ends**, told apart in this order: an API key is
missing, the recipient's key is on another curve, the endpoint has no origin, or
nothing is missing and there is a request. -/
theorem prepare_cases (s : Service) (httl : Double.decimalLength n.ttl ≤ Number.maxDigits)
    (hcontent : n.content? = if content = [] then none else some content)
    (hroom : content.length + 1 ≤ Envelope.maxPlaintext) {now : Seconds} (hnow : now.IsReading)
    (trace : Trace) :
    (¬ IsAuthorized s.gcmApiKey n.endpoint ∧
        s.prepare n now trace = (.error .missingCredential, trace)) ∨
      (IsAuthorized s.gcmApiKey n.endpoint ∧ ¬ IsEncryptable n.subscription.publicKey content ∧
        ∃ e : KeyError, e.isUnusableRecipient = true ∧
          s.prepare n now trace = (.error (.encrypt (.key e)), trace)) ∨
      (IsAuthorized s.gcmApiKey n.endpoint ∧ IsEncryptable n.subscription.publicKey content ∧
        ∃ f after, n.origin = .error f ∧ s.prepare n now trace = (.error (.origin f), after)) ∨
      (IsAuthorized s.gcmApiKey n.endpoint ∧ IsEncryptable n.subscription.publicKey content ∧
        ∃ origin r after, n.origin = .ok origin ∧ s.prepare n now trace = (.ok r, after)) := by
  by_cases hauthorized : IsAuthorized s.gcmApiKey n.endpoint
  case neg => exact .inl ⟨hauthorized, prepare_eq_missingCredential hauthorized now trace⟩
  by_cases hencryptable : IsEncryptable n.subscription.publicKey content
  case neg =>
    exact .inr (.inl ⟨hauthorized, hencryptable,
      exists_prepare_eq_unusableRecipient hauthorized httl hcontent hencryptable now trace⟩)
  obtain ⟨bytes, between, hbody⟩ := exists_body_of_isEncryptable hcontent hroom hencryptable trace
  cases horigin : n.origin with
  | error f =>
    exact .inr (.inr (.inl ⟨hauthorized, hencryptable, f, between, rfl,
      prepare_eq_origin hauthorized httl hbody horigin now⟩))
  | ok origin =>
    obtain ⟨seconds, hseconds, hsmall⟩ := hnow.exists_toInt
    obtain ⟨r, after, hprepare⟩ := exists_prepare_eq_ok_of_body (hasText_of_isAuthorized hauthorized)
      httl hbody horigin hseconds (Vapid.length_toDigits_le hsmall)
    exact .inr (.inr (.inr ⟨hauthorized, hencryptable, origin, r, after, rfl, hprepare⟩))

/-- **How preparing comes out.** A request is prepared if and only if the endpoint is
given the API key it takes, the recipient's key is on the curve where there is
something to encrypt, and the endpoint has an origin. Otherwise the first of these
that is missing is what is reported, and for the first two nothing has been drawn,
signed or logged. No other error occurs. -/
theorem prepare_outcome {gcmApiKey subject : Option String} {keyPair : Option KeyPair}
    {service : Service} (hservice : Service.make gcmApiKey subject keyPair = .ok service)
    {subscription : Subscription} {payload : Option Content} {ttl : Int}
    {urgency topic : Option String} {n : Notification}
    (hnotification : Notification.make subscription payload ttl urgency topic = .ok n)
    (hroom : (Content.octets payload).length + 1 ≤ 2 ^ 31 - 1) (httl : ttl < 10 ^ 4300)
    {now : Seconds} (hnow : now.IsReading) (trace : Trace) :
    let authorized := IsAuthorized gcmApiKey subscription.endpoint
    let encryptable := IsEncryptable subscription.publicKey (Content.octets payload)
    ((∃ r after, service.prepare n now trace = (.ok r, after)) ↔
        authorized ∧ encryptable ∧ HasOrigin subscription.endpoint) ∧
      (¬ authorized → service.prepare n now trace = (.error .missingCredential, trace)) ∧
      (authorized → ¬ encryptable → ∃ e : KeyError, e.isUnusableRecipient = true ∧
        service.prepare n now trace = (.error (.encrypt (.key e)), trace)) ∧
      (authorized → encryptable → ∀ f, Url.origin subscription.endpoint = .error f →
        ∃ after, service.prepare n now trace = (.error (.origin f), after)) ∧
      (∀ e after, service.prepare n now trace = (.error e, after) → e = .missingCredential ∨
        (∃ k : KeyError, k.isUnusableRecipient = true ∧ e = .encrypt (.key k)) ∨
        ∃ f, e = .origin f) := by
  intro authorized encryptable
  obtain ⟨hnonneg, rfl, hpayload, hnttl, -, -⟩ := Notification.of_make hnotification
  obtain ⟨rfl, -, -⟩ := of_make hservice
  have hlength {k : Nat} (hk : 0 < k) (h : ttl < 10 ^ k) : Double.decimalLength n.ttl ≤ k := by
    refine (Double.decimalLength_le_iff hk).2 ?_
    rw [hnttl, Int.toNat_lt hnonneg]
    exact_mod_cast h
  obtain ⟨hmissing, h⟩ | ⟨hauthorized, hforeign, e, he, h⟩ |
      ⟨hauthorized, hencryptable, f, after, hfault, h⟩ |
      ⟨hauthorized, hencryptable, origin, r, after, horigin, h⟩ :=
    prepare_cases service (hlength (by decide) httl) (Notification.content?_eq hpayload) hroom hnow
      trace
  all_goals rw [h]
  · refine ⟨iff_of_false nofun fun hall => hmissing hall.1, fun _ => rfl,
      fun hauthorized => absurd hauthorized hmissing,
      fun hauthorized => absurd hauthorized hmissing, ?_⟩
    rintro _ _ ⟨⟩
    exact .inl rfl
  · refine ⟨iff_of_false nofun fun hall => hforeign hall.2.1,
      fun hmissing => absurd hauthorized hmissing, fun _ _ => ⟨e, he, rfl⟩,
      fun _ hencryptable => absurd hencryptable hforeign, ?_⟩
    rintro _ _ ⟨⟩
    exact .inr (.inl ⟨e, he, rfl⟩)
  · refine ⟨iff_of_false nofun ?_, fun hmissing => absurd hauthorized hmissing,
      fun _ hforeign => absurd hencryptable hforeign, ?_, ?_⟩
    · rintro ⟨-, -, origin, horigin⟩
      cases hfault.symm.trans horigin
    · intro _ _ f' hfault'
      cases hfault.symm.trans hfault'
      exact ⟨after, rfl⟩
    · rintro _ _ ⟨⟩
      exact .inr (.inr ⟨f, rfl⟩)
  · refine ⟨iff_of_true ⟨r, after, rfl⟩ ⟨hauthorized, hencryptable, origin, horigin⟩,
      fun hmissing => absurd hauthorized hmissing,
      fun _ hforeign => absurd hencryptable hforeign, ?_, nofun⟩
    intro _ _ f hfault
    cases horigin.symm.trans hfault

/-- A message to a key on another curve, at an endpoint that takes an API key. -/
def foreignNotification : Notification where
  subscription := ⟨Notification.gcmPrefix, .foreign ⟨.secp384r1, 1⟩, .zeros⟩
  payload := some [0x68, 0x69]
  ttl := 60
  urgency := none
  topic := none

/-- The sender with the least private scalar, with an API key or without. -/
theorem make_plain (gcmApiKey : Option String) :
    Service.make gcmApiKey (some "mailto:a@b") (some (.ofScalar .one)) =
      .ok ⟨gcmApiKey, some "mailto:a@b", some .plain⟩ :=
  make_ofScalar gcmApiKey Vapid.Signer.plain.subject_isContact .one

/-- With two things missing the first is reported, with one that one, with none a
request is prepared. -/
theorem prepare_outcome_foreign :
    let trace := Trace.start ⟨fun _ => .one, fun _ => .zeros, 0, 0⟩
    Service.prepare ⟨none, none, none⟩ foreignNotification (.whole 0) trace =
        (.error .missingCredential, trace) ∧
      (∃ e : KeyError, e.isUnusableRecipient = true ∧
        Service.prepare ⟨some "k", none, none⟩ foreignNotification (.whole 0) trace =
          (.error (.encrypt (.key e)), trace)) ∧
      ∃ r after, Service.prepare ⟨none, some "mailto:a@b", some .plain⟩ plainNotification (.whole 0)
        trace = (.ok r, after) := by
  intro trace
  have hkeyless : Service.make none none none = .ok ⟨none, none, none⟩ := rfl
  have hkeyed : Service.make (some "k") none none = .ok ⟨some "k", none, none⟩ := rfl
  have hforeign : Notification.make foreignNotification.subscription (some (.raw [0x68, 0x69])) 60
      none none = .ok foreignNotification := rfl
  have hplain : Notification.make plainNotification.subscription (some (.raw [0x68, 0x69])) 60
      (some "high") none = .ok plainNotification := rfl
  have hroom : (Content.octets (some (.raw [0x68, 0x69]))).length + 1 ≤ 2 ^ 31 - 1 := by decide
  have httl {k : Nat} (hk : 2 ≤ k) : (60 : Int) < 10 ^ k :=
    lt_of_lt_of_le (by decide : (60 : Int) < 10 ^ 2) (pow_le_pow_right₀ (by decide) hk)
  have hzero (k : Nat) : (0 : Int).natAbs < 10 ^ k := Nat.pow_pos (by decide)
  have hnow : (Seconds.whole 0).IsReading := hzero 4000
  have hgcm : Text.startsWith foreignNotification.subscription.endpoint Notification.gcmPrefix =
      true := by decide +kernel
  have hunusable : ¬ IsEncryptable foreignNotification.subscription.publicKey
      (Content.octets (some (.raw [0x68, 0x69]))) := by
    rintro (hnil | ⟨P, hP⟩)
    · cases hnil
    · cases hP
  have hnotGcm : Text.startsWith plainNotification.subscription.endpoint Notification.gcmPrefix =
      false := by decide +kernel
  have horigin : Url.origin plainNotification.subscription.endpoint = .ok "https://a" := by
    decide +kernel
  refine ⟨?_, ?_, ?_⟩
  · refine (prepare_outcome hkeyless hforeign hroom (httl (by decide)) hnow trace).2.1
      fun hauthorized => ?_
    obtain ⟨apiKey, hnone, -⟩ := hauthorized hgcm
    cases hnone
  · exact (prepare_outcome hkeyed hforeign hroom (httl (by decide)) hnow trace).2.2.1
      (fun _ => ⟨"k", rfl, by decide⟩) hunusable
  · refine (prepare_outcome (make_plain none) hplain hroom (httl (by decide)) hnow trace).1.2
      ⟨fun hgcm => ?_, .inr ⟨_, rfl⟩, _, horigin⟩
    cases hnotGcm.symm.trans hgcm

end Service

end WebPush
