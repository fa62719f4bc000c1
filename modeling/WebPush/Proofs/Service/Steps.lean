import WebPush.Proofs.Vapid.RoundTrip
import WebPush.Service
/-!
# Service — what each step of preparing a request does

For every part of a request this says what it was made from whenever it
was made: the checks that were passed, the values that went in, and the
trace in between. What is said about requests is read off these.
-/

namespace WebPush

/-! ## Notifications and services -/

theorem Urgency.word_of_ofWord? {word : String} {u : Urgency} (h : Urgency.ofWord? word = some u) :
    u.word = word := by
  simpa using List.find?_some h

theorem Topic.text_of_ofText? {text : String} {t : Topic} (h : Topic.ofText? text = some t) :
    t.text = text := by
  rw [Topic.ofText?] at h
  split at h
  · injection h with h
    rw [← h]
  · cases h

/-- The last check in making a notification is that of its topic. -/
theorem Notification.of_topic {topic : Option String} {build : Option Topic → Notification}
    {n : Notification} (h : (match topic with
      | none => .ok (build none)
      | some text => match Topic.ofText? text with
        | some t => .ok (build (some t))
        | none => .error .topic : Except NotificationFault Notification) = .ok n) :
    ∃ t, t.map Topic.text = topic ∧ n = build t := by
  split at h
  · injection h with h
    exact ⟨none, rfl, h.symm⟩
  split at h
  · rename_i t ht
    injection h with h
    exact ⟨some t, congrArg some (Topic.text_of_ofText? ht), h.symm⟩
  · cases h

/-- **A notification that could be made** has the traits it was made with. -/
theorem Notification.of_make {subscription : Subscription} {payload : Option Content} {ttl : Int}
    {urgency topic : Option String} {n : Notification}
    (h : Notification.make subscription payload ttl urgency topic = .ok n) :
    0 ≤ ttl ∧ n.subscription = subscription ∧ n.payload = payload.map Content.toBytes ∧
      n.ttl = ttl.toNat ∧ n.urgency.map Urgency.word = urgency ∧ n.topic.map Topic.text = topic := by
  simp only [Notification.make, bind, Except.bind, pure, Except.pure] at h
  by_cases httl : ttl < 0
  · simp only [if_pos httl] at h
    cases h
  simp only [if_neg httl] at h
  split at h
  · obtain ⟨t, ht, rfl⟩ := of_topic h
    exact ⟨Int.not_lt.1 httl, rfl, rfl, rfl, rfl, ht⟩
  split at h
  · rename_i u hu
    obtain ⟨t, ht, rfl⟩ := of_topic h
    exact ⟨Int.not_lt.1 httl, rfl, rfl, rfl, congrArg some (Urgency.word_of_ofWord? hu), ht⟩
  · cases h

/-- A notification can be made of traits that are in order. -/
theorem Notification.exists_make_eq_ok (subscription : Subscription) (payload : Option Content)
    {ttl : Int} {urgency topic : Option String} (httl : 0 ≤ ttl)
    (hurgency : ∀ word, urgency = some word → (Urgency.ofWord? word).isSome = true)
    (htopic : ∀ text, topic = some text → isTopic text = true) :
    ∃ n, Notification.make subscription payload ttl urgency topic = .ok n := by
  have hword : urgency = none ∨ ∃ word u, urgency = some word ∧ Urgency.ofWord? word = some u := by
    cases urgency with
    | none => exact .inl rfl
    | some word => exact .inr ⟨word, _, rfl, (Option.some_get (hurgency word rfl)).symm⟩
  have htext : topic = none ∨ ∃ text t, topic = some text ∧ Topic.ofText? text = some t := by
    cases topic with
    | none => exact .inl rfl
    | some text => exact .inr ⟨text, ⟨text, htopic text rfl⟩, rfl, dif_pos (htopic text rfl)⟩
  obtain rfl | ⟨word, u, rfl, hu⟩ := hword <;> obtain rfl | ⟨text, t, rfl, ht⟩ := htext
  all_goals
    simp only [make, if_neg (Int.not_lt.2 httl), bind, Except.bind, pure, Except.pure, *]
    exact ⟨_, rfl⟩

/-- **A service that could be made** has a signer exactly for a pair of keys, which
is the signer of the pair and the contact. -/
theorem Service.of_make {gcmApiKey subject : Option String} {keyPair : Option KeyPair} {s : Service}
    (h : Service.make gcmApiKey subject keyPair = .ok s) :
    s.gcmApiKey = gcmApiKey ∧ s.subject = subject ∧
      ((keyPair = none ∧ s.signer = none) ∨
        ∃ pair contact signer, keyPair = some pair ∧ subject = some contact ∧
          Vapid.Signer.ofKeyPair pair contact = .ok signer ∧ s.signer = some signer) := by
  rw [Service.make.eq_def] at h
  split at h
  · injection h with h
    subst h
    exact ⟨rfl, rfl, .inl ⟨rfl, rfl⟩⟩
  split at h
  · split at h
    · cases h
    split at h
    · rename_i signer hsigner
      injection h with h
      subst h
      exact ⟨rfl, rfl, .inr ⟨_, _, signer, rfl, rfl, hsigner, rfl⟩⟩
    · cases h
  · cases h

/-- **A contact and a private scalar make a service.** -/
theorem Service.make_ofScalar (gcmApiKey : Option String) {contact : String}
    (hcontact : Vapid.isContact contact = true) (d : P256.Scalar) :
    Service.make gcmApiKey (some contact) (some (.ofScalar d)) =
      .ok ⟨gcmApiKey, some contact, some ⟨contact, d, hcontact⟩⟩ := by
  simp only [make, Vapid.isEmpty_of_isContact hcontact, Bool.false_eq_true, if_false,
    Vapid.ofKeyPair_ofScalar d hcontact]

/-- Whether tokens are signed is whether there is a pair of keys. -/
theorem Service.isSome_signer_of_make {gcmApiKey subject : Option String} {keyPair : Option KeyPair}
    {s : Service} (h : Service.make gcmApiKey subject keyPair = .ok s) :
    s.signer.isSome = keyPair.isSome := by
  obtain ⟨-, -, ⟨rfl, hnone⟩ | ⟨pair, contact, signer, rfl, -, -, hsome⟩⟩ := of_make h
  · rw [hnone]
    rfl
  · rw [hsome]
    rfl

namespace Service

/-! ## The parts of a request -/

variable {s : Service} {n : Notification} {now : Seconds} {trace after : Trace}

/-- The body is empty, or it is the envelope of the content. -/
theorem of_body {bytes : Bytes} (h : body n trace = (.ok bytes, after)) :
    (n.content? = none ∧ bytes = [] ∧ after = trace) ∨
      ∃ content encrypted, n.content? = some content ∧
        Envelope.encrypt content (.key n.subscription.publicKey) n.subscription.auth.bytes 0 trace =
          (.ok encrypted, after) ∧
        bytes = encrypted.envelope := by
  rw [body] at h
  split at h
  · rename_i hnone
    injection h with hbytes hafter
    injection hbytes with hbytes
    exact .inl ⟨hnone, hbytes.symm, hafter.symm⟩
  · rename_i content hcontent
    split at h
    · rename_i encrypted after' hencrypt
      injection h with hbytes hafter
      injection hbytes with hbytes
      subst hafter hbytes
      exact .inr ⟨content, encrypted, hcontent, hencrypt, rfl⟩
    · cases h

/-- The credentials are an API key, or none, or a token for the origin. -/
theorem of_credentialHeaders {credentials : List (String × String)}
    (h : s.credentialHeaders n now trace = (.ok credentials, after)) :
    (n.isGcm = true ∧ credentials = [("Authorization", "key=" ++ s.gcmApiKey.getD "")] ∧
        after = trace) ∨
      (n.isGcm = false ∧ s.signer = none ∧ credentials = [] ∧ after = trace) ∨
      ∃ signer audience token, n.isGcm = false ∧ s.signer = some signer ∧
        n.origin = .ok audience ∧ signer.sign audience now trace = (.ok token, after) ∧
        credentials = [("Authorization", token.authorization), ("Crypto-Key", token.cryptoKey)] := by
  rw [credentialHeaders] at h
  split at h
  · rename_i hgcm
    injection h with hcredentials hafter
    injection hcredentials with hcredentials
    exact .inl ⟨hgcm, hcredentials.symm, hafter.symm⟩
  rename_i hgcm
  rw [Bool.not_eq_true] at hgcm
  split at h
  · rename_i hsigner
    injection h with hcredentials hafter
    injection hcredentials with hcredentials
    exact .inr (.inl ⟨hgcm, hsigner, hcredentials.symm, hafter.symm⟩)
  rename_i signer hsigner
  split at h
  · cases h
  rename_i audience haudience
  split at h
  · cases h
  · rename_i token after' hsign
    injection h with hcredentials hafter
    injection hcredentials with hcredentials
    subst hafter hcredentials
    exact .inr (.inr ⟨signer, audience, token, hgcm, hsigner, haudience, hsign, rfl⟩)

/-- **A request that could be prepared** is put together from its parts, made one
after the other. -/
theorem of_prepare {r : Request} (h : s.prepare n now trace = (.ok r, after)) :
    (n.isGcm = true → hasText s.gcmApiKey = true) ∧
      Double.decimalLength n.ttl ≤ Number.maxDigits ∧
      ∃ bytes between credentials signed origin, body n trace = (.ok bytes, between) ∧
        s.credentialHeaders n now between = (.ok credentials, signed) ∧
        n.origin = .ok origin ∧ r = ⟨n.endpoint, noticeHeaders n ++ credentials, bytes⟩ ∧
        after = signed.note (s.preparedRecord n origin) := by
  rw [prepare] at h
  split at h
  · cases h
  rename_i hcredential
  split at h
  · cases h
  rename_i httl
  split at h
  · cases h
  rename_i bytes between hbody
  split at h
  · cases h
  rename_i credentials signed hcredentials
  split at h
  · cases h
  rename_i origin horigin
  injection h with hr hafter
  injection hr with hr
  refine ⟨?_, Nat.not_lt.1 httl, bytes, between, credentials, signed, origin, hbody, hcredentials,
    horigin, hr.symm, hafter.symm⟩
  intro hgcm
  simpa [hgcm] using hcredential

/-! ## The errors of a request -/

/-- Without credentials there is no origin, or it is one that was not signed for. -/
theorem error_of_credentialHeaders {e : PrepareError}
    (h : s.credentialHeaders n now trace = (.error e, after)) :
    (∃ f, e = .origin f ∧ n.origin = .error f) ∨
      ∃ (signer : Vapid.Signer) (audience : String) (f : Vapid.SignError),
        e = .sign f ∧ n.origin = .ok audience ∧
        signer.sign audience now trace = (.error f, after) := by
  rw [credentialHeaders] at h
  split at h
  · cases h
  split at h
  · cases h
  rename_i signer _
  split at h
  · rename_i f horigin
    cases h
    exact .inl ⟨f, rfl, horigin⟩
  rename_i audience horigin
  split at h
  · rename_i f _ hsign
    cases h
    exact .inr ⟨signer, audience, f, rfl, horigin, hsign⟩
  · cases h

/-- **A request that could not be prepared** is the failure of one of its parts. -/
theorem error_of_prepare {e : PrepareError} (h : s.prepare n now trace = (.error e, after)) :
    e = .missingCredential ∨ e = .ttlTooLong ∨
      (∃ f between, e = .encrypt f ∧ body n trace = (.error f, between)) ∨
      (∃ f, e = .origin f ∧ n.origin = .error f) ∨
      ∃ (signer : Vapid.Signer) (audience : String) (f : Vapid.SignError) (between : Trace),
        e = .sign f ∧ n.origin = .ok audience ∧
        signer.sign audience now between = (.error f, after) := by
  rw [prepare] at h
  split at h
  · cases h
    exact .inl rfl
  split at h
  · cases h
    exact .inr (.inl rfl)
  split at h
  · rename_i f _ hbody
    cases h
    exact .inr (.inr (.inl ⟨f, _, rfl, hbody⟩))
  split at h
  · rename_i hcredentials
    cases h
    obtain horigin | ⟨signer, audience, f, he, horigin, hsign⟩ :=
      error_of_credentialHeaders hcredentials
    · exact .inr (.inr (.inr (.inl horigin)))
    · exact .inr (.inr (.inr (.inr ⟨signer, audience, f, _, he, horigin, hsign⟩)))
  split at h
  · rename_i f horigin
    cases h
    exact .inr (.inr (.inr (.inl ⟨f, rfl, horigin⟩)))
  · cases h

end Service

end WebPush
