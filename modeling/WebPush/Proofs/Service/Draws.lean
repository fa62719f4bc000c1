import WebPush.Proofs.Envelope.Effects
import WebPush.Proofs.Service.Steps
/-!
# Service — the random values that preparing a request draws

Preparing draws for the body and for nothing else: credentials are signed
without random values. So it draws a scalar and a salt when it comes to
encrypting, even if the address then turns out to have no origin, and
otherwise nothing.
-/

namespace WebPush

/-- The key is on the curve that messages are encrypted over. -/
def PublicKey.isP256 : PublicKey → Bool
  | .p256 _ => true
  | .foreign _ => false

namespace Service

/-- Everything is in order that is looked at before the content: an API key is
there if it is needed, and the time to live has digits that can be written. -/
def admits (s : Service) (n : Notification) : Bool :=
  !(n.isGcm && !hasText s.gcmApiKey) && decide (Double.decimalLength n.ttl ≤ Number.maxDigits)

/-- Preparing comes to encrypting: there is content, for a key on the curve. -/
def encrypts (s : Service) (n : Notification) : Bool :=
  s.admits n && n.hasPayload && n.subscription.publicKey.isP256

variable {s : Service} {n : Notification} {now : Seconds} {trace after : Trace}

/-! ## The body -/

/-- Content for a key on the curve is encrypted. -/
theorem body_eq {content : Bytes} (hcontent : n.content? = some content) {P : P256.Point}
    (hrecipient : n.subscription.publicKey = .p256 P) (trace : Trace) :
    body n trace = match Envelope.encryptFor content P n.subscription.auth 0 trace with
      | (.ok encrypted, trace) => (.ok encrypted.envelope, trace)
      | (.error e, trace) => (.error e, trace) := by
  have hencrypt : Envelope.encrypt content (.key n.subscription.publicKey)
      n.subscription.auth.bytes 0 trace =
        Envelope.encryptFor content P n.subscription.auth 0 trace := by
    simp only [Envelope.encrypt, Int.lt_irrefl, if_false, hrecipient, PublicKey.load_key,
      Octets16.ofSecret_bytes, Int.toNat_zero]
  obtain ⟨result, after, hsealed⟩ : ∃ result after,
      Envelope.encryptFor content P n.subscription.auth 0 trace = (result, after) := ⟨_, _, rfl⟩
  cases result <;> simp only [body, hcontent, hencrypt, hsealed]

/-- For a key on another curve nothing is done with content. -/
theorem body_eq_error {content : Bytes} (hcontent : n.content? = some content) {key : ForeignKey}
    (hrecipient : n.subscription.publicKey = .foreign key) (trace : Trace) :
    body n trace = (.error (.key (.foreignPublicKey key.curve)), trace) := by
  simp only [body, hcontent, hrecipient, Envelope.encrypt, Int.lt_irrefl, if_false, PublicKey.load,
    PublicKey.requireP256]

/-- Without content the body is empty. -/
theorem body_eq_nil (hcontent : n.content? = none) (trace : Trace) :
    body n trace = (.ok [], trace) := by
  rw [body, hcontent]

/-- The body draws once if there is content for a key on the curve. -/
theorem entropy_body (n : Notification) (trace : Trace) :
    (body n trace).2.entropy =
      if n.hasPayload && n.subscription.publicKey.isP256 then trace.entropy.advance
      else trace.entropy := by
  rw [Notification.hasPayload]
  cases hcontent : n.content? with
  | none =>
    rw [body_eq_nil hcontent]
    rfl
  | some content =>
    cases hrecipient : n.subscription.publicKey with
    | foreign key =>
      rw [body_eq_error hcontent hrecipient]
      rfl
    | p256 P =>
      have hdrawn := Envelope.entropy_encryptFor content P n.subscription.auth 0 trace
      rw [body_eq hcontent hrecipient]
      split <;> rename_i heq <;> rw [heq] at hdrawn <;> exact hdrawn

/-! ## The whole request -/

/-- Signing draws nothing. -/
theorem entropy_sign (signer : Vapid.Signer) (audience : String) (now : Seconds) (trace : Trace) :
    (signer.sign audience now trace).2.entropy = trace.entropy := by
  rw [Vapid.Signer.sign]
  split
  · rfl
  split
  · rfl
  dsimp only
  split <;> rfl

/-- Credentials draw nothing. -/
theorem entropy_credentialHeaders (s : Service) (n : Notification) (now : Seconds) (trace : Trace) :
    (s.credentialHeaders n now trace).2.entropy = trace.entropy := by
  rw [credentialHeaders]
  split
  · rfl
  split
  · rfl
  split
  · rfl
  rename_i signer _ _ audience _
  have hsigned := entropy_sign signer audience now trace
  split <;> rename_i heq <;> rw [heq] at hsigned <;> exact hsigned

/-- What preparing does once everything else is in order: the body, the credentials and
the origin, one after the other. -/
theorem prepare_eq_of_admits (h : s.admits n = true) (now : Seconds) (trace : Trace) :
    s.prepare n now trace = match body n trace with
      | (.error e, trace) => (.error (.encrypt e), trace)
      | (.ok body, trace) => match s.credentialHeaders n now trace with
        | (.error e, trace) => (.error e, trace)
        | (.ok credentials, trace) => match n.origin with
          | .error f => (.error (.origin f), trace)
          | .ok origin => (.ok ⟨n.endpoint, noticeHeaders n ++ credentials, body⟩,
              trace.note (s.preparedRecord n origin)) := by
  obtain ⟨hcredential, httl⟩ := Bool.and_eq_true_iff.1 h
  rw [Bool.not_eq_true'] at hcredential
  rw [prepare, hcredential]
  exact (if_neg Bool.false_ne_true).trans (if_neg (Nat.not_lt.2 (of_decide_eq_true httl)))

/-- What is drawn for a request is drawn for its body. -/
theorem entropy_prepare_of_admits (h : s.admits n = true) (now : Seconds) (trace : Trace) :
    (s.prepare n now trace).2.entropy = (body n trace).2.entropy := by
  rw [prepare_eq_of_admits h]
  cases hbody : body n trace with
  | mk result between =>
  cases result with
  | error e => rfl
  | ok bytes =>
    have hsame := entropy_credentialHeaders s n now between
    simp only
    split <;> rename_i heq <;> rw [heq] at hsame
    · exact hsame
    · split <;> exact hsame

/-- Nothing is done with what is not in order. -/
theorem exists_prepare_eq_error (h : s.admits n = false) (now : Seconds) (trace : Trace) :
    ∃ e, s.prepare n now trace = (.error e, trace) := by
  rw [prepare]
  split
  · exact ⟨_, rfl⟩
  rename_i hcredential
  split
  · exact ⟨_, rfl⟩
  rename_i httl
  rw [Bool.not_eq_true] at hcredential
  rw [admits, hcredential, decide_eq_true (Nat.not_lt.1 httl)] at h
  cases h

/-- **Preparing draws a scalar and a salt if it comes to encrypting**, and otherwise
nothing, however it ends. -/
theorem entropy_prepare (s : Service) (n : Notification) (now : Seconds) (trace : Trace) :
    (s.prepare n now trace).2.entropy =
      if s.encrypts n then trace.entropy.advance else trace.entropy := by
  rw [encrypts, Bool.and_assoc]
  cases hadmits : s.admits n with
  | false =>
    obtain ⟨e, heq⟩ := exists_prepare_eq_error hadmits now trace
    rw [heq]
    rfl
  | true => rw [entropy_prepare_of_admits hadmits, entropy_body, Bool.true_and]

/-- What could be prepared was in order. -/
theorem admits_of_prepare {r : Request} (h : s.prepare n now trace = (.ok r, after)) :
    s.admits n = true := by
  rw [← Bool.not_eq_false]
  intro hnot
  obtain ⟨e, heq⟩ := exists_prepare_eq_error hnot now trace
  rw [h] at heq
  cases heq

/-- **The body of a request** is empty, or it is made with what was drawn. -/
theorem body_of_prepare {r : Request} (h : s.prepare n now trace = (.ok r, after)) :
    if s.encrypts n then
      Envelope.IsMadeWith r.body trace.entropy.drawScalar.1 trace.entropy.drawScalar.2.drawSalt.1
    else r.body = [] := by
  have hadmits := admits_of_prepare h
  obtain ⟨-, -, bytes, between, _, _, _, hbody, -, -, rfl, -⟩ := of_prepare h
  rw [encrypts, hadmits, Bool.true_and, Notification.hasPayload]
  cases hcontent : n.content? with
  | none =>
    rw [body_eq_nil hcontent] at hbody
    injection hbody with hbytes
    injection hbytes with hbytes
    exact hbytes.symm
  | some content =>
    cases hrecipient : n.subscription.publicKey with
    | foreign key =>
      rw [body_eq_error hcontent hrecipient] at hbody
      cases hbody
    | p256 P =>
      rw [body_eq hcontent hrecipient] at hbody
      split at hbody
      · rename_i hencrypt
        injection hbody with hbytes
        injection hbytes with hbytes
        exact hbytes ▸ Envelope.isMadeWith_of_encryptFor hencrypt
      · cases hbody

end Service

end WebPush
