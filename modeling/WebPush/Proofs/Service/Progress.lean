import WebPush.Proofs.Envelope.RoundTrip
import WebPush.Proofs.Vapid.RoundTrip
import WebPush.Service
/-!
# Service — requests that can be prepared

An endpoint with an origin gives the audience of a token, a key on the
right curve can be encrypted for, and a time can be signed if its digits
can be written. Nothing else is asked of a service or a notification, so
with these a request is prepared, whatever is drawn for it.
-/

namespace WebPush

/-- A text occurs between any two others. -/
theorem Text.occursIn_append (before part after : List Char) :
    occursIn part (before ++ part ++ after) = true := by
  rw [List.append_assoc]
  induction before with
  | nil =>
    cases hpart : part with
    | nil => cases after <;> rfl
    | cons c rest =>
      rw [List.nil_append, List.cons_append, occursIn, ← List.cons_append, Bool.or_eq_true]
      exact .inl (List.isPrefixOf_iff_prefix.2 (List.prefix_append _ _))
  | cons c rest ih => rw [List.cons_append, occursIn, ih, Bool.or_true]

/-- Every origin looks like one. -/
theorem Url.occursIn_of_origin {url origin : String} (h : Url.origin url = .ok origin) :
    Text.occursIn "://".toList origin.toList = true := by
  rw [Url.origin, originChars] at h
  simp only [bind, Except.bind, pure, Except.pure] at h
  split at h
  · cases h
  split at h
  · cases h
  injection h with h
  have hparts (before part host port : List Char) :
      Text.occursIn part (String.ofList (before ++ part ++ host ++ port)).toList = true := by
    rw [String.toList_ofList, List.append_assoc]
    exact Text.occursIn_append before part (host ++ port)
  rw [← h]
  exact hparts _ _ _ _

namespace Service

variable {s : Service} {n : Notification} {now : Seconds}

/-- Whatever fits into a record is encrypted for a key on the curve. -/
theorem exists_body_eq_ok {P : P256.Point} (hrecipient : n.subscription.publicKey = .p256 P)
    (hroom : ∀ content, n.content? = some content → content.length + 1 ≤ Envelope.maxPlaintext)
    (trace : Trace) : ∃ bytes after, body n trace = (.ok bytes, after) := by
  rw [body]
  cases hcontent : n.content? with
  | none => exact ⟨_, _, rfl⟩
  | some content =>
    have hfits : content.length + 1 + 0 ≤ Envelope.maxPlaintext := hroom content hcontent
    obtain ⟨ephemeral, entropy, hscalar⟩ : ∃ e entropy, trace.entropy.drawScalar = (e, entropy) :=
      ⟨_, _, rfl⟩
    obtain ⟨shared, hshared⟩ := P256.exists_sharedSecret? ephemeral P
    have hencrypt := Envelope.encryptFor_eq_ok hscalar rfl hshared n.subscription.auth hfits
    have hload : PublicKey.load (.key n.subscription.publicKey) = .ok P := by
      rw [hrecipient, PublicKey.load_key]
    simp only [Envelope.encrypt, Int.lt_irrefl, if_false, hload, Octets16.ofSecret_bytes,
      Int.toNat_zero, hencrypt]
    exact ⟨_, _, rfl⟩

/-- No credential is missing where the API key is there if it is needed. -/
theorem needsCredential_eq_false (hcredential : n.isGcm = true → hasText s.gcmApiKey = true) :
    (n.isGcm && !hasText s.gcmApiKey) = false := by
  cases hgcm : n.isGcm with
  | false => rfl
  | true => rw [hcredential hgcm]; rfl

/-- There are credentials for every endpoint with an origin. -/
theorem exists_credentialHeaders_eq_ok {origin : String} (horigin : n.origin = .ok origin)
    {seconds : Int} (hnow : now.toInt = .ok seconds)
    (hdigits : (Nat.toDigits 10 (seconds + Vapid.lifetime).natAbs).length ≤ Number.maxDigits)
    (trace : Trace) :
    ∃ credentials after, s.credentialHeaders n now trace = (.ok credentials, after) := by
  rw [credentialHeaders]
  split
  · exact ⟨_, _, rfl⟩
  split
  · exact ⟨_, _, rfl⟩
  rename_i signer _
  rw [horigin]
  simp only [Vapid.sign_eq_ok signer (Url.occursIn_of_origin horigin) hnow hdigits trace]
  exact ⟨_, _, rfl⟩

/-- A request is prepared around a body that could be made. -/
theorem exists_prepare_eq_ok_of_body (hcredential : n.isGcm = true → hasText s.gcmApiKey = true)
    (httl : Double.decimalLength n.ttl ≤ Number.maxDigits) {bytes : Bytes} {trace between : Trace}
    (hbody : body n trace = (.ok bytes, between))
    {origin : String} (horigin : n.origin = .ok origin) {seconds : Int}
    (hnow : now.toInt = .ok seconds)
    (hdigits : (Nat.toDigits 10 (seconds + Vapid.lifetime).natAbs).length ≤ Number.maxDigits) :
    ∃ r after, s.prepare n now trace = (.ok r, after) := by
  obtain ⟨credentials, after, hcredentials⟩ :=
    exists_credentialHeaders_eq_ok (s := s) horigin hnow hdigits between
  have hneeded := needsCredential_eq_false hcredential
  refine ⟨⟨n.endpoint, noticeHeaders n ++ credentials, bytes⟩,
    after.note (s.preparedRecord n origin), ?_⟩
  simp only [prepare, hneeded, Bool.false_eq_true, if_false, if_neg (Nat.not_lt.2 httl), hbody,
    hcredentials, horigin]

/-- **A request can be prepared** for a key on the curve and an endpoint with an origin
if the API key is there where it is needed. -/
theorem exists_prepare_eq_ok (hcredential : n.isGcm = true → hasText s.gcmApiKey = true)
    (httl : Double.decimalLength n.ttl ≤ Number.maxDigits) {P : P256.Point}
    (hrecipient : n.subscription.publicKey = .p256 P)
    (hroom : ∀ content, n.content? = some content → content.length + 1 ≤ Envelope.maxPlaintext)
    {origin : String} (horigin : n.origin = .ok origin) {seconds : Int}
    (hnow : now.toInt = .ok seconds)
    (hdigits : (Nat.toDigits 10 (seconds + Vapid.lifetime).natAbs).length ≤ Number.maxDigits)
    (trace : Trace) : ∃ r after, s.prepare n now trace = (.ok r, after) := by
  obtain ⟨bytes, between, hbody⟩ := exists_body_eq_ok hrecipient hroom trace
  exact exists_prepare_eq_ok_of_body hcredential httl hbody horigin hnow hdigits

end Service

end WebPush
