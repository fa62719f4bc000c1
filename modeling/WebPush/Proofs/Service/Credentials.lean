import WebPush.Proofs.Service.Outcomes
import WebPush.Proofs.Url.Authority
/-!
# Service — where credentials go

An endpoint either takes the API key or it takes tokens, and which of the
two is told by how it begins. The beginning fixes the origin as well, and
the host that a request goes to. So the API key reaches one origin only,
no request to any other depends on it, and no request to that one depends
on the key pair.
-/

namespace WebPush

/-! ## Endpoints that take an API key -/

namespace Notification

variable {n : Notification}

/-- The origin of the endpoints that take an API key. -/
def gcmOrigin : String := "https://android.googleapis.com"

/-- The host of these endpoints. -/
def gcmHost : List Char := "android.googleapis.com".toList

/-- An endpoint that takes an API key is an address in full on one host. -/
theorem exists_written_of_isGcm (h : n.isGcm = true) :
    ∃ tail, Url.FollowsAuthority tail ∧
      n.endpoint.toList = Url.written "https".toList gcmHost tail := by
  obtain ⟨rest, hrest⟩ := Text.startsWith_eq_true_iff.1 h
  have hprefix : gcmPrefix.toList = Url.written "https".toList gcmHost "/gcm/send".toList := by
    decide +kernel
  have hstart : "/gcm/send".toList = '/' :: "gcm/send".toList := by decide +kernel
  refine ⟨"/gcm/send".toList ++ rest, ?_, ?_⟩
  · rw [hstart]
    exact Url.followsAuthority_cons rfl _
  · rw [hrest, hprefix]
    simp only [Url.written, List.append_assoc, List.cons_append]

theorem isPlainAuthority_gcmHost : Url.IsPlainAuthority gcmHost := by
  have hall : gcmHost.all fun c => !Url.isDropped c && !Url.endsAuthority c := by decide +kernel
  intro c hc
  simpa using List.all_eq_true.1 hall c hc

/-- **One origin takes API keys.** -/
theorem origin_of_isGcm (h : n.isGcm = true) : n.origin = .ok gcmOrigin := by
  obtain ⟨tail, htail, hendpoint⟩ := exists_written_of_isGcm h
  have hparts : Url.Parts.ofText n.endpoint.toList = .ok ⟨"https".toList, gcmHost⟩ := by
    rw [hendpoint, Url.Parts.ofText_written (by decide +kernel) isPlainAuthority_gcmHost htail]
    decide +kernel
  have hport : Url.Parts.port ⟨"https".toList, gcmHost⟩ = .ok none := by decide +kernel
  have hshown : String.ofList ("https".toList ++ "://".toList ++
      Url.showHost (Url.Parts.host ⟨"https".toList, gcmHost⟩) ++
        Url.showPort "https".toList none) = gcmOrigin := by decide +kernel
  rw [origin, Url.origin, Url.originChars, hparts]
  simp only [bind, Except.bind, hport, pure, Except.pure, Except.map, hshown]

/-- **One host receives requests with API keys**, over one scheme, without a name or a port. -/
theorem target_of_isGcm (h : n.isGcm = true) {target : Url.Target}
    (htarget : Url.Target.ofText n.endpoint.toList = .ok target) :
    target.scheme = "https".toList ∧ target.showAuthority = gcmHost := by
  obtain ⟨tail, htail, hendpoint⟩ := exists_written_of_isGcm h
  have hhttps : Url.isScheme "https".toList = true := by decide +kernel
  obtain ⟨hscheme, hauthority⟩ :=
    Url.Components.ofText_written hhttps isPlainAuthority_gcmHost htail
  obtain ⟨u, hu, habsolute⟩ := Url.Target.exists_ofComponents_of_ofText htarget
  have hsplit : Url.splitAuthority gcmHost = ([], gcmHost, []) := by decide +kernel
  rw [hendpoint] at hu
  obtain ⟨huscheme, huser, hhost, hport⟩ := Url.Target.of_ofComponents hu
  rw [hauthority, Option.getD_some, hsplit] at huser hhost hport
  rw [hscheme] at huscheme hport
  have hnormalScheme : "https".toList.map Char.toLower = "https".toList := by decide +kernel
  have hnormalHost : Url.normalHost gcmHost = .ok gcmHost := by decide +kernel
  have hnormalPort : Url.normalPort "https".toList [] = .ok none := by decide +kernel
  rw [hnormalScheme] at huscheme
  injection hnormalHost.symm.trans hhost with hhost
  injection hnormalPort.symm.trans hport with hport
  have hnonempty : "https".toList.isEmpty = false ∧ gcmHost.isEmpty = false := by decide +kernel
  -- Only a target that is not absolute would be changed once more.
  have hu : target = u := habsolute (by
    rw [Url.Target.isAbsolute, huscheme, ← hhost, hnonempty.1, hnonempty.2]
    rfl)
  have hcolon : gcmHost.contains ':' = false := by decide +kernel
  refine ⟨by rw [hu, huscheme], ?_⟩
  rw [hu, Url.Target.showAuthority, Url.Target.hostAndPort, huser, ← hhost, ← hport, hcolon]
  simp [Url.escape]

end Notification

namespace Service

variable {s s' : Service} {n : Notification} {now now' : Seconds} {trace : Trace}

/-! ## What a request depends on -/

/-- The API key has no part in whether a service can be made, nor in its signer. -/
theorem signer_eq_of_make {gcmApiKey gcmApiKey' subject : Option String} {keyPair : Option KeyPair}
    (h : make gcmApiKey subject keyPair = .ok s) (h' : make gcmApiKey' subject keyPair = .ok s') :
    s.signer = s'.signer := by
  obtain ⟨-, -, hsigner⟩ := of_make h
  obtain ⟨-, -, hsigner'⟩ := of_make h'
  obtain ⟨rfl, hnone⟩ | ⟨pair, contact, signer, rfl, rfl, hmade, hsome⟩ := hsigner
  · obtain ⟨-, hnone'⟩ | ⟨pair, _, _, hpair, -⟩ := hsigner'
    · rw [hnone, hnone']
    · cases hpair
  · obtain ⟨hpair, -⟩ | ⟨pair', contact', signer', hpair, hcontact, hmade', hsome'⟩ := hsigner'
    · cases hpair
    · cases hpair
      cases hcontact
      -- Both signers were made from one pair and one contact.
      rw [hmade] at hmade'
      injection hmade' with hmade'
      rw [hsome, hsome', hmade']

/-- **Where no API key is taken, none has a part in the request.** -/
theorem prepare_eq_of_signer_eq (hgcm : n.isGcm = false) (h : s.signer = s'.signer) (now : Seconds)
    (trace : Trace) : s.prepare n now trace = s'.prepare n now trace := by
  have hcredentials : s.credentialHeaders n now = s'.credentialHeaders n now := by
    funext trace
    simp only [credentialHeaders, hgcm, Bool.false_eq_true, if_false, h]
  have hrecord : s.preparedRecord n = s'.preparedRecord n := by
    funext origin
    simp only [preparedRecord, vapidEnabled, h]
  simp only [prepare, hgcm, Bool.false_and, Bool.false_eq_true, if_false, hcredentials, hrecord]

/-- **Where an API key is taken, nothing else of a service has a part in the request**, and
neither has the clock. -/
theorem prepare_eq_of_gcmApiKey_eq (hgcm : n.isGcm = true) (h : s.gcmApiKey = s'.gcmApiKey)
    (now now' : Seconds) (trace : Trace) : s.prepare n now trace = s'.prepare n now' trace := by
  have hcredentials : s.credentialHeaders n now = s'.credentialHeaders n now' := by
    funext trace
    simp only [credentialHeaders, hgcm, if_true, h]
  have hrecord : s.preparedRecord n = s'.preparedRecord n := by
    funext origin
    simp only [preparedRecord, hgcm, Bool.not_true, Bool.and_false]
  simp only [prepare, h, hcredentials, hrecord]

/-- A request with an API key has the key as its one credential. -/
theorem headers_of_isGcm {r : Request} {after : Trace}
    (h : s.prepare n now trace = (.ok r, after)) (hgcm : n.isGcm = true) {apiKey : String}
    (hkey : s.gcmApiKey = some apiKey) :
    r.headers = noticeHeaders n ++ [("Authorization", "key=" ++ apiKey)] := by
  obtain ⟨-, -, _, _, credentials, _, _, -, hcredentials, -, rfl, -⟩ := of_prepare h
  obtain ⟨-, rfl, -⟩ | ⟨hnot, -⟩ | ⟨_, _, _, hnot, -⟩ := of_credentialHeaders hcredentials
  · rw [hkey]
    rfl
  · cases hnot.symm.trans hgcm
  · cases hnot.symm.trans hgcm

/-! ## Confinement -/

/-- **Credentials are confined.** An endpoint that takes an API key has one origin, and a
request to it goes to that host. On any other endpoint, services that differ in their API
key only prepare the same. On these, services with the same API key do, whatever else they
are made of, and nothing but the key says in the request who is sending. -/
theorem prepare_confined {gcmApiKey gcmApiKey' subject subject' : Option String}
    {keyPair keyPair' : Option KeyPair} {service service' : Service}
    (hservice : Service.make gcmApiKey subject keyPair = .ok service)
    (hservice' : Service.make gcmApiKey' subject' keyPair' = .ok service')
    (n : Notification) (now : Seconds) (trace : Trace) :
    (n.isGcm = true → n.origin = .ok "https://android.googleapis.com" ∧
      ∀ target, Url.Target.ofText n.endpoint.toList = .ok target →
        target.scheme = "https".toList ∧
          target.showAuthority = "android.googleapis.com".toList) ∧
    (n.isGcm = false → subject = subject' → keyPair = keyPair' →
      service.prepare n now trace = service'.prepare n now trace) ∧
    (n.isGcm = true → ∀ apiKey, apiKey ≠ "" → gcmApiKey = some apiKey → gcmApiKey' = some apiKey →
      service.prepare n now trace = service'.prepare n now trace ∧
        ∀ r after, service.prepare n now trace = (.ok r, after) →
          r.header? "Authorization" = some ("key=" ++ apiKey) ∧
            "Crypto-Key" ∉ r.headers.map Prod.fst ∧
              ∀ header ∈ r.headers, header.1 = "Authorization" → header.2 = "key=" ++ apiKey) := by
  refine ⟨fun hgcm => ⟨Notification.origin_of_isGcm hgcm, fun target =>
    Notification.target_of_isGcm hgcm⟩, ?_, ?_⟩
  · rintro hgcm rfl rfl
    exact prepare_eq_of_signer_eq hgcm (signer_eq_of_make hservice hservice') now trace
  · rintro hgcm apiKey - rfl rfl
    obtain ⟨hkey, -, -⟩ := of_make hservice
    obtain ⟨hkey', -, -⟩ := of_make hservice'
    refine ⟨prepare_eq_of_gcmApiKey_eq hgcm (hkey.trans hkey'.symm) now now trace, ?_⟩
    intro r after h
    have hheaders := headers_of_isGcm h hgcm hkey
    refine ⟨?_, ?_, ?_⟩
    · rw [Request.header?, hheaders, lookup_append_noticeHeaders n _ (.inl rfl)]
      rfl
    · rw [hheaders, List.map_append, List.mem_append, not_or]
      exact ⟨notMem_noticeHeaders n (.inr rfl), by simp⟩
    · intro header hheader hname
      rw [hheaders, List.mem_append, List.mem_singleton] at hheader
      obtain hnotice | rfl := hheader
      · exact absurd (List.mem_map.2 ⟨header, hnotice, hname⟩) (notMem_noticeHeaders n (.inl rfl))
      · rfl

/-- A message without content for the holder of the least private scalar, at an address. -/
def silentNotificationTo (endpoint : String) : Notification where
  subscription := ⟨endpoint, .p256 P256.Scalar.one.publicPoint, .zeros⟩
  payload := none
  ttl := 60
  urgency := none
  topic := none

/-- With and without a key pair where the API key is taken, with and without an API key
elsewhere. -/
theorem prepare_confined_both :
    let trace := Trace.start ⟨fun _ => .one, fun _ => .zeros, 0, 0⟩
    let keyed := silentNotificationTo "https://android.googleapis.com/gcm/send/x"
    let unkeyed := silentNotificationTo "https://a/b"
    let both : Service := ⟨some "k", some "mailto:a@b", some .plain⟩
    keyed.origin = .ok "https://android.googleapis.com" ∧
      (∃ r after, both.prepare keyed (.whole 0) trace = (.ok r, after) ∧
        Service.prepare ⟨some "k", none, none⟩ keyed (.whole 0) trace = (.ok r, after) ∧
        r.header? "Authorization" = some "key=k" ∧ "Crypto-Key" ∉ r.headers.map Prod.fst) ∧
      both.prepare unkeyed (.whole 0) trace =
        Service.prepare ⟨none, some "mailto:a@b", some .plain⟩ unkeyed (.whole 0) trace := by
  intro trace keyed unkeyed both
  have hkeyless : Service.make (some "k") none none = .ok ⟨some "k", none, none⟩ := rfl
  have hkeyed : keyed.isGcm = true := by decide +kernel
  have hunkeyed : unkeyed.isGcm = false := by decide +kernel
  obtain ⟨horigin, -, hsame⟩ :=
    prepare_confined (make_plain (some "k")) hkeyless keyed (.whole 0) trace
  obtain ⟨hequal, hcredential⟩ := hsame hkeyed "k" (by decide) rfl rfl
  obtain ⟨r, after, hprepare⟩ := exists_prepare_eq_ok (s := both) (n := keyed) (fun _ => by decide)
    (by decide +kernel) rfl nofun (horigin hkeyed).1 (rfl : (Seconds.whole 0).toInt = .ok 0)
    (by decide) trace
  obtain ⟨hauthorization, hcryptoKey, -⟩ := hcredential r after hprepare
  refine ⟨(horigin hkeyed).1, ⟨r, after, hprepare, hequal ▸ hprepare, hauthorization, hcryptoKey⟩, ?_⟩
  exact (prepare_confined (make_plain (some "k")) (make_plain none) unkeyed (.whole 0) trace).2.1
    hunkeyed rfl rfl

end Service

end WebPush
