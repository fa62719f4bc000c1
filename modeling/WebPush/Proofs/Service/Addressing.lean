import WebPush.Proofs.Service.Outcomes
import WebPush.Proofs.Subscription.Acceptance
/-!
# Service — the addresses of accepted subscriptions

Two readers take an endpoint apart. The one that accepts the object of a
browser asks for the secure scheme and for a host, and the one that names
the origin needs the port besides. So an accepted endpoint has an origin
with a host in it, and a request can be prepared for it, if and only if
what stands in the place of a port is one.
-/

namespace WebPush

/-! ## Origins from parts -/

namespace Url

variable {url : String} {parts : Parts}

/-- The origin is put together from the parts of an address and its port. -/
theorem origin_eq_ok (hparts : Parts.ofText url.toList = .ok parts) {port : Option Nat}
    (hport : parts.port = .ok port) :
    origin url = .ok (String.ofList
      (parts.scheme ++ "://".toList ++ showHost parts.host ++ showPort parts.scheme port)) := by
  rw [origin, originChars, hparts]
  simp only [bind, Except.bind, hport]
  rfl

/-- Without a port that can be read there is no origin. -/
theorem origin_eq_error (hparts : Parts.ofText url.toList = .ok parts) {f : Fault}
    (hport : parts.port = .error f) : origin url = .error f := by
  rw [origin, originChars, hparts]
  simp only [bind, Except.bind, hport]
  rfl

end Url

/-! ## Readiness -/

namespace Service

/-- **A service is ready for a notification**, as far as anything but its address is concerned: it
has the API key that the endpoint takes, the content and the time to live are not beyond all
bounds, and the clock can be read. -/
structure IsReadyFor (service : Service) (n : Notification) (now : Seconds) : Prop where
  authorized : IsAuthorized service.gcmApiKey n.endpoint
  room : (n.payload.getD []).length + 1 ≤ 2 ^ 31 - 1
  ttl : n.ttl < 10 ^ 4300
  reading : now.IsReading

/-- **For a recipient on the curve** a service that is ready prepares a request, if the address
has an origin, and else reports the fault of the address. -/
theorem IsReadyFor.prepare_cases {service : Service} {n : Notification} {now : Seconds}
    (h : service.IsReadyFor n now) {P : P256.Point} (hkey : n.subscription.publicKey = .p256 P)
    (trace : Trace) :
    (∃ origin r after, n.origin = .ok origin ∧ service.prepare n now trace = (.ok r, after)) ∨
      ∃ f after, n.origin = .error f ∧ service.prepare n now trace = (.error (.origin f), after) := by
  have hpayload : n.payload = (n.payload.map Content.raw).map Content.toBytes := by
    cases n.payload <;> rfl
  have hoctets : Content.octets (n.payload.map Content.raw) = n.payload.getD [] := by
    cases n.payload <;> rfl
  have hcontent := Notification.content?_eq hpayload
  rw [hoctets] at hcontent
  have hdigits : Double.decimalLength n.ttl ≤ 4300 :=
    (Double.decimalLength_le_iff (by decide)).2 h.ttl
  obtain ⟨hmissing, -⟩ | ⟨-, hforeign, -⟩ | ⟨-, -, f, after, hfault, hprepare⟩ |
      ⟨-, -, origin, r, after, horigin, hprepare⟩ :=
    Service.prepare_cases service hdigits hcontent h.room h.reading trace
  · exact absurd h.authorized hmissing
  · exact absurd (.inr ⟨P, hkey⟩) hforeign
  · exact .inr ⟨f, after, hfault, hprepare⟩
  · exact .inl ⟨origin, r, after, horigin, hprepare⟩

/-- **Only an address without an origin** is ever at fault for its address, whatever else there is
to a service and a notification. -/
theorem origin_of_prepare {service : Service} {n : Notification} {now : Seconds}
    {trace after : Trace} {f : Url.Fault}
    (h : service.prepare n now trace = (.error (.origin f), after)) : n.origin = .error f := by
  obtain ⟨⟨⟩⟩ | ⟨⟨⟩⟩ | ⟨_, _, ⟨⟩, -⟩ | ⟨_, ⟨⟩, horigin⟩ | ⟨_, _, _, _, ⟨⟩, -⟩ := error_of_prepare h
  exact horigin

end Service

/-! ## Accepted endpoints -/

namespace Subscription

/-- **An accepted endpoint can be addressed, if its port can.** The endpoint of an accepted object
has a host. If what stands in the place of a port is one, a notification to the subscription has
an origin with this host behind the secure scheme. Then no service fails for the address, and
every service that is ready for it prepares a request. Otherwise the notification has no origin,
and no service that is ready prepares anything: each reports what is wrong with the port. -/
theorem addressed_of_ofJson {value : Json} {info : BrowserInfo} {s : Subscription}
    (hinfo : BrowserInfo.ofJson value = .ok info) (hs : info.toSubscription = .ok s)
    {payload : Option Content} {ttl : Int} {urgency topic : Option String} {n : Notification}
    (hn : Notification.make s payload ttl urgency topic = .ok n) :
    ∃ parts, Url.Parts.ofText n.endpoint.toList = .ok parts ∧ parts.host ≠ [] ∧
      ((∃ port, Url.IsPort parts.portText ∧ parts.port = .ok port ∧
          n.origin = .ok (String.ofList ("https://".toList ++ Url.showHost parts.host ++
            Url.showPort "https".toList port)) ∧
          ∀ (service : Service) now trace,
            (∀ f after, service.prepare n now trace ≠ (.error (.origin f), after)) ∧
              (service.IsReadyFor n now →
                ∃ r after, service.prepare n now trace = (.ok r, after))) ∨
        ∃ f, Url.IsPortFault parts.portText f ∧ n.origin = .error f ∧
          ∀ (service : Service) now trace, service.IsReadyFor n now →
            ∃ after, service.prepare n now trace = (.error (.origin f), after)) := by
  obtain ⟨_, _, -, -, hread⟩ := exists_readEndpoint_of_ofJson hinfo
  obtain ⟨parts, hparts, hscheme, hhost⟩ := of_readEndpoint hread
  obtain ⟨P, auth, hsubscription, -, -⟩ | ⟨e, herror, -⟩ := toSubscription_cases info
  case inr => cases hs.symm.trans herror
  cases hs.symm.trans hsubscription
  obtain ⟨-, hsame, -⟩ := Notification.of_make hn
  have hendpoint : n.endpoint = info.endpoint := congrArg Subscription.endpoint hsame
  have hkey : n.subscription.publicKey = .p256 P := congrArg Subscription.publicKey hsame
  rw [← hendpoint] at hparts
  refine ⟨parts, hparts, hhost, ?_⟩
  obtain ⟨hport, hnumber⟩ | ⟨f, hfault, hnumber⟩ := parts.port_cases
  · have horigin := Url.origin_eq_ok hparts hnumber
    refine .inl ⟨_, hport, hnumber, by rw [Notification.origin, horigin, hscheme]; rfl, ?_⟩
    intro service now trace
    refine ⟨fun f after hprepare => ?_, fun hready => ?_⟩
    · cases (Service.origin_of_prepare hprepare).symm.trans horigin
    obtain ⟨-, r, after, -, hprepare⟩ | ⟨f, -, herror, -⟩ := hready.prepare_cases hkey trace
    · exact ⟨r, after, hprepare⟩
    · cases herror.symm.trans horigin
  · have horigin := Url.origin_eq_error hparts hnumber
    refine .inr ⟨f, hfault, horigin, ?_⟩
    intro service now trace hready
    obtain ⟨origin, -, -, hok, -⟩ | ⟨f', after, herror, hprepare⟩ :=
      hready.prepare_cases hkey trace
    · cases hok.symm.trans horigin
    · cases herror.symm.trans horigin
      exact ⟨after, hprepare⟩

/-- A notification without content to a subscription for an endpoint. -/
def emptyNotification (endpoint : String) : Notification where
  subscription := ⟨endpoint, .p256 P256.generator, .zeros⟩
  payload := none
  ttl := 60
  urgency := none
  topic := none

theorem make_emptyNotification (endpoint : String) :
    Notification.make ⟨endpoint, .p256 P256.generator, .zeros⟩ none 60 none none =
      .ok (emptyNotification endpoint) := rfl

/-- A service without keys is ready for it at most endpoints. -/
theorem isReadyFor_emptyNotification {endpoint : String}
    (h : Text.startsWith endpoint Notification.gcmPrefix = false) :
    Service.IsReadyFor ⟨none, none, none⟩ (emptyNotification endpoint) (.whole 0) := by
  have httl {k : Nat} (hk : 2 ≤ k) : 60 < 10 ^ k :=
    Nat.lt_of_lt_of_le (by decide) (Nat.pow_le_pow_right (by decide) hk)
  have hroom : ([] : Bytes).length + 1 ≤ 2 ^ 31 - 1 := by decide
  exact ⟨fun hgcm => (by cases h.symm.trans hgcm), hroom, httl (by decide), Seconds.isReading_zero⟩

theorem addressed_of_ofJson_port : ∃ info,
    BrowserInfo.ofJson (.object (plainMembers "https://a:8443/b")) = .ok info ∧
      info.toSubscription = .ok ⟨"https://a:8443/b", .p256 P256.generator, .zeros⟩ ∧
      ∃ r after, Service.prepare ⟨none, none, none⟩ (emptyNotification "https://a:8443/b") (.whole 0)
        (.start ⟨fun _ => .one, fun _ => .zeros, 0, 0⟩) = (.ok r, after) := by
  have hsecure : IsSecureAddress "https://a:8443/b" :=
    ⟨by decide, by decide +kernel, ⟨"https".toList, "a:8443".toList⟩, by decide +kernel, rfl,
      by decide +kernel⟩
  obtain ⟨info, hinfo, hs⟩ := exists_ofJson_eq_ok (isHandedOut_plainMembers _) hsecure
  have horigin : (emptyNotification "https://a:8443/b").origin = .ok "https://a:8443" := by
    decide +kernel
  refine ⟨info, hinfo, hs, ?_⟩
  obtain ⟨_, -, -, ⟨_, -, -, -, hprepare⟩ | ⟨f, -, herror, -⟩⟩ :=
    addressed_of_ofJson hinfo hs (make_emptyNotification _)
  · exact (hprepare _ _ _).2 (isReadyFor_emptyNotification (by decide +kernel))
  · cases herror.symm.trans horigin

/-- An endpoint with too large a port is accepted, and nothing can be sent to it. -/
theorem exists_accepted_without_origin : ∃ info,
    BrowserInfo.ofJson (.object (plainMembers "https://a:99999")) = .ok info ∧
      info.toSubscription = .ok ⟨"https://a:99999", .p256 P256.generator, .zeros⟩ ∧
      Notification.make ⟨"https://a:99999", .p256 P256.generator, .zeros⟩ none 60 none none =
        .ok (emptyNotification "https://a:99999") ∧
      (emptyNotification "https://a:99999").origin = .error .portRange ∧
      Service.make none none none = .ok ⟨none, none, none⟩ ∧
      ∃ after, Service.prepare ⟨none, none, none⟩ (emptyNotification "https://a:99999") (.whole 0)
        (.start ⟨fun _ => .one, fun _ => .zeros, 0, 0⟩) = (.error (.origin .portRange), after) := by
  have hsecure : IsSecureAddress "https://a:99999" :=
    ⟨by decide, by decide +kernel, ⟨"https".toList, "a:99999".toList⟩, by decide +kernel, rfl,
      by decide +kernel⟩
  obtain ⟨info, hinfo, hs⟩ := exists_ofJson_eq_ok (isHandedOut_plainMembers _) hsecure
  have horigin : (emptyNotification "https://a:99999").origin = .error .portRange := by
    decide +kernel
  have hready : Service.IsReadyFor ⟨none, none, none⟩ (emptyNotification "https://a:99999")
      (.whole 0) := isReadyFor_emptyNotification (by decide +kernel)
  refine ⟨info, hinfo, hs, make_emptyNotification _, horigin, rfl, ?_⟩
  obtain ⟨origin, -, -, hok, -⟩ | ⟨f, after, herror, hprepare⟩ :=
    hready.prepare_cases rfl (.start ⟨fun _ => .one, fun _ => .zeros, 0, 0⟩)
  · cases hok.symm.trans horigin
  · cases herror.symm.trans horigin
    exact ⟨after, hprepare⟩

end Subscription

end WebPush
