import WebPush.Proofs.Seconds
import WebPush.Proofs.Sender.Outcomes
/-!
# Sender — messages that arrive

A message for a key on the curve that fits into a record and goes to an
address that works is received once and opened by the holder of the key.
Neither the draws nor the sender's identity can keep it from this.
-/

namespace WebPush

/-- An address that requests can be made for and sent to: it takes no API key, it has an
origin, and a client accepts it. -/
structure Url.IsReachable (endpoint : String) (target : Target) : Prop where
  unkeyed : Text.startsWith endpoint Notification.gcmPrefix = false
  origin : ∃ origin, Url.origin endpoint = .ok origin
  accepts : Accepts endpoint target

namespace Sender

/-- A name and a password of the address leave all headers but one as they are. -/
theorem lookup_sentHeaders_of_ne {r : Request} {name value : String}
    (hname : name ≠ "Authorization") (h : r.header? name = some value) (target : Url.Target) :
    List.lookup name (sentHeaders r target) = some value := by
  have hheaders : List.lookup name
      (r.headers ++ [("Content-Length", toString r.body.length)]) = some value := by
    rw [List.lookup_append, ← Request.header?, h, Option.some_or]
  rw [sentHeaders]
  split
  · exact hheaders
  · rw [lookup_setHeader, if_neg hname, hheaders]

/-- **A message arrives** once, with its lifetime, and opens under the key it is for. -/
theorem exists_send_eq_accepted (service : Service) {n : Notification} {target : Url.Target}
    (haddress : Url.IsReachable n.endpoint target) {d : P256.Scalar}
    (hrecipient : n.subscription.publicKey = .p256 d.publicPoint) {content : Bytes}
    (hcontent : n.content? = some content) (hroom : content.length < Envelope.maxPlaintext)
    (httl : n.ttl < 10 ^ Number.maxDigits) {now : Seconds} (hnow : now.IsReading) {status : Int}
    (hstatus : status < 400) (text : String) (timeout : Seconds) (trace : Trace) :
    ∃ t after, (Sender.http service timeout).send n now (.answered status text) trace =
        (⟨.ok (some ⟨status, text⟩), [t]⟩, after) ∧
      t.method = "POST" ∧ t.url = target.render ∧
      List.lookup "TTL" t.headers = some (toString n.ttl) ∧
      ∀ key, PrivateKey.load key = .ok d →
        Envelope.decrypt t.body key n.subscription.auth.bytes = .ok content := by
  obtain ⟨hgcm, ⟨origin, horigin⟩, haccepts⟩ := haddress
  have hunkeyed : n.isGcm = false := hgcm
  obtain ⟨seconds, hseconds, hsmall⟩ := hnow.exists_toInt
  have hfits : ∀ content', n.content? = some content' →
      content'.length + 1 ≤ Envelope.maxPlaintext := by
    intro content' hcontent'
    cases hcontent.symm.trans hcontent'
    exact hroom
  obtain ⟨r, between, hprepare⟩ := Service.exists_prepare_eq_ok (s := service)
    (fun hkeyed => absurd hkeyed (by rw [hunkeyed]; decide))
    ((Double.decimalLength_le_iff (by decide)).2 httl) hrecipient hfits horigin hseconds
    (Vapid.length_toDigits_le hsmall) trace
  have hkey : service.HasAsciiKey n := fun hkeyed => absurd hkeyed (by rw [hunkeyed]; decide)
  -- The name and password of the address may replace the credentials, so only headers of other
  -- names are followed from here on.
  obtain ⟨origin', hsend⟩ :=
    exists_send_eq_of_prepare hprepare hkey haccepts timeout (.answered status text) {}
  have hscheme := Url.hasScheme_render haccepts.reads haccepts.absolute
  rw [(judged_judge origin' hscheme (.answered status text)).eq_accepted hstatus] at hsend
  refine ⟨_, _, hsend, rfl, rfl, ?_, ?_⟩
  · exact lookup_sentHeaders_of_ne (by decide) (Service.header?_ttl hprepare) target
  · obtain ⟨hnone, -⟩ | ⟨content', hcontent', -, hopens⟩ :=
      Service.decrypt_of_prepare hprepare hrecipient
    · cases hcontent.symm.trans hnone
    · cases hcontent.symm.trans hcontent'
      exact hopens

end Sender

end WebPush
