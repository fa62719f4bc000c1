import WebPush.Proofs.Base64Url
import WebPush.Proofs.Curve.Order
import WebPush.Proofs.Key.Codec
import WebPush.Proofs.Lookup
import WebPush.Subscription.Browser
/-!
# Subscription — objects that are accepted

A browser hands out an object with an endpoint, perhaps an expiration
time, and the texts of its key and its secret. Such an object is
accepted, and describes the subscription of this endpoint, key and
secret.
-/

namespace WebPush.Subscription

/-- The base64url text of octets, with at most two padding characters behind it. -/
def IsKeyTextOf (text : String) (bs : Bytes) : Prop :=
  ∃ padding ≤ 2, text.toList = Base64Url.encodeChars bs ++ List.replicate padding '='

/-- An address that a browser's object may have: not too long, without blanks around it,
with the secure scheme and a host. -/
structure IsSecureAddress (endpoint : String) : Prop where
  short : endpoint.length ≤ 2048
  trimmed : Text.trim endpoint.toList = endpoint.toList
  parts : ∃ parts, Url.Parts.ofText endpoint.toList = .ok parts ∧
    parts.scheme = "https".toList ∧ parts.host.isEmpty = false

/-- The members that hold a key and a secret. -/
structure AreKeysOf (ms : Json.Members) (P : P256.Point) (auth : Octets16) : Prop where
  publicKey : ∃ text, ms.find? "p256dh" = some (.string text) ∧ IsKeyTextOf text P.toBytes
  secret : ∃ text, ms.find? "auth" = some (.string text) ∧ IsKeyTextOf text auth.bytes
  only : ∀ m ∈ ms, m.1 ∈ ["p256dh", "auth"]

/-- **The members of a browser's object** for an endpoint, a key and a secret. -/
structure IsHandedOut (ms : Json.Members) (endpoint : String) (P : P256.Point) (auth : Octets16) :
    Prop where
  endpoint : ms.find? "endpoint" = some (.string endpoint)
  time : ms.find? "expirationTime" = none ∨ ms.find? "expirationTime" = some .null ∨
    ∃ n, ms.find? "expirationTime" = some (.int n)
  keys : ∃ keys : Json.Members, ms.find? "keys" = some (.object keys) ∧ AreKeysOf keys P auth
  only : ∀ m ∈ ms, m.1 ∈ ["endpoint", "expirationTime", "keys"]

/-! ## Single members -/

/-- Nothing has a scheme without characters. -/
theorem IsSecureAddress.length_pos {endpoint : String} (h : IsSecureAddress endpoint) :
    0 < endpoint.length := by
  obtain ⟨-, -, parts, hparts, hscheme, -⟩ := h
  rw [← String.length_toList, List.length_pos_iff]
  intro hnil
  rw [hnil] at hparts
  cases hparts
  cases hscheme

theorem readEndpoint_eq_ok {endpoint : String} (h : IsSecureAddress endpoint) :
    readEndpoint (.string endpoint) = .ok endpoint := by
  have hpositive : ¬ endpoint.length < 1 := Nat.not_lt.2 h.length_pos
  obtain ⟨hshort, htrimmed, parts, hparts, hscheme, hhost⟩ := h
  simp only [readEndpoint, readText, if_neg hpositive, if_neg (Nat.not_lt.2 hshort), bind,
    Except.bind, htrimmed, hparts, Except.mapError, hscheme, ne_eq, not_true_eq_false, if_false,
    hhost, Bool.false_eq_true, String.ofList_toList, pure, Except.pure]

/-- The texts of keys are accepted as they are, if the bounds leave room for them. -/
theorem readKeyText_eq_ok {text : String} {bs : Bytes} (h : IsKeyTextOf text bs) (hne : bs ≠ [])
    {least most : Nat} (hleast : least ≤ (bs.length * 4 + 2) / 3)
    (hmost : (bs.length * 4 + 2) / 3 + 2 ≤ most) :
    readKeyText least most (.string text) = .ok text := by
  obtain ⟨padding, hpadding, htext⟩ := h
  have halphabet := Base64Url.inAlphabet_of_mem_encodeChars bs
  have hlength : text.length = (bs.length * 4 + 2) / 3 + padding := by
    rw [← String.length_toList, htext, List.length_append, Base64Url.length_encodeChars,
      List.length_replicate]
  have hall : (Base64Url.encodeChars bs).all Base64Url.inAlphabet = true :=
    List.all_eq_true.2 halphabet
  have hnonempty : (Base64Url.encodeChars bs).isEmpty = false := by
    rw [← Bool.not_eq_true, List.isEmpty_iff]
    exact Base64Url.encodeChars_ne_nil hne
  have htrim : Text.trim text.toList = text.toList := by
    rw [htext, Base64Url.trim_padded fun c hc =>
      (Base64Url.plain_of_inAlphabet (halphabet c hc)).2.2.2.1]
  have hkey : isKeyText text.toList = true := by
    rw [isKeyText, htext, Base64Url.dropEndWhile_padding halphabet]
    simp [hnonempty, hall, hpadding]
  have hlong : ¬ text.length < least := by omega
  have hshort : ¬ most < text.length := by omega
  simp only [readKeyText, readText, if_neg hlong, if_neg hshort, bind, Except.bind, htrim, hkey,
    if_true, String.ofList_toList, pure, Except.pure]

/-! ## The whole object -/

/-- A member that is there and is accepted. -/
theorem required_eq {α : Type} {ms : Json.Members} {name : String} {value : Json}
    (hfind : ms.find? name = some value) {read : Json → Except FieldFault α} {x : α}
    (hread : read value = .ok x) (path : List String) :
    required ms path name read = (some x, []) := by
  simp only [required, hfind, hread]

/-- Where all names are known there are no faults of others. -/
theorem unknownMembers_eq_nil {ms : Json.Members} {known : List String}
    (h : ∀ m ∈ ms, m.1 ∈ known) (path : List String) : unknownMembers ms path known = [] := by
  rw [unknownMembers, List.map_eq_nil_iff, List.filter_eq_nil_iff]
  intro m hm
  simp [h m hm]

theorem find?_eq_none {ms : Json.Members} {known : List String} (h : ∀ m ∈ ms, m.1 ∈ known)
    {name : String} (hname : name ∉ known) : ms.find? name = none :=
  lookup_eq_none_iff_notMem.2 fun hmem => hname (List.forall_mem_map.2 h name hmem)

variable {ms : Json.Members} {endpoint : String} {P : P256.Point} {auth : Octets16}

/-- A key and a secret are accepted as their texts are. -/
theorem AreKeysOf.exists_readKeys (h : AreKeysOf ms P auth) : ∃ publicText authText,
    readKeys (.object ms) = (some (publicText, authText), []) ∧
      IsKeyTextOf publicText P.toBytes ∧ IsKeyTextOf authText auth.bytes := by
  obtain ⟨⟨publicText, hpublic, hpublicText⟩, ⟨authText, hauth, hauthText⟩, honly⟩ := h
  have hpoint : readKeyText 80 100 (.string publicText) = .ok publicText := by
    have hlength : P.toBytes.length = 65 := P256.Pair.length_toBytes _
    refine readKeyText_eq_ok hpublicText ?_ ?_ ?_
    · rw [← List.length_pos_iff, hlength]
      decide
    all_goals rw [hlength]; decide
  have hsecret : readKeyText 16 32 (.string authText) = .ok authText := by
    refine readKeyText_eq_ok hauthText ?_ ?_ ?_
    · rw [← List.length_pos_iff, auth.length_eq]
      decide
    all_goals rw [auth.length_eq]; decide
  refine ⟨publicText, authText, ?_, hpublicText, hauthText⟩
  simp only [readKeys, required_eq hpublic hpoint, required_eq hauth hsecret,
    unknownMembers_eq_nil honly, Option.bind_some, Option.map_some, List.append_nil]

/-- Absent or not, there is no fault in the expiration time. -/
theorem IsHandedOut.exists_time (h : IsHandedOut ms endpoint P auth) : ∃ expiration,
    (if (ms.find? "expirationTime").isNone then (some none, [])
      else required ms [] "expirationTime" readExpiration) = (some expiration, []) := by
  obtain hnone | hnull | ⟨n, hint⟩ := h.time
  · exact ⟨none, by rw [hnone]; rfl⟩
  · have hread : readExpiration .null = .ok none := rfl
    exact ⟨none, by rw [required_eq hnull hread, hnull]; rfl⟩
  · have hread : readExpiration (.int n) = .ok (some n) := rfl
    exact ⟨some n, by rw [required_eq hint hread, hint]; rfl⟩

theorem IsHandedOut.expirationName_eq (h : IsHandedOut ms endpoint P auth) :
    expirationName ms = "expirationTime" := by
  have hnone : ms.find? "expiration_time" = none := find?_eq_none h.only (by decide)
  rw [expirationName, hnone]
  simp

/-- **What a browser hands out is accepted**, and describes its endpoint, key and secret. -/
theorem exists_ofJson_eq_ok (h : IsHandedOut ms endpoint P auth)
    (hendpoint : IsSecureAddress endpoint) :
    ∃ info, BrowserInfo.ofJson (.object ms) = .ok info ∧
      info.toSubscription = .ok ⟨endpoint, .p256 P, auth⟩ := by
  obtain ⟨keys, hkeys, hkeysOf⟩ := h.keys
  obtain ⟨publicText, authText, hread, hpublicText, hauthText⟩ := hkeysOf.exists_readKeys
  obtain ⟨expiration, hexpiration⟩ := h.exists_time
  refine ⟨⟨endpoint, expiration, publicText, authText⟩, ?_, ?_⟩
  · simp only [BrowserInfo.ofJson, BrowserInfo.ofMembers, h.expirationName_eq, hexpiration,
      required_eq h.endpoint (readEndpoint_eq_ok hendpoint), hkeys, hread,
      unknownMembers_eq_nil h.only, List.append_nil]
  · obtain ⟨_, -, hpublicText⟩ := hpublicText
    obtain ⟨_, -, hauthText⟩ := hauthText
    simp only [BrowserInfo.toSubscription, ofKeys, Encoded.toBytes, PublicKey.load,
      Base64Url.decode?_padded hpublicText, Base64Url.decode?_padded hauthText, bind, Except.bind,
      PublicKey.ofBytes_toBytes, Octets16.ofSecret_bytes, pure, Except.pure]

/-- **An address that is too long is not accepted**, and nothing else is found fault with. -/
theorem ofJson_eq_tooLong (h : IsHandedOut ms endpoint P auth) (hlong : 2048 < endpoint.length) :
    BrowserInfo.ofJson (.object ms) = .error [⟨["endpoint"], .tooLong 2048⟩] := by
  obtain ⟨keys, hkeys, hkeysOf⟩ := h.keys
  obtain ⟨publicText, authText, hread, -, -⟩ := hkeysOf.exists_readKeys
  obtain ⟨expiration, hexpiration⟩ := h.exists_time
  have hrefused : readEndpoint (.string endpoint) = .error (.tooLong 2048) := by
    have hpositive : ¬ endpoint.length < 1 := by omega
    simp only [readEndpoint, readText, if_neg hpositive, if_pos hlong, bind, Except.bind]
  have hrequired : required ms [] "endpoint" readEndpoint =
      (none, [⟨["endpoint"], .tooLong 2048⟩]) := by
    simp only [required, h.endpoint, hrefused, List.nil_append]
  simp only [BrowserInfo.ofJson, BrowserInfo.ofMembers, h.expirationName_eq, hexpiration, hrequired,
    hkeys, hread, unknownMembers_eq_nil h.only, List.append_nil]

/-! ## A plain object -/

/-- The text of octets is one of theirs. -/
theorem isKeyTextOf_encode (bs : Bytes) : IsKeyTextOf (Base64Url.encode bs) bs :=
  ⟨0, Nat.zero_le 2, by rw [Base64Url.encode, String.toList_ofList]; simp⟩

/-- A browser's key: the generator. -/
def plainKeyText : String := Base64Url.encode P256.generator.toBytes

/-- A browser's secret: sixteen zeros. -/
def plainSecretText : String := Base64Url.encode Octets16.zeros.bytes

/-- The members that a browser with this key and this secret hands out for an endpoint. -/
def plainMembers (endpoint : String) : Json.Members :=
  [("endpoint", .string endpoint),
    ("keys", .object [("p256dh", .string plainKeyText), ("auth", .string plainSecretText)])]

theorem isHandedOut_plainMembers (endpoint : String) :
    IsHandedOut (plainMembers endpoint) endpoint P256.generator .zeros :=
  ⟨rfl, .inl rfl, ⟨_, rfl, ⟨_, rfl, isKeyTextOf_encode _⟩, ⟨_, rfl, isKeyTextOf_encode _⟩,
    by simp⟩, by simp [plainMembers]⟩

end WebPush.Subscription
