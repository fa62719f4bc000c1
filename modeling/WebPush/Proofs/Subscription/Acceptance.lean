import WebPush.Proofs.Except
import WebPush.Proofs.Subscription.Browser
import WebPush.Proofs.Url.Origin
/-!
# Subscription — what is accepted, and what comes of it

Two readers stand one behind the other: the first takes an object of a
browser or refuses it, the second reads the texts of its keys. What a
browser hands out passes both. Of whatever else passes the first, the
address is a secure one with a host, and the second can fail in the ways
of key texts only.
-/

namespace WebPush

namespace Subscription

/-- What may be wrong with the texts of a key and a secret. All but the last fault are of their
form; a point off the curve is a key in the right form that nobody can encrypt for. -/
inductive IsKeyFault (publicKey auth : String) : KeyError → Prop
  | undecodable : Base64Url.decode? publicKey = none ∨ Base64Url.decode? auth = none →
      IsKeyFault publicKey auth .notBase64Url
  | publicLength {bs : Bytes} : Base64Url.decode? publicKey = some bs → bs.length ≠ 65 →
      IsKeyFault publicKey auth (.publicLength bs.length)
  | notUncompressed {bs : Bytes} : Base64Url.decode? publicKey = some bs →
      bs.head? ≠ some 0x04 → IsKeyFault publicKey auth .notUncompressed
  | secretLength {bs : Bytes} : Base64Url.decode? auth = some bs → bs.length ≠ 16 →
      IsKeyFault publicKey auth (.secretLength bs.length)
  | notOnCurve {bs : Bytes} : Base64Url.decode? publicKey = some bs →
      ¬ (P256.Pair.ofBytes bs).OnCurve → IsKeyFault publicKey auth .notOnCurve

/-! ## Secure addresses -/

/-- **An address in full with the secure scheme is one that an object may have**, unless it is
too long or begins or ends with a blank. -/
theorem isSecureAddress_text {e : Url.Spelling} (hscheme : e.lowerScheme = "https".toList)
    (hshort : e.text.length ≤ 2048) (htrimmed : Text.trim e.text.toList = e.text.toList) :
    IsSecureAddress e.text where
  short := hshort
  trimmed := htrimmed
  parts := by
    obtain ⟨host, hne, hparts, hhost, -⟩ := e.exists_ofText_eq
    refine ⟨_, hparts, hscheme, ?_⟩
    rw [hhost, ← Bool.not_eq_true, List.isEmpty_iff]
    exact hne

/-- A string that was read lies between the bounds. -/
theorem of_readText {least most : Nat} {value : Json} {s : String}
    (h : readText least most value = .ok s) :
    value = .string s ∧ least ≤ s.length ∧ s.length ≤ most := by
  cases value with
  | string given =>
    rw [readText] at h
    split at h
    · cases h
    rename_i hleast
    split at h
    · cases h
    rename_i hmost
    cases h
    exact ⟨rfl, Nat.not_lt.1 hleast, Nat.not_lt.1 hmost⟩
  | _ => cases h

/-- **An address that was read** is a given one without the blanks around it, and one that an
object may have. -/
theorem isSecureAddress_of_readEndpoint {value : Json} {endpoint : String}
    (h : readEndpoint value = .ok endpoint) :
    ∃ s, readText 1 2048 value = .ok s ∧ endpoint = Text.trimmed s ∧ IsSecureAddress endpoint := by
  obtain ⟨s, hs, h⟩ := exists_of_bind_eq_ok h
  obtain ⟨parts, hparts, h⟩ := exists_of_bind_eq_ok h
  cases hread : Url.Parts.ofText (Text.trim s.toList) with
  | error f =>
    rw [hread] at hparts
    cases hparts
  | ok parts' =>
    rw [hread] at hparts
    cases hparts
    split at h
    · cases h
    rename_i hscheme
    split at h
    · cases h
    rename_i hhost
    cases h
    refine ⟨s, hs, rfl, ?_, ?_, parts, ?_, not_not.1 hscheme, by rwa [Bool.not_eq_true] at hhost⟩
    · have hshort := (of_readText hs).2.2
      rw [← String.length_toList] at hshort
      rw [← String.length_toList, String.toList_ofList]
      exact (Text.length_trim_le _).trans hshort
    · rw [String.toList_ofList, Text.trim_trim]
    · rwa [String.toList_ofList]

/-- An address that was read is secure and has a host. -/
theorem of_readEndpoint {value : Json} {endpoint : String}
    (h : readEndpoint value = .ok endpoint) :
    ∃ parts, Url.Parts.ofText endpoint.toList = .ok parts ∧ parts.scheme = "https".toList ∧
      parts.host ≠ [] := by
  obtain ⟨_, -, -, -, -, parts, hparts, hscheme, hhost⟩ := isSecureAddress_of_readEndpoint h
  exact ⟨parts, hparts, hscheme, List.isEmpty_eq_false_iff.1 hhost⟩

/-! ## Accepted objects -/

/-- A required member with a value was there, and was read. -/
theorem of_required {α : Type} {ms : Json.Members} {path : List String} {name : String}
    {read : Json → Except FieldFault α} {x : α} (h : (required ms path name read).1 = some x) :
    ∃ value, ms.find? name = some value ∧ read value = .ok x := by
  rw [required] at h
  split at h
  · cases h
  rename_i value hfind
  split at h
  · rename_i hread
    cases h
    exact ⟨value, hfind, hread⟩
  · cases h

/-- The members of an object whose checked form this is, so far as they must be there. -/
structure IsReadAs (ms : Json.Members) (info : BrowserInfo) : Prop where
  endpoint : ∃ member, ms.find? "endpoint" = some member ∧ readEndpoint member = .ok info.endpoint
  keys : ∃ keys publicKey auth, ms.find? "keys" = some (.object keys) ∧
    Json.Members.find? keys "p256dh" = some publicKey ∧
    readKeyText 80 100 publicKey = .ok info.publicKey ∧
    Json.Members.find? keys "auth" = some auth ∧ readKeyText 16 32 auth = .ok info.auth

/-- Two keys that were read are members of an object. -/
theorem of_readKeys {value : Json} {publicKey auth : String}
    (h : (readKeys value).1 = some (publicKey, auth)) :
    ∃ keys publicMember authMember, value = .object keys ∧
      Json.Members.find? keys "p256dh" = some publicMember ∧
      readKeyText 80 100 publicMember = .ok publicKey ∧
      Json.Members.find? keys "auth" = some authMember ∧
      readKeyText 16 32 authMember = .ok auth := by
  cases value with
  | object keys =>
    obtain ⟨p, hp, h⟩ := Option.bind_eq_some_iff.1 h
    obtain ⟨a, ha, h⟩ := Option.map_eq_some_iff.1 h
    cases h
    obtain ⟨publicMember, hpublic, hpublicRead⟩ := of_required hp
    obtain ⟨authMember, hauth, hauthRead⟩ := of_required ha
    exact ⟨keys, publicMember, authMember, rfl, hpublic, hpublicRead, hauth, hauthRead⟩
  | _ => cases h

/-- **What is accepted is an object**, and its members were read one by one. -/
theorem isReadAs_of_ofJson {value : Json} {info : BrowserInfo}
    (h : BrowserInfo.ofJson value = .ok info) : ∃ ms, value = .object ms ∧ IsReadAs ms info := by
  rw [BrowserInfo.ofJson.eq_def] at h
  split at h
  case h_2 => cases h
  rename_i ms
  rw [BrowserInfo.ofMembers] at h
  dsimp only at h
  split at h
  case h_2 => cases h
  rename_i hendpoint _ hkeys _
  cases h
  refine ⟨ms, rfl, of_required hendpoint, ?_⟩
  split at hkeys
  · cases hkeys
  · rename_i hfind
    obtain ⟨keys, publicMember, authMember, rfl, hread⟩ := of_readKeys hkeys
    exact ⟨keys, publicMember, authMember, hfind, hread⟩

/-- The address of an accepted object is the one that was read. -/
theorem exists_readEndpoint_of_ofJson {value : Json} {info : BrowserInfo}
    (h : BrowserInfo.ofJson value = .ok info) :
    ∃ ms member, value = .object ms ∧ Json.Members.find? ms "endpoint" = some member ∧
      readEndpoint member = .ok info.endpoint := by
  obtain ⟨ms, rfl, hread⟩ := isReadAs_of_ofJson h
  obtain ⟨member, hfind, hendpoint⟩ := hread.endpoint
  exact ⟨ms, member, rfl, hfind, hendpoint⟩

/-! ## Texts of keys -/

/-- **The texts of a key and a secret are what a subscription is made of, or there is a fault
with them.** -/
theorem toSubscription_cases (info : BrowserInfo) :
    (∃ (P : P256.Point) (auth : Octets16),
      info.toSubscription = .ok ⟨info.endpoint, .p256 P, auth⟩ ∧
        Base64Url.decode? info.publicKey = some P.toBytes ∧
        Base64Url.decode? info.auth = some auth.bytes) ∨
      ∃ e, info.toSubscription = .error e ∧ IsKeyFault info.publicKey info.auth e := by
  rw [BrowserInfo.toSubscription, ofKeys, PublicKey.load, Encoded.toBytes, Encoded.toBytes]
  -- The secret is decoded first, then the key is read, and then the secret is measured.
  cases hauth : Base64Url.decode? info.auth with
  | none => exact .inr ⟨_, rfl, .undecodable (.inr hauth)⟩
  | some secret =>
    cases hkey : Base64Url.decode? info.publicKey with
    | none => exact .inr ⟨_, rfl, .undecodable (.inl hkey)⟩
    | some bs =>
      simp only [bind, Except.bind]
      obtain ⟨P, hP, rfl⟩ | ⟨herror, hfault⟩ | ⟨herror, hfault⟩ | ⟨herror, hfault⟩ :=
        PublicKey.ofBytes_cases bs
      · rw [hP, Octets16.ofSecret, Octets16.ofBytes?]
        by_cases hlength : secret.length = 16
        · rw [dif_pos hlength]
          exact .inl ⟨P, ⟨secret, hlength⟩, rfl, rfl, rfl⟩
        · rw [dif_neg hlength]
          exact .inr ⟨_, rfl, .secretLength hauth hlength⟩
      · rw [herror]
        exact .inr ⟨_, rfl, .publicLength hkey hfault⟩
      · rw [herror]
        exact .inr ⟨_, rfl, .notUncompressed hkey hfault⟩
      · rw [herror]
        exact .inr ⟨_, rfl, .notOnCurve hkey hfault⟩

/-- **Both readers agree.** What a browser hands out, with any address in full that has the secure
scheme, is accepted and gives the subscription of that address, key and secret. Whatever is
accepted has a secure address with a host, and gives the subscription of its address and of what
its texts decode to, or else there is a fault with these texts. -/
theorem ofJson_spec :
    (∀ (e : Url.Spelling) (P : P256.Point) (auth : Octets16) (ms : Json.Members),
      e.lowerScheme = "https".toList → e.text.length ≤ 2048 →
      Text.trim e.text.toList = e.text.toList → IsHandedOut ms e.text P auth →
      ∃ info, BrowserInfo.ofJson (.object ms) = .ok info ∧
        info.toSubscription = .ok ⟨e.text, .p256 P, auth⟩) ∧
    ∀ (value : Json) (info : BrowserInfo), BrowserInfo.ofJson value = .ok info →
      (∃ parts, Url.Parts.ofText info.endpoint.toList = .ok parts ∧
        parts.scheme = "https".toList ∧ parts.host ≠ []) ∧
      ((∃ (P : P256.Point) (auth : Octets16),
        info.toSubscription = .ok ⟨info.endpoint, .p256 P, auth⟩ ∧
          Base64Url.decode? info.publicKey = some P.toBytes ∧
          Base64Url.decode? info.auth = some auth.bytes) ∨
        ∃ e, info.toSubscription = .error e ∧ IsKeyFault info.publicKey info.auth e) := by
  refine ⟨fun e P auth ms hscheme hshort htrimmed hms => ?_, fun value info h => ⟨?_, ?_⟩⟩
  · exact exists_ofJson_eq_ok hms (isSecureAddress_text hscheme hshort htrimmed)
  · obtain ⟨_, _, -, -, hread⟩ := exists_readEndpoint_of_ofJson h
    exact of_readEndpoint hread
  · exact toSubscription_cases info

/-- A secure address with capital letters in its scheme, a port and a path. -/
def customEndpoint : Url.Spelling where
  scheme := "hTTps".toList
  user := none
  host := "push.example-1".toList
  port := some "8443".toList
  tail := '/' :: "send/~x?y z".toList
  isScheme_scheme := by decide +kernel
  inUserInfo_user := Url.Spelling.inUserInfo_none
  isHost_host := .name (List.isEmpty_eq_false_iff.1 (by decide +kernel))
    (List.all_eq_true.1 (by decide +kernel))
  isPort_port := by
    rintro _ ⟨⟩
    exact ⟨List.all_eq_true.1 (by decide +kernel), by decide +kernel, by decide +kernel⟩
  followsAuthority_tail := Url.followsAuthority_cons rfl _

/-- An object for the generator, with padding behind one of its texts. -/
def customMembers : Json.Members :=
  [("endpoint", .string "hTTps://push.example-1:8443/send/~x?y z"), ("expirationTime", .int (-1)),
    ("keys", .object [("p256dh", .string (Base64Url.encode P256.generator.toBytes ++ "==")),
      ("auth", .string (Base64Url.encode Octets16.zeros.bytes))])]

/-- The object is accepted, and has an address with a host. -/
theorem ofJson_spec_custom : ∃ info, BrowserInfo.ofJson (.object customMembers) = .ok info ∧
    info.toSubscription =
      .ok ⟨"hTTps://push.example-1:8443/send/~x?y z", .p256 P256.generator, .zeros⟩ ∧
    ∃ parts, Url.Parts.ofText info.endpoint.toList = .ok parts ∧ parts.host ≠ [] := by
  have htext : customEndpoint.text = "hTTps://push.example-1:8443/send/~x?y z" := by decide +kernel
  have hpublic : IsKeyTextOf (Base64Url.encode P256.generator.toBytes ++ "==")
      P256.generator.toBytes :=
    ⟨2, by decide, by rw [String.toList_append, Base64Url.encode, String.toList_ofList]; rfl⟩
  have hsecret : IsKeyTextOf (Base64Url.encode Octets16.zeros.bytes) Octets16.zeros.bytes :=
    ⟨0, by decide, by rw [Base64Url.encode, String.toList_ofList]; rfl⟩
  have hhanded : IsHandedOut customMembers customEndpoint.text P256.generator .zeros :=
    ⟨by rw [htext]; rfl, .inr (.inr ⟨-1, rfl⟩),
      ⟨_, rfl, ⟨_, rfl, hpublic⟩, ⟨_, rfl, hsecret⟩, by decide +kernel⟩, by decide +kernel⟩
  obtain ⟨info, hinfo, hsubscription⟩ := ofJson_spec.1 customEndpoint P256.generator .zeros
    customMembers (by decide +kernel) (by decide +kernel) (by decide +kernel) hhanded
  obtain ⟨⟨parts, hparts, -, hhost⟩, -⟩ := ofJson_spec.2 _ info hinfo
  exact ⟨info, hinfo, htext ▸ hsubscription, parts, hparts, hhost⟩

end Subscription

end WebPush
