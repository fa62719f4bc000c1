import WebPush.Proofs.Service.Requests
/-!
# Service — what header values say

What a request says in its headers is made of words, digits and base64url
and of nothing that a subscription or a contact brings along. `IsHeader`
is the grammar of these values, header by header, and from it follows
that each of them is printable ASCII. An API key is the exception: it is
passed on as it is.
-/

namespace WebPush

namespace Text

/-- Printable ASCII characters only. -/
def IsPrintable (cs : List Char) : Prop := ∀ c ∈ cs, 0x20 ≤ c.toNat ∧ c.toNat ≤ 0x7E

instance (cs : List Char) : Decidable (IsPrintable cs) := List.decidableBAll _ cs

theorem isPrintable_append {xs ys : List Char} :
    IsPrintable (xs ++ ys) ↔ IsPrintable xs ∧ IsPrintable ys :=
  List.forall_mem_append

theorem isPrintable_cons {c : Char} {cs : List Char} :
    IsPrintable (c :: cs) ↔ (0x20 ≤ c.toNat ∧ c.toNat ≤ 0x7E) ∧ IsPrintable cs :=
  List.forall_mem_cons

theorem IsPrintable.isAscii {cs : List Char} (h : IsPrintable cs) : IsAscii cs := by
  intro c hc
  have := h c hc
  omega

/-- Letters and digits are printable. -/
theorem isPrintable_of_isAlphanum {c : Char} (h : c.isAlphanum = true) :
    0x20 ≤ c.toNat ∧ c.toNat ≤ 0x7E := by
  have hranges : (('A' ≤ c ∧ c ≤ 'Z') ∨ 'a' ≤ c ∧ c ≤ 'z') ∨ '0' ≤ c ∧ c ≤ '9' := by
    change (decide ('A' ≤ c ∧ c ≤ 'Z') || (decide ('a' ≤ c) && decide (c ≤ 'z')) ||
      (decide ('0' ≤ c) && decide (c ≤ '9'))) = true at h
    simpa using h
  have hbetween {a b : Char} (hac : a ≤ c) (hcb : c ≤ b) : a.toNat ≤ c.toNat ∧ c.toNat ≤ b.toNat :=
    ⟨toNat_le_toNat hac, toNat_le_toNat hcb⟩
  have hends : 'a'.toNat = 97 ∧ 'z'.toNat = 122 ∧ 'A'.toNat = 65 ∧ 'Z'.toNat = 90 ∧
      '0'.toNat = 48 ∧ '9'.toNat = 57 := by decide
  obtain (⟨hac, hcb⟩ | ⟨hac, hcb⟩) | ⟨hac, hcb⟩ := hranges
  all_goals
    have := hbetween hac hcb
    omega

/-- A text of letters, digits, dashes and underscores is printable. -/
theorem IsUrlSafe.isPrintable {cs : List Char} (h : IsUrlSafe cs) : IsPrintable cs := by
  intro c hc
  rcases h.2 c hc with halphanum | rfl | rfl
  · exact isPrintable_of_isAlphanum halphanum
  · decide
  · decide

/-- A text of digits is printable. -/
theorem isPrintable_of_forall_isDigit {cs : List Char} (h : ∀ c ∈ cs, c.isDigit = true) :
    IsPrintable cs := fun c hc =>
  isPrintable_of_isAlphanum (by rw [Char.isAlphanum, h c hc, Bool.or_true])

/-- A natural number is written in digits. -/
theorem isDigit_of_mem_toString (n : Nat) : ∀ c ∈ (toString n).toList, c.isDigit = true := by
  intro c hc
  rw [Nat.toString_eq_repr, Nat.toList_repr] at hc
  exact Nat.isDigit_of_mem_toDigits (by decide) (by decide) hc

end Text

namespace Service

/-! ## The grammar of headers -/

/-- **What the headers of a request may say**, next to an API key. -/
inductive IsHeader : String × String → Prop
  | ttl {digits : String} : digits ≠ "" → (∀ c ∈ digits.toList, c.isDigit = true) →
      IsHeader ("TTL", digits)
  | contentType : IsHeader ("Content-Type", "application/octet-stream")
  | contentEncoding : IsHeader ("Content-Encoding", "aes128gcm")
  | urgency {word : String} : word ∈ ["very-low", "low", "normal", "high"] →
      IsHeader ("Urgency", word)
  | topic {name : String} : Text.IsUrlSafe name.toList → name.length ≤ 32 →
      IsHeader ("Topic", name)
  | authorization {value : String} {header payload signature key : List Char} :
      value.toList = "vapid t=".toList ++ (header ++ '.' :: payload ++ '.' :: signature) ++
        ",k=".toList ++ key →
      (∀ part ∈ [header, payload, signature, key], Text.IsUrlSafe part) →
      IsHeader ("Authorization", value)
  | cryptoKey {key : String} : Text.IsUrlSafe key.toList →
      IsHeader ("Crypto-Key", "p256ecdsa=" ++ key)

variable {header : String × String}

/-- Every header says something. -/
theorem IsHeader.ne_empty (h : IsHeader header) : header.2 ≠ "" := by
  cases h with
  | ttl hne _ => exact hne
  | contentType => decide
  | contentEncoding => decide
  | urgency hword =>
    rintro rfl
    exact absurd hword (by decide)
  | topic hsafe _ =>
    rintro rfl
    exact hsafe.1 rfl
  | authorization hvalue _ =>
    rintro rfl
    cases hvalue
  | cryptoKey _ =>
    intro hempty
    exact absurd (String.append_eq_empty_iff.1 hempty).1 (by decide)

/-- **Every header is printable.** -/
theorem IsHeader.isPrintable (h : IsHeader header) : Text.IsPrintable header.2.toList := by
  cases h with
  | ttl _ hdigits => exact Text.isPrintable_of_forall_isDigit hdigits
  | contentType => decide +kernel
  | contentEncoding => decide +kernel
  | urgency hword =>
    simp only [List.mem_cons, List.not_mem_nil, or_false] at hword
    obtain rfl | rfl | rfl | rfl := hword <;> decide +kernel
  | topic hsafe _ => exact hsafe.isPrintable
  | authorization hvalue hparts =>
    simp only [List.forall_mem_cons] at hparts
    obtain ⟨hheader, hpayload, hsignature, hkey, -⟩ := hparts
    rw [hvalue]
    simp only [Text.isPrintable_append, Text.isPrintable_cons]
    exact ⟨⟨⟨by decide +kernel, ⟨hheader.isPrintable, by decide, hpayload.isPrintable⟩, by decide,
      hsignature.isPrintable⟩, by decide +kernel⟩, hkey.isPrintable⟩
  | cryptoKey hkey =>
    rw [String.toList_append, Text.isPrintable_append]
    exact ⟨by decide +kernel, hkey.isPrintable⟩

/-- The only comma of an authorization stands in front of the key, and the only blank in front of
the token. -/
theorem IsHeader.count_authorization (h : IsHeader header) (hname : header.1 = "Authorization") :
    header.2.toList.count ',' = 1 ∧ header.2.toList.count ' ' = 1 := by
  cases h with
  | authorization hvalue hparts =>
    have hcomma := fun part hpart => List.count_eq_zero.2
      ((hparts part hpart).notMem (c := ',') (by decide))
    have hblank := fun part hpart => List.count_eq_zero.2
      ((hparts part hpart).notMem (c := ' ') (by decide))
    simp only [List.forall_mem_cons] at hcomma hblank
    rw [hvalue]
    simp only [List.count_append, List.count_cons, hcomma, hblank]
    decide
  | _ =>
    dsimp only at hname
    exact absurd hname (by decide)

/-! ## The headers of a request -/

variable {s : Service} {n : Notification} {now : Seconds} {trace after : Trace}

/-- What describes a notification has its form. -/
theorem isHeader_noticeHeaders (n : Notification) : ∀ header ∈ noticeHeaders n, IsHeader header := by
  intro header hheader
  simp only [noticeHeaders, List.mem_append, List.mem_singleton, Option.mem_toList,
    Option.map_eq_some_iff] at hheader
  obtain ((rfl | hcontent) | ⟨u, -, rfl⟩) | ⟨t, -, rfl⟩ := hheader
  · refine .ttl ?_ (Text.isDigit_of_mem_toString n.ttl)
    rw [Nat.toString_eq_repr]
    exact Nat.repr_ne_empty
  · rw [contentHeaders] at hcontent
    split at hcontent
    · simp only [List.mem_cons, List.not_mem_nil, or_false] at hcontent
      obtain rfl | rfl := hcontent
      · exact .contentType
      · exact .contentEncoding
    · cases hcontent
  · refine .urgency ?_
    cases u <;> decide
  · have htopic := t.isTopic_text
    simp only [isTopic, Bool.and_eq_true, decide_eq_true_eq, List.all_eq_true] at htopic
    obtain ⟨⟨hlong, hshort⟩, halphabet⟩ := htopic
    exact .topic ⟨List.length_pos_iff.1 hlong, fun c hc =>
      Vapid.isAlphanum_of_inAlphabet (halphabet c hc)⟩ (String.length_toList ▸ hshort)

/-- A token in compact form and a key in the same characters make headers. -/
theorem isHeader_of_isCompact {token : Vapid.Token} (htoken : Vapid.IsCompact token.text)
    (hkey : Text.IsUrlSafe token.publicKey.toList) :
    IsHeader ("Authorization", token.authorization) ∧ IsHeader ("Crypto-Key", token.cryptoKey) := by
  obtain ⟨header, payload, signature, htext, hparts, -⟩ := htoken
  have hvalue : token.authorization.toList = "vapid t=".toList ++
      (header ++ '.' :: payload ++ '.' :: signature) ++ ",k=".toList ++ token.publicKey.toList := by
    rw [Vapid.Token.authorization, String.toList_append, String.toList_append,
      String.toList_append, htext]
  refine ⟨.authorization hvalue ?_, .cryptoKey hkey⟩
  simp only [List.forall_mem_cons] at hparts ⊢
  obtain ⟨hheader, hpayload, hsignature, -⟩ := hparts
  exact ⟨hheader, hpayload, hsignature, hkey, List.forall_mem_nil _⟩

/-- **What a token says in headers** has its form. -/
theorem isHeader_of_sign {signer : Vapid.Signer} {audience : String} {token : Vapid.Token}
    (h : signer.sign audience now trace = (.ok token, after)) :
    IsHeader ("Authorization", token.authorization) ∧ IsHeader ("Crypto-Key", token.cryptoKey) := by
  obtain ⟨seconds, -, rfl, -⟩ := Vapid.of_sign h
  exact isHeader_of_isCompact (Vapid.isCompact_tokenFor signer audience (seconds + Vapid.lifetime))
    signer.isUrlSafe_publicKeyText

/-- What says who is sending has its form, or it is the API key. -/
theorem isHeader_credentialHeaders {credentials : List (String × String)}
    (h : s.credentialHeaders n now trace = (.ok credentials, after)) :
    ∀ header ∈ credentials, IsHeader header ∨
      n.isGcm = true ∧ header = ("Authorization", "key=" ++ s.gcmApiKey.getD "") := by
  obtain ⟨hgcm, rfl, -⟩ | ⟨-, -, rfl, -⟩ | ⟨signer, audience, token, -, -, -, hsign, rfl⟩ :=
    of_credentialHeaders h
  · intro header hheader
    exact .inr ⟨hgcm, List.mem_singleton.1 hheader⟩
  · exact List.forall_mem_nil _
  · obtain ⟨hauthorization, hcryptoKey⟩ := isHeader_of_sign hsign
    exact List.forall_mem_cons.2
      ⟨.inl hauthorization, List.forall_mem_cons.2 ⟨.inl hcryptoKey, List.forall_mem_nil _⟩⟩

/-- **Every header of a request has its form** but for an API key. -/
theorem isHeader_of_prepare {r : Request} (h : s.prepare n now trace = (.ok r, after)) :
    ∀ header ∈ r.headers, IsHeader header ∨
      n.isGcm = true ∧ header = ("Authorization", "key=" ++ s.gcmApiKey.getD "") := by
  obtain ⟨-, -, _, _, credentials, _, _, -, hcredentials, -, rfl, -⟩ := of_prepare h
  intro header hheader
  rcases List.mem_append.1 hheader with hnotice | hcredential
  · exact .inl (isHeader_noticeHeaders n header hnotice)
  · exact isHeader_credentialHeaders hcredentials header hcredential

/-- **Nothing can be smuggled into headers.** Whatever an endpoint, a contact, a payload and the
texts of an urgency and a topic hold, every header of a request that is prepared has its form. So
its value is printable and not empty, and in an authorization there is one comma and one blank.
The API key in the authorization for an endpoint that takes one is the exception. -/
theorem prepare_headers {gcmApiKey subject : Option String} {keyPair : Option KeyPair}
    {service : Service} (hservice : Service.make gcmApiKey subject keyPair = .ok service)
    {subscription : Subscription} {payload : Option Content} {ttl : Int}
    {urgency topic : Option String} {n : Notification}
    (hnotification : Notification.make subscription payload ttl urgency topic = .ok n)
    {now : Seconds} {trace after : Trace} {r : Request}
    (hprepare : service.prepare n now trace = (.ok r, after)) :
    ∀ header ∈ r.headers,
      (IsHeader header ∧ header.2 ≠ "" ∧ Text.IsPrintable header.2.toList ∧
        (header.1 = "Authorization" →
          header.2.toList.count ',' = 1 ∧ header.2.toList.count ' ' = 1)) ∨
      (Text.startsWith subscription.endpoint "https://android.googleapis.com/gcm/send" = true ∧
        ∃ apiKey, gcmApiKey = some apiKey ∧ header = ("Authorization", "key=" ++ apiKey)) := by
  obtain ⟨rfl, -⟩ := of_make hservice
  obtain ⟨-, rfl, -⟩ := Notification.of_make hnotification
  intro header hheader
  obtain hform | ⟨hgcm, rfl⟩ := isHeader_of_prepare hprepare header hheader
  · exact .inl ⟨hform, hform.ne_empty, hform.isPrintable, hform.count_authorization⟩
  · obtain ⟨apiKey, hkey, -⟩ := header?_of_isGcm hprepare hgcm
    exact .inr ⟨hgcm, apiKey, hkey, by rw [hkey, Option.getD_some]⟩

/-- A message to an endpoint with a line break and a letter outside ASCII in its path. -/
def intrusiveNotification : Notification where
  subscription := ⟨"https://a/\r\né", .p256 P256.Scalar.one.publicPoint, .zeros⟩
  payload := some (Utf8.encode "Ü")
  ttl := 60
  urgency := some .veryLow
  topic := some ⟨"a-Z_9", by decide +kernel⟩

/-- A request for such an endpoint, signed with such a contact, has all headers in their form. -/
theorem prepare_headers_intrusive :
    ∃ service, Service.make none (some "mailto:é\r\nTTL: 0") (some (.ofScalar .one)) = .ok service ∧
      ∃ r after, service.prepare intrusiveNotification (.whole 0)
          (.start ⟨fun _ => .one, fun _ => .zeros, 0, 0⟩) = (.ok r, after) ∧
        r.headers.map Prod.fst = ["TTL", "Content-Type", "Content-Encoding", "Urgency", "Topic",
          "Authorization", "Crypto-Key"] ∧
        ∀ header ∈ r.headers, IsHeader header ∧ Text.IsPrintable header.2.toList := by
  have hservice := make_ofScalar none
    (show Vapid.isContact "mailto:é\r\nTTL: 0" = true by decide +kernel) .one
  have hnotification : Notification.make intrusiveNotification.subscription
      (some (.text "Ü")) 60 (some "very-low") (some "a-Z_9") = .ok intrusiveNotification := by
    rfl
  have hgcm : intrusiveNotification.isGcm = false := by decide +kernel
  have horigin : intrusiveNotification.origin = .ok "https://a" := by decide +kernel
  have hroom : ∀ content, intrusiveNotification.content? = some content →
      content.length + 1 ≤ Envelope.maxPlaintext := by
    intro content hcontent
    injection hcontent with hcontent
    subst hcontent
    decide
  have hnow : (Seconds.whole 0).toInt = .ok 0 := rfl
  obtain ⟨r, after, hprepare⟩ := exists_prepare_eq_ok (n := intrusiveNotification)
    (fun hkeyed => absurd (hgcm.symm.trans hkeyed) Bool.false_ne_true) (by decide +kernel) rfl
    hroom horigin hnow (by decide) (.start ⟨fun _ => .one, fun _ => .zeros, 0, 0⟩)
  refine ⟨_, hservice, r, after, hprepare, ?_, fun header hheader => ?_⟩
  · rw [map_fst_headers hprepare, hgcm]
    rfl
  · obtain ⟨hform, -, hprintable, -⟩ | ⟨hkeyed, -⟩ :=
      prepare_headers hservice hnotification hprepare header hheader
    · exact ⟨hform, hprintable⟩
    · exact absurd (hgcm.symm.trans hkeyed) Bool.false_ne_true

end Service

end WebPush
