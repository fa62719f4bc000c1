import WebPush.Proofs.Vapid.Soundness
/-!
# VAPID — what is held against claims that are signed

What becomes of the token of a key's holder is a question about its
claims alone. The audience and the expiry are never held against them.
Four other claims are: the two times that may not be in the future, and
the two names that have to be texts.
-/

namespace WebPush

namespace Vapid

/-! ## What is held against claims -/

variable {claims : Json.Members} {now : Seconds} {f : TokenFault}

/-- What is held against a claim of a time: that it names no second, or one in the future. -/
inductive IsUntimely (claims : Json.Members) (name : String) (now : Seconds)
    (malformed future : TokenFault) : TokenFault → Prop
  /-- The claim is no number, no truth value and no text of an integer. -/
  | malformed {value : Json} : claims.find? name = some value → claimSeconds? value = none →
      IsUntimely claims name now malformed future malformed
  /-- The clock has not reached the second. -/
  | future {value : Json} {second : Int} : claims.find? name = some value →
      claimSeconds? value = some second → now.isBefore second = true →
      IsUntimely claims name now malformed future future

/-- What is held against a claim of a name: that it is there and no text. -/
def IsNoText (claims : Json.Members) (name : String) : Prop :=
  ∃ value, claims.find? name = some value ∧ ∀ s, value ≠ .string s

/-- **All that is held against claims** that are signed. -/
inductive Objection (claims : Json.Members) (now : Seconds) : TokenFault → Prop
  | issuedAt {f : TokenFault} :
      IsUntimely claims "iat" now .issuedAt .issuedInFuture f → Objection claims now f
  | notBefore {f : TokenFault} :
      IsUntimely claims "nbf" now .notBefore .notYetValid f → Objection claims now f
  | subject : IsNoText claims "sub" → Objection claims now .subject
  | tokenId : IsNoText claims "jti" → Objection claims now .tokenId

theorem checkTime_eq_error_iff {name : String} {malformed future : TokenFault} :
    checkTime claims name now malformed future = .error f ↔
      IsUntimely claims name now malformed future f := by
  constructor
  · intro h
    rw [checkTime] at h
    split at h
    · cases h
    rename_i value hvalue
    split at h
    · rename_i hnone
      cases h
      exact .malformed hvalue hnone
    · rename_i second hsecond
      split at h
      · rename_i hfuture
        cases h
        exact .future hvalue hsecond hfuture
      · cases h
  · rintro (⟨hvalue, hnone⟩ | ⟨hvalue, hsecond, hfuture⟩)
    · simp only [checkTime, hvalue, hnone]
    · simp only [checkTime, hvalue, hsecond, hfuture, if_true]

theorem checkText_eq_error_iff {name : String} {fault : TokenFault} :
    checkText claims name fault = .error f ↔ IsNoText claims name ∧ f = fault := by
  constructor
  · intro h
    rw [checkText] at h
    split at h
    · cases h
    · cases h
    · rename_i value hno hvalue
      cases h
      exact ⟨⟨value, hvalue, fun s hs => hno s (hs ▸ rfl)⟩, rfl⟩
  · rintro ⟨⟨value, hvalue, hno⟩, rfl⟩
    rw [checkText, hvalue]
    cases value with
    | string s => exact absurd rfl (hno s)
    | _ => rfl

/-- **An error about claims** is something held against them. -/
theorem objection_of_checkClaims (h : checkClaims claims now = .error f) :
    Objection claims now f := by
  obtain h | ⟨-, -, h⟩ := of_bind_eq_error h
  · exact .issuedAt (checkTime_eq_error_iff.1 h)
  obtain h | ⟨-, -, h⟩ := of_bind_eq_error h
  · exact .notBefore (checkTime_eq_error_iff.1 h)
  obtain h | ⟨-, -, h⟩ := of_bind_eq_error h
  · obtain ⟨hsubject, rfl⟩ := checkText_eq_error_iff.1 h
    exact .subject hsubject
  · obtain ⟨htokenId, rfl⟩ := checkText_eq_error_iff.1 h
    exact .tokenId htokenId

/-- Claims that pass have nothing held against them. -/
theorem not_objection_of_checkClaims (h : checkClaims claims now = .ok ()) (f : TokenFault) :
    ¬ Objection claims now f := by
  obtain ⟨_, hissuedAt, h⟩ := exists_of_bind_eq_ok h
  obtain ⟨_, hnotBefore, h⟩ := exists_of_bind_eq_ok h
  obtain ⟨_, hsubject, htokenId⟩ := exists_of_bind_eq_ok h
  intro hobjection
  cases hobjection with
  | issuedAt huntimely =>
    rw [checkTime_eq_error_iff.2 huntimely] at hissuedAt
    cases hissuedAt
  | notBefore huntimely =>
    rw [checkTime_eq_error_iff.2 huntimely] at hnotBefore
    cases hnotBefore
  | subject hno =>
    rw [checkText_eq_error_iff.2 ⟨hno, rfl⟩] at hsubject
    cases hsubject
  | tokenId hno =>
    rw [checkText_eq_error_iff.2 ⟨hno, rfl⟩] at htokenId
    cases htokenId

/-- **Nothing is held against claims** that have none of the four names. -/
theorem not_objection_of_absent (h : ∀ name ∈ ["iat", "nbf", "sub", "jti"], claims.find? name = none)
    (now : Seconds) (f : TokenFault) : ¬ Objection claims now f := by
  simp only [List.forall_mem_cons] at h
  obtain ⟨hissuedAt, hnotBefore, hsubject, htokenId, -⟩ := h
  refine not_objection_of_checkClaims ?_ f
  simp only [checkClaims, checkTime, checkText, hissuedAt, hnotBefore, hsubject, htokenId]
  rfl

/-- **The judgement** of a payload that is an object: its members if nothing is held against
them, and otherwise something that is. -/
theorem judge_cases {depth : Json.Depth} {payload : Bytes}
    (hread : Json.readBytes depth payload = .ok (.object claims)) (now : Seconds) :
    (∀ f, ¬ Objection claims now f) ∧ judge depth payload now = .ok claims ∨
      ∃ f, Objection claims now f ∧ judge depth payload now = .error f := by
  have hjudge := judge_eq hread now
  cases hcheck : checkClaims claims now with
  | ok => exact .inl ⟨not_objection_of_checkClaims hcheck, by rw [hjudge, hcheck]; rfl⟩
  | error f => exact .inr ⟨f, objection_of_checkClaims hcheck, by rw [hjudge, hcheck]; rfl⟩

/-- **Claims that are signed are returned, unless one of them is objected to.** In a token of
the holder of a key, with a header that names the algorithm and demands nothing else, the
claims may have any members. They are what verification returns, at any time and whatever
they say of audience and expiry, if nothing is held against the other four claims, and else
the error names something that is. A payload that cannot be read gives the error of reading. -/
theorem verify_signed_claims {depth : Json.Depth} {header payload : Bytes} {members : Json.Members}
    {key : KeySource PublicKey} {P : P256.Point} {σ : Ecdsa.Signature}
    (hheader : Json.readBytes depth header = .ok (.object members)) (hplain : IsPlain members)
    (hkey : PublicKey.load key = .ok P)
    (hvalid : Ecdsa.IsValid P (Utf8.encodeChars (signedText header payload)) σ) (now : Seconds) :
    (∀ claims, Json.readBytes depth payload = .ok (.object claims) →
      (∀ f, ¬ Objection claims now f) ∧
        verify depth (compact header payload σ) key now = .ok claims ∨
      ∃ f, Objection claims now f ∧
        verify depth (compact header payload σ) key now = .error (.token f)) ∧
    ∀ f, Json.readBytes depth payload = .error f →
      verify depth (compact header payload σ) key now = .error (.token (.payloadJson f)) := by
  have hverify := verify_compact hheader hplain hkey hvalid now
  refine ⟨fun claims hread => ?_, fun f hread => ?_⟩
  · obtain ⟨hnone, hjudge⟩ | ⟨f, hobjection, hjudge⟩ := judge_cases hread now
    · exact .inl ⟨hnone, by rw [hverify, hjudge]; rfl⟩
    · exact .inr ⟨f, hobjection, by rw [hverify, hjudge]; rfl⟩
  · rw [hverify, judge_eq_error hread]
    rfl

/-! ## Claims of a number -/

/-- A payload with one claim, a number. -/
def numberPayload (name : String) (n : Int) : Bytes :=
  Utf8.encodeChars (Json.printObject .compact [(name, Json.printInt n)])

theorem readBytes_numberPayload (depth : Json.Depth) (name : String) {n : Int}
    (h : (Nat.toDigits 10 n.natAbs).length ≤ Number.maxDigits) :
    Json.readBytes depth (numberPayload name n) = .ok (.object [(name, .int n)]) := by
  have htexts : Json.AreTextsOf [(name, Json.printInt n)] [(name, .int n)] :=
    .cons _ (Json.isTextOf_printInt h) .nil
  rw [numberPayload, htexts.readBytes_printObject depth (by simp [Json.isAscii_printInt]),
    Json.Members.ofList_of_nodup (by simp)]

/-- What the least private scalar signs for a payload. -/
def plainMessage (payload : Bytes) : Bytes :=
  Utf8.encodeChars (signedText (Utf8.encodeChars headerText) payload)

/-- The token of a payload that the least private scalar signs. -/
def plainToken (payload : Bytes) : String :=
  compact (Utf8.encodeChars headerText) payload (Ecdsa.sign .one (plainMessage payload))

/-- The public key of the least private scalar. -/
def plainKey : KeySource PublicKey := .key (.p256 P256.Scalar.one.publicPoint)

theorem load_plainKey : PublicKey.load plainKey = .ok P256.Scalar.one.publicPoint := rfl

theorem verify_signed_claims_expired :
    Json.readBytes .least (numberPayload "exp" 0) = .ok (.object [("exp", .int 0)]) ∧
      verify .least (plainToken (numberPayload "exp" 0)) plainKey (.whole 43200) =
        .ok [("exp", .int 0)] := by
  have hread := readBytes_numberPayload .least "exp" (n := 0) (by decide)
  have hvalid := Ecdsa.verify_eq_true_iff.1
    (Ecdsa.verify_sign .one (plainMessage (numberPayload "exp" 0)) (by decide +kernel))
  refine ⟨hread, ?_⟩
  obtain ⟨-, hverify⟩ | ⟨f, hobjection, -⟩ := (verify_signed_claims (readBytes_headerText _)
    isPlain_headerMembers load_plainKey hvalid (.whole 43200)).1 _ hread
  · exact hverify
  · exact absurd hobjection (not_objection_of_absent (by decide) _ f)

/-- A subject that is a number is refused, with the signature of the key's holder on it. -/
theorem exists_signed_claims_refused :
    Json.readBytes .least (numberPayload "sub" 5) = .ok (.object [("sub", .int 5)]) ∧
      Ecdsa.IsValid P256.Scalar.one.publicPoint (plainMessage (numberPayload "sub" 5))
        (Ecdsa.sign .one (plainMessage (numberPayload "sub" 5))) ∧
      verify .least (plainToken (numberPayload "sub" 5)) plainKey (.whole 43200) =
        .error (.token .subject) := by
  have hread := readBytes_numberPayload .least "sub" (n := 5) (by decide)
  have hvalid := Ecdsa.verify_eq_true_iff.1
    (Ecdsa.verify_sign .one (plainMessage (numberPayload "sub" 5)) (by decide +kernel))
  have hverify := verify_compact (readBytes_headerText .least) isPlain_headerMembers load_plainKey
    hvalid (.whole 43200)
  refine ⟨hread, hvalid, hverify.trans ?_⟩
  rw [judge_eq hread]
  rfl

end Vapid

end WebPush
