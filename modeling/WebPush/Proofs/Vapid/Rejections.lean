import WebPush.Proofs.Json.Depth
import WebPush.Proofs.Vapid.Claims
/-!
# VAPID — what a token is rejected for

Verification takes a token apart and checks the parts one after the
other. `Flaw` says of each fault what is wrong with a token that has it,
whether or not an earlier check has a fault of its own to show. A token
without flaws gives its claims; every other token is rejected, and for a
flaw that it has. Nothing else comes of a token, whatever the texts in it
hold.
-/

namespace WebPush

namespace Vapid

variable {depth : Json.Depth} {header claims : Json.Members} {octets : Bytes} {f : TokenFault}

/-! ## Texts of objects -/

/-- What keeps octets from being the text of a JSON object: they cannot be read, for whichever
reason, or what is read is another value. -/
inductive IsNoObject (depth : Json.Depth) (octets : Bytes) (malformed : Json.Fault → TokenFault)
    (other : TokenFault) : TokenFault → Prop
  | malformed {f : Json.Fault} : Json.readBytes depth octets = .error f →
      IsNoObject depth octets malformed other (malformed f)
  | other {value : Json} : Json.readBytes depth octets = .ok value →
      (∀ members, value ≠ .object members) → IsNoObject depth octets malformed other other

theorem readObject_eq_error_iff {malformed : Json.Fault → TokenFault} {other : TokenFault} :
    readObject depth octets malformed other = .error f ↔
      IsNoObject depth octets malformed other f := by
  constructor
  · intro h
    rw [readObject] at h
    split at h
    · rename_i f' hread
      cases h
      exact .malformed hread
    · cases h
    · rename_i value hother hread
      cases h
      exact .other hread fun members hvalue => hother members (hvalue ▸ rfl)
  · rintro (hread | ⟨hread, hother⟩)
    · rw [readObject, hread]
    · rename_i value
      rw [readObject, hread]
      cases value with
      | object members => exact absurd rfl (hother members)
      | _ => rfl

/-! ## Headers -/

/-- **What a header demands in vain**, of the four things it can demand. -/
inductive Demand (header : Json.Members) : TokenFault → Prop
  | keyId : IsNoText header "kid" → Demand header .keyId
  /-- The critical parameters are no list, or an empty one. -/
  | criticalList {value : Json} : header.find? "crit" = some value →
      (∀ names, value = .array names → names = []) → Demand header .criticalList
  | criticalNames {names : List Json} {value : Json} : header.find? "crit" = some (.array names) →
      value ∈ names → (∀ name, value ≠ .string name) → Demand header .criticalNames
  | criticalUnsupported {names : List Json} {name : String} :
      header.find? "crit" = some (.array names) → .string name ∈ names → name ≠ "b64" →
      Demand header (.criticalUnsupported name)
  | criticalMissing {names : List Json} : header.find? "crit" = some (.array names) →
      .string "b64" ∈ names → header.find? "b64" = none → Demand header (.criticalMissing "b64")
  | undeclaredDetachment : header.find? "b64" = some (.bool false) → header.find? "crit" = none →
      Demand header .undeclaredDetachment
  | noDetachedPayload {value : Json} : header.find? "b64" = some (.bool false) →
      header.find? "crit" = some value → Demand header .noDetachedPayload
  | noAlgorithm : header.find? "alg" = none → Demand header .noAlgorithm
  | algorithm {value : Json} : header.find? "alg" = some value → value ≠ .string "ES256" →
      Demand header .algorithm

theorem isDetached_eq_true_iff : isDetached header = true ↔
    header.find? "b64" = some (.bool false) := by
  rw [isDetached]
  split
  · rename_i h
    exact iff_of_true rfl h
  · rename_i h
    exact iff_of_false Bool.false_ne_true h

/-- The one critical parameter that is known is one that the header has. -/
theorem checkCriticalNames_eq_ok_iff {names : List Json} :
    checkCriticalNames header names = .ok () ↔
      ∀ value ∈ names, value = .string "b64" ∧ header.find? "b64" ≠ none := by
  induction names with
  | nil => exact iff_of_true rfl (List.forall_mem_nil _)
  | cons value rest ih =>
    rw [List.forall_mem_cons, ← ih]
    cases value with
    | string name =>
      rw [checkCriticalNames]
      split
      · rename_i hname
        exact iff_of_false nofun fun h => hname (Json.string.inj h.1.1)
      rename_i hname
      obtain rfl := not_not.1 hname
      split
      · rename_i hnone
        exact iff_of_false nofun fun h => h.1.2 (Option.isNone_iff_eq_none.1 hnone)
      · rename_i hsome
        exact (and_iff_right ⟨rfl, fun hnone => hsome (Option.isNone_iff_eq_none.2 hnone)⟩).symm
    | _ => exact iff_of_false nofun fun h => nomatch h.1.1

/-- The fault of a list of critical parameters is that of one of them. -/
theorem demand_of_checkCriticalNames {names rest : List Json}
    (hcritical : header.find? "crit" = some (.array names)) (hrest : ∀ value ∈ rest, value ∈ names)
    (h : checkCriticalNames header rest = .error f) : Demand header f := by
  induction rest with
  | nil => cases h
  | cons value rest ih =>
    obtain ⟨hvalue, htail⟩ := List.forall_mem_cons.1 hrest
    cases value with
    | string name =>
      rw [checkCriticalNames] at h
      split at h
      · rename_i hname
        cases h
        exact .criticalUnsupported hcritical hvalue hname
      rename_i hname
      obtain rfl := not_not.1 hname
      split at h
      · rename_i hnone
        cases h
        exact .criticalMissing hcritical hvalue (Option.isNone_iff_eq_none.1 hnone)
      · exact ih htail h
    | _ =>
      cases h
      exact .criticalNames hcritical hvalue nofun

theorem demand_of_checkKeyId (h : checkKeyId header = .error f) : Demand header f := by
  obtain ⟨hno, rfl⟩ := checkText_eq_error_iff.1 (h : checkText header "kid" .keyId = .error f)
  exact .keyId hno

theorem demand_of_checkCritical (h : checkCritical header = .error f) : Demand header f := by
  rw [checkCritical] at h
  split at h
  · cases h
  · rename_i hempty
    cases h
    exact .criticalList hempty fun names hnames => (Json.array.inj hnames).symm
  · rename_i hnames
    exact demand_of_checkCriticalNames hnames (fun _ => id) h
  · rename_i value hempty hother hvalue
    cases h
    exact .criticalList hvalue fun names hnames => (hother names hnames).elim

theorem demand_of_checkDetached (h : checkDetached header = .error f) : Demand header f := by
  rw [checkDetached] at h
  split at h
  · rename_i hdetached
    cases h
    cases hcritical : header.find? "crit" with
    | none => exact .undeclaredDetachment (isDetached_eq_true_iff.1 hdetached) hcritical
    | some value => exact .noDetachedPayload (isDetached_eq_true_iff.1 hdetached) hcritical
  · cases h

theorem demand_of_checkAlgorithm (h : checkAlgorithm header = .error f) : Demand header f := by
  rw [checkAlgorithm] at h
  split at h
  · rename_i hnone
    cases h
    exact .noAlgorithm hnone
  · cases h
  · rename_i value hother hvalue
    cases h
    exact .algorithm hvalue fun hname => hother (hname ▸ rfl)

/-- **A header that passes all checks** demands nothing in vain. -/
theorem not_demand_of_checks (hkeyId : checkKeyId header = .ok ())
    (hcritical : checkCritical header = .ok ()) (hdetached : checkDetached header = .ok ())
    (halgorithm : checkAlgorithm header = .ok ()) (f : TokenFault) : ¬ Demand header f := by
  have hattached : header.find? "b64" ≠ some (.bool false) := by
    intro h
    rw [checkDetached, if_pos (isDetached_eq_true_iff.2 h)] at hdetached
    cases hdetached
  have hnames {names : List Json} (h : header.find? "crit" = some (.array names)) :
      ∀ value ∈ names, value = .string "b64" ∧ header.find? "b64" ≠ none := by
    rw [checkCritical, h] at hcritical
    cases names with
    | nil => cases hcritical
    | cons => exact checkCriticalNames_eq_ok_iff.1 hcritical
  intro h
  cases h with
  | keyId hno =>
    have hfault : checkKeyId header = .error .keyId := checkText_eq_error_iff.2 ⟨hno, rfl⟩
    rw [hfault] at hkeyId
    cases hkeyId
  | criticalList hvalue hempty =>
    rename_i value
    rw [checkCritical, hvalue] at hcritical
    cases value with
    | array names =>
      obtain rfl := hempty names rfl
      cases hcritical
    | _ => cases hcritical
  | criticalNames hcrit hvalue hno => exact hno _ (hnames hcrit _ hvalue).1
  | criticalUnsupported hcrit hname hother =>
    exact hother (Json.string.inj (hnames hcrit _ hname).1)
  | criticalMissing hcrit hname hnone => exact (hnames hcrit _ hname).2 hnone
  | undeclaredDetachment h | noDetachedPayload h => exact hattached h
  | noAlgorithm hnone =>
    rw [checkAlgorithm_eq_ok halgorithm] at hnone
    cases hnone
  | algorithm hvalue hother =>
    rw [checkAlgorithm_eq_ok halgorithm] at hvalue
    exact hother (Option.some.inj hvalue).symm

/-! ## Segments -/

theorem decodeSegment?_of_segmentOctets {cs : List Char} {fault : TokenFault}
    (h : segmentOctets cs fault = .ok octets) : decodeSegment? cs = some octets := by
  rw [segmentOctets] at h
  split at h
  · cases h
  · rename_i octets' hdecode
    injection h with h
    rw [hdecode, h]

theorem segmentOctets_eq_error_iff {cs : List Char} {fault : TokenFault} :
    segmentOctets cs fault = .error f ↔ decodeSegment? cs = none ∧ f = fault := by
  rw [segmentOctets]
  cases hdecode : decodeSegment? cs with
  | none =>
    constructor
    · intro h
      exact ⟨rfl, (Except.error.inj h).symm⟩
    · rintro ⟨-, rfl⟩
      rfl
  | some octets =>
    constructor
    · intro h
      cases h
    · rintro ⟨hnone, -⟩
      cases hnone

/-- The payload of a header that demands no detachment is what its segment holds. -/
theorem decodeSegment?_of_payloadOctets {payload : List Char}
    (hdetached : checkDetached header = .ok ()) (h : payloadOctets header payload = .ok octets) :
    decodeSegment? payload = some octets := by
  rw [checkDetached] at hdetached
  split at hdetached
  · cases hdetached
  · rename_i hattached
    rw [payloadOctets, if_neg hattached] at h
    exact decodeSegment?_of_segmentOctets (h : segmentOctets payload .payloadPadding = .ok octets)

/-- **A signature that is refused** is none for the text in front of it. -/
theorem not_isSignedBy_of_checkSignature {P : P256.Point} {s : Segments}
    (hwrites : Writes s.signature octets) (h : checkSignature P s octets = .error f) :
    ¬ s.IsSignedBy P ∧ f = .signature := by
  constructor
  · rintro ⟨first, second, hsignature, hfirst, hsecond, hvalid⟩
    obtain rfl := hwrites.unique hsignature
    have hread : Ecdsa.Signature.ofBytes? (first ++ second) =
        some ⟨Bytes.toNat first, Bytes.toNat second⟩ := by
      have hwidth : first.length = P256.width := hfirst
      rw [Ecdsa.Signature.ofBytes?, if_pos (by rw [List.length_append, hfirst, hsecond]; rfl),
        List.take_left' hwidth, List.drop_left' hwidth]
    simp only [checkSignature, hread, Ecdsa.verify_eq_true_iff.2 hvalid, if_true] at h
    cases h
  · rw [checkSignature] at h
    split at h
    · cases h
      rfl
    split at h
    · cases h
    · cases h
      rfl

theorem Segments.HasClaims.unique {s : Segments} {members members' : Json.Members}
    (h : s.HasClaims depth members) (h' : s.HasClaims depth members') : members = members' :=
  -- What is said of the payload here is said of the header of other segments there.
  HasHeader.unique (s := ⟨s.payload, [], []⟩) h h'

/-! ## Tokens -/

/-- **What is wrong with the segments** of a token that has a fault. -/
inductive Segments.Flaw (depth : Json.Depth) (s : Segments) (P : P256.Point) (now : Seconds) :
    TokenFault → Prop
  | headerPadding : decodeSegment? s.header = none → Flaw depth s P now .headerPadding
  | header {octets : Bytes} {f : TokenFault} : decodeSegment? s.header = some octets →
      IsNoObject depth octets .headerJson .headerNotObject f → Flaw depth s P now f
  | demand {header : Json.Members} {f : TokenFault} : s.HasHeader depth header →
      Demand header f → Flaw depth s P now f
  /-- The header says that the payload is elsewhere, and yet it is here. -/
  | detachedPayload {header : Json.Members} : s.HasHeader depth header →
      header.find? "b64" = some (.bool false) → s.payload ≠ [] →
      Flaw depth s P now .detachedPayload
  | payloadPadding : decodeSegment? s.payload = none → Flaw depth s P now .payloadPadding
  | signaturePadding : decodeSegment? s.signature = none → Flaw depth s P now .signaturePadding
  | signature : ¬ s.IsSignedBy P → Flaw depth s P now .signature
  | payload {octets : Bytes} {f : TokenFault} : decodeSegment? s.payload = some octets →
      IsNoObject depth octets .payloadJson .payloadNotObject f → Flaw depth s P now f
  | claims {claims : Json.Members} {f : TokenFault} : s.HasClaims depth claims →
      Objection claims now f → Flaw depth s P now f

/-- **What is wrong with a token** that has a fault: there are too few dots in it, or something is
wrong with its segments. -/
inductive Flaw (depth : Json.Depth) (token : List Char) (P : P256.Point) (now : Seconds) :
    TokenFault → Prop
  | segments : (∀ s : Segments, ¬ s.Join token) → Flaw depth token P now .segments
  | ofSegments {s : Segments} {f : TokenFault} : s.Join token → s.Flaw depth P now f →
      Flaw depth token P now f

variable {token : List Char} {s : Segments} {P : P256.Point} {now : Seconds}

theorem flaw_of_payloadOctets (hheader : s.HasHeader depth header)
    (h : payloadOctets header s.payload = .error f) : s.Flaw depth P now f := by
  rw [payloadOctets] at h
  split at h
  · rename_i hdetached
    split at h
    · cases h
    · rename_i hpayload
      cases h
      exact .detachedPayload hheader (isDetached_eq_true_iff.1 hdetached)
        fun hnil => hpayload (hnil ▸ rfl)
  · obtain ⟨hnone, rfl⟩ := segmentOctets_eq_error_iff.1
      (h : segmentOctets s.payload .payloadPadding = .error f)
    exact .payloadPadding hnone

/-- **A token is rejected for a flaw** that it has. -/
theorem flaw_of_verifyText (h : verifyText depth token P now = .error f) :
    Flaw depth token P now f := by
  rw [verifyText] at h
  cases hsegments : Segments.ofToken? token with
  | none =>
    rw [hsegments] at h
    cases h
    refine .segments fun s hjoin => ?_
    rw [Segments.ofToken?_eq_some_iff.2 hjoin] at hsegments
    cases hsegments
  | some s =>
    rw [hsegments] at h
    refine .ofSegments (Segments.ofToken?_eq_some_iff.1 hsegments) ?_
    -- One step for each check, in the order in which they are made.
    obtain h | ⟨_, ⟨rfl⟩, h⟩ := of_bind_eq_error h
    · cases h
    obtain h | ⟨headerOctets, hheaderOctets, h⟩ := of_bind_eq_error h
    · obtain ⟨hnone, rfl⟩ := segmentOctets_eq_error_iff.1 h
      exact .headerPadding hnone
    obtain h | ⟨header, hread, h⟩ := of_bind_eq_error h
    · exact .header (decodeSegment?_of_segmentOctets hheaderOctets)
        (readObject_eq_error_iff.1 h)
    have hheader : s.HasHeader depth header :=
      ⟨headerOctets, writes_of_segmentOctets hheaderOctets, readObject_eq_ok hread⟩
    obtain h | ⟨payload, hpayload, h⟩ := of_bind_eq_error h
    · exact flaw_of_payloadOctets hheader h
    obtain h | ⟨signature, hsignature, h⟩ := of_bind_eq_error h
    · obtain ⟨hnone, rfl⟩ := segmentOctets_eq_error_iff.1 h
      exact .signaturePadding hnone
    obtain h | ⟨_, -, h⟩ := of_bind_eq_error h
    · exact .demand hheader (demand_of_checkKeyId h)
    obtain h | ⟨_, -, h⟩ := of_bind_eq_error h
    · exact .demand hheader (demand_of_checkCritical h)
    obtain h | ⟨_, hdetached, h⟩ := of_bind_eq_error h
    · exact .demand hheader (demand_of_checkDetached h)
    obtain h | ⟨_, -, h⟩ := of_bind_eq_error h
    · exact .demand hheader (demand_of_checkAlgorithm h)
    obtain h | ⟨_, -, h⟩ := of_bind_eq_error h
    · obtain ⟨hunsigned, rfl⟩ :=
        not_isSignedBy_of_checkSignature (writes_of_segmentOctets hsignature) h
      exact .signature hunsigned
    have hdecode := decodeSegment?_of_payloadOctets hdetached hpayload
    obtain h | ⟨claims, hclaims, h⟩ := of_bind_eq_error h
    · exact .payload hdecode (readObject_eq_error_iff.1 h)
    obtain h | ⟨_, -, ⟨⟩⟩ := of_bind_eq_error h
    exact .claims ⟨payload, writes_of_decodeSegment? hdecode, readObject_eq_ok hclaims⟩
      (objection_of_checkClaims h)

/-- An object is read where there is one. -/
theorem not_isNoObject_of_readObject {malformed : Json.Fault → TokenFault} {other : TokenFault}
    {members : Json.Members} (h : readObject depth octets malformed other = .ok members)
    (f : TokenFault) : ¬ IsNoObject depth octets malformed other f := by
  intro hno
  rw [readObject_eq_error_iff.2 hno] at h
  cases h

/-- **A token that gives claims** has no flaw. -/
theorem not_flaw_of_verifyText (h : verifyText depth token P now = .ok claims) (f : TokenFault) :
    ¬ Flaw depth token P now f := by
  rw [verifyText] at h
  split at h
  · cases h
  rename_i s hsegments
  obtain ⟨_, ⟨rfl⟩, h⟩ := exists_of_bind_eq_ok h
  obtain ⟨headerOctets, hheaderOctets, h⟩ := exists_of_bind_eq_ok h
  obtain ⟨header, hheader, h⟩ := exists_of_bind_eq_ok h
  obtain ⟨payload, hpayload, h⟩ := exists_of_bind_eq_ok h
  obtain ⟨octets, hoctets, h⟩ := exists_of_bind_eq_ok h
  obtain ⟨_, hkeyId, h⟩ := exists_of_bind_eq_ok h
  obtain ⟨_, hcritical, h⟩ := exists_of_bind_eq_ok h
  obtain ⟨_, hdetached, h⟩ := exists_of_bind_eq_ok h
  obtain ⟨_, halgorithm, h⟩ := exists_of_bind_eq_ok h
  obtain ⟨_, hsignature, h⟩ := exists_of_bind_eq_ok h
  obtain ⟨claims', hclaims, h⟩ := exists_of_bind_eq_ok h
  obtain ⟨_, hobjection, -⟩ := exists_of_bind_eq_ok h
  have hjoin := Segments.ofToken?_eq_some_iff.1 hsegments
  have hheaderDecode := decodeSegment?_of_segmentOctets hheaderOctets
  have hpayloadDecode := decodeSegment?_of_payloadOctets hdetached hpayload
  have hhas : s.HasHeader depth header :=
    ⟨headerOctets, writes_of_segmentOctets hheaderOctets, readObject_eq_ok hheader⟩
  have hdemand := not_demand_of_checks hkeyId hcritical hdetached halgorithm
  rintro (hnone | ⟨hjoin', hflaw⟩)
  · exact hnone s hjoin
  -- A token has one list of segments only, so the flaw is one of those that were checked.
  obtain rfl := hjoin.unique hjoin'
  cases hflaw with
  | headerPadding hnone => cases hheaderDecode.symm.trans hnone
  | header hdecode hno =>
    obtain rfl := Option.some.inj (hheaderDecode.symm.trans hdecode)
    exact not_isNoObject_of_readObject hheader f hno
  | demand hhas' hdemanded =>
    obtain rfl := hhas.unique hhas'
    exact hdemand f hdemanded
  | detachedPayload hhas' hfalse =>
    obtain rfl := hhas.unique hhas'
    cases hcrit : Json.Members.find? header "crit" with
    | none => exact hdemand _ (.undeclaredDetachment hfalse hcrit)
    | some value => exact hdemand _ (.noDetachedPayload hfalse hcrit)
  | payloadPadding hnone => cases hpayloadDecode.symm.trans hnone
  | signaturePadding hnone => cases (decodeSegment?_of_segmentOctets hoctets).symm.trans hnone
  | signature hunsigned =>
    exact hunsigned (isSignedBy_of_checkSignature (writes_of_segmentOctets hoctets) hsignature)
  | payload hdecode hno =>
    obtain rfl := Option.some.inj (hpayloadDecode.symm.trans hdecode)
    exact not_isNoObject_of_readObject hclaims f hno
  | claims hhas' hobjected =>
    obtain rfl := Segments.HasClaims.unique hhas'
      ⟨payload, writes_of_decodeSegment? hpayloadDecode, readObject_eq_ok hclaims⟩
    exact not_objection_of_checkClaims hobjection f hobjected

/-- **A verification under a key that can be loaded** gives claims or rejects the token, and
nothing else comes of it, however deep its reader goes and whatever the clock says. There are
claims if the token has no flaw, and otherwise it is rejected for one of its flaws: texts that
nest too deeply or hold integers that are too long are flaws like any other. -/
theorem verify_rejects (depth : Json.Depth) {key : KeySource PublicKey} {P : P256.Point}
    (hkey : PublicKey.load key = .ok P) (token : String) (now : Seconds) :
    (∀ f, ¬ Flaw depth token.toList P now f) ∧
        (∃ claims, verify depth token key now = .ok claims) ∨
      ∃ f, Flaw depth token.toList P now f ∧ verify depth token key now = .error (.token f) := by
  have hverify : verify depth token key now =
      (verifyText depth token.toList P now).mapError .token := by
    rw [verify, hkey]
  rw [hverify]
  cases h : verifyText depth token.toList P now with
  | ok claims => exact .inl ⟨not_flaw_of_verifyText h, claims, rfl⟩
  | error f => exact .inr ⟨f, flaw_of_verifyText h, rfl⟩

/-- A token with nothing but brackets in its header, and nothing behind it. -/
def bracketsToken (count : Nat) : String :=
  .ofList (Base64Url.encodeChars (Utf8.encodeChars (List.replicate count '[')) ++
    '.' :: [] ++ '.' :: [])

theorem flaw_bracketsToken {count : Nat} (h : depth.limit < count) (P : P256.Point)
    (now : Seconds) :
    Flaw depth (bracketsToken count).toList P now (.headerJson (.tooDeep false)) := by
  have hjoin : Segments.Join
      ⟨Base64Url.encodeChars (Utf8.encodeChars (List.replicate count '[')), [], []⟩
      (bracketsToken count).toList :=
    ⟨by rw [bracketsToken, String.toList_ofList], dot_notMem_encodeChars _, List.not_mem_nil⟩
  exact .ofSegments hjoin
    (.header (decodeSegment?_encodeChars _) (.malformed (Json.readBytes_brackets h)))

theorem verify_rejects_brackets :
    PublicKey.load plainKey = .ok P256.Scalar.one.publicPoint ∧
      Flaw .least (bracketsToken 20000).toList P256.Scalar.one.publicPoint (.whole 0)
        (.headerJson (.tooDeep false)) ∧
      ∃ f, Flaw .least (bracketsToken 20000).toList P256.Scalar.one.publicPoint (.whole 0) f ∧
        verify .least (bracketsToken 20000) plainKey (.whole 0) = .error (.token f) := by
  have hflaw : Flaw .least (bracketsToken 20000).toList P256.Scalar.one.publicPoint (.whole 0)
      (.headerJson (.tooDeep false)) := flaw_bracketsToken (by decide) _ _
  refine ⟨load_plainKey, hflaw, ?_⟩
  obtain ⟨hnone, -⟩ | hrejected :=
    verify_rejects .least load_plainKey (bracketsToken 20000) (.whole 0)
  · exact absurd hflaw (hnone _)
  · exact hrejected

end Vapid

end WebPush
