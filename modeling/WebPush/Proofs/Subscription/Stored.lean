import WebPush.Proofs.Subscription.Acceptance
/-!
# Subscription — what is stored of an object, and reading it again

The texts of an object are measured as they are given and stored without
the blanks around them. So a stored text is never too long, but a key or
a secret may be stored that is too short for an object, and this is all
that the object of what is stored can be refused for.
-/

namespace WebPush.Subscription

/-! ## Stored texts -/

/-- A text that is not empty, and is left of a member between two bounds in length once the blanks
around it are gone. -/
structure IsStoredFrom (least most : Nat) (member : Option Json) (text : String) : Prop where
  given : ∃ s, member = some (.string s) ∧ least ≤ s.length ∧ s.length ≤ most ∧
    text = Text.trimmed s
  pos : 0 < text.length

/-- What is left of a member is not too long either. -/
theorem IsStoredFrom.length_le {least most : Nat} {member : Option Json} {text : String}
    (h : IsStoredFrom least most member text) : text.length ≤ most := by
  obtain ⟨s, -, -, hmost, rfl⟩ := h.given
  have hlength := Text.length_trim_le s.toList
  rw [String.length_toList] at hlength
  rw [Text.trimmed, String.length_ofList]
  exact hlength.trans hmost

/-- Key material that was read is stored without the blanks around it. -/
theorem of_readKeyText {least most : Nat} {value : Json} {text : String}
    (h : readKeyText least most value = .ok text) :
    IsStoredFrom least most (some value) text ∧ Text.trim text.toList = text.toList ∧
      isKeyText text.toList = true := by
  obtain ⟨s, hs, hkept⟩ := exists_of_bind_eq_ok h
  obtain ⟨rfl, hleast, hmost⟩ := of_readText hs
  dsimp only at hkept
  split at hkept
  · rename_i hkey
    cases hkept
    rw [String.toList_ofList]
    refine ⟨⟨⟨s, rfl, hleast, hmost, rfl⟩, ?_⟩, Text.trim_trim _, hkey⟩
    rw [String.length_ofList, List.length_pos_iff]
    intro hnil
    rw [hnil] at hkey
    cases hkey
  · cases hkept

/-- So is an address. -/
theorem isStoredFrom_of_readEndpoint {value : Json} {endpoint : String}
    (h : readEndpoint value = .ok endpoint) : IsStoredFrom 1 2048 (some value) endpoint := by
  obtain ⟨s, hs, htrimmed, hsecure⟩ := isSecureAddress_of_readEndpoint h
  obtain ⟨rfl, hleast, hmost⟩ := of_readText hs
  exact ⟨⟨s, rfl, hleast, hmost, htrimmed⟩, hsecure.length_pos⟩

/-- **Key material that is stored** is accepted as it is, unless it is too short. -/
theorem readKeyText_stored {least most : Nat} {value : Json} {text : String}
    (h : readKeyText least most value = .ok text) :
    readKeyText least most (.string text) =
      if text.length < least then .error (.tooShort least) else .ok text := by
  obtain ⟨hstored, htrimmed, hkey⟩ := of_readKeyText h
  by_cases hshort : text.length < least
  · simp only [readKeyText, readText, if_pos hshort, bind, Except.bind]
  · simp only [readKeyText, readText, if_neg hshort, if_neg (Nat.not_lt.2 hstored.length_le), bind,
      Except.bind, htrimmed, hkey, if_true, String.ofList_toList, pure, Except.pure]

/-! ## The object of what is stored -/

namespace BrowserInfo

/-- The two keys as an object has them. -/
def keyMembers (info : BrowserInfo) : Json.Members :=
  [("p256dh", .string info.publicKey), ("auth", .string info.auth)]

/-- The members of an object that has what is stored, the expiration time under a given name. -/
def members (info : BrowserInfo) (timeName : String) : Json.Members :=
  [("endpoint", .string info.endpoint), (timeName, info.expirationTime.elim .null .int),
    ("keys", .object info.keyMembers)]

/-- The fault of a stored text in the keys that is shorter than an object may have it. -/
def shortFault (name : String) (least : Nat) (text : String) : List LocatedFault :=
  if text.length < least then [⟨["keys", name], .tooShort least⟩] else []

/-- The faults of both keys. -/
def shortFaults (info : BrowserInfo) : List LocatedFault :=
  shortFault "p256dh" 80 info.publicKey ++ shortFault "auth" 16 info.auth

variable {info : BrowserInfo}

/-- No key is too short just if both have their lengths. -/
theorem shortFaults_eq_nil_iff :
    info.shortFaults = [] ↔ 80 ≤ info.publicKey.length ∧ 16 ≤ info.auth.length := by
  have hfault (name : String) (least : Nat) (text : String) :
      shortFault name least text = [] ↔ least ≤ text.length := by
    rw [shortFault]
    split
    · rename_i hshort
      exact iff_of_false (List.cons_ne_nil _ _) (Nat.not_le.2 hshort)
    · rename_i hlong
      exact iff_of_true rfl (Nat.not_lt.1 hlong)
  rw [shortFaults, List.append_eq_nil_iff, hfault, hfault]

end BrowserInfo

/-- A stored text is read again, or found too short. -/
theorem required_stored {ms : Json.Members} {name : String} {least most : Nat} {value : Json}
    {text : String} (hread : readKeyText least most value = .ok text)
    (hfind : ms.find? name = some (.string text)) :
    required ms ["keys"] name (readKeyText least most) =
      (if text.length < least then none else some text,
        BrowserInfo.shortFault name least text) := by
  rw [required, hfind, BrowserInfo.shortFault]
  dsimp only
  rw [readKeyText_stored hread]
  by_cases hshort : text.length < least
  · rw [if_pos hshort, if_pos hshort, if_pos hshort]
    rfl
  · rw [if_neg hshort, if_neg hshort, if_neg hshort]

/-- **The keys that are stored** are read again, or found too short. -/
theorem readKeys_stored {info : BrowserInfo} {ms : Json.Members} (h : IsReadAs ms info) :
    readKeys (.object info.keyMembers) =
      (if info.shortFaults = [] then some (info.publicKey, info.auth) else none,
        info.shortFaults) := by
  obtain ⟨keys, publicMember, authMember, -, -, hpublic, -, hauth⟩ := h.keys
  have hunknown : unknownMembers info.keyMembers ["keys"] ["p256dh", "auth"] = [] :=
    unknownMembers_eq_nil (by simp [BrowserInfo.keyMembers]) _
  have hpublicFind : info.keyMembers.find? "p256dh" = some (.string info.publicKey) := rfl
  have hauthFind : info.keyMembers.find? "auth" = some (.string info.auth) := rfl
  have hpair : ((if info.publicKey.length < 80 then none else some info.publicKey).bind fun p =>
      (if info.auth.length < 16 then none else some info.auth).map fun a => (p, a)) =
        if info.shortFaults = [] then some (info.publicKey, info.auth) else none := by
    simp only [BrowserInfo.shortFaults_eq_nil_iff, ← Nat.not_lt]
    by_cases hp : info.publicKey.length < 80 <;> by_cases ha : info.auth.length < 16 <;>
      simp [hp, ha]
  simp only [readKeys, required_stored hpublic hpublicFind, required_stored hauth hauthFind,
    hunknown, hpair, List.append_nil]
  rfl

/-- The expiration time is read again under either name. -/
theorem required_expiration (info : BrowserInfo) {timeName : String}
    (hname : timeName ∈ ["expirationTime", "expiration_time"]) :
    required (info.members timeName) [] timeName readExpiration = (some info.expirationTime, []) := by
  have hfind : (info.members timeName).find? timeName =
      some (info.expirationTime.elim .null .int) := by
    rcases List.mem_cons.1 hname with rfl | hname
    · rfl
    · cases List.mem_singleton.1 hname
      rfl
  refine required_eq hfind ?_ _
  cases info.expirationTime with
  | none => rfl
  | some n => rfl

/-- **An object of what is stored** is accepted and stored as it is, or its keys are too short. -/
theorem ofJson_members {info : BrowserInfo} {ms : Json.Members} (h : IsReadAs ms info)
    {timeName : String} (hname : timeName ∈ ["expirationTime", "expiration_time"]) :
    BrowserInfo.ofJson (.object (info.members timeName)) =
      if info.shortFaults = [] then .ok info else .error info.shortFaults := by
  obtain ⟨member, -, hmember⟩ := h.endpoint
  obtain ⟨_, -, -, hsecure⟩ := isSecureAddress_of_readEndpoint hmember
  have hendpoint : required (info.members timeName) [] "endpoint" readEndpoint =
      (some info.endpoint, []) := required_eq rfl (readEndpoint_eq_ok hsecure) _
  have htime := required_expiration info hname
  have hunknown : unknownMembers (info.members timeName) [] ["endpoint", timeName, "keys"] = [] :=
    unknownMembers_eq_nil (by simp [BrowserInfo.members]) _
  have hnamed : expirationName (info.members timeName) = timeName ∧
      ((info.members timeName).find? timeName).isNone = false ∧
      (info.members timeName).find? "keys" = some (.object info.keyMembers) := by
    rcases List.mem_cons.1 hname with rfl | hname
    · exact ⟨rfl, rfl, rfl⟩
    · cases List.mem_singleton.1 hname
      exact ⟨rfl, rfl, rfl⟩
  obtain ⟨hexpiration, hthere, hkeys⟩ := hnamed
  simp only [BrowserInfo.ofJson, BrowserInfo.ofMembers, hexpiration, hthere, hkeys, hendpoint,
    htime, hunknown, readKeys_stored h, Bool.false_eq_true, if_false, List.nil_append,
    List.append_nil]
  by_cases hfaults : info.shortFaults = []
  · simp only [hfaults, if_true]
  · simp only [if_neg hfaults]

/-- **What is stored of an accepted object** are its texts without the blanks around them, and none
of them is empty or too long. But they were measured with the blanks. So an object of what is stored
is accepted, and stored as the same, just if the key and the secret are long enough without them;
otherwise it has no faults but these. -/
theorem stored_of_ofJson {value : Json} {info : BrowserInfo}
    (h : BrowserInfo.ofJson value = .ok info) :
    (∃ ms keys, value = .object ms ∧ Json.Members.find? ms "keys" = some (.object keys) ∧
      IsStoredFrom 1 2048 (Json.Members.find? ms "endpoint") info.endpoint ∧
      IsStoredFrom 80 100 (Json.Members.find? keys "p256dh") info.publicKey ∧
      IsStoredFrom 16 32 (Json.Members.find? keys "auth") info.auth) ∧
    (1 ≤ info.endpoint.length ∧ info.endpoint.length ≤ 2048) ∧
    (1 ≤ info.publicKey.length ∧ info.publicKey.length ≤ 100) ∧
    (1 ≤ info.auth.length ∧ info.auth.length ≤ 32) ∧
    ∀ timeName ∈ ["expirationTime", "expiration_time"],
      BrowserInfo.ofJson (.object (info.members timeName)) =
        if 80 ≤ info.publicKey.length ∧ 16 ≤ info.auth.length then .ok info
        else .error info.shortFaults := by
  obtain ⟨ms, rfl, hread⟩ := isReadAs_of_ofJson h
  obtain ⟨member, hendpoint, hmember⟩ := hread.endpoint
  obtain ⟨keys, publicMember, authMember, hkeys, hpublic, hpublicRead, hauth, hauthRead⟩ := hread.keys
  have hendpointStored := isStoredFrom_of_readEndpoint hmember
  have hpublicStored := (of_readKeyText hpublicRead).1
  have hauthStored := (of_readKeyText hauthRead).1
  refine ⟨⟨ms, keys, rfl, hkeys, hendpoint ▸ hendpointStored, hpublic ▸ hpublicStored,
    hauth ▸ hauthStored⟩, ⟨hendpointStored.pos, hendpointStored.length_le⟩,
    ⟨hpublicStored.pos, hpublicStored.length_le⟩, ⟨hauthStored.pos, hauthStored.length_le⟩, ?_⟩
  intro timeName hname
  rw [ofJson_members hread hname]
  simp only [BrowserInfo.shortFaults_eq_nil_iff]

/-- An object with blanks around all its texts, and an expiration time in a text. -/
def looseMembers : Json.Members :=
  [("endpoint", .string " https://a/b\n"), ("expiration_time", .string " 1_0 "),
    ("keys", .object [("auth", .string "AAAAAAAAAAAAAAAAAAAAAA  "),
      ("p256dh", .string ("\t" ++ Base64Url.encode P256.generator.toBytes))])]

/-- The object is accepted, and so is the object of what is stored of it, which is the same. -/
theorem stored_of_ofJson_loose : ∃ info, BrowserInfo.ofJson (.object looseMembers) = .ok info ∧
    info.endpoint = "https://a/b" ∧ info.expirationTime = some 10 ∧
    BrowserInfo.ofJson (.object (info.members "expirationTime")) = .ok info := by
  have hinfo : BrowserInfo.ofJson (.object looseMembers) = .ok ⟨"https://a/b", some 10,
    Base64Url.encode P256.generator.toBytes, "AAAAAAAAAAAAAAAAAAAAAA"⟩ := by decide +kernel
  obtain ⟨-, -, -, -, hagain⟩ := stored_of_ofJson hinfo
  refine ⟨_, hinfo, rfl, rfl, ?_⟩
  rw [hagain _ List.mem_cons_self, if_pos (by decide +kernel)]

/-- An object whose key has one character of the alphabet, and as many blanks as make it long
enough. -/
def blankMembers : Json.Members :=
  [("endpoint", .string "https://a/b"),
    ("keys", .object [("p256dh", .string (String.ofList ('A' :: List.replicate 79 ' '))),
      ("auth", .string "AAAAAAAAAAAAAAAAAAAAAA")])]

/-- **A key may be stored that an object may not have.** -/
theorem exists_ofJson_short : ∃ info, BrowserInfo.ofJson (.object blankMembers) = .ok info ∧
    info.publicKey.length = 1 ∧
    BrowserInfo.ofJson (.object (info.members "expirationTime")) =
      .error [⟨["keys", "p256dh"], .tooShort 80⟩] :=
  ⟨⟨"https://a/b", none, "A", "AAAAAAAAAAAAAAAAAAAAAA"⟩, by decide +kernel, by decide +kernel,
    by decide +kernel⟩

end WebPush.Subscription
