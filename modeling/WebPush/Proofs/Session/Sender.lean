import WebPush.Proofs.Sender.Configuration
import WebPush.Proofs.Service.Identity
import WebPush.Proofs.Session
/-!
# Session — the sender that an environment gives

A configuration that was read has both keys and a contact, or no key.
So of all that making a service checks, only the keys themselves are
left to be found wanting, and without keys nothing is. Where there is no
credential at all the sender is idle: it sends nothing and draws
nothing, and neither does a session that has it in place.
-/

namespace WebPush

/-! ## Keys and a contact -/

namespace Settings

variable {env : Environment} {s : Settings}

/-- **Both keys or none**, and with both a contact. -/
theorem keys_of_load (h : load env = .ok s) :
    (s.vapidPublicKey = none ∧ s.vapidPrivateKey = none) ∨
      ∃ publicText privateText, s.vapidPublicKey = some publicText ∧
        s.vapidPrivateKey = some privateText ∧
        HasContact (s.vapidSubject.map Text.Filled.text) := by
  have hvapid := (of_load h).2.1
  have hboth : (s.vapidPublicKey.isSome == s.vapidPrivateKey.isSome) = true := by
    rw [checkVapid.eq_def] at hvapid
    obtain ⟨_, hrequire, -⟩ := exists_of_bind_eq_ok hvapid
    exact of_require hrequire
  cases hpublic : s.vapidPublicKey with
  | none =>
    cases hprivate : s.vapidPrivateKey with
    | none => exact .inl ⟨rfl, rfl⟩
    | some privateText =>
      rw [hpublic, hprivate] at hboth
      cases hboth
  | some publicText =>
    cases hprivate : s.vapidPrivateKey with
    | none =>
      rw [hpublic, hprivate] at hboth
      cases hboth
    | some privateText =>
      rw [hpublic] at hvapid
      obtain ⟨contact, hsubject, hcontact⟩ := exists_subject_of_checkVapid hvapid
      exact .inr ⟨publicText, privateText, rfl, rfl, contact, by rw [hsubject, Option.map_some],
        contact.ne_empty, Vapid.isContact_iff.1 hcontact⟩

/-- A public key is in its variable, with blanks around it at most. -/
theorem exists_variable_of_load (h : load env = .ok s) {publicText : Text.Filled}
    (hpublic : s.vapidPublicKey = some publicText) :
    ∃ raw, env.get? "VAPIDPUSH_VAPID_PUBLIC_KEY" = some raw ∧
      publicText.text = Text.trimmed raw := by
  rw [(of_load h).2.2, textOf] at hpublic
  obtain ⟨raw, hraw, htext⟩ := Option.bind_eq_some_iff.1 hpublic
  exact ⟨raw, hraw, Text.filled?_eq_some_iff.1 htext⟩

end Settings

/-! ## The service -/

namespace Service

variable {s : Settings}

/-- Without keys there is nothing that could be wrong. -/
theorem ofSettings_of_none (hpublic : s.vapidPublicKey = none) :
    ofSettings s = .ok ⟨s.gcmApiKey.map Text.Filled.text, none, none⟩ := by
  simp only [ofSettings, hpublic, make]

/-- **How a service with keys and a contact comes out**: a key does not load, the keys do not
belong together, or the service hands out the public key in its one canonical spelling. -/
theorem ofSettings_cases {publicText privateText : Text.Filled}
    (hpublic : s.vapidPublicKey = some publicText) (hprivate : s.vapidPrivateKey = some privateText)
    (hcontact : HasContact (s.vapidSubject.map Text.Filled.text)) :
    (∃ e, (PublicKey.load (.encoded (.text publicText)) = .error e ∨
        PrivateKey.load (.encoded (.text privateText)) = .error e) ∧
      ofSettings s = .error (.key e)) ∨
    (∃ P d, PublicKey.load (.encoded (.text publicText)) = .ok P ∧
      PrivateKey.load (.encoded (.text privateText)) = .ok d ∧
      ¬ KeyPair.BelongTogether ⟨.p256 P, .p256 d⟩ ∧
      ofSettings s = .error (.signer .keyPairMismatch)) ∨
    ∃ d service, s.HasKeyPair d ∧ ofSettings s = .ok service ∧
      service.vapidPublicKey = some (Base64Url.encode d.publicPoint.toBytes) := by
  have hof : ofSettings s = ofEncodedKeys (.text publicText) (.text privateText)
      (s.vapidSubject.map Text.Filled.text) (s.gcmApiKey.map Text.Filled.text) := by
    obtain ⟨contact, hsubject, -⟩ := hcontact
    simp only [ofSettings, hpublic, hprivate, hsubject, Option.getD_some]
  simp only [hof, ofEncodedKeys]
  obtain ⟨e, hload, hpair⟩ | ⟨P, e, -, hload, hpair⟩ | ⟨P, d, hpoint, hscalar, hpair⟩ :=
    KeyPair.load_cases (.text publicText) (.text privateText)
  · exact .inl ⟨e, .inl hload, by rw [hpair]⟩
  · exact .inl ⟨e, .inr hload, by rw [hpair]⟩
  simp only [hpair]
  -- The contact is there and keys that load are on P-256, so two of the outcomes are left.
  obtain ⟨hnone, -⟩ | ⟨-, hapart, hmade⟩ | ⟨-, key, hkey, -⟩ | ⟨-, e, heq, service, hmade⟩ :=
    make_cases (s.gcmApiKey.map Text.Filled.text) (s.vapidSubject.map Text.Filled.text)
      ⟨.p256 P, .p256 d⟩
  · exact absurd hcontact hnone
  · exact .inr (.inl ⟨P, d, hpoint, hscalar, hapart, hmade⟩)
  · cases hkey
  · cases heq
    obtain ⟨_, ⟨⟩, htext⟩ := vapidPublicKey_of_make hmade
    exact .inr (.inr ⟨d, service, ⟨⟨publicText, hpublic, hpoint⟩, privateText, hprivate, hscalar⟩,
      hmade, htext⟩)

/-- **Why a configuration that was read gives no service**: it has keys, of which one does not load
or which do not belong together. -/
theorem of_ofSettings_eq_error {env : Environment} (hload : Settings.load env = .ok s)
    {e : ServiceError} (he : ofSettings s = .error e) : ∃ publicText privateText,
    s.vapidPublicKey = some publicText ∧ s.vapidPrivateKey = some privateText ∧
      ((∃ k, e = .key k ∧ (PublicKey.load (.encoded (.text publicText)) = .error k ∨
          PrivateKey.load (.encoded (.text privateText)) = .error k)) ∨
        ∃ P d, e = .signer .keyPairMismatch ∧
          PublicKey.load (.encoded (.text publicText)) = .ok P ∧
          PrivateKey.load (.encoded (.text privateText)) = .ok d ∧
          ¬ KeyPair.BelongTogether ⟨.p256 P, .p256 d⟩) := by
  obtain ⟨hnone, -⟩ | ⟨publicText, privateText, hpublic, hprivate, hcontact⟩ :=
    Settings.keys_of_load hload
  · cases (ofSettings_of_none hnone).symm.trans he
  refine ⟨publicText, privateText, hpublic, hprivate, ?_⟩
  obtain ⟨k, hkey, herror⟩ | ⟨P, d, hpoint, hscalar, hapart, herror⟩ | ⟨_, _, -, hok, -⟩ :=
    ofSettings_cases hpublic hprivate hcontact
  · cases herror.symm.trans he
    exact .inl ⟨k, rfl, hkey⟩
  · cases herror.symm.trans he
    exact .inr ⟨P, d, rfl, hpoint, hscalar, hapart⟩
  · cases hok.symm.trans he

/-- **Where the public key comes from** that a service with keys hands out. -/
theorem exists_variable_of_ofSettings {env : Environment} {service : Service}
    (hload : Settings.load env = .ok s) (hservice : ofSettings s = .ok service)
    (hsome : s.vapidPublicKey ≠ none) :
    ∃ (raw : String) (P : P256.Point),
      env.get? "VAPIDPUSH_VAPID_PUBLIC_KEY" = some raw ∧ Base64Url.decode? raw = some P.toBytes ∧
        service.vapidPublicKey = some (Base64Url.encode P.toBytes) := by
  obtain ⟨hnone, -⟩ | ⟨publicText, privateText, hpublic, hprivate, hcontact⟩ :=
    Settings.keys_of_load hload
  · exact absurd hnone hsome
  obtain ⟨_, -, herror⟩ | ⟨_, _, -, -, -, herror⟩ | ⟨d, _, hpair, hmade, htext⟩ :=
    ofSettings_cases hpublic hprivate hcontact
  · cases herror.symm.trans hservice
  · cases herror.symm.trans hservice
  cases hmade.symm.trans hservice
  obtain ⟨_, hsame, hpoint⟩ := hpair.publicKey
  cases hpublic.symm.trans hsame
  obtain ⟨raw, hraw, htrimmed⟩ := Settings.exists_variable_of_load hload hpublic
  rw [htrimmed] at hpoint
  refine ⟨raw, d.publicPoint, hraw, ?_, htext⟩
  rw [← Base64Url.decode?_trimmed, PublicKey.load_text_eq_ok_iff.1 hpoint]

end Service

/-! ## The idle sender -/

namespace Sender

/-- **A sender is idle** if nothing is sent and nothing is drawn, whichever way it is told to
send and whatever its clients are. -/
def IsIdle (sender : Sender) : Prop :=
  ∀ n now transport trace clients,
    ((sender.send n now transport trace clients).1.received = [] ∧
      (sender.send n now transport trace clients).2.entropy = trace.entropy) ∧
    (sender.sendAwaited n now transport trace clients).1.received = [] ∧
      (sender.sendAwaited n now transport trace clients).2.entropy = trace.entropy

theorem isIdle_disabled : IsIdle .disabled := fun _ _ _ _ _ => ⟨⟨rfl, rfl⟩, rfl, rfl⟩

/-- **A configuration gives the disabled sender** if it has no credential, and only then. -/
theorem ofSettings_eq_disabled_iff {s : Settings} :
    (ofSettings s).1 = .ok .disabled ↔ s.vapidConfigured = false ∧ s.gcmConfigured = false := by
  rw [ofSettings, ← Bool.not_eq_true', ← Bool.not_eq_true', ← Bool.and_eq_true]
  split
  · exact iff_of_true rfl ‹_›
  · refine iff_of_false ?_ ‹_›
    cases Service.ofSettings s <;> intro h <;> cases h

end Sender

namespace Session

variable {s : Session} {sender : Sender} {command : Command} {commands : List Command}

/-- The reply tells of nothing that was sent, and of random values that are still the given ones. -/
def Reply.IsIdle (reply : Reply) (entropy : Entropy) : Prop :=
  ∀ sent entropy', reply = .sent sent entropy' → sent.received = [] ∧ entropy' = entropy

/-- Sending with an idle sender. -/
theorem send_of_isIdle (hidle : sender.IsIdle) (h : s.sender = some sender) (n : Notification)
    (transport : Transport) (awaited : Bool) :
    (s.send n transport awaited).1.received = [] ∧
      (s.send n transport awaited).2.entropy = s.entropy := by
  obtain ⟨hsend, hawaited⟩ := hidle n s.now transport (.start s.entropy) {}
  simp only [send, h, entropy_emitAll]
  cases awaited with
  | false => exact hsend
  | true => exact hawaited

/-- Only a command to send is answered by what was sent. -/
theorem exists_eq_send_of_step {sent : Sender.Sent} {entropy : Entropy}
    (h : (s.step command).1 = .sent sent entropy) :
    ∃ n transport awaited, command = .send n transport awaited := by
  have hexcept {α : Type} {render : α → Reply} {x : Except Fault α}
      (hrender : ∀ a, render a ≠ .sent sent entropy) :
      Reply.ofExcept render x ≠ .sent sent entropy := by
    cases x with
    | error f =>
      intro h
      cases h
    | ok a => exact hrender a
  cases command with
  | send n transport awaited => exact ⟨n, transport, awaited, rfl⟩
  | showFile | readEnvironmentFile | loadEnvironmentFile | loadSettings | cachedSettings =>
    exact absurd h (hexcept fun _ heq => by cases heq)
  | setVariable name value =>
    rw [step] at h
    split at h <;> cases h
  | writeFile path content =>
    rw [step] at h
    split at h <;> cases h
  | buildService =>
    rw [step] at h
    split at h
    · cases h
    · exact absurd h (hexcept fun _ heq => by cases heq)
  | buildSender cached =>
    rw [step] at h
    dsimp only at h
    split at h
    · cases h
    · exact absurd h (hexcept fun _ heq => by cases heq)
  | setUpLog =>
    rw [step] at h
    split at h
    · cases h
    · split at h <;> cases h
  | _ => cases h

/-- **One command**, as long as it puts no other sender in place. -/
theorem step_of_isIdle (hidle : sender.IsIdle) (h : s.sender = some sender)
    (hcommand : ∀ cached, command ≠ .buildSender cached) :
    (s.step command).1.IsIdle s.entropy ∧ (s.step command).2.sender = some sender ∧
      (s.step command).2.entropy = s.entropy := by
  have hspared := spares_step s command
  have hsender : (s.step command).2.sender = some sender :=
    (hspared.sender.resolve_left fun ⟨cached, heq⟩ => hcommand cached heq).trans h
  by_cases hsend : ∃ n transport awaited, command = .send n transport awaited
  · obtain ⟨n, transport, awaited, rfl⟩ := hsend
    obtain ⟨hreceived, hsame⟩ := send_of_isIdle hidle h n transport awaited
    refine ⟨?_, hsender, hsame⟩
    rintro sent entropy ⟨⟩
    exact ⟨hreceived, hsame⟩
  · exact ⟨fun sent entropy hreply => absurd (exists_eq_send_of_step hreply) hsend, hsender,
      hspared.entropy.resolve_left hsend⟩

/-- **A run**, as long as no other sender is put in place. -/
theorem run_of_isIdle (hidle : sender.IsIdle) (h : s.sender = some sender)
    (hcommands : ∀ command ∈ commands, ∀ cached, command ≠ .buildSender cached) :
    (∀ reply ∈ (s.run commands).1, reply.IsIdle s.entropy) ∧
      (s.after commands).entropy = s.entropy := by
  induction commands generalizing s with
  | nil => exact ⟨List.forall_mem_nil _, rfl⟩
  | cons command rest ih =>
    obtain ⟨hcommand, hrest⟩ := List.forall_mem_cons.1 hcommands
    obtain ⟨hreply, hsender, hentropy⟩ := step_of_isIdle hidle h hcommand
    obtain ⟨hreplies, hafter⟩ := ih hsender hrest
    rw [hentropy] at hreplies hafter
    exact ⟨List.forall_mem_cons.2 ⟨hreply, hreplies⟩, hafter⟩

end Session

/-! ## From the environment -/

/-- **A configuration that was read builds a sender.** It has both keys and a contact, or no key.
Without keys its service is always made; with keys it fails for a key that does not load or for
keys that do not belong together, and for nothing else. A service with keys hands out the one
canonical spelling of the public key, whatever its spelling in the environment. The sender is the
disabled one if there is no credential and only then, and as long as it is in place nothing is
sent and no random value is drawn. -/
theorem Settings.load_builds_sender {env : Environment} {settings : Settings}
    (h : Settings.load env = .ok settings) :
    ((settings.vapidPublicKey = none ∧ settings.vapidPrivateKey = none) ∨
      ∃ publicText privateText, settings.vapidPublicKey = some publicText ∧
        settings.vapidPrivateKey = some privateText ∧
        HasContact (settings.vapidSubject.map Text.Filled.text)) ∧
    (∀ e, Service.ofSettings settings = .error e → ∃ publicText privateText,
      settings.vapidPublicKey = some publicText ∧ settings.vapidPrivateKey = some privateText ∧
      ((∃ k, e = .key k ∧ (PublicKey.load (.encoded (.text publicText)) = .error k ∨
          PrivateKey.load (.encoded (.text privateText)) = .error k)) ∨
        ∃ P d, e = .signer .keyPairMismatch ∧
          PublicKey.load (.encoded (.text publicText)) = .ok P ∧
          PrivateKey.load (.encoded (.text privateText)) = .ok d ∧
          ¬ KeyPair.BelongTogether ⟨.p256 P, .p256 d⟩)) ∧
    (settings.vapidPublicKey = none →
      ∃ service, Service.ofSettings settings = .ok service ∧ service.vapidPublicKey = none) ∧
    (∀ d, settings.HasKeyPair d → ∃ service, Service.ofSettings settings = .ok service) ∧
    (∀ service, Service.ofSettings settings = .ok service → settings.vapidPublicKey ≠ none →
      ∃ (raw : String) (P : P256.Point) (text : String),
        env.get? "VAPIDPUSH_VAPID_PUBLIC_KEY" = some raw ∧
        Base64Url.decode? raw = some P.toBytes ∧
        (∀ bs, Base64Url.IsSpelling raw bs → bs = P.toBytes) ∧
        service.vapidPublicKey = some text ∧ text = Base64Url.encode P.toBytes ∧
        text.length = 87 ∧ ∀ c ∈ text.toList, Base64Url.inAlphabet c = true) ∧
    ((Sender.ofSettings settings).1 = .ok .disabled ↔
      settings.vapidPublicKey = none ∧ settings.vapidPrivateKey = none ∧
        settings.gcmApiKey = none) ∧
    ((Sender.ofSettings settings).1 = .ok .disabled → Sender.disabled.IsIdle ∧
      ∀ (s : Session) commands, (∀ command ∈ commands, ∀ cached, command ≠ .buildSender cached) →
        let built := (s.buildSender settings).2
        built.sender = some .disabled ∧
          (∀ reply ∈ (built.run commands).1, reply.IsIdle s.entropy) ∧
          (built.after commands).entropy = s.entropy) := by
  have hkeys := keys_of_load h
  refine ⟨hkeys, fun e => Service.of_ofSettings_eq_error h, ?_, ?_, ?_, ?_, ?_⟩
  · exact fun hnone => ⟨_, Service.ofSettings_of_none hnone, rfl⟩
  · exact fun d => Service.exists_ofSettings_eq h
  · intro service hservice hsome
    obtain ⟨raw, P, hraw, hdecode, htext⟩ :=
      Service.exists_variable_of_ofSettings h hservice hsome
    refine ⟨raw, P, _, hraw, hdecode, fun bs hspelling => ?_, htext, rfl, ?_, ?_⟩
    · exact Option.some.inj ((Base64Url.decode?_of_isSpelling hspelling).symm.trans hdecode)
    · rw [Base64Url.encode, String.length_ofList, Base64Url.length_encodeChars,
        P256.Pair.length_toBytes]
    · rw [Base64Url.encode, String.toList_ofList]
      exact Base64Url.inAlphabet_of_mem_encodeChars _
  · rw [Sender.ofSettings_eq_disabled_iff, vapidConfigured, gcmConfigured]
    obtain ⟨hpublic, hprivate⟩ | ⟨_, _, hpublic, hprivate, -⟩ := hkeys <;>
      simp [hpublic, hprivate]
  · intro hdisabled
    refine ⟨Sender.isIdle_disabled, fun s commands hcommands => ?_⟩
    obtain ⟨after, hbuilt, hsender, -, hentropy⟩ := Session.exists_buildSender_eq_ok (s := s) hdisabled
    intro built
    obtain rfl : built = after := congrArg Prod.snd hbuilt
    obtain ⟨hreplies, hafter⟩ := Session.run_of_isIdle Sender.isIdle_disabled hsender hcommands
    rw [hentropy] at hreplies hafter
    exact ⟨hsender, hreplies, hafter⟩

/-- The public key of the least private scalar in the standard alphabet. -/
def standardKeyText : String :=
  "BGsX0fLhLEJH+Lzm5WOkQPJ3A32BLeszoPShOUXYmMKWT+NC4v4af5uO5+tKfA+eFivOM1drMV7Oy7ZAaDe/UfU"

/-- The same as it is pasted: with padding behind it, and blanks around that. -/
def pastedKeyText : String := "\t" ++ standardKeyText ++ "= \n"

theorem isSpelling_pastedKeyText :
    Base64Url.IsSpelling pastedKeyText P256.Scalar.one.publicPoint.toBytes := by
  refine ⟨['\t'], standardKeyText.toList, 1, [' ', '\n'], by decide +kernel, ?_, ?_,
    by decide +kernel⟩
  · exact List.forall_mem_singleton.2 rfl
  · exact List.forall_mem_cons.2 ⟨rfl, List.forall_mem_singleton.2 rfl⟩

/-- A pasted key comes out in its canonical spelling; an environment without keys gives an idle
sender. -/
theorem Settings.load_builds_sender_pasted :
    let pasted : Environment :=
      ⟨[("VAPIDPUSH_VAPID_PUBLIC_KEY", pastedKeyText),
        ("VAPIDPUSH_VAPID_PRIVATE_KEY", "AAAAAAAAAAAAAAAAAAAAAAAAAAAAAAAAAAAAAAAAAAE="),
        ("VAPIDPUSH_VAPID_SUBJECT", "mailto:a@b")]⟩
    (∃ settings service, load pasted = .ok settings ∧ Service.ofSettings settings = .ok service ∧
      service.vapidPublicKey =
        some (Base64Url.encode P256.Scalar.one.publicPoint.toBytes)) ∧
    ∃ settings, load ⟨[]⟩ = .ok settings ∧ (Sender.ofSettings settings).1 = .ok .disabled ∧
      ∀ (s : Session) n transport awaited, ∀ reply ∈
        ((s.buildSender settings).2.run [.send n transport awaited]).1, reply.IsIdle s.entropy := by
  intro pasted
  let plain : Settings :=
    ⟨none, none, none, none, defaultTimeout, 2419200, .info, none, 5242880, 10⟩
  constructor
  · let settings : Settings :=
      { plain with
        vapidPublicKey := some ⟨Text.trimmed pastedKeyText, by decide +kernel⟩
        vapidPrivateKey := some ⟨"AAAAAAAAAAAAAAAAAAAAAAAAAAAAAAAAAAAAAAAAAAE=", by decide⟩
        vapidSubject := some ⟨"mailto:a@b", by decide⟩ }
    have hload : load pasted = .ok settings := by decide +kernel
    have hdecode := Base64Url.decode?_of_isSpelling isSpelling_pastedKeyText
    have hpair : settings.HasKeyPair .one := by
      refine ⟨⟨_, rfl, PublicKey.load_text_eq_ok_iff.2 ?_⟩, _, rfl, by decide +kernel⟩
      rw [Base64Url.decode?_trimmed, hdecode]
    obtain ⟨-, -, -, hmade, hkey, -⟩ := load_builds_sender hload
    obtain ⟨service, hservice⟩ := hmade .one hpair
    obtain ⟨raw, P, text, hraw, -, hspelling, htext, rfl, -⟩ := hkey service hservice nofun
    cases hraw
    refine ⟨settings, service, hload, hservice, ?_⟩
    rw [htext, hspelling _ isSpelling_pastedKeyText]
  · have hload : load ⟨[]⟩ = .ok plain := by decide +kernel
    obtain ⟨-, -, -, -, -, hdisabled, hidle⟩ := load_builds_sender hload
    have hnone := hdisabled.2 ⟨rfl, rfl, rfl⟩
    refine ⟨plain, hload, hnone, fun s n transport awaited => ?_⟩
    exact ((hidle hnone).2 s [.send n transport awaited] (by simp)).2.1

end WebPush
