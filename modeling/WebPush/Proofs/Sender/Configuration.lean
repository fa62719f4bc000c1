import WebPush.Proofs.Service.Steps
import WebPush.Proofs.Settings
import WebPush.Sender
/-!
# Sender — configurations that give a working sender

What was read from an environment has passed the checks: its default
lifetime has few digits, and a key pair comes with a contact. If the two
keys belong together, nothing is missing for a sender that delivers.
-/

namespace WebPush

namespace Settings

variable {env : Environment} {s : Settings}

/-- The integer of a variable has few digits, if the default has. -/
theorem natAbs_lt_of_integerOf {name : String} {default n : Int}
    (hdefault : default.natAbs < 10 ^ Number.maxDigits) (h : integerOf env name default = .ok n) :
    n.natAbs < 10 ^ Number.maxDigits := by
  rw [integerOf] at h
  split at h
  · injection h with h
    rwa [← h]
  split at h
  · rename_i hread
    injection h with h
    rw [← h]
    exact Number.natAbs_lt_of_readInt hread
  all_goals cases h

/-- **What a configuration that was read has passed**: its default lifetime can be written out,
and the check of its key pair found nothing. The public key is the text of its variable. -/
theorem of_load (h : load env = .ok s) : s.defaultTtl < 10 ^ Number.maxDigits ∧
    checkVapid s.vapidPublicKey s.vapidPrivateKey s.vapidSubject = .ok () ∧
      s.vapidPublicKey = textOf env "VAPIDPUSH_VAPID_PUBLIC_KEY" := by
  have hread := load_eq_ok_iff.1 h
  have hsmall : (2419200 : Int).natAbs < 10 ^ Number.maxDigits :=
    Nat.lt_of_lt_of_le (by decide : 2419200 < 10 ^ 7) (Nat.pow_le_pow_right (by decide) (by decide))
  have hdigits := natAbs_lt_of_integerOf hsmall hread.defaultTtl
  rw [Int.natAbs_natCast] at hdigits
  exact ⟨hdigits, hread.vapid, hread.publicKey⟩

/-- A public key that passed the check comes with a contact. -/
theorem exists_subject_of_checkVapid {publicKey : Text.Filled}
    {privateKey subject : Option Text.Filled}
    (h : checkVapid (some publicKey) privateKey subject = .ok ()) :
    ∃ contact, subject = some contact ∧ Vapid.isContact contact = true := by
  rw [checkVapid.eq_def] at h
  obtain ⟨_, -, h⟩ := exists_of_bind_eq_ok h
  rw [Option.isSome_some, if_pos rfl] at h
  cases subject with
  | none => cases h
  | some contact => exact ⟨contact, rfl, of_require h⟩

/-- A text that is trimmed already is the text of its variable. -/
theorem textOf_eq_some {name value : String} (hget : env.get? name = some value)
    (htrim : Text.trim value.toList = value.toList) (hne : value ≠ "") :
    textOf env name = some ⟨value, hne⟩ := by
  have htrimmed : Text.trimmed value = value := by
    rw [Text.trimmed, htrim, String.ofList_toList]
  rw [textOf, hget, Option.bind_some, htrimmed, Text.filled?_eq_some_iff]

/-- **Keys and a contact are a configuration**: every other variable may be left unset. -/
theorem load_of_unset {publicKey privateKey subject : Text.Filled}
    (hpublic : textOf env "VAPIDPUSH_VAPID_PUBLIC_KEY" = some publicKey)
    (hprivate : textOf env "VAPIDPUSH_VAPID_PRIVATE_KEY" = some privateKey)
    (hsubject : textOf env "VAPIDPUSH_VAPID_SUBJECT" = some subject)
    (hcontact : Vapid.isContact subject = true)
    (hunset : ∀ name ∈ variableNames.drop 3, env.get? name = none) :
    load env = .ok ⟨some publicKey, some privateKey, some subject, none, defaultTimeout, 2419200,
      .info, none, 5242880, 10⟩ := by
  have htext {name : String} (h : env.get? name = none) : textOf env name = none := by
    rw [textOf, h, Option.bind_none]
  have hnumber {name : String} (h : env.get? name = none) (default : Double) :
      numberOf env name default = .ok default := by
    rw [numberOf, h]
  have hinteger {name : String} (h : env.get? name = none) (default : Int) :
      integerOf env name default = .ok default := by
    rw [integerOf, h]
  simp only [variableNames, List.drop_succ_cons, List.drop_zero, List.forall_mem_cons] at hunset
  obtain ⟨hgcm, htimeout, httl, hdebug, hlevel, hfile, hbytes, hcount, -⟩ := hunset
  have hlevelName : levelName env = "INFO" := by
    rw [levelName, isOn, hdebug, hlevel]
    rfl
  have hinfo : Log.Level.ofName? "INFO" = some .info := by decide +kernel
  have hpositive : defaultTimeout.isNonPositive = false := by decide +kernel
  have hvapid : checkVapid (some publicKey) (some privateKey) (some subject) = .ok () := by
    rw [Vapid.isContact] at hcontact
    simp only [checkVapid, Option.isSome_some, beq_self_eq_true, require, if_true, bind,
      Except.bind, hcontact]
  have hsize : 0 < 5242880 := by decide
  exact load_eq_ok_iff.2 ⟨hpublic.symm, hprivate.symm, hsubject.symm, (htext hgcm).symm,
    hnumber htimeout _, hpositive, hinteger httl _, hlevelName ▸ hinfo, (htext hfile).symm,
    hinteger hbytes _, hsize, hinteger hcount _, hvapid⟩

/-- The keys of a configuration are those of a private scalar. -/
structure HasKeyPair (s : Settings) (e : P256.Scalar) : Prop where
  publicKey : ∃ text, s.vapidPublicKey = some text ∧
    PublicKey.load (.encoded (.text text)) = .ok e.publicPoint
  privateKey : ∃ text, s.vapidPrivateKey = some text ∧
    PrivateKey.load (.encoded (.text text)) = .ok e

end Settings

/-- The service of a configuration with a key pair. -/
theorem Service.ofSettings_eq_make {s : Settings} {e : P256.Scalar} (h : s.HasKeyPair e) :
    Service.ofSettings s =
      Service.make (s.gcmApiKey.map Text.Filled.text)
        (some ((s.vapidSubject.map Text.Filled.text).getD "")) (some (.ofScalar e)) := by
  obtain ⟨⟨publicText, hpublic, hpoint⟩, ⟨privateText, hprivate, hscalar⟩⟩ := h
  have hpair : KeyPair.load (.text publicText) (.text privateText) = .ok (.ofScalar e) := by
    simp only [KeyPair.load, hpoint, hscalar]
    rfl
  simp only [Service.ofSettings, hpublic, hprivate, Service.ofEncodedKeys, hpair]

/-- Such a configuration gives a service, for it has a contact. -/
theorem Service.exists_ofSettings_eq {env : Environment} {s : Settings} {e : P256.Scalar}
    (hload : Settings.load env = .ok s) (h : s.HasKeyPair e) :
    ∃ service, Service.ofSettings s = .ok service := by
  obtain ⟨publicText, hpublic, -⟩ := h.publicKey
  have hvapid := (Settings.of_load hload).2.1
  rw [hpublic] at hvapid
  obtain ⟨contact, hsubject, hcontact⟩ := Settings.exists_subject_of_checkVapid hvapid
  have hservice := Service.ofSettings_eq_make h
  rw [hsubject, Option.map_some, Option.getD_some, Service.make_ofScalar _ hcontact e] at hservice
  exact ⟨_, hservice⟩

/-- **A configuration with a key pair gives a sender that delivers.** -/
theorem Sender.exists_ofSettings_eq {env : Environment} {s : Settings} {e : P256.Scalar}
    (hload : Settings.load env = .ok s) (h : s.HasKeyPair e) :
    ∃ service, Sender.ofSettings s = (.ok (.http service (.real s.timeout)), none) := by
  obtain ⟨publicText, hpublic, -⟩ := h.publicKey
  obtain ⟨privateText, hprivate, -⟩ := h.privateKey
  obtain ⟨service, hservice⟩ := Service.exists_ofSettings_eq hload h
  refine ⟨service, ?_⟩
  simp only [ofSettings, Settings.vapidConfigured, hpublic, hprivate, Option.isSome_some,
    Bool.and_self, Bool.not_true, Bool.false_and, Bool.false_eq_true, if_false, hservice]
  rfl

end WebPush
