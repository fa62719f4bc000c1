import WebPush.CommandLine.Generate
import WebPush.Proofs.CommandLine.Parameter
import WebPush.Proofs.Curve.Order
import WebPush.Proofs.Sender.Configuration
import WebPush.Proofs.Session
/-!
# Command line — generated keys configure a sender

What the program prints is a file of settings. Saved and loaded by a
process that has none of these settings yet, it is a configuration with
the contact that was given, and the service of this configuration hands
out the public key that was printed.
-/

namespace WebPush

open Environment

/-- What is over the alphabet of keys is a plain value. -/
theorem Base64Url.isPlainValue_encode (bs : Bytes) : IsPlainValue (encode bs).toList ∧
    hasNul (encode bs) = false := by
  have hplain {c : Char} (h : inAlphabet c = true) : Text.isLineBoundary c = false ∧
      Text.isBlank c = false ∧ c ≠ '"' ∧ c ≠ '\'' ∧ c ≠ '\x00' :=
    Text.forall_ascii (P := fun c => inAlphabet c = true → Text.isLineBoundary c = false ∧
      Text.isBlank c = false ∧ c ≠ '"' ∧ c ≠ '\'' ∧ c ≠ '\x00')
      (by decide +kernel) (toNat_lt_of_inAlphabet h) h
  have hall : ∀ c ∈ (encode bs).toList, inAlphabet c = true := by
    rw [encode, String.toList_ofList]
    exact inAlphabet_of_mem_encodeChars bs
  refine ⟨⟨fun c hc => (hplain (hall c hc)).1, fun c hc => ?_, fun c hc => ?_⟩, ?_⟩
  · obtain ⟨-, hblank, hdouble, hsingle, -⟩ := hplain (hall c (List.mem_of_head? hc))
    exact ⟨hblank, hdouble, hsingle⟩
  · exact (hplain (hall c (List.mem_of_getLast? hc))).2.1
  · rw [hasNul, ← Bool.not_eq_true, List.contains_iff_mem]
    exact fun h => (hplain (hall _ h)).2.2.2.2 rfl

theorem Base64Url.encode_ne_empty {bs : Bytes} (h : bs ≠ []) : encode bs ≠ "" := by
  intro hempty
  have hchars := congrArg String.toList hempty
  rw [encode, String.toList_ofList] at hchars
  exact encodeChars_ne_nil h hchars

namespace CommandLine.Generate

/-- A contact that stands on one line of a file, without a blank behind it. -/
structure IsPlainContact (subject : String) : Prop where
  isContact : Vapid.isContact subject = true
  noNul : '\x00' ∉ subject.toList
  oneLine : ∀ c ∈ subject.toList, Text.isLineBoundary c = false
  last : ∀ c ∈ subject.toList.getLast?, Text.isBlank c = false

/-- The settings that are printed for a private scalar and a contact. -/
def settingPairs (d : P256.Scalar) (subject : String) : List (String × String) :=
  [("VAPIDPUSH_VAPID_PUBLIC_KEY", Base64Url.encode d.publicPoint.toBytes),
    ("VAPIDPUSH_VAPID_PRIVATE_KEY", Base64Url.encode d.toBytes),
    ("VAPIDPUSH_VAPID_SUBJECT", subject)]

variable {subject : String}

/-! ## What is printed -/

theorem isLong_parameters : ∀ p ∈ parameters, p.IsLong := by
  simp only [parameters, List.forall_mem_cons]
  exact ⟨⟨⟨_, _, rfl⟩, by decide +kernel, by decide +kernel⟩, List.forall_mem_nil _⟩

/-- A contact begins with a small letter. -/
theorem exists_cons_of_isContact (h : Vapid.isContact subject = true) :
    ∃ c rest, subject.toList = c :: rest ∧ (c = 'm' ∨ c = 'h') := by
  obtain ⟨rest, hrest⟩ | ⟨rest, hrest⟩ := Vapid.isContact_iff.1 h
  · exact ⟨'m', "ailto:".toList ++ rest, hrest, .inl rfl⟩
  · exact ⟨'h', "ttps:".toList ++ rest, hrest, .inr rfl⟩

/-- **A contact is read** behind the name of its parameter, or as the next argument. -/
theorem exists_parse_eq_ok (h : Vapid.isContact subject = true) {args : List String}
    (hargs : args ∈ [["--subject", subject], ["--subject=" ++ subject]]) :
    ∃ parsed, parse parameters args = .ok parsed ∧ parsed.value? "--subject" = some subject := by
  have hvalue : classify (namesOf parameters) subject = .ok (.value subject) := by
    obtain ⟨c, rest, hsubject, hc⟩ := exists_cons_of_isContact h
    have hdash : c ≠ '-' := by
      rintro rfl
      revert hc
      decide
    simp [classify, hsubject, hdash]
  have hspells : Spells parameters [("--subject", subject)] args := by
    have hparameter : ({ name := "--subject" } : Parameter) ∈ parameters := List.mem_cons_self
    simp only [List.mem_cons, List.not_mem_nil, or_false] at hargs
    obtain rfl | rfl := hargs
    · exact .separate hparameter rfl hvalue .nil
    · exact .joined hparameter rfl .nil
  have hrequired : ∀ p ∈ parameters, p.isRequired = true →
      p.name ∈ [("--subject", subject)].map Prod.fst := by
    simp [parameters]
  exact ⟨_, parse_of_spells isLong_parameters hspells hrequired, rfl⟩

/-- The program draws a private scalar and prints its settings. -/
theorem run_eq (h : Vapid.isContact subject = true) {args : List String} {parsed : Parsed}
    (hparse : parse parameters args = .ok parsed)
    (hvalue : parsed.value? "--subject" = some subject) (entropy : Entropy) :
    run args entropy = (.ok
      { status := 0, output := unlines (settingLines entropy.drawScalar.1 (some subject)) },
      entropy.drawScalar.2) := by
  simp [run, hparse, hvalue, Option.filter, Vapid.isEmpty_of_isContact h, h]

theorem toList_unlines (lines : List String) :
    (unlines lines).toList = (lines.map String.toList).flatMap (· ++ ['\n']) := by
  rw [unlines, String.toList_join, List.flatMap_map, List.flatMap_map]
  simp

/-- **What is printed is a file of settings.** -/
theorem toList_output (d : P256.Scalar) (subject : String) :
    (unlines (settingLines d (some subject))).toList = assignmentText (settingPairs d subject) := by
  rw [toList_unlines, assignmentText]
  simp [settingLines, settingPairs, assignmentLine]

/-! ## What is read -/

theorem isSettingName_settingPairs (d : P256.Scalar) (subject : String) :
    ∀ pair ∈ settingPairs d subject, IsSettingName pair.1.toList := by
  simp only [settingPairs, List.forall_mem_cons]
  refine ⟨?_, ?_, ?_, List.forall_mem_nil _⟩
  all_goals exact ⟨by decide +kernel, by decide +kernel⟩

theorem IsPlainContact.isPlainValue (h : IsPlainContact subject) :
    IsPlainValue subject.toList where
  oneLine := h.oneLine
  head := by
    obtain ⟨c, rest, hsubject, hc⟩ := exists_cons_of_isContact h.isContact
    rw [hsubject]
    rintro _ ⟨⟩
    obtain rfl | rfl := hc <;> decide
  last := h.last

theorem IsPlainContact.isPlainValue_settingPairs (h : IsPlainContact subject) (d : P256.Scalar) :
    ∀ pair ∈ settingPairs d subject, IsPlainValue pair.2.toList ∧ hasNul pair.2 = false := by
  have hnul : hasNul subject = false := by
    rw [hasNul, ← Bool.not_eq_true, List.contains_iff_mem]
    exact h.noNul
  simp only [settingPairs, List.forall_mem_cons]
  exact ⟨Base64Url.isPlainValue_encode _, Base64Url.isPlainValue_encode _, ⟨h.isPlainValue, hnul⟩,
    List.forall_mem_nil _⟩

/-- **The settings that were printed are a configuration**, if nothing else is set. -/
theorem load_of_settingPairs (h : IsPlainContact subject) {env : Environment} (d : P256.Scalar)
    (hget : ∀ name ∈ Settings.variableNames, env.get? name = (settingPairs d subject).lookup name) :
    ∃ publicKey privateKey contact : Text.Filled,
      publicKey.text = Base64Url.encode d.publicPoint.toBytes ∧
      privateKey.text = Base64Url.encode d.toBytes ∧ contact.text = subject ∧
      Settings.load env = .ok ⟨some publicKey, some privateKey, some contact, none,
        Settings.defaultTimeout, 2419200, .info, none, 5242880, 10⟩ := by
  have htext {name value : String} (hname : name ∈ Settings.variableNames)
      (hlookup : (settingPairs d subject).lookup name = some value)
      (hvalue : IsPlainValue value.toList) (hne : value ≠ "") :
      Settings.textOf env name = some ⟨value, hne⟩ :=
    Settings.textOf_eq_some ((hget name hname).trans hlookup) hvalue.trim_eq hne
  have hpoint : d.publicPoint.toBytes ≠ [] := List.cons_ne_nil _ _
  have hscalar : d.toBytes ≠ [] := by
    rw [← List.length_pos_iff, P256.Scalar.length_toBytes]
    decide
  have hsubject : subject ≠ "" := by
    rintro rfl
    cases Vapid.isEmpty_of_isContact h.isContact
  refine ⟨⟨_, Base64Url.encode_ne_empty hpoint⟩, ⟨_, Base64Url.encode_ne_empty hscalar⟩,
    ⟨subject, hsubject⟩, rfl, rfl, rfl,
    Settings.load_of_unset ?_ ?_ ?_ h.isContact fun name hname => ?_⟩
  · exact htext (by decide +kernel) rfl (Base64Url.isPlainValue_encode _).1 _
  · exact htext (by decide +kernel) rfl (Base64Url.isPlainValue_encode _).1 _
  · exact htext (by decide +kernel) rfl h.isPlainValue hsubject
  · rw [hget name (List.mem_of_mem_drop hname)]
    revert name
    simp only [Settings.variableNames, List.drop_succ_cons, List.drop_zero, List.forall_mem_cons]
    exact ⟨rfl, rfl, rfl, rfl, rfl, rfl, rfl, rfl, List.forall_mem_nil _⟩

/-- **Generated keys configure a sender.** The program prints the public key, which is the multiple
of the generator by the scalar that it draws, the private key and the contact. A process that loads
these lines from a file, and has no setting of this library yet, has a configuration with that
contact; and the service of this configuration signs, and hands out the public key as it was
printed. -/
theorem run_configures {subject : String} (h : IsPlainContact subject) {entropy rest : Entropy}
    {d : P256.Scalar} (hd : entropy.drawScalar = (d, rest)) :
    (∀ args ∈ [["--subject", subject], ["--subject=" ++ subject]],
      ∃ parsed, parse parameters args = .ok parsed ∧ parsed.value? "--subject" = some subject) ∧
    ∃ P : P256.Point, P.toGroup = d.val • P256.generator.toGroup ∧
      ∃ output, output = unlines
          ["VAPIDPUSH_VAPID_PUBLIC_KEY=" ++ Base64Url.encode P.toBytes,
            "VAPIDPUSH_VAPID_PRIVATE_KEY=" ++ Base64Url.encode d.toBytes,
            "VAPIDPUSH_VAPID_SUBJECT=" ++ subject] ∧
        (∀ args parsed, parse parameters args = .ok parsed →
          parsed.value? "--subject" = some subject →
          run args entropy = (.ok { status := 0, output }, rest)) ∧
        ∀ (s : Session) (path : String) (override : Bool),
          s.files.read (Files.Path.ofString path) = .ok (Utf8.encode output) →
          (∀ name, Text.startsWith name "VAPIDPUSH_" = true → s.environment.get? name = none) →
          ∃ pairs after settings service,
            s.loadEnvironmentFile path override = (.ok pairs, after) ∧
            after.loadSettings = .ok settings ∧
            settings.vapidSubject.map Text.Filled.text = some subject ∧
            Service.ofSettings settings = .ok service ∧ service.vapidEnabled = true ∧
            service.vapidPublicKey = some (Base64Url.encode P.toBytes) := by
  refine ⟨fun args => exists_parse_eq_ok h.isContact, d.publicPoint, P256.toGroup_publicPoint d,
    unlines (settingLines d (some subject)), rfl, fun args parsed hparse hvalue => ?_, ?_⟩
  · rw [run_eq h.isContact hparse hvalue, hd]
  intro s path override hread hnew
  rw [Utf8.encode, toList_output] at hread
  have hfresh : ∀ name ∈ Settings.variableNames, s.environment.get? name = none := fun name hname =>
    hnew name (by
      revert name
      decide +kernel)
  have hnames : ∀ pair ∈ settingPairs d subject, pair.1 ∈ Settings.variableNames := by
    simp only [settingPairs, List.forall_mem_cons]
    decide +kernel
  have hnodup : ((settingPairs d subject).map Prod.fst).Nodup := by
    simp only [settingPairs, List.map_cons, List.map_nil]
    decide +kernel
  obtain ⟨after, hload, hget⟩ := Session.exists_loadEnvironmentFile_eq hread
    (isSettingName_settingPairs d subject) (h.isPlainValue_settingPairs d) hnodup
    (fun pair hpair => hfresh pair.1 (hnames pair hpair)) override
  -- What is not in the file was not set before and is not set now.
  have hvariables : ∀ name ∈ Settings.variableNames,
      after.environment.get? name = (settingPairs d subject).lookup name := fun name hname => by
    rw [hget, hfresh name hname, Option.or_none]
  obtain ⟨publicKey, privateKey, contact, hpublic, hprivate, hcontact, hsettings⟩ :=
    load_of_settingPairs h d hvariables
  have hpair : Settings.HasKeyPair ⟨some publicKey, some privateKey, some contact, none,
      Settings.defaultTimeout, 2419200, .info, none, 5242880, 10⟩ d :=
    ⟨⟨_, rfl, by rw [hpublic, PublicKey.load_text]⟩, _, rfl, by rw [hprivate, PrivateKey.load_text]⟩
  have hservice := Service.ofSettings_eq_make hpair
  simp only [Option.map_some, Option.map_none, Option.getD_some, hcontact,
    Service.make_ofScalar none h.isContact d] at hservice
  refine ⟨_, after, _, _, hload, by rw [Session.loadSettings, hsettings]; rfl, ?_, hservice, rfl, rfl⟩
  rw [Option.map_some, hcontact]

/-- A process whose only file holds what was printed. -/
def savedSession (output : String) : Session :=
  { Session.start ⟨[("HOME", "/")]⟩ ⟨fun _ => .one, fun _ => .zeros, 0, 0⟩ (.whole 0)
      (fun _ => "00:00:00") with
    files := ⟨[([".env".toList], Utf8.encode output)], []⟩ }

/-- The least private scalar, and a contact with quotes, signs and a blank in it. -/
theorem run_configures_least :
    let entropy : Entropy := ⟨fun _ => .one, fun _ => .zeros, 0, 0⟩
    let subject := "mailto:é@b?x=\"# 'y'"
    ∃ output, (∃ rest, run ["--subject", subject] entropy = (.ok { status := 0, output }, rest)) ∧
      ∃ pairs after settings service,
        (savedSession output).loadEnvironmentFile ".env" false = (.ok pairs, after) ∧
        after.loadSettings = .ok settings ∧
        settings.vapidSubject.map Text.Filled.text = some subject ∧
        Service.ofSettings settings = .ok service ∧ service.vapidEnabled = true ∧
        service.vapidPublicKey = some (Base64Url.encode P256.generator.toBytes) := by
  intro entropy subject
  have hplain : IsPlainContact subject := by
    have hline : subject.toList.all (!Text.isLineBoundary ·) = true := by decide +kernel
    have hlast : subject.toList.getLast? = some '\'' := by decide +kernel
    refine ⟨by decide +kernel, by decide +kernel, fun c hc => ?_, fun c hc => ?_⟩
    · simpa using List.all_eq_true.1 hline c hc
    · cases hlast.symm.trans hc
      decide
  have hd : entropy.drawScalar = (.one, entropy.drawScalar.2) := rfl
  obtain ⟨hparse, P, hP, output, -, hrun, hloads⟩ := run_configures hplain hd
  -- The least scalar is one, and its multiple is the generator.
  have hgenerator : P = P256.generator := P256.toGroup_injective (hP.trans (one_nsmul _))
  obtain ⟨parsed, hparsed, hvalue⟩ := hparse ["--subject", subject] List.mem_cons_self
  have hnew : ∀ name, Text.startsWith name "VAPIDPUSH_" = true →
      (savedSession output).environment.get? name = none := by
    intro name hname
    have hne : name ≠ "HOME" := by
      rintro rfl
      exact absurd hname (by decide +kernel)
    have hpairs : (savedSession output).environment.pairs = [("HOME", "/")] := rfl
    rw [Environment.get?, hpairs, List.lookup_cons, beq_eq_false_iff_ne.2 hne]
    rfl
  obtain ⟨pairs, after, settings, service, hload, hsettings, hsubject, hservice, henabled, hkey⟩ :=
    hloads (savedSession output) ".env" false rfl hnew
  exact ⟨output, ⟨_, hrun _ parsed hparsed hvalue⟩, pairs, after, settings, service, hload,
    hsettings, hsubject, hservice, henabled, hgenerator ▸ hkey⟩

end CommandLine.Generate

end WebPush
