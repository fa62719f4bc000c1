import WebPush.Proofs.Environment.Update
import WebPush.Proofs.Text.Utf8
import WebPush.Session
/-!
# Session — from the start to a sender that is in place

A file of settings fills the environment. A program that sends first
remembers its configuration and sets up its log, and then builds its
sender. Each of these changes its own part of the session and, because
it may write to the log, the files and the error stream; all else stays
as it is, the clock among it.
-/

namespace WebPush.Session

variable {s ready : Session} {settings : Settings}

/-! ## Files of settings -/

/-- A file assigns settings, if it can be read. -/
theorem areSettings_of_readEnvironmentFile {path : String} {pairs : List (String × String)}
    (h : s.readEnvironmentFile path = .ok pairs) : Environment.AreSettings pairs := by
  have hempty : Environment.AreSettings [] := ⟨List.forall_mem_nil _, List.nodup_nil⟩
  rw [readEnvironmentFile] at h
  split at h
  · cases h
    exact hempty
  split at h
  · cases h
  rename_i text _
  cases hparse : Environment.parseFile (Files.Path.ofString path).toString text with
  | error f =>
    rw [hparse] at h
    cases h
  | ok parsed =>
    rw [hparse] at h
    cases h
    exact Environment.areSettings_of_readLines hparse hempty

/-- **A file is applied in full**, as far as its pairs are pending, if their values hold no NUL. -/
theorem loadEnvironmentFile_eq_ok {path : String} {pairs : List (String × String)} {override : Bool}
    (hread : s.readEnvironmentFile path = .ok pairs)
    (hnul : ∀ pair ∈ Environment.pending override s.environment pairs,
      Environment.hasNul pair.2 = false) :
    s.loadEnvironmentFile path override =
      (.ok (Environment.pending override s.environment pairs),
        { s with environment :=
            s.environment.putAll (Environment.pending override s.environment pairs) }) := by
  have happly := Environment.applyPairs_eq_ok (areSettings_of_readEnvironmentFile hread) hnul
  simp only [loadEnvironmentFile, hread, happly]

/-- **A file of assignments is applied in full** to an environment that sets none of its names. -/
theorem exists_loadEnvironmentFile_eq {path : String} {pairs : List (String × String)}
    (hread : s.files.read (Files.Path.ofString path) =
      .ok (Utf8.encodeChars (Environment.assignmentText pairs)))
    (hname : ∀ pair ∈ pairs, Environment.IsSettingName pair.1.toList)
    (hvalue : ∀ pair ∈ pairs, Environment.IsPlainValue pair.2.toList ∧
      Environment.hasNul pair.2 = false)
    (hnodup : (pairs.map Prod.fst).Nodup) (hnew : ∀ pair ∈ pairs, s.environment.get? pair.1 = none)
    (override : Bool) :
    ∃ after, s.loadEnvironmentFile path override = (.ok pairs, after) ∧
      ∀ name, after.environment.get? name = (pairs.lookup name).or (s.environment.get? name) := by
  have hparse := Environment.parseFile_assignmentText (Files.Path.ofString path).toString
    (fun pair hpair => ⟨hname pair hpair, (hvalue pair hpair).1⟩) hnodup
  have hpairs : s.readEnvironmentFile path = .ok pairs := by
    simp only [readEnvironmentFile, hread, Utf8.decodeChars?_encodeChars, hparse, Except.mapError]
  have hpending := Environment.pending_eq_self override hnew
  have hclean : ∀ pair ∈ Environment.pending override s.environment pairs,
      Environment.hasNul pair.2 = false := fun pair hpair => (hvalue pair (hpending ▸ hpair)).2
  have hload := loadEnvironmentFile_eq_ok hpairs hclean
  rw [hpending] at hload
  exact ⟨_, hload, fun name => Environment.get?_putAll hnodup name⟩

/-! ## What an operation may change -/

/-- A line changes the files and the error stream at most. -/
theorem exists_foldl_handle_eq (line : String) (handlers : List Log.Handler) (s : Session) :
    ∃ files errorStream, handlers.foldl (handle line) s = { s with files, errorStream } := by
  induction handlers generalizing s with
  | nil => exact ⟨_, _, rfl⟩
  | cons handler rest ih =>
    obtain ⟨files, errorStream, heq⟩ := ih (s.handle line handler)
    rw [List.foldl_cons, heq]
    cases handler <;> exact ⟨_, _, rfl⟩

/-- **A record changes the files and the error stream at most.** -/
theorem exists_emit_eq (s : Session) (record : Log.Record) :
    ∃ files errorStream, s.emit record = { s with files, errorStream } := by
  rw [emit]
  split
  · exact exists_foldl_handle_eq _ _ s
  · exact ⟨_, _, rfl⟩

/-- And so do several. -/
theorem exists_emitAll_eq (s : Session) (records : List Log.Record) :
    ∃ files errorStream, s.emitAll records = { s with files, errorStream } := by
  rw [emitAll]
  induction records generalizing s with
  | nil => exact ⟨_, _, rfl⟩
  | cons record rest ih =>
    obtain ⟨files, errorStream, hemit⟩ := exists_emit_eq s record
    obtain ⟨files', errorStream', heq⟩ := ih (s.emit record)
    rw [List.foldl_cons, heq, hemit]
    exact ⟨_, _, rfl⟩

/-- Setting up the log changes the loggers besides. -/
theorem exists_startLog_eq (s : Session) (settings : Settings) :
    ∃ files errorStream loggers,
      (s.startLog settings).2 = { s with files, errorStream, loggers } := by
  rw [startLog]
  split
  · exact ⟨_, _, _, rfl⟩
  split
  · exact ⟨_, _, _, rfl⟩
  · obtain ⟨files, errorStream, heq⟩ := exists_emit_eq _ _
    exact ⟨_, _, _, heq⟩

/-- Asking for the configuration changes what is remembered. -/
theorem exists_cachedSettings_eq (s : Session) :
    ∃ files errorStream settings,
      s.cachedSettings.2 = { s with files, errorStream, settings } := by
  rw [cachedSettings]
  split
  · exact ⟨_, _, _, rfl⟩
  split
  · exact ⟨_, _, _, rfl⟩
  · obtain ⟨files, errorStream, heq⟩ := exists_emit_eq _ _
    exact ⟨_, _, _, heq⟩

/-- Building a sender changes the sender. -/
theorem exists_buildSender_eq (s : Session) (settings : Settings) :
    ∃ files errorStream sender,
      (s.buildSender settings).2 = { s with files, errorStream, sender } := by
  have hrecord (record : Option Log.Record) : ∃ files errorStream,
      record.elim s s.emit = { s with files, errorStream } := by
    cases record with
    | none => exact ⟨_, _, rfl⟩
    | some record => exact exists_emit_eq s record
  rw [buildSender]
  cases Sender.ofSettings settings with
  | mk result record =>
    obtain ⟨files, errorStream, heq⟩ := hrecord record
    cases result <;> simp only [heq] <;> exact ⟨_, _, _, rfl⟩

/-- Writing a file changes the files. -/
theorem exists_writeFile_eq (s : Session) (path : String) (content : Bytes) :
    ∃ files, (s.writeFile path content).2 = { s with files } := by
  simp only [writeFile]
  split
  · exact ⟨_, rfl⟩
  · split <;> exact ⟨_, rfl⟩

/-- Applying a file of settings changes the environment, as far as it gets. -/
theorem exists_snd_loadEnvironmentFile_eq (s : Session) (path : String) (override : Bool) :
    ∃ environment, (s.loadEnvironmentFile path override).2 = { s with environment } := by
  rw [loadEnvironmentFile]
  split
  · exact ⟨_, rfl⟩
  · dsimp only
    split <;> exact ⟨_, rfl⟩

/-- Sending changes the source of random values. -/
theorem exists_snd_send_eq (s : Session) (n : Notification) (transport : Transport)
    (awaited : Bool) :
    ∃ files errorStream entropy,
      (s.send n transport awaited).2 = { s with files, errorStream, entropy } := by
  rw [send]
  split
  · exact ⟨_, _, _, rfl⟩
  · obtain ⟨files, errorStream, heq⟩ := exists_emitAll_eq _ _
    exact ⟨_, _, _, heq⟩

/-- The command asks for the configuration as it was when it was first asked for. -/
def Command.Asks : Command → Prop
  | .cachedSettings => True
  | .buildSender cached => cached = true
  | _ => False

/-- **What a command leaves alone**: each of the configuration that is remembered, the sender, the
random values and the loggers is changed by the commands about it and by no others. -/
structure Command.Spares (command : Command) (s after : Session) : Prop where
  settings : command.Asks ∨ command = .clearCache ∨ after.settings = s.settings
  sender : (∃ cached, command = .buildSender cached) ∨ after.sender = s.sender
  entropy : (∃ n transport awaited, command = .send n transport awaited) ∨
    after.entropy = s.entropy
  loggers : command = .setUpLog ∨ after.loggers = s.loggers

/-- The rest of a session may be changed by every command. -/
theorem Command.spares_rest {command : Command} {environment : Environment} {files : Files.Tree}
    {errorStream : String} {now : Seconds} :
    command.Spares s { s with environment, files, errorStream, now } :=
  ⟨.inr (.inr rfl), .inr rfl, .inr rfl, .inr rfl⟩

theorem spares_step (s : Session) (command : Command) : command.Spares s (s.step command).2 := by
  cases command with
  | clearCache => exact ⟨.inr (.inl rfl), .inr rfl, .inr rfl, .inr rfl⟩
  | cachedSettings =>
    obtain ⟨files, errorStream, settings, heq⟩ := exists_cachedSettings_eq s
    rw [step, heq]
    exact ⟨.inl trivial, .inr rfl, .inr rfl, .inr rfl⟩
  | buildSender cached =>
    cases cached with
    | true =>
      obtain ⟨files, errorStream, settings, heq⟩ := exists_cachedSettings_eq s
      rw [step, if_pos rfl]
      dsimp only
      rw [heq]
      split
      · exact ⟨.inl rfl, .inr rfl, .inr rfl, .inr rfl⟩
      · obtain ⟨files', errorStream', sender, hbuild⟩ := exists_buildSender_eq _ ‹Settings›
        rw [hbuild]
        exact ⟨.inl rfl, .inl ⟨_, rfl⟩, .inr rfl, .inr rfl⟩
    | false =>
      rw [step, if_neg Bool.false_ne_true]
      dsimp only
      split
      · exact Command.spares_rest
      · obtain ⟨files, errorStream, sender, heq⟩ := exists_buildSender_eq s ‹Settings›
        rw [heq]
        exact ⟨.inr (.inr rfl), .inl ⟨_, rfl⟩, .inr rfl, .inr rfl⟩
  | setVariable name value =>
    rw [step]
    split <;> exact Command.spares_rest
  | writeFile path content =>
    obtain ⟨files, heq⟩ := exists_writeFile_eq s path content
    have hstep : (s.step (.writeFile path content)).2 = (s.writeFile path content).2 := by
      rw [step]
      split <;> rename_i hwrite <;> rw [hwrite]
    rw [hstep, heq]
    exact Command.spares_rest
  | loadEnvironmentFile path override =>
    obtain ⟨environment, heq⟩ := exists_snd_loadEnvironmentFile_eq s path override
    rw [step, heq]
    exact Command.spares_rest
  | buildService =>
    rw [step]
    split <;> exact Command.spares_rest
  | send n transport awaited =>
    obtain ⟨files, errorStream, entropy, heq⟩ := exists_snd_send_eq s n transport awaited
    rw [step, heq]
    exact ⟨.inr (.inr rfl), .inr rfl, .inl ⟨n, transport, awaited, rfl⟩, .inr rfl⟩
  | setUpLog =>
    cases hload : s.loadSettings with
    | error f =>
      rw [step, hload]
      exact Command.spares_rest
    | ok settings =>
      obtain ⟨files, errorStream, loggers, heq⟩ := exists_startLog_eq s settings
      have hstep : (s.step .setUpLog).2 = (s.startLog settings).2 := by
        rw [step, hload]
        dsimp only
        split <;> rename_i hstart <;> rw [hstart]
      rw [hstep, heq]
      exact ⟨.inr (.inr rfl), .inr rfl, .inr rfl, .inl rfl⟩
  | log record =>
    obtain ⟨files, errorStream, heq⟩ := exists_emit_eq s record
    rw [step, heq]
    exact Command.spares_rest
  | _ => exact Command.spares_rest

/-! ### Runs -/

/-- The session after commands. -/
def after (s : Session) (commands : List Command) : Session := (s.run commands).2

theorem after_append (s : Session) (first rest : List Command) :
    s.after (first ++ rest) = (s.after first).after rest := by
  induction first generalizing s with
  | nil => rfl
  | cons command first ih => exact ih _

theorem after_concat (s : Session) (commands : List Command) (command : Command) :
    s.after (commands ++ [command]) = ((s.after commands).step command).2 :=
  after_append s commands [command]

/-- What each command of a run keeps, the run keeps. -/
theorem after_invariant {P : Session → Prop} {commands : List Command}
    (hstep : ∀ t, P t → ∀ command ∈ commands, P (t.step command).2) (h : P s) :
    P (s.after commands) := by
  induction commands generalizing s with
  | nil => exact h
  | cons command rest ih =>
    exact ih (fun t ht c hc => hstep t ht c (List.mem_cons_of_mem _ hc))
      (hstep s h command List.mem_cons_self)

/-! ### Single operations -/

@[simp] theorem now_emit (s : Session) (record : Log.Record) : (s.emit record).now = s.now := by
  obtain ⟨_, _, heq⟩ := exists_emit_eq s record
  rw [heq]

@[simp] theorem entropy_emit (s : Session) (record : Log.Record) :
    (s.emit record).entropy = s.entropy := by
  obtain ⟨_, _, heq⟩ := exists_emit_eq s record
  rw [heq]

@[simp] theorem entropy_emitAll (s : Session) (records : List Log.Record) :
    (s.emitAll records).entropy = s.entropy := by
  obtain ⟨_, _, heq⟩ := exists_emitAll_eq s records
  rw [heq]

/-- Setting up the log takes no time. -/
theorem now_of_setUpLog (h : s.setUpLog settings = .ok ready) : ready.now = s.now := by
  obtain ⟨files, errorStream, loggers, heq⟩ := exists_startLog_eq s settings
  rw [setUpLog] at h
  split at h
  · cases h
  · rename_i hstart
    cases h
    rw [hstart] at heq
    change ready = _ at heq
    rw [heq]

/-- Without handlers a record goes nowhere. -/
theorem emit_eq_self (h : s.loggers.handlers = []) (record : Log.Record) : s.emit record = s := by
  rw [emit, h, List.foldl_nil, ite_self]

/-- Where records go to the error stream alone, they leave the files as they are. -/
theorem files_emit (h : s.loggers.handlers = [.stream]) (record : Log.Record) :
    (s.emit record).files = s.files := by
  rw [emit, h]
  split <;> rfl

/-! ## Becoming ready -/

/-- The session that remembers a configuration. -/
def remembering (s : Session) (settings : Settings) : Session :=
  ({ s with settings := some settings }).emit settings.loadedRecord

/-- A configuration that can be read is remembered when it is asked for first. -/
theorem cachedSettings_eq_ok (hnew : s.settings = none)
    (hload : Settings.load s.environment = .ok settings) :
    s.cachedSettings = (.ok settings, s.remembering settings) := by
  simp only [cachedSettings, hnew, loadSettings, hload]
  rfl

/-- **A session becomes ready** when its configuration has been read, now or before, and the log
has been set up, if there is to be one. -/
def Readies (s : Session) (withLog : Bool) (settings : Settings) (ready : Session) : Prop :=
  ∃ remembered, s.cachedSettings = (.ok settings, remembered) ∧
    (if withLog then remembered.setUpLog settings else .ok remembered) = .ok ready

/-- The session once a configuration is remembered and the log is set up, if there is to be one. -/
def readied (s : Session) (settings : Settings) (withLog : Bool) : Except Log.SetupFault Session :=
  if withLog then (s.remembering settings).setUpLog settings else .ok (s.remembering settings)

theorem readies_of_readied {withLog : Bool} (hnew : s.settings = none)
    (hload : Settings.load s.environment = .ok settings)
    (h : s.readied settings withLog = .ok ready) : s.Readies withLog settings ready :=
  ⟨s.remembering settings, cachedSettings_eq_ok hnew hload, h⟩

theorem now_of_readied {withLog : Bool} (h : s.readied settings withLog = .ok ready) :
    ready.now = s.now := by
  have hremembering : (s.remembering settings).now = s.now := now_emit _ _
  rw [readied] at h
  split at h
  · rw [now_of_setUpLog h, hremembering]
  · cases h
    exact hremembering

/-- A log without a file is set up in every new session, and leaves the files as they are. -/
theorem exists_readied_eq_ok (hnew : s.loggers = {}) (hfile : settings.logFile = none)
    (withLog : Bool) : ∃ ready, s.readied settings withLog = .ok ready ∧ ready.files = s.files := by
  have hremembering : s.remembering settings = { s with settings := some settings } :=
    emit_eq_self (s := { s with settings := some settings }) (congrArg Log.Loggers.handlers hnew) _
  rw [readied, hremembering]
  cases withLog with
  | false => exact ⟨_, rfl, rfl⟩
  | true =>
    rw [if_pos rfl, setUpLog, startLog, Log.makeHandlers, hfile, hnew]
    exact ⟨_, rfl, files_emit rfl _⟩

/-- A configuration that gives a sender puts it in place. -/
theorem exists_buildSender_eq_ok {sender : Sender}
    (h : (Sender.ofSettings settings).1 = .ok sender) : ∃ after,
    s.buildSender settings = (.ok sender, after) ∧
      after.sender = some sender ∧ after.now = s.now ∧ after.entropy = s.entropy := by
  simp only [buildSender, h]
  refine ⟨_, rfl, rfl, ?_⟩
  cases (Sender.ofSettings settings).2 with
  | none => exact ⟨rfl, rfl⟩
  | some record => exact ⟨now_emit s record, entropy_emit s record⟩

/-- A configuration that gives none says why. -/
theorem exists_buildSender_eq_error {e : ServiceError}
    (h : (Sender.ofSettings settings).1 = .error e) : ∃ after,
    s.buildSender settings = (.error (.service e), after) := by
  simp only [buildSender, h]
  exact ⟨_, rfl⟩

/-- What is sent is what the sender that is in place sends. -/
theorem exists_send_eq {sender : Sender} (h : s.sender = some sender) (n : Notification)
    (transport : Transport) : ∃ after,
    s.send n transport false = ((sender.send n s.now transport (.start s.entropy)).1, after) := by
  simp only [send, h, Bool.false_eq_true, if_false]
  exact ⟨_, rfl⟩

end WebPush.Session
