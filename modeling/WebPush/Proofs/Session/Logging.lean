import WebPush.Proofs.Curve.Order
import WebPush.Proofs.Session
/-!
# Session — setting up the log

The log may be set up as often as anyone likes. An attempt comes to
nothing where the log file cannot be had, and then the loggers are as
they were. The first attempt that does not is the one that counts: from
then on the loggers follow its configuration, whatever configuration
later attempts bring and whatever has become of the files.
-/

namespace WebPush.Log

variable {settings : Settings} {tree : Files.Tree}

/-- The log file of a configuration can be had, if it is to have one: the folder it is in is there
or can be made, and the file itself is there or can be. -/
def CanOpen (settings : Settings) (tree : Files.Tree) : Prop :=
  ∀ text, settings.logFile = some text → ∃ made opened,
    tree.makeFolders (Files.Path.ofString text).parent = (.ok (), made) ∧
      made.append (Files.Path.ofString text) [] = .ok opened

/-- The handlers that a configuration asks for: the error stream and, if there is to be a log file,
that one file with its limit and its backups. -/
def askedHandlers (settings : Settings) : List Handler :=
  .stream :: (settings.logFile.map fun text =>
    .file ⟨.ofString text, settings.logMaxBytes, settings.logBackupCount⟩).toList

/-- **Loggers that follow a configuration**: records from its level on go to the handlers it asks
for and nowhere else, and the HTTP client is heard in full or only with its warnings. -/
structure Loggers.Follow (loggers : Loggers) (settings : Settings) : Prop where
  handlers : loggers.handlers = askedHandlers settings
  level : loggers.level = some settings.logLevel
  propagate : loggers.propagate = false
  debug : settings.logLevel = .debug → loggers.clientLevel = some .debug
  warning : settings.logLevel ≠ .debug → loggers.clientLevel = some .warning
  initialized : loggers.initialized = true

theorem Loggers.follow_routed (loggers : Loggers) (settings : Settings) :
    (loggers.routed (askedHandlers settings) settings.logLevel).Follow settings where
  handlers := rfl
  level := rfl
  propagate := rfl
  debug h := by rw [routed, if_pos h]
  warning h := by rw [routed, if_neg h]
  initialized := rfl

/-- **The handlers of a configuration are made all or none.** -/
theorem makeHandlers_cases (settings : Settings) (tree : Files.Tree) :
    (¬ CanOpen settings tree ∧ ∃ f files, makeHandlers settings tree = (.error f, files)) ∨
      (CanOpen settings tree ∧
        ∃ files, makeHandlers settings tree = (.ok (askedHandlers settings), files)) := by
  cases hfile : settings.logFile with
  | none =>
    refine .inr ⟨fun text htext => ?_, tree, ?_⟩
    · cases hfile.symm.trans htext
    · simp only [makeHandlers, askedHandlers, hfile, Option.map_none, Option.toList_none]
  | some text =>
    simp only [CanOpen, makeHandlers, askedHandlers, hfile, Option.some.injEq, forall_eq']
    cases hfolder : tree.makeFolders (Files.Path.ofString text).parent with
    | mk result made =>
      obtain e | ⟨⟩ := result
      · refine .inl ⟨?_, _, _, rfl⟩
        rintro ⟨made', opened, hmade, -⟩
        cases hmade
      cases happend : made.append (Files.Path.ofString text) [] with
      | error e =>
        refine .inl ⟨?_, .file e, made, by simp only [happend]⟩
        rintro ⟨made', opened, hmade, hopened⟩
        cases hmade
        cases happend.symm.trans hopened
      | ok opened =>
        refine .inr ⟨⟨made, opened, rfl, happend⟩, opened, ?_⟩
        simp only [happend, Option.map_some, Option.toList_some]

end WebPush.Log

namespace WebPush.Session

variable {s : Session} {attempts : List (Files.Tree × Settings)}

/-! ## One attempt -/

/-- Once the log is set up, setting it up again changes nothing. -/
theorem startLog_of_initialized (h : s.loggers.initialized = true) (settings : Settings) :
    s.startLog settings = (.ok (), s) := by
  rw [startLog, if_pos h]

/-- **An attempt has success or leaves the loggers alone.** It has success where the log file can
be had; where not, it may leave folders behind. -/
theorem startLog_cases (hnew : s.loggers.initialized = false) (settings : Settings) :
    (¬ Log.CanOpen settings s.files ∧
        ∃ f files, s.startLog settings = (.error f, { s with files })) ∨
      (Log.CanOpen settings s.files ∧ ∃ files errorStream loggers, loggers.Follow settings ∧
        s.startLog settings = (.ok (), { s with files, errorStream, loggers })) := by
  simp only [startLog, hnew, Bool.false_eq_true, if_false]
  obtain ⟨hopen, f, files, heq⟩ | ⟨hopen, files, heq⟩ := Log.makeHandlers_cases settings s.files
  · exact .inl ⟨hopen, f, files, by rw [heq]⟩
  · rw [heq]
    obtain ⟨files', errorStream, hemit⟩ := exists_emit_eq _ (Log.startedRecord settings.logLevel)
    exact .inr ⟨hopen, files', errorStream, _, s.loggers.follow_routed settings,
      congrArg (Prod.mk _) hemit⟩

/-- **The loggers are never set twice**, whatever the session is told to do. -/
theorem loggers_after (h : s.loggers.initialized = true) (commands : List Command) :
    (s.after commands).loggers = s.loggers := by
  refine after_invariant (P := fun t => t.loggers = s.loggers) (fun t ht command _ => ?_) rfl
  obtain rfl | heq := (spares_step t command).loggers
  · rw [step]
    split
    · exact ht
    · rw [startLog_of_initialized (by rw [ht, h])]
      exact ht
  · rw [heq, ht]

/-! ## Attempts one after the other -/

/-- What comes of attempts to set up the log, each with the files there are by then and for its own
configuration, and the session after them. -/
def startLogs (s : Session) :
    List (Files.Tree × Settings) → List (Except Log.SetupFault Unit) × Session
  | [] => ([], s)
  | (files, settings) :: rest =>
    let first := startLog { s with files } settings
    let others := startLogs first.2 rest
    (first.1 :: others.1, others.2)

theorem startLogs_append (s : Session) (first rest : List (Files.Tree × Settings)) :
    s.startLogs (first ++ rest) =
      ((s.startLogs first).1 ++ ((s.startLogs first).2.startLogs rest).1,
        ((s.startLogs first).2.startLogs rest).2) := by
  induction first generalizing s with
  | nil => rfl
  | cons attempt first ih => rw [List.cons_append, startLogs, ih]; rfl

/-- Attempts for which no log file can be had fail, and leave the loggers alone. -/
theorem startLogs_of_not_canOpen (hnew : s.loggers.initialized = false)
    (hnone : ∀ attempt ∈ attempts, ¬ Log.CanOpen attempt.2 attempt.1) :
    ∃ (faults : List Log.SetupFault) (files : Files.Tree),
    s.startLogs attempts = (faults.map .error, { s with files }) ∧
      faults.length = attempts.length := by
  induction attempts generalizing s with
  | nil => exact ⟨[], s.files, rfl, rfl⟩
  | cons attempt rest ih =>
    obtain ⟨files, settings⟩ := attempt
    obtain ⟨hattempt, hrest⟩ := List.forall_mem_cons.1 hnone
    -- A failed attempt may leave folders behind, so the others start from other files.
    obtain ⟨-, f, made, heq⟩ | ⟨hopen, -⟩ := startLog_cases (s := { s with files }) hnew settings
    · obtain ⟨faults, files', hothers, hlength⟩ := ih (s := { s with files := made }) hnew hrest
      refine ⟨f :: faults, files', ?_, congrArg (· + 1) hlength⟩
      rw [startLogs, heq]
      dsimp only
      rw [hothers]
      rfl
    · exact absurd hopen hattempt

/-- Attempts after a success have success too, and change nothing. -/
theorem startLogs_of_initialized (h : s.loggers.initialized = true)
    (attempts : List (Files.Tree × Settings)) : ∃ files,
    s.startLogs attempts = (List.replicate attempts.length (.ok ()), { s with files }) := by
  induction attempts generalizing s with
  | nil => exact ⟨s.files, rfl⟩
  | cons attempt rest ih =>
    obtain ⟨files, settings⟩ := attempt
    obtain ⟨files', heq⟩ := ih (s := { s with files }) h
    refine ⟨files', ?_⟩
    rw [startLogs, startLog_of_initialized (s := { s with files }) h]
    dsimp only
    rw [heq]
    rfl

/-- **The first attempt for which the log file can be had** sets the loggers, and the others leave
them alone: those before it fail, those behind it have success. -/
theorem startLogs_of_canOpen (hnew : s.loggers.initialized = false)
    {failed : List (Files.Tree × Settings)}
    (hnone : ∀ attempt ∈ failed, ¬ Log.CanOpen attempt.2 attempt.1) {files : Files.Tree}
    {settings : Settings} (hopen : Log.CanOpen settings files) :
    ∃ (faults : List Log.SetupFault) (errorStream : String) (loggers : Log.Loggers),
      loggers.Follow settings ∧ faults.length = failed.length ∧ ∀ later, ∃ files',
        s.startLogs (failed ++ (files, settings) :: later) =
          (faults.map .error ++ List.replicate (later.length + 1) (.ok ()),
            { s with files := files', errorStream, loggers }) := by
  obtain ⟨faults, between, hfailed, hlength⟩ := startLogs_of_not_canOpen hnew hnone
  obtain ⟨hclosed, -⟩ | ⟨-, opened, errorStream, loggers, hfollow, hfirst⟩ :=
    startLog_cases (s := { s with files }) hnew settings
  · exact absurd hopen hclosed
  refine ⟨faults, errorStream, loggers, hfollow, hlength, fun later => ?_⟩
  obtain ⟨files', hlater⟩ := startLogs_of_initialized
    (s := { s with files := opened, errorStream, loggers }) hfollow.initialized later
  refine ⟨files', ?_⟩
  rw [startLogs_append, hfailed]
  dsimp only
  rw [startLogs, hfirst]
  dsimp only
  rw [hlater]
  rfl

/-- **The log is set up once, and all or nothing of it.** Of attempts in a session whose log is not
set up, either none has success, and the loggers are as they were; or there is a first one with
success. Those before it have left the loggers as they were, after it the loggers follow its
configuration, and those behind it, whatever their configurations and files, have success and
change nothing; nor does anything else that the session is told to do change the loggers. -/
theorem startLogs_once (hnew : s.loggers.initialized = false)
    (attempts : List (Files.Tree × Settings)) :
    let results := (s.startLogs attempts).1
    let now := (s.startLogs attempts).2
    ((∀ attempt ∈ attempts, ¬ Log.CanOpen attempt.2 attempt.1) ∧
      (∀ result ∈ results, ∃ f, result = .error f) ∧ now.loggers = s.loggers) ∨
    ∃ failed files settings later,
      attempts = failed ++ (files, settings) :: later ∧
      (∀ attempt ∈ failed, ¬ Log.CanOpen attempt.2 attempt.1) ∧ Log.CanOpen settings files ∧
      (∃ faults : List Log.SetupFault,
        results = faults.map .error ++ List.replicate (later.length + 1) (.ok ()) ∧
        faults.length = failed.length) ∧
      (s.startLogs failed).2.loggers = s.loggers ∧
      now.loggers.Follow settings ∧
      (∃ files', now =
        { (s.startLogs (failed ++ [(files, settings)])).2 with files := files' }) ∧
      ∀ commands, (now.after commands).loggers = now.loggers := by
  intro results now
  -- Whether a file can be had is not decided, so the first such attempt is found classically.
  classical
  cases hfind : attempts.find? fun attempt => Log.CanOpen attempt.2 attempt.1 with
  | none =>
    have hnone : ∀ attempt ∈ attempts, ¬ Log.CanOpen attempt.2 attempt.1 := by
      simpa only [decide_eq_true_eq] using List.find?_eq_none.1 hfind
    obtain ⟨faults, files, heq, -⟩ := startLogs_of_not_canOpen hnew hnone
    refine .inl ⟨hnone, ?_, by simp only [now, heq]⟩
    simp only [results, heq, List.mem_map]
    rintro result ⟨f, -, rfl⟩
    exact ⟨f, rfl⟩
  | some attempt =>
    obtain ⟨files, settings⟩ := attempt
    obtain ⟨hopen, failed, later, rfl, hnone⟩ := List.find?_eq_some_iff_append.1 hfind
    simp only [decide_eq_true_eq, Bool.not_eq_true', decide_eq_false_iff_not] at hopen hnone
    obtain ⟨_, _, hfailed, -⟩ := startLogs_of_not_canOpen hnew hnone
    obtain ⟨faults, errorStream, loggers, hfollow, hlength, hrun⟩ :=
      startLogs_of_canOpen hnew hnone hopen
    obtain ⟨files₁, honce⟩ := hrun []
    obtain ⟨files₂, hall⟩ := hrun later
    have hnow : now = { s with files := files₂, errorStream, loggers } := congrArg Prod.snd hall
    have hloggers : now.loggers.Follow settings := by
      rw [hnow]
      exact hfollow
    exact .inr ⟨failed, files, settings, later, rfl, hnone, hopen,
      ⟨faults, congrArg Prod.fst hall, hlength⟩, by rw [hfailed], hloggers,
      ⟨files₂, by rw [hnow, honce]⟩, loggers_after hloggers.initialized⟩

/-- A file is in the place of the log folder, then a folder in the place of the log file; the third
attempt counts, and the fourth does not mind that the first obstacle is back. -/
theorem startLogs_once_obstructed :
    let s := start ⟨[]⟩ ⟨fun _ => .one, fun _ => .zeros, 0, 0⟩ (.whole 0) fun _ => "00:00:00"
    let quiet : Settings :=
      ⟨none, none, none, none, Settings.defaultTimeout, 0, .info, some ⟨"logs/push.log", by decide⟩,
        1000, 2⟩
    let verbose : Settings := { quiet with logLevel := .debug, logBackupCount := 5 }
    let folder : Files.Place := ["logs".toList]
    let file : Files.Place := ["logs".toList, "push.log".toList]
    let attempts : List (Files.Tree × Settings) :=
      [(⟨[(folder, [])], []⟩, quiet), (⟨[], [folder, file]⟩, quiet), ({}, verbose),
        (⟨[(folder, [])], []⟩, quiet)]
    s.loggers.initialized = false ∧
      (s.startLogs attempts).1 =
        [.error (.folder "logs" ⟨.exists, "logs"⟩),
          .error (.file ⟨.isFolder, "logs/push.log"⟩), .ok (), .ok ()] ∧
      (s.startLogs (attempts.take 2)).2.loggers = s.loggers ∧
      (s.startLogs attempts).2.loggers.Follow verbose := by
  intro s quiet verbose folder file attempts
  have hresults : (s.startLogs attempts).1 =
      [.error (.folder "logs" ⟨.exists, "logs"⟩),
        .error (.file ⟨.isFolder, "logs/push.log"⟩), .ok (), .ok ()] := by
    decide +kernel
  obtain ⟨-, hnone, -⟩ | ⟨failed, files, settings, later, hattempts, -, -,
      ⟨faults, heq, hlength⟩, hloggers, hfollow, -⟩ := startLogs_once (s := s) rfl attempts
  · obtain ⟨f, hf⟩ := hnone (.ok ()) (by simp [hresults])
    cases hf
  · rw [hresults] at heq
    have htwo : faults.length = 2 := by
      rcases faults with _ | ⟨f, _ | ⟨g, _ | ⟨h, faults⟩⟩⟩ <;>
        simp [List.replicate_succ] at heq ⊢
    obtain ⟨hfailed, hrest⟩ : attempts.take 2 = failed ∧ attempts.drop 2 =
        (files, settings) :: later := by
      rw [hattempts]
      have := htwo ▸ hlength
      simp [this]
    cases hrest
    subst hfailed
    exact ⟨rfl, hresults, hloggers, hfollow⟩

end WebPush.Session
