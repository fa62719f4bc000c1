import WebPush.Proofs.Curve.Order
import WebPush.Proofs.Environment.Grammar
import WebPush.Proofs.Session
/-!
# Session — what a file of settings is read as

A file whose octets write a text is read by the rules for its lines. It
is refused just when one of its lines has a fault, and then for the first
of these, at its path and with its number. Otherwise its pairs are those
of the assignments that its lines make.
-/

namespace WebPush.Session

variable {s : Session} {path : String} {text : List Char}

/-- A file that writes a text is read as the text is parsed. -/
theorem readEnvironmentFile_eq
    (hfile : s.files.read (Files.Path.ofString path) = .ok (Utf8.encodeChars text)) :
    s.readEnvironmentFile path =
      (Environment.parseFile (Files.Path.ofString path).toString text).mapError .line := by
  simp only [readEnvironmentFile, hfile, Utf8.decodeChars?_encodeChars]

/-- What is refused is refused for the first fault of the file. -/
theorem readEnvironmentFile_eq_error_iff
    (hfile : s.files.read (Files.Path.ofString path) = .ok (Utf8.encodeChars text)) {f : Fault} :
    s.readEnvironmentFile path = .error f ↔ ∃ number fault,
      Environment.IsFirstFault (Text.lines (Text.normalizeNewlines text)) number fault ∧
        f = .line ⟨(Files.Path.ofString path).toString, number, fault⟩ := by
  rw [readEnvironmentFile_eq hfile, Environment.parseFile]
  constructor
  · intro h
    cases hread : Environment.readLines (Files.Path.ofString path).toString 1 []
        (Text.lines (Text.normalizeNewlines text)) with
    | ok pairs =>
      rw [hread] at h
      cases h
    | error e =>
      rw [hread] at h
      cases h
      obtain ⟨number, fault, rfl, hfirst⟩ := Environment.readLines_eq_error_iff.1 hread
      exact ⟨number, fault, hfirst, rfl⟩
  · rintro ⟨number, fault, hfirst, rfl⟩
    rw [Environment.readLines_of_isFirstFault hfirst]
    rfl

/-- A file of one line that assigns a value gives that value. -/
theorem readEnvironmentFile_of_readLine
    (hfile : s.files.read (Files.Path.ofString path) = .ok (Utf8.encodeChars text))
    (hline : ∀ c ∈ text, Text.isLineBoundary c = false) {name value : List Char}
    (hread : Environment.readLine text = .ok (.assignment name value)) :
    s.readEnvironmentFile path = .ok [(String.ofList name, String.ofList value)] := by
  have hne : text ≠ [] := by
    rintro rfl
    cases hread
  rw [readEnvironmentFile_eq hfile, Environment.parseFile,
    ← (Text.AreLines.last hne hline).eq_lines, Environment.readLines, hread]
  rfl

/-- **A file of settings is read by the rules for its lines**, which are determined by its text. It
is refused if and only if a line has a fault; what is reported is the first fault of the file, and
the wording begins with the path and the number of its line. Without a fault, every line says
something, and the file gives each name that its lines assign, in the order of the first
assignments, the value of the last. A line with a value between two quotes assigns just that
value. -/
theorem readEnvironmentFile_by_rules
    (hfile : s.files.read (Files.Path.ofString path) = .ok (Utf8.encodeChars text)) :
    ∃ lines, (∀ others, Text.AreLines text others ↔ others = lines) ∧
      ((∃ f, s.readEnvironmentFile path = .error f) ↔
        ∃ line ∈ lines, ∃ fault, Environment.Says (Text.trim line) (.error fault)) ∧
      (∀ f, s.readEnvironmentFile path = .error f → ∃ number fault wording,
        Environment.IsFirstFault lines number fault ∧
          f = .line ⟨(Files.Path.ofString path).toString, number, fault⟩ ∧
          f.message? = some
            ((Files.Path.ofString path).toString ++ ":" ++ toString number ++ ": " ++ wording)) ∧
      ((∀ line ∈ lines, ∀ fault, ¬ Environment.Says (Text.trim line) (.error fault)) →
        ∃ contents pairs,
          List.Forall₂ (fun line content => Environment.Says (Text.trim line) (.ok content))
            lines contents ∧
          s.readEnvironmentFile path = .ok pairs ∧
          Environment.AreLastOf pairs (contents.filterMap Environment.Line.pair?)) ∧
      ∀ name value quote, Environment.IsSettingName name → Environment.IsQuote quote →
        (∀ c ∈ value, Text.isLineBoundary c = false) →
        Environment.readLine (name ++ '=' :: quote :: (value ++ [quote])) =
            .ok (.assignment name value) ∧
          (text = name ++ '=' :: quote :: (value ++ [quote]) →
            s.readEnvironmentFile path = .ok [(String.ofList name, String.ofList value)]) := by
  refine ⟨_, fun others => Text.areLines_iff, ?_, fun f hf => ?_, fun hsound => ?_,
    fun name value quote hname hquote hvalue => ?_⟩
  · rw [← Environment.exists_isFirstFault_iff]
    constructor
    · rintro ⟨f, hf⟩
      obtain ⟨number, fault, hfirst, -⟩ := (readEnvironmentFile_eq_error_iff hfile).1 hf
      exact ⟨number, fault, hfirst⟩
    · rintro ⟨number, fault, hfirst⟩
      exact ⟨_, (readEnvironmentFile_eq_error_iff hfile).2 ⟨number, fault, hfirst, rfl⟩⟩
  · obtain ⟨number, fault, hfirst, rfl⟩ := (readEnvironmentFile_eq_error_iff hfile).1 hf
    exact ⟨number, fault, _, hfirst, rfl, rfl⟩
  · obtain ⟨contents, hcontents⟩ | hfault := Environment.exists_contents_or_isFirstFault
      (Text.lines (Text.normalizeNewlines text))
    · refine ⟨contents, _, hcontents, ?_, Environment.areLastOf_assignAll _⟩
      rw [readEnvironmentFile_eq hfile, Environment.parseFile,
        Environment.readLines_of_contents hcontents]
      rfl
    · obtain ⟨line, hline, fault, hrule⟩ := Environment.exists_isFirstFault_iff.1 hfault
      exact absurd hrule (hsound line hline fault)
  · have hread := Environment.readLine_quoted hname hquote value
    refine ⟨hread, fun htext => readEnvironmentFile_of_readLine hfile ?_ (htext ▸ hread)⟩
    have hquote' : Text.isLineBoundary quote = false := by
      rcases hquote with rfl | rfl <;> decide
    rw [htext, List.forall_mem_append, List.forall_mem_cons, List.forall_mem_cons,
      List.forall_mem_append, List.forall_mem_singleton]
    exact ⟨fun c hc => (Environment.plain_of_inIdentifier (hname.inIdentifier c hc)).2.2.2,
      by decide, hquote', hvalue, hquote'⟩

/-- The text of a file with lines of many kinds. -/
def manyKinds : List Char :=
  "# = \r\n\u00a0export  VAPIDPUSH_A = 'open' \r\rOTHER='\u2028VAPIDPUSH_B=\"=#\"\nVAPIDPUSH_A= 2".toList

/-- The text of a file whose third line has the first of two faults. -/
def twoFaults : List Char := "\nVAPIDPUSH_A=1\u000bexport VAPIDPUSH_B = '\nno pair".toList

/-- The text of a file with a value between quotes. -/
def oneQuoted : List Char := "VAPIDPUSH_A=' it's \"=# '".toList

/-- A session with these files. -/
def withSettingsFiles : Session :=
  { start ⟨[]⟩ ⟨fun _ => .one, fun _ => .zeros, 0, 0⟩ (.whole 0) fun _ => "" with
    files := ⟨[(["kinds".toList], Utf8.encodeChars manyKinds),
      (["faults".toList], Utf8.encodeChars twoFaults),
      (["quoted".toList], Utf8.encodeChars oneQuoted)], []⟩ }

/-- A line with a fault that does not count, a name with two values, and a value with quotes in it;
in the file with faults the first is reported. -/
theorem readEnvironmentFile_by_rules_files :
    (∃ lines contents, Text.AreLines manyKinds lines ∧
      List.Forall₂ (fun line content => Environment.Says (Text.trim line) (.ok content))
        lines contents ∧
      Environment.AreLastOf [("VAPIDPUSH_A", "2"), ("VAPIDPUSH_B", "=#")]
        (contents.filterMap Environment.Line.pair?)) ∧
    (∃ lines, Text.AreLines twoFaults lines ∧
      Environment.IsFirstFault lines 3 .unterminatedQuote) ∧
    withSettingsFiles.readEnvironmentFile "quoted" = .ok [("VAPIDPUSH_A", " it's \"=# ")] := by
  refine ⟨?_, ?_, ?_⟩
  · have hread : withSettingsFiles.readEnvironmentFile "./kinds" =
        .ok [("VAPIDPUSH_A", "2"), ("VAPIDPUSH_B", "=#")] := by decide +kernel
    have hfile : withSettingsFiles.files.read (Files.Path.ofString "./kinds") =
        .ok (Utf8.encodeChars manyKinds) := by decide +kernel
    obtain ⟨lines, hlines, hrefused, -, haccepted, -⟩ := readEnvironmentFile_by_rules hfile
    obtain ⟨contents, pairs, hcontents, hpairs, hlast⟩ := haccepted fun line hline fault hfault => by
      obtain ⟨f, hf⟩ := hrefused.2 ⟨line, hline, fault, hfault⟩
      cases hread.symm.trans hf
    cases hread.symm.trans hpairs
    exact ⟨lines, contents, (hlines _).2 rfl, hcontents, hlast⟩
  · have hread : withSettingsFiles.readEnvironmentFile "faults" =
        .error (.line ⟨"faults", 3, .unterminatedQuote⟩) := by decide +kernel
    have hfile : withSettingsFiles.files.read (Files.Path.ofString "faults") =
        .ok (Utf8.encodeChars twoFaults) := by decide +kernel
    obtain ⟨lines, hlines, -, hfirst, -⟩ := readEnvironmentFile_by_rules hfile
    obtain ⟨number, fault, -, hfault, heq, -⟩ := hfirst _ hread
    injection heq with heq
    injection heq with hpath hnumber hkind
    exact ⟨lines, (hlines _).2 rfl, hnumber ▸ hkind ▸ hfault⟩
  · have hfile : withSettingsFiles.files.read (Files.Path.ofString "quoted") =
        .ok (Utf8.encodeChars oneQuoted) := by decide +kernel
    obtain ⟨-, -, -, -, -, hquoted⟩ := readEnvironmentFile_by_rules hfile
    have hname : Environment.IsSettingName "VAPIDPUSH_A".toList :=
      ⟨by decide +kernel, by decide +kernel⟩
    have hvalue : " it's \"=# ".toList.all (!Text.isLineBoundary ·) = true := by decide +kernel
    exact (hquoted _ " it's \"=# ".toList '\'' hname (.inr rfl)
      (by simpa using List.all_eq_true.1 hvalue)).2 (by decide +kernel)

end WebPush.Session
