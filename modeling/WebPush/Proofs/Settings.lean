import WebPush.Proofs.Except
import WebPush.Proofs.Number.Real
import WebPush.Proofs.Text.Blank
import WebPush.Settings
/-!
# Settings — what a configuration that was read has passed

An environment gives a configuration just when each setting is what its
variable says and has passed its check (`IsReadFrom`). So the integers
are in range and the level is one of five. The time limit is above zero,
unless its variable spells NaN: this is not found to be zero or less, and
so it passes.
-/

namespace WebPush.Settings

variable {env : Environment} {s : Settings}

theorem of_require {condition : Bool} {fault : SettingsFault} {u : Unit}
    (h : require condition fault = .ok u) : condition = true := by
  rw [require] at h
  split at h
  · assumption
  · cases h

/-- **The configuration that an environment says**, with the checks that it has passed. -/
structure IsReadFrom (s : Settings) (env : Environment) : Prop where
  publicKey : s.vapidPublicKey = textOf env "VAPIDPUSH_VAPID_PUBLIC_KEY"
  privateKey : s.vapidPrivateKey = textOf env "VAPIDPUSH_VAPID_PRIVATE_KEY"
  subject : s.vapidSubject = textOf env "VAPIDPUSH_VAPID_SUBJECT"
  gcmApiKey : s.gcmApiKey = textOf env "VAPIDPUSH_GCM_API_KEY"
  timeout : numberOf env "VAPIDPUSH_TIMEOUT_SECONDS" defaultTimeout = .ok s.timeout
  timeout_passed : s.timeout.isNonPositive = false
  defaultTtl : integerOf env "VAPIDPUSH_DEFAULT_TTL" 2419200 = .ok s.defaultTtl
  logLevel : Log.Level.ofName? (levelName env) = some s.logLevel
  logFile : s.logFile = textOf env "VAPIDPUSH_LOG_FILE"
  logMaxBytes : integerOf env "VAPIDPUSH_LOG_MAX_BYTES" 5242880 = .ok s.logMaxBytes
  logMaxBytes_pos : 0 < s.logMaxBytes
  logBackupCount : integerOf env "VAPIDPUSH_LOG_BACKUP_COUNT" 10 = .ok s.logBackupCount
  vapid : checkVapid s.vapidPublicKey s.vapidPrivateKey s.vapidSubject = .ok ()

/-- **An environment gives the configuration that it says**, and no other. -/
theorem load_eq_ok_iff : load env = .ok s ↔ s.IsReadFrom env := by
  constructor
  · intro h
    rw [load] at h
    -- Every check is peeled off in its order.
    obtain ⟨timeout, htimeout, h⟩ := exists_of_bind_eq_ok h
    obtain ⟨_, hpassed, h⟩ := exists_of_bind_eq_ok h
    obtain ⟨ttl, httl, h⟩ := exists_of_bind_eq_ok h
    obtain ⟨_, httlSign, h⟩ := exists_of_bind_eq_ok h
    dsimp only at h
    split at h
    case h_2 => cases h
    rename_i level hlevel
    obtain ⟨_, ⟨⟩, h⟩ := exists_of_bind_eq_ok h
    obtain ⟨maxBytes, hmaxBytes, h⟩ := exists_of_bind_eq_ok h
    obtain ⟨_, hmaxSign, h⟩ := exists_of_bind_eq_ok h
    obtain ⟨backupCount, hbackup, h⟩ := exists_of_bind_eq_ok h
    obtain ⟨_, hbackupSign, h⟩ := exists_of_bind_eq_ok h
    obtain ⟨_, hvapid, h⟩ := exists_of_bind_eq_ok h
    injection h with h
    subst h
    have hpositive := of_decide_eq_true (of_require hmaxSign)
    refine ⟨rfl, rfl, rfl, rfl, htimeout, ?_, ?_, hlevel, rfl, ?_, ?_, ?_, hvapid⟩
    · simpa using of_require hpassed
    · rw [httl, Int.toNat_of_nonneg (of_decide_eq_true (of_require httlSign))]
    · rw [hmaxBytes, Int.toNat_of_nonneg (Int.le_of_lt hpositive)]
    · exact Int.lt_toNat.2 hpositive
    · rw [hbackup, Int.toNat_of_nonneg (of_decide_eq_true (of_require hbackupSign))]
  · rintro ⟨hpublic, hprivate, hsubject, hgcm, htimeout, hpassed, httl, hlevel, hfile, hmaxBytes,
      hpositive, hbackup, hvapid⟩
    have hpassed' : (!s.timeout.isNonPositive) = true := by rw [hpassed]; rfl
    have httlSign : decide (0 ≤ (s.defaultTtl : Int)) = true :=
      decide_eq_true (Int.natCast_nonneg _)
    have hmaxSign : decide (0 < (s.logMaxBytes : Int)) = true :=
      decide_eq_true (Int.natCast_pos.2 hpositive)
    have hbackupSign : decide (0 ≤ (s.logBackupCount : Int)) = true :=
      decide_eq_true (Int.natCast_nonneg _)
    simp only [load, htimeout, httl, hlevel, hmaxBytes, hbackup, require, hpassed', httlSign,
      hmaxSign, hbackupSign, if_true, bind, Except.bind, pure, Except.pure, Int.toNat_natCast,
      ← hpublic, ← hprivate, ← hsubject, ← hgcm, ← hfile]
    rw [hvapid]

/-! ## Switches -/

/-- A text that switches something on: one of four words in capital or small letters, with blanks
around it. -/
def SwitchesOn (raw : String) : Prop :=
  ∃ front word back, raw.toList = front ++ word ++ back ∧
    (∀ c ∈ front, Text.isBlank c = true) ∧ (∀ c ∈ back, Text.isBlank c = true) ∧
    String.ofList (word.map Char.toLower) ∈ ["1", "true", "yes", "on"]

/-- The letters of these words are not trimmed off. -/
theorem isBlank_of_toLower_mem {c : Char} (h : c.toLower ∈ truthyWords.flatMap String.toList) :
    Text.isBlank c = false :=
  Text.forall_toLower
    (P := fun c d => d ∈ truthyWords.flatMap String.toList → Text.isBlank c = false)
    (List.all_iff_forall_prop.1 (by decide +kernel)) (by decide +kernel) c h

/-- Blanks around one of the words are all that is trimmed off. -/
theorem trim_append_word {front word back : List Char}
    (hfront : ∀ c ∈ front, Text.isBlank c = true) (hback : ∀ c ∈ back, Text.isBlank c = true)
    (hword : String.ofList (word.map Char.toLower) ∈ truthyWords) :
    Text.trim (front ++ word ++ back) = word := by
  have hletter : ∀ c ∈ word, Text.isBlank c = false := fun c hc =>
    isBlank_of_toLower_mem (List.mem_flatMap.2
      ⟨_, hword, String.toList_ofList ▸ List.mem_map_of_mem hc⟩)
  rw [Text.trim_append hfront hback]
  exact Text.trim_eq_self (fun c hc => hletter c (List.mem_of_head? hc))
    fun c hc => hletter c (List.mem_of_getLast? hc)

/-- **Something is switched on** by a variable that is set to one of the words. -/
theorem isOn_iff {name : String} :
    isOn env name = true ↔ ∃ raw, env.get? name = some raw ∧ SwitchesOn raw := by
  rw [isOn]
  cases env.get? name with
  | none => simp
  | some raw =>
    simp only [Option.some.injEq, exists_eq_left', List.contains_iff_mem]
    constructor
    · intro hword
      obtain ⟨front, back, heq, hfront, hback⟩ := Text.exists_eq_append_trim raw.toList
      exact ⟨front, _, back, heq, hfront, hback, hword⟩
    · rintro ⟨front, word, back, heq, hfront, hback, hword⟩
      rw [heq, trim_append_word hfront hback hword]
      exact hword

/-! ## The time limit -/

/-- The variable spells NaN. -/
def SetToNaN (env : Environment) (name : String) : Prop :=
  ∃ raw, env.get? name = some raw ∧ Number.SpellsNaN raw.toList

/-- The number of a variable is NaN just when it spells that, for a default that is a number. -/
theorem isNaN_of_numberOf {name : String} {default x : Double} (hdefault : default.isNaN = false)
    (h : numberOf env name default = .ok x) : x.isNaN = true ↔ SetToNaN env name := by
  rw [numberOf] at h
  rw [SetToNaN]
  cases hget : env.get? name with
  | none =>
    rw [hget] at h
    injection h with h
    simp [← h, hdefault]
  | some raw =>
    rw [hget] at h
    simp only [Option.some.injEq, exists_eq_left']
    dsimp only at h
    split at h
    · rename_i hread
      injection h with h
      subst h
      exact Number.isNaN_readDouble?_iff hread
    · cases h

/-- What has passed the check is above zero, unless it is NaN. -/
theorem IsReadFrom.isPositive_iff (h : s.IsReadFrom env) :
    s.timeout.IsPositive ↔ s.timeout.isNaN = false := by
  constructor
  · exact Double.IsPositive.isNaN
  · intro hnumber
    rcases Double.isNonPositive_eq_false_iff.1 h.timeout_passed with hnan | hpositive
    · rw [hnumber] at hnan
      cases hnan
    · exact hpositive

/-- **A configuration that was read is in range**, but for a time limit that is NaN. The time limit
is a number above zero, unless its variable spells NaN, and then it is NaN. The lifetime, the size
and the count of log files are the integers that were read: none is negative, and the size is not
zero. The level is one of five and the one that is named, and a switch makes it the lowest. -/
theorem ranges_of_load (h : load env = .ok s) :
    numberOf env "VAPIDPUSH_TIMEOUT_SECONDS" defaultTimeout = .ok s.timeout ∧
      (¬ SetToNaN env "VAPIDPUSH_TIMEOUT_SECONDS" →
        s.timeout.IsPositive ∧ s.timeout.exceeds 0 = true) ∧
      (SetToNaN env "VAPIDPUSH_TIMEOUT_SECONDS" →
        s.timeout.isNaN = true ∧ s.timeout.exceeds 0 = false) ∧
      integerOf env "VAPIDPUSH_DEFAULT_TTL" 2419200 = .ok (s.defaultTtl : Int) ∧
      integerOf env "VAPIDPUSH_LOG_MAX_BYTES" 5242880 = .ok (s.logMaxBytes : Int) ∧
      0 < s.logMaxBytes ∧
      integerOf env "VAPIDPUSH_LOG_BACKUP_COUNT" 10 = .ok (s.logBackupCount : Int) ∧
      s.logLevel.name = levelName env ∧
      levelName env ∈ ["DEBUG", "INFO", "WARNING", "ERROR", "CRITICAL"] ∧
      ((∃ raw, env.get? "VAPIDPUSH_DEBUG" = some raw ∧ SwitchesOn raw) →
        s.logLevel = .debug) := by
  have hread := load_eq_ok_iff.1 h
  have hnan : s.timeout.isNaN = true ↔ SetToNaN env "VAPIDPUSH_TIMEOUT_SECONDS" :=
    isNaN_of_numberOf (by decide +kernel) hread.timeout
  have hname := Log.Level.name_of_ofName? hread.logLevel
  refine ⟨hread.timeout, ?_, ?_, hread.defaultTtl, hread.logMaxBytes, hread.logMaxBytes_pos,
    hread.logBackupCount, hname, ?_, ?_⟩
  · intro hnumber
    rw [← hnan, Bool.not_eq_true] at hnumber
    have hpositive := hread.isPositive_iff.2 hnumber
    exact ⟨hpositive, Double.exceeds_zero_iff.2 hpositive⟩
  · intro hset
    refine ⟨hnan.2 hset, ?_⟩
    rw [← Bool.not_eq_true, Double.exceeds_zero_iff, hread.isPositive_iff, Bool.not_eq_false]
    exact hnan.2 hset
  · rw [← hname]
    cases s.logLevel <;> decide
  · intro hon
    have hlevel : Log.Level.ofName? Log.Level.debug.name = some s.logLevel := by
      rw [← hread.logLevel, levelName, if_pos (isOn_iff.2 hon)]
      rfl
    rw [Log.Level.ofName?_name] at hlevel
    exact (Option.some.inj hlevel).symm

/-- An environment with each setting at the least that its check lets pass. -/
def leastEnvironment : Environment := ⟨[("VAPIDPUSH_TIMEOUT_SECONDS", " +5e-324\t"),
  ("VAPIDPUSH_DEFAULT_TTL", "-0"), ("VAPIDPUSH_DEBUG", " Yes"),
  ("VAPIDPUSH_LOG_LEVEL", "chatty"), ("VAPIDPUSH_LOG_MAX_BYTES", "0_1"),
  ("VAPIDPUSH_LOG_BACKUP_COUNT", "0")]⟩

/-- The least configuration in a run: its time limit is the least double above zero, and its
switch makes up for a level that does not exist. -/
theorem ranges_of_load_least :
    load leastEnvironment = .ok ⟨none, none, none, none, ⟨1⟩, 0, .debug, none, 1, 0⟩ ∧
      ¬ SetToNaN leastEnvironment "VAPIDPUSH_TIMEOUT_SECONDS" ∧
      Double.IsPositive ⟨1⟩ ∧ Double.exceeds ⟨1⟩ 0 = true := by
  have hload : load leastEnvironment = .ok ⟨none, none, none, none, ⟨1⟩, 0, .debug, none, 1, 0⟩ := by
    decide +kernel
  obtain ⟨-, hnumber, hnan, -⟩ := ranges_of_load hload
  have hset : ¬ SetToNaN leastEnvironment "VAPIDPUSH_TIMEOUT_SECONDS" := fun hset =>
    absurd (hnan hset).1 (by decide)
  exact ⟨hload, hset, hnumber hset⟩

/-- **NaN is let through**: it is a time limit, though it is not above zero. -/
theorem exists_load_nan : ∃ s, load ⟨[("VAPIDPUSH_TIMEOUT_SECONDS", "nan")]⟩ = .ok s ∧
    s.timeout.exceeds 0 = false :=
  ⟨⟨none, none, none, none, .nan false, 2419200, .info, none, 5242880, 10⟩, by decide +kernel,
    by decide +kernel⟩

end WebPush.Settings
