import WebPush.Environment.Basic
import WebPush.Log.Record
import WebPush.Number.Literal
import WebPush.Text.Quoted
import WebPush.Text.Split
/-!
# Settings — a sender's configuration

The configuration is read from the environment. Absent variables have
defaults, numbers must be in range, and half a key pair is a mistake
rather than none. The first fault in the order of the checks is the one
reported.
-/

namespace WebPush

/-- Why an environment is no configuration. -/
inductive SettingsFault where
  | notNumber (text : String)
  | notInteger (text : String)
  | integerLength (digits : Nat)
  | timeout
  | defaultTtl
  | logLevel
  | logMaxBytes
  | logBackupCount
  | halfKeyPair
  | noSubject
  | subject
deriving DecidableEq, Repr

/-- The wording of a fault. -/
def SettingsFault.message : SettingsFault → String
  | .notNumber text => "could not convert string to float: " ++ Text.quotedString text
  | .notInteger text => "invalid literal for int() with base 10: " ++ Text.quotedString text
  | .integerLength digits => Number.tooLongMessage digits
  | .timeout => "VAPIDPUSH_TIMEOUT_SECONDS must be a positive number."
  | .defaultTtl => "VAPIDPUSH_DEFAULT_TTL must be zero or a positive integer."
  | .logLevel => "VAPIDPUSH_LOG_LEVEL must be one of CRITICAL, DEBUG, ERROR, INFO, WARNING."
  | .logMaxBytes => "VAPIDPUSH_LOG_MAX_BYTES must be a positive integer."
  | .logBackupCount => "VAPIDPUSH_LOG_BACKUP_COUNT must be zero or a positive integer."
  | .halfKeyPair =>
    "VAPIDPUSH_VAPID_PUBLIC_KEY and VAPIDPUSH_VAPID_PRIVATE_KEY must be set together."
  | .noSubject => "VAPIDPUSH_VAPID_SUBJECT must be set when VAPID keys are configured."
  | .subject => "VAPIDPUSH_VAPID_SUBJECT must start with 'mailto:' or 'https:'."

/-- A sender's configuration. A text that is there is not empty. -/
structure Settings where
  vapidPublicKey : Option Text.Filled
  vapidPrivateKey : Option Text.Filled
  vapidSubject : Option Text.Filled
  gcmApiKey : Option Text.Filled
  timeout : Double
  defaultTtl : Nat
  logLevel : Log.Level
  logFile : Option Text.Filled
  logMaxBytes : Nat
  logBackupCount : Nat
deriving DecidableEq, Repr

namespace Settings

/-! ## Single variables -/

/-- The text of a variable without the blanks around it, if anything is left. -/
def textOf (env : Environment) (name : String) : Option Text.Filled :=
  (env.get? name).bind fun raw => Text.filled? (Text.trimmed raw)

/-- The number of a variable, or a default if it is not set. -/
def numberOf (env : Environment) (name : String) (default : Double) : Except SettingsFault Double :=
  match env.get? name with
  | none => .ok default
  | some raw =>
    match Number.readDouble? raw.toList with
    | some x => .ok x
    | none => .error (.notNumber raw)

/-- The integer of a variable, or a default if it is not set. -/
def integerOf (env : Environment) (name : String) (default : Int) : Except SettingsFault Int :=
  match env.get? name with
  | none => .ok default
  | some raw =>
    match Number.readInt raw.toList with
    | .ok n => .ok n
    | .error .malformed => .error (.notInteger raw)
    | .error (.tooLong digits) => .error (.integerLength digits)

/-- The capital form of a letter, as far as the names of levels need it: the
dotless i and the long s have capitals in ASCII. -/
def capital (c : Char) : Char :=
  if c = 'ı' then 'I' else if c = 'ſ' then 'S' else c.toUpper

/-- The words that switch something on. -/
def truthyWords : List String := ["1", "true", "yes", "on"]

/-- The variable switches something on. -/
def isOn (env : Environment) (name : String) : Bool :=
  match env.get? name with
  | none => false
  | some raw => truthyWords.contains (String.ofList ((Text.trim raw.toList).map Char.toLower))

/-- The name of the log level, in capitals. -/
def levelName (env : Environment) : String :=
  if isOn env "VAPIDPUSH_DEBUG" then "DEBUG"
  else
    let raw := (env.get? "VAPIDPUSH_LOG_LEVEL").getD ""
    if raw.isEmpty then "INFO" else String.ofList ((Text.trim raw.toList).map capital)

/-! ## The whole configuration -/

/-- The variables that a configuration is read from. -/
def variableNames : List String :=
  ["VAPIDPUSH_VAPID_PUBLIC_KEY", "VAPIDPUSH_VAPID_PRIVATE_KEY", "VAPIDPUSH_VAPID_SUBJECT",
    "VAPIDPUSH_GCM_API_KEY", "VAPIDPUSH_TIMEOUT_SECONDS", "VAPIDPUSH_DEFAULT_TTL",
    "VAPIDPUSH_DEBUG", "VAPIDPUSH_LOG_LEVEL", "VAPIDPUSH_LOG_FILE", "VAPIDPUSH_LOG_MAX_BYTES",
    "VAPIDPUSH_LOG_BACKUP_COUNT"]

/-- Ten seconds. -/
def defaultTimeout : Double := ⟨0x4024000000000000⟩

/-- Both halves of a key pair are there. -/
def vapidConfigured (s : Settings) : Bool := s.vapidPublicKey.isSome && s.vapidPrivateKey.isSome

/-- A key for old endpoints is there. -/
def gcmConfigured (s : Settings) : Bool := s.gcmApiKey.isSome

/-- The fault unless a condition holds. -/
def require (condition : Bool) (fault : SettingsFault) : Except SettingsFault Unit :=
  if condition then .ok () else .error fault

/-- A key pair is whole and comes with a contact, or there is none. -/
def checkVapid (publicKey privateKey subject : Option Text.Filled) : Except SettingsFault Unit := do
  require (publicKey.isSome == privateKey.isSome) .halfKeyPair
  if publicKey.isSome then
    match subject with
    | none => .error .noSubject
    | some text =>
      require (Text.startsWith text "mailto:" || Text.startsWith text "https:") .subject
  else .ok ()

/-- The configuration that an environment gives. -/
def load (env : Environment) : Except SettingsFault Settings := do
  let publicKey := textOf env "VAPIDPUSH_VAPID_PUBLIC_KEY"
  let privateKey := textOf env "VAPIDPUSH_VAPID_PRIVATE_KEY"
  let subject := textOf env "VAPIDPUSH_VAPID_SUBJECT"
  let timeout ← numberOf env "VAPIDPUSH_TIMEOUT_SECONDS" defaultTimeout
  require (!timeout.isNonPositive) .timeout
  let ttl ← integerOf env "VAPIDPUSH_DEFAULT_TTL" 2419200
  require (0 ≤ ttl) .defaultTtl
  let level ← match Log.Level.ofName? (levelName env) with
    | some level => .ok level
    | none => .error .logLevel
  let maxBytes ← integerOf env "VAPIDPUSH_LOG_MAX_BYTES" 5242880
  require (0 < maxBytes) .logMaxBytes
  let backupCount ← integerOf env "VAPIDPUSH_LOG_BACKUP_COUNT" 10
  require (0 ≤ backupCount) .logBackupCount
  checkVapid publicKey privateKey subject
  return {
    vapidPublicKey := publicKey
    vapidPrivateKey := privateKey
    vapidSubject := subject
    gcmApiKey := textOf env "VAPIDPUSH_GCM_API_KEY"
    timeout
    defaultTtl := ttl.toNat
    logLevel := level
    logFile := textOf env "VAPIDPUSH_LOG_FILE"
    logMaxBytes := maxBytes.toNat
    logBackupCount := backupCount.toNat }

/-- The record about a configuration that has been read. -/
def loadedRecord (s : Settings) : Log.Record where
  source := "vapidpush.config"
  level := .debug
  message := "Settings loaded vapid_configured=" ++ Log.showBool s.vapidConfigured ++
    " gcm_configured=" ++ Log.showBool s.gcmConfigured

end Settings

end WebPush
