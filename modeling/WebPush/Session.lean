import WebPush.Environment.File
import WebPush.Log.Setup
import WebPush.Sender
/-!
# Session — a process that configures itself and sends

A session is the state of one process: its environment, its files, the
configuration it has remembered, where its log goes and its sender. Each
command gives a reply and the state after it; a command that fails
leaves the rest of the session as it was, apart from what it had done
before it failed.
-/

namespace WebPush

/-- The state of a process. -/
structure Session where
  environment : Environment
  files : Files.Tree
  settings : Option Settings
  loggers : Log.Loggers
  sender : Option Sender
  entropy : Entropy
  now : Seconds
  errorStream : String
  /-- How the log writes the time of a clock reading. -/
  showTime : Seconds → String

namespace Session

/-- A session in an environment, with nothing done yet. -/
def start (environment : Environment) (entropy : Entropy) (now : Seconds)
    (showTime : Seconds → String) : Session where
  environment
  files := {}
  settings := none
  loggers := {}
  sender := none
  entropy
  now
  errorStream := ""
  showTime

/-- Why a command failed. -/
inductive Fault where
  | variable (f : VariableFault)
  | file (e : Files.FileError)
  | encoding
  | line (f : Environment.FileFault)
  | settings (f : SettingsFault)
  | service (e : ServiceError)
  | log (f : Log.SetupFault)
deriving DecidableEq, Repr

/-- The wording of a fault, where it has one. -/
def Fault.message? : Fault → Option String
  | .variable f => some f.message
  | .file e => some e.message
  | .encoding => none
  | .line f => some f.message
  | .settings f => some f.message
  | .service e => some e.message
  | .log f => some f.message

/-! ## The log -/

/-- A line handed to a handler. -/
def handle (line : String) (s : Session) : Log.Handler → Session
  | .stream => { s with errorStream := s.errorStream ++ line }
  | .file file => { s with files := file.write s.files line }

/-- A record written to wherever records go. -/
def emit (s : Session) (record : Log.Record) : Session :=
  if s.loggers.passes record then
    s.loggers.handlers.foldl (handle (record.line (s.showTime s.now))) s
  else s

/-- The records of an operation written one after the other. -/
def emitAll (s : Session) (records : List Log.Record) : Session := records.foldl emit s

/-- The log set up for a configuration, and the session after it. Only the first success has an
effect on the loggers. -/
def startLog (s : Session) (settings : Settings) : Except Log.SetupFault Unit × Session :=
  if s.loggers.initialized then (.ok (), s)
  else match Log.makeHandlers settings s.files with
    | (.error f, files) => (.error f, { s with files })
    | (.ok handlers, files) =>
      (.ok (), ({ s with files, loggers := s.loggers.routed handlers settings.logLevel }).emit
        (Log.startedRecord settings.logLevel))

/-- The session with the log set up for a configuration. -/
def setUpLog (s : Session) (settings : Settings) : Except Log.SetupFault Session :=
  match s.startLog settings with
  | (.error f, _) => .error f
  | (.ok (), s) => .ok s

/-! ## Files of settings -/

/-- The pairs in a file of settings. A file that is not there has none. -/
def readEnvironmentFile (s : Session) (path : String) :
    Except Fault (List (String × String)) :=
  let path := Files.Path.ofString path
  match s.files.read path with
  | .error _ => .ok []
  | .ok content =>
    match Utf8.decodeChars? content with
    | none => .error .encoding
    | some text => (Environment.parseFile path.toString text).mapError .line

/-- The pairs of a file of settings applied to the environment. -/
def loadEnvironmentFile (s : Session) (path : String) (override : Bool) :
    Except Fault (List (String × String)) × Session :=
  match s.readEnvironmentFile path with
  | .error f => (.error f, s)
  | .ok pairs =>
    let applied := Environment.applyPairs override s.environment pairs
    let after := { s with environment := applied.environment }
    match applied.fault with
    | some f => (.error (.variable f), after)
    | none => (.ok applied.pairs, after)

/-! ## Configuration and sender -/

/-- The configuration of the environment as it is now. -/
def loadSettings (s : Session) : Except Fault Settings :=
  (Settings.load s.environment).mapError .settings

/-- The configuration as it was when it was first asked for. -/
def cachedSettings (s : Session) : Except Fault Settings × Session :=
  match s.settings with
  | some settings => (.ok settings, s)
  | none =>
    match s.loadSettings with
    | .error f => (.error f, s)
    | .ok settings =>
      (.ok settings, ({ s with settings := some settings }).emit settings.loadedRecord)

/-- The sender of a configuration, which from now on is the session's. -/
def buildSender (s : Session) (settings : Settings) : Except Fault Sender × Session :=
  let (result, record) := Sender.ofSettings settings
  let s := record.elim s s.emit
  match result with
  | .error e => (.error (.service e), s)
  | .ok sender => (.ok sender, { s with sender := some sender })

/-- A notification sent with the session's sender. -/
def send (s : Session) (n : Notification) (transport : Transport) (awaited : Bool) :
    Sender.Sent × Session :=
  match s.sender with
  | none => (⟨.error .unsupported, []⟩, s)
  | some sender =>
    let run := if awaited then sender.sendAwaited else sender.send
    let (sent, trace) := run n s.now transport (.start s.entropy)
    (sent, ({ s with entropy := trace.entropy }).emitAll trace.log)

/-! ## Commands -/

/-- One thing that a session is told to do. -/
inductive Command where
  | setVariable (name value : String)
  | removeVariable (name : String)
  | showEnvironment
  | writeFile (path : String) (content : Bytes)
  | showFile (path : String)
  | listFiles
  | readEnvironmentFile (path : String)
  | loadEnvironmentFile (path : String) (override : Bool)
  | loadSettings
  | cachedSettings
  | clearCache
  | buildService
  | buildSender (cached : Bool)
  | send (n : Notification) (transport : Transport) (awaited : Bool)
  | setClock (now : Seconds)
  | setUpLog
  | showLog
  | log (record : Log.Record)
  | showErrorStream

/-- What a session answers. -/
inductive Reply where
  | done
  | bindings (pairs : List (String × String))
  | text (text : String)
  | paths (paths : List String)
  | settings (s : Settings)
  | service (s : Service)
  | sender (s : Sender)
  | sent (sent : Sender.Sent) (entropy : Entropy)
  | loggers (l : Log.Loggers)
  | failed (f : Fault)

/-- The reply to a result. -/
def Reply.ofExcept {α : Type} (render : α → Reply) : Except Fault α → Reply
  | .ok a => render a
  | .error f => .failed f

/-- A file written, with the folders above it, and the session after it. -/
def writeFile (s : Session) (path : String) (content : Bytes) :
    Except Files.FileError Unit × Session :=
  let path := Files.Path.ofString path
  match s.files.makeFolders path.parent with
  | (.error e, files) => (.error e, { s with files })
  | (.ok (), files) =>
    match files.write path content with
    | .error e => (.error e, { s with files })
    | .ok files => (.ok (), { s with files })

/-- The text of a file. -/
def readFile (s : Session) (path : String) : Except Fault String :=
  match s.files.read (Files.Path.ofString path) with
  | .error e => .error (.file e)
  | .ok content =>
    match Utf8.decode? content with
    | none => .error .encoding
    | some text => .ok text

/-- The reply to a command, and the session after it. -/
def step (s : Session) : Command → Reply × Session
  | .setVariable name value =>
    match s.environment.set name value with
    | .ok environment => (.done, { s with environment })
    | .error f => (.failed (.variable f), s)
  | .removeVariable name => (.done, { s with environment := s.environment.remove name })
  | .showEnvironment => (.bindings s.environment.pairs, s)
  | .writeFile path content =>
    match s.writeFile path content with
    | (.ok (), s) => (.done, s)
    | (.error e, s) => (.failed (.file e), s)
  | .showFile path => (.ofExcept .text (s.readFile path), s)
  | .listFiles => (.paths s.files.paths, s)
  | .readEnvironmentFile path => (.ofExcept .bindings (s.readEnvironmentFile path), s)
  | .loadEnvironmentFile path override =>
    let (result, s) := s.loadEnvironmentFile path override
    (.ofExcept .bindings result, s)
  | .loadSettings => (.ofExcept .settings s.loadSettings, s)
  | .cachedSettings =>
    let (result, s) := s.cachedSettings
    (.ofExcept .settings result, s)
  | .clearCache => (.done, { s with settings := none })
  | .buildService =>
    match s.loadSettings with
    | .error f => (.failed f, s)
    | .ok settings => (.ofExcept .service ((Service.ofSettings settings).mapError .service), s)
  | .buildSender cached =>
    let (settings, s) := if cached then s.cachedSettings else (s.loadSettings, s)
    match settings with
    | .error f => (.failed f, s)
    | .ok settings =>
      let (result, s) := s.buildSender settings
      (.ofExcept .sender result, s)
  | .send n transport awaited =>
    let (sent, s) := s.send n transport awaited
    (.sent sent s.entropy, s)
  | .setClock now => (.done, { s with now })
  | .setUpLog =>
    match s.loadSettings with
    | .error f => (.failed f, s)
    | .ok settings =>
      match s.startLog settings with
      | (.ok (), s) => (.loggers s.loggers, s)
      | (.error f, s) => (.failed (.log f), s)
  | .showLog => (.loggers s.loggers, s)
  | .log record => (.done, s.emit record)
  | .showErrorStream => (.text s.errorStream, s)

/-- The replies to commands, and the session after them. -/
def run (s : Session) : List Command → List Reply × Session
  | [] => ([], s)
  | command :: rest =>
    let (reply, s) := s.step command
    let (replies, s) := run s rest
    (reply :: replies, s)

end Session

end WebPush
