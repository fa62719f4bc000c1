import WebPush.Log.File
import WebPush.Settings
/-!
# Log — where records go

Before it is set up, the log goes nowhere. Setting it up makes the
handlers first: records go to the error stream and, if one is
configured, to a file, whose folder is made if it is missing. Only when
all of them are there are the loggers set, so a folder or a file that
cannot be made leaves them as they were.
-/

namespace WebPush.Log

/-- What a logger hands its records to. -/
inductive Handler where
  /-- The error stream. -/
  | stream
  /-- A file with backups. -/
  | file (file : File)
deriving DecidableEq, Repr

/-- How the loggers of a process are set: the one that all records of this library come under,
and the one of the HTTP client. A level that is `none` is left to the logger above. -/
structure Loggers where
  handlers : List Handler := []
  level : Option Level := none
  propagate : Bool := true
  clientLevel : Option Level := none
  initialized : Bool := false
deriving DecidableEq, Repr

/-- Why the log could not be set up. -/
inductive SetupFault where
  | folder (path : String) (e : Files.FileError)
  | file (e : Files.FileError)
deriving DecidableEq, Repr

/-- The wording of such a fault. -/
def SetupFault.message : SetupFault → String
  | .folder path e => "Failed to create log directory at " ++ path ++ ": " ++ e.message
  | .file e => e.message

/-- The name that all records of this library come under. -/
def rootSource : String := "vapidpush"

/-- A source belongs to this library. -/
def isOwnSource (source : String) : Bool :=
  source = rootSource || Text.startsWith source (rootSource ++ ".")

/-- The handlers of a configuration, in a tree that has the log file. Folders that were made for
it stay, even if the file cannot be made. -/
def makeHandlers (s : Settings) (tree : Files.Tree) :
    Except SetupFault (List Handler) × Files.Tree :=
  match s.logFile with
  | none => (.ok [.stream], tree)
  | some text =>
    let path := Files.Path.ofString text
    match tree.makeFolders path.parent with
    | (.error e, tree) => (.error (.folder path.parent.toString e), tree)
    | (.ok (), tree) =>
      match tree.append path [] with
      | .error e => (.error (.file e), tree)
      | .ok tree => (.ok [.stream, .file ⟨path, s.logMaxBytes, s.logBackupCount⟩], tree)

namespace Loggers

/-- The loggers with handlers in place. The HTTP client tells of every request, so it is kept
quiet unless everything is told. -/
def routed (loggers : Loggers) (handlers : List Handler) (level : Level) : Loggers :=
  { loggers with
    handlers
    level := some level
    propagate := false
    clientLevel := some (if level = .debug then .debug else .warning)
    initialized := true }

/-- A record passes. -/
def passes (loggers : Loggers) (record : Record) : Bool :=
  isOwnSource record.source && (loggers.level.getD .warning).rank ≤ record.level.rank

end Loggers

/-- The record about a log that has been set up. -/
def startedRecord (level : Level) : Record where
  source := rootSource
  level := .info
  message := "Logging initialized at level " ++ level.name

end WebPush.Log
