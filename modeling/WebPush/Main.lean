import Std.Time.DateTime.Timestamp
import WebPush.CommandLine.Exchange
import WebPush.CommandLine.Send
import WebPush.Entropy.Seed
/-!
# Main — the programs

`generate` prints a fresh key pair as lines of a settings file. `send`
sends one message to a browser: it takes the sender's identity from the
environment and from `.env` in the working directory, writes its request
to the output and reads the answer from the input. Everything that is
decided is decided by `CommandLine.Generate.run` and
`CommandLine.Send.run`; here their arguments are fetched, and what they
leave behind is put where it belongs.
-/

namespace WebPush.CommandLine

/-- A source of random values that nobody has seen. -/
def freshEntropy : IO Entropy := do
  return .ofSeed (← IO.getRandomBytes 32).toList

/-- The reading of the clock. -/
def readClock : IO Seconds := do
  let now ← Std.Time.Timestamp.now
  return .whole now.toSecondsSinceUnixEpoch.val

/-- The variables of the process that configure a sender. -/
def processEnvironment : IO Environment := do
  let pairs ← Settings.variableNames.filterMapM fun name => do
    return (← IO.getEnv name).map fun value => (name, value)
  return ⟨pairs⟩

/-- The session with a file of the working directory in it, if there is one. -/
def fetch (s : Session) (path : String) : IO Session := do
  match ← (IO.FS.readBinFile path).toBaseIO with
  | .ok content => return (s.writeFile path content.toList).2
  | .error _ => return s

/-- The paths of a log file and its backups. -/
def logPaths (settings : Settings) : List String :=
  match settings.logFile with
  | none => []
  | some text =>
    let file : Log.File := ⟨.ofString text, settings.logMaxBytes, settings.logBackupCount⟩
    file.path.toString ::
      (List.range settings.logBackupCount).map fun n => (file.backup (n + 1)).toString

/-- The files at these paths, as a session left them. -/
def store (before after : Session) (paths : List String) : IO Unit := do
  for path in paths do
    match after.files.read (.ofString path) with
    | .ok content =>
      if (before.files.read (.ofString path)).toOption ≠ some content then
        IO.FS.createDirAll (Files.Path.ofString path).parent.toString
        IO.FS.writeBinFile path ⟨content.toArray⟩
    | .error _ => pure ()

/-- The end of a program that has read no values from its arguments. -/
def showUsage (text : String) (reason : Stop) : IO UInt32 := do
  match reason with
  | .help => IO.println text
  | .invalid => IO.eprintln text
  return reason.status.toUInt32

/-- The end of a program that ran. -/
def finish (outcome : Outcome) : IO UInt32 := do
  IO.eprint outcome.errors
  IO.print outcome.output
  return outcome.status.toUInt32

/-- The program that generates keys. -/
def generate (args : List String) : IO UInt32 := do
  match (Generate.run args (← freshEntropy)).1 with
  | .error reason => showUsage (usage "generate" Generate.parameters) reason
  | .ok outcome => finish outcome

/-- The session of this process with its settings in it, or what is wrong with them. -/
def configuredSession : IO (Except Session.Fault Session) := do
  let empty := Session.start (← processEnvironment) (← freshEntropy) (← readClock) Seconds.timeOfDay
  let (result, s) := (← fetch empty ".env").loadEnvironmentFile ".env" false
  return result.map fun _ => s

/-- The path of the subscription in the arguments of a program. -/
def subscriptionPath? (args : List String) : Option String :=
  (parse Send.parameters args).toOption.map fun parsed =>
    (Send.Order.ofParsed parsed).subscriptionPath

/-- The answer of the push service to a request, from the input. -/
def exchange (requests : List Transmission) : IO Transport := do
  let output ← IO.getStdout
  for request in requests do
    output.write ⟨request.toBytes.toArray⟩
  output.flush
  if requests.isEmpty then return .answered 201 ""
  else
    let answer ← (← IO.getStdin).readBinToEnd
    return .ofAnswer ((Utf8.decodeChars? answer.toList).getD [])

/-- How deep the program lets a subscription nest. -/
def readingDepth : Json.Depth := ⟨100000, by decide⟩

/-- What was sent, and how the program ended. What it sends does not depend on
the answer, so a first run tells what to send, and a second one judges the answer. -/
def sendFrom (s : Session) (args : List String) : IO UInt32 := do
  let paths := (s.loadSettings.toOption.map logPaths).getD []
  let s ← ((subscriptionPath? args).toList ++ paths).foldlM fetch s
  let transport ← exchange (Send.run readingDepth args true (.answered 201 "") s).received
  let run := Send.run readingDepth args true transport s
  store s run.session paths
  match run.result with
  | .ok (.ok outcome) =>
    finish { outcome with output := "", errors := outcome.errors ++ outcome.output }
  | .ok (.error reason) => showUsage (usage "send" Send.parameters) reason
  | .error e => finish { status := 1, errors := run.session.errorStream ++ e.message ++ "\n" }

/-- The program that sends a message. -/
def send (args : List String) : IO UInt32 := do
  match ← configuredSession with
  | .ok s => sendFrom s args
  | .error f => finish { status := 1, errors := (Send.Escape.session f).message ++ "\n" }

end WebPush.CommandLine

/-- The program that the first argument names. -/
def main (args : List String) : IO UInt32 := do
  match args with
  | "generate" :: rest => WebPush.CommandLine.generate rest
  | "send" :: rest => WebPush.CommandLine.send rest
  | _ =>
    IO.eprintln "usage: webpush (generate | send) ..."
    return 2
