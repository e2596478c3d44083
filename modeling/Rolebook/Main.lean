import Rolebook.Service.Console
import Rolebook.Service.Start
import Std.Time.DateTime.Timestamp

/-!
# The program

Starts the service and answers the requests on standard input, line by line, until it ends. If the
service does not start then the report is written to standard error.
-/

namespace Rolebook.Main

open Rolebook.Service

/-- The variables that the service looks at. -/
def variableNames : List String := [
  "RBAC_ADMIN_METRICS_BIND", "RBAC_ADMIN_BIND", "RBAC_ADMIN_STORAGE", "RBAC_ADMIN_POSTGRES_URL",
  "RBAC_ADMIN_PG_MAX_CONNECTIONS", "RBAC_ADMIN_PG_CONNECT_TIMEOUT_MS",
  "RBAC_ADMIN_PG_ACQUIRE_TIMEOUT_MS",
  "RBAC_ADMIN_SEED_DEMO", "RBAC_ADMIN_LOWERCASE_COMMANDS", "RBAC_ADMIN_CONFIG"]

/-- The variables that are set. -/
def environment : IO Environment :=
  variableNames.filterMapM fun name => do
    return (← IO.getEnv name).map fun value => (name, Text.toUtf8 value)

/-- What is wrong with a file that cannot be read. -/
def fileErrorOf : IO.Error → Settings.FileError
  | .inappropriateType _ _ _ => .directory
  | _ => .missing

/-- What is found under a path. -/
def readFile (path : String) : IO (Except Settings.FileError Text.Bytes) := do
  try
    return .ok (← IO.FS.readBinFile path).toList
  catch error =>
    return .error (fileErrorOf error)

/-- The time. -/
def now : IO Instant := do
  let nanoseconds := (← Std.Time.Timestamp.now).toNanosecondsSinceUnixEpoch.val
  return ⟨nanoseconds⟩

/-- Answers requests until there are no more. -/
partial def serve (input output : IO.FS.Stream) (session : Session) : IO Unit := do
  let line ← input.getLine
  if !line.isEmpty then
    match Console.requestOf? line with
    | some (listener, request) =>
      let session := { session with now := ← now }
      let (response, session) := Console.answer session listener request
      output.putStrLn (Console.responseLine response)
      output.flush
      serve input output session
    | none =>
      output.putStrLn "400"
      output.flush
      serve input output session

/-- Runs the program and gives its exit code. -/
def run : IO UInt32 := do
  let environment ← environment
  let content ← (environment.text? "RBAC_ADMIN_CONFIG").mapM readFile
  let files : Settings.Files := fun _ => content.getD (.error .missing)
  let surroundings := Surroundings.withoutDatabase environment files ⟨.loopback, []⟩ (← now)
  match start surroundings with
  | .error error =>
    (← IO.getStderr).putStr error.report
    return 1
  | .ok session =>
    serve (← IO.getStdin) (← IO.getStdout) session
    return 0

end Rolebook.Main

def main : IO UInt32 :=
  Rolebook.Main.run
