import Rolebook.Relational.Connection
import Rolebook.Service.Session
import Rolebook.Settings.Load

/-!
# Starting the service

The service starts with its settings, then its store, then the demonstration data if they are
wanted, then the listener for metrics and at last its own listener. The first of these that fails
ends the start, and a report says why.
-/

namespace Rolebook.Service

open Rolebook.Net (Host ListenError SocketAddress)
open Rolebook.Settings (Database Files)
open Rolebook.Store (Error)

/-- What the service finds where it is started. -/
structure Surroundings where
  environment : Environment
  files : Files
  host : Host
  /-- Opens the store over a database. -/
  connect : Database → Except Error Relational.Store
  now : Instant

/-- Surroundings without any database. -/
def Surroundings.withoutDatabase (environment : Environment) (files : Files) (host : Host)
    (now : Instant) :
    Surroundings where
  environment
  files
  host
  connect database := .error (Relational.connectionError host.network database).toError
  now

/-- Why the service does not start. -/
inductive StartError
  | settings (error : Settings.Error)
  | noDatabase
  | connect (error : Error)
  | seed (error : Error)
  | metricsListener (address : SocketAddress) (error : ListenError)
  | listener (error : ListenError)
deriving Repr

/-- The texts of an error of a store and of its causes. -/
def errorTexts : Error → List String
  | .unexpected message causes => message :: causes
  | error => [error.message]

/-- The texts of an error and of its causes. -/
def StartError.texts : StartError → List String
  | .settings error => "rbac admin config" :: error.messages
  | .noDatabase => ["postgres configuration missing"]
  | .connect error => "connect postgres store" :: errorTexts error
  | .seed error => "seed demo data" :: errorTexts error
  | .metricsListener address error => ["bind metrics listener " ++ address.text, error.message]
  | .listener error => [error.message]

/-! ## Reports -/

/-- A text whose first line stands behind a label and whose other lines stand under it. -/
def labelled (label text : String) : String :=
  let margin := String.ofList (List.replicate label.length ' ')
  label ++ ("\n" ++ margin).intercalate (text.splitOn "\n")

/-- The label of a cause with a number. -/
def causeLabel (number : Nat) : String :=
  let digits := Text.toDigits 10 number
  String.ofList (List.replicate (5 - digits.length) ' ' ++ digits) ++ ": "

/-- The causes of an error, each on a line of its own. They are numbered if there are several. -/
def causeLines : List String → List String
  | [] => []
  | [cause] => [labelled "    " cause]
  | causes => causes.mapIdx fun number cause => labelled (causeLabel number) cause

/-- The report of an error and of its causes. -/
def report : List String → String
  | [] => ""
  | [message] => "Error: " ++ message ++ "\n"
  | message :: causes =>
    "Error: " ++ message ++ "\n\nCaused by:\n" ++ "\n".intercalate (causeLines causes) ++ "\n"

/-- The report of why the service does not start. -/
def StartError.report (error : StartError) : String :=
  Service.report error.texts

/-! ## The start -/

/-- The store that the settings ask for. -/
def openBackend (surroundings : Surroundings) (settings : Settings) : Except StartError Backend :=
  match settings.storage with
  | .memory => .ok (.memory .empty)
  | .postgres =>
    match settings.database with
    | none => .error .noDatabase
    | some database => ((surroundings.connect database).mapError .connect).map .relational

/-- The session with the demonstration data. -/
def seeded (session : Session) : Except StartError Session :=
  match session.seed with
  | (some (.error error), _) => .error (.seed error)
  | (_, session) => .ok session

/-- The host once both listeners listen. -/
def listen (host : Host) (settings : Settings) : Except StartError Host := do
  let host ← (host.listen settings.metricsBind).mapError (.metricsListener settings.metricsBind)
  (host.listen settings.bind).mapError .listener

/-- Starts the service. -/
def start (surroundings : Surroundings) : Except StartError Session := do
  let settings ← (Settings.load surroundings.environment surroundings.files).mapError .settings
  let backend ← openBackend surroundings settings
  let session := Session.start backend settings.lowercaseCommands surroundings.now
  let session ← if settings.seedDemo then seeded session else .ok session
  let _ ← listen surroundings.host settings
  return session

end Rolebook.Service
