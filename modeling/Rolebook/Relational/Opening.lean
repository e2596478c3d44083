import Rolebook.Relational.Client
import Rolebook.Text.Hex

/-!
# Opening a database

Before a store uses a database, the schema is brought up to date under a lock. There is one version
of the schema, known by the checksum of the text that makes it. A database with another history is
refused.
-/

namespace Rolebook.Relational

open Rolebook.Store (Error)
open Rolebook.Text (Bytes)

/-- The version of the schema. -/
def schemaVersion : Int := 1

/-- The checksum of the text that makes the schema. -/
def schemaChecksum : Bytes :=
  (Text.ofHex? <|
    "c40f43e15fc4403b7bf6d0e551f2ef39a252e987c4f4cac0" ++
      "ba46aa6d58568cc098c27041d6e47a3819ea923dd0a1f2d2").getD []

/-- Why a database cannot be opened. -/
inductive OpeningError
  /-- There is no connection. -/
  | refused (error : DatabaseError)
  /-- The history of the schema cannot be read or written. -/
  | history (error : DatabaseError)
  /-- A version of the schema cannot be made. -/
  | failedVersion (version : Int) (error : DatabaseError)
  /-- A version of the schema was begun and not finished. -/
  | unfinishedVersion (version : Int)
  /-- A version of the schema is not known. -/
  | unknownVersion (version : Int)
  /-- A version of the schema was made from another text. -/
  | otherVersion (version : Int)
deriving DecidableEq, Repr

/-- The digits of a version. -/
def versionText (version : Int) : String :=
  String.ofList <|
    if version < 0 then '-' :: Text.toDigits 10 version.natAbs else Text.toDigits 10 version.natAbs

/-- The text of an error and of its causes. -/
def OpeningError.messages : OpeningError → String × List String
  | .refused error => (error.report, [error.message])
  | .history error =>
    ("while executing migrations: " ++ error.report, [error.report, error.message])
  | .failedVersion version error =>
    ("while executing migration " ++ versionText version ++ ": " ++ error.report,
      [error.report, error.message])
  | .unfinishedVersion version =>
    ("migration " ++ versionText version ++
      " is partially applied; fix and remove row from \x60_sqlx_migrations\x60 table", [])
  | .unknownVersion version =>
    ("migration " ++ versionText version ++
      " was previously applied but is missing in the resolved migrations", [])
  | .otherVersion version =>
    ("migration " ++ versionText version ++ " was previously applied but has been modified", [])

/-- An error in opening a database as an error of the store. -/
def OpeningError.toError (error : OpeningError) : Error :=
  .unexpected error.messages.1 error.messages.2

/-- A part of the opening of a database. -/
abbrev Step (α : Type) : Type :=
  ExceptT OpeningError Dialogue α

/-- Sends a request, whose error is reported in this way. -/
def stepOr (report : DatabaseError → OpeningError) (request : Request) : Step request.Value :=
  ExceptT.mk <| .ask request fun answer => .done (answer.mapError report)

/-- Sends a request that reads or writes the history of the schema. -/
def step (request : Request) : Step request.Value :=
  stepOr .history request

/-- Makes the schema in a transaction. -/
def makeSchema : Step Unit := do
  step .beginTransaction
  let guarded : Step Unit := do
    stepOr (.failedVersion schemaVersion) (.execute .applyMigration)
    step (.execute (.recordMigration schemaVersion schemaChecksum))
    step .commit
  ExceptT.mk do
    match ← guarded.run with
    | .ok () => return .ok ()
    | .error error =>
      let _ ← (Program.perform .rollback : Dialogue _)
      return .error error
  step (.execute .timeMigration)

/-- Refuses a history of the schema that is not its own. -/
def checkHistory (applied : List (Int × Bytes)) : Except OpeningError Unit :=
  match applied.find? fun migration => migration.1 ≠ schemaVersion with
  | some (version, _) => .error (.unknownVersion version)
  | none =>
    match applied.find? fun migration => migration.2 ≠ schemaChecksum with
    | some (version, _) => .error (.otherVersion version)
    | none => .ok ()

/-- The dialogue that opens a database. -/
def openDatabase : Step Unit := do
  stepOr .refused .connect
  step (.execute .currentDatabase)
  step (.execute .migrationLock)
  step (.execute .migrationsTable)
  match ← step (.execute .dirtyMigration) with
  | some version => throw (.unfinishedVersion version)
  | none =>
    let applied : List (Int × Bytes) ← step (.execute .appliedMigrations)
    ExceptT.mk (.done (checkHistory applied))
    if applied.isEmpty then
      makeSchema
    step (.execute .currentDatabase)
    step (.execute .migrationUnlock)

end Rolebook.Relational
