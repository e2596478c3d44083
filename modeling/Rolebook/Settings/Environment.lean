import Rolebook.Settings.Record
import Rolebook.Text.Utf8

/-!
# Settings from the environment

Variables of the environment, and the settings that they make. A variable whose bytes are no text
counts as not set. What concerns a database is looked at only if there is an address for one.
-/

namespace Rolebook

open Rolebook.Text (Bytes)

/-- The variables that are set. -/
abbrev Environment := List (String × Bytes)

/-- The text of a variable. -/
def Environment.text? (environment : Environment) (name : String) : Option String :=
  (environment.lookup name).bind Text.ofUtf8?

namespace Settings

/-- The setting that a variable makes, or the one given if it is not set. -/
def fromVariable (environment : Environment) (read : String → Except Defect α) (name : String)
    (unset : α) :
    Except Error α :=
  match environment.text? name with
  | some text => named name (read text)
  | none => .ok unset

/-- The database that the variables name. -/
def databaseOfEnvironment (environment : Environment) : Except Error (Option Database) :=
  match environment.text? "RBAC_ADMIN_POSTGRES_URL" with
  | none => .ok none
  | some url => do
    let unset := Database.ofUrl url
    let maxConnections ←
      fromVariable environment readCount "RBAC_ADMIN_PG_MAX_CONNECTIONS" unset.maxConnections
    let connectTimeout ←
      fromVariable environment readTime "RBAC_ADMIN_PG_CONNECT_TIMEOUT_MS" unset.connectTimeout
    let acquireTimeout ←
      fromVariable environment readTime "RBAC_ADMIN_PG_ACQUIRE_TIMEOUT_MS" unset.acquireTimeout
    return some ⟨url, maxConnections, connectTimeout, acquireTimeout⟩

/-- The settings that the variables make. -/
def ofEnvironment (environment : Environment) : Except Error Settings := do
  let metricsBind ← fromVariable environment readAddress "RBAC_ADMIN_METRICS_BIND"
      default.metricsBind
  let bind ← fromVariable environment readAddress "RBAC_ADMIN_BIND" default.bind
  let storage ← fromVariable environment readStorage "RBAC_ADMIN_STORAGE" default.storage
  let database ← databaseOfEnvironment environment
  let seedDemo ← fromVariable environment readSwitch "RBAC_ADMIN_SEED_DEMO" default.seedDemo
  let lowercaseCommands ←
    fromVariable environment readSwitch "RBAC_ADMIN_LOWERCASE_COMMANDS" default.lowercaseCommands
  return ⟨bind, metricsBind, storage, database, seedDemo, lowercaseCommands⟩

end Settings

end Rolebook
