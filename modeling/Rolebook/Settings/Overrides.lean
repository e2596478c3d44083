import Rolebook.Settings.Record
import Rolebook.Yaml.Typed

/-!
# Settings from a file

A settings file is a Yaml text. What it says takes the place of what was set before.
-/

namespace Rolebook.Settings

open Rolebook.Yaml

/-- What a settings file says. -/
structure Overrides where
  bind : Option String
  metricsBind : Option String
  storage : Option String
  databaseUrl : Option String
  maxConnections : Option UInt32
  seedDemo : Option Bool
  lowercaseCommands : Option Bool
deriving DecidableEq, Repr

namespace Overrides

/-- A file that says nothing. -/
def none : Overrides :=
  ⟨.none, .none, .none, .none, .none, .none, .none⟩

/-- What a document says. Members that are not known are passed over. -/
def ofNode? (document : Node) : Option Overrides := do
  let members ← document.members?
  let text (name : String) : Option (Option String) := member? Node.text? name members
  let switch (name : String) : Option (Option Bool) := member? Node.switch? name members
  let bind ← text "bind_addr"
  let metricsBind ← text "metrics_bind"
  let storage ← text "storage"
  let databaseUrl ← text "postgres_url"
  let maxConnections ← member? (Node.number? (Text.greatestOfBits 32))
      "postgres_max_connections" members
  let seedDemo ← switch "seed_demo"
  let lowercaseCommands ← switch "lowercase_commands"
  return ⟨bind, metricsBind, storage, databaseUrl, maxConnections.map UInt32.ofNat, seedDemo,
    lowercaseCommands⟩

/-- What a settings file says, if it is well-formed. It is one document at most. -/
def ofText? (text : String) : Option Overrides :=
  match documents? text with
  | some [] => some none
  | some [document] => ofNode? document
  | _ => .none

end Overrides

/-- The setting that a text makes, or the one given if there is no text. -/
def fromText (read : String → Except Defect α) (name : String) (unset : α) :
    Option String → Except Error α
  | some text => named name (read text)
  | none => .ok unset

/-- The database with what a file says. A file that gives an address names a database if there was
none. -/
def overrideDatabase (database : Option Database) (overrides : Overrides) : Option Database :=
  let database :=
    match overrides.databaseUrl with
    | some url => some { database.getD (.ofUrl url) with url }
    | none => database
  database.map fun database =>
    { database with maxConnections := overrides.maxConnections.getD database.maxConnections }

/-- The settings with what a file says in place of what was set before. -/
def override (settings : Settings) (overrides : Overrides) : Except Error Settings := do
  let bind ← fromText readAddress "bind_addr" settings.bind overrides.bind
  let metricsBind ← fromText readAddress "metrics_bind" settings.metricsBind overrides.metricsBind
  let storage ← fromText readStorage "storage" settings.storage overrides.storage
  return {
    bind
    metricsBind
    storage
    database := overrideDatabase settings.database overrides
    seedDemo := overrides.seedDemo.getD settings.seedDemo
    lowercaseCommands := overrides.lowercaseCommands.getD settings.lowercaseCommands }

end Rolebook.Settings
