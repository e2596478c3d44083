import Rolebook.Relational.Opening

/-!
# Stores over databases

A store that keeps its entities in the tables of a database.
-/

namespace Rolebook.Relational

open Rolebook.Store (Error Call Inventory)

/-- A store over a database. -/
structure Store where
  server : Server
  /-- The numbers of permissions and roles when they were last counted. -/
  inventory : Option Inventory

namespace Store

/-- The store over a database that has been opened, or why it cannot be. -/
def open? (server : Server) (now : Instant) : Except OpeningError Unit × Server :=
  server.run now.wholeMicrosecond openDatabase.run

/-- The answer to a call and the store after it. The clock of the server shows whole
microseconds. -/
def perform (store : Store) (moment : Moment) (call : Call) : call.Answer × Store :=
  let (outcome, server) :=
    store.server.run moment.now.wholeMicrosecond (dialogue moment.newId call).run
  match outcome with
  | .ok (value, inventory?) => (.ok value, ⟨server, inventory? <|> store.inventory⟩)
  | .error error => (.error error, ⟨server, store.inventory⟩)

/-- The entities in the tables, without asking the server. -/
def listing (store : Store) : List Permission × List Role :=
  (store.server.committed.listPermissions, store.server.committed.listRoles)

end Store

end Rolebook.Relational
