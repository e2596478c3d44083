import Rolebook.Rehearsal
import Rolebook.Relational.Store

/-!
# Backends

The stores that a service can have.
-/

namespace Rolebook.Service

open Rolebook.Store (Call Inventory)

/-- A store of a service. -/
inductive Backend
  | memory (state : Memory.State)
  | rehearsal (store : Rehearsal)
  | relational (store : Relational.Store)

namespace Backend

/-- What the service says its store is. -/
def name : Backend → String
  | .memory _ => "memory"
  | .rehearsal _ => "wrapped"
  | .relational _ => "postgres"

/-- Whether what is stored outlives the service. -/
def durable : Backend → Bool
  | .memory _ => false
  | .rehearsal store => store.durable
  | .relational _ => true

/-- The answer to a call, if the one who makes it lives on, and the store after it. -/
def perform (backend : Backend) (moment : Moment) (call : Call) : Option call.Answer × Backend :=
  match backend with
  | .memory state =>
    let (answer, state) := state.perform moment call
    (some answer, .memory state)
  | .rehearsal store =>
    let (answer?, store) := store.perform moment call
    (answer?, .rehearsal store)
  | .relational store =>
    let (answer, store) := store.perform moment call
    (some answer, .relational store)

/-- All permissions and roles, without a call. -/
def listing : Backend → List Permission × List Role
  | .memory state => (state.listPermissions, state.listRoles)
  | .rehearsal store => (store.inner.listPermissions, store.inner.listRoles)
  | .relational store => store.listing

/-- The numbers of permissions and roles that were last made known. -/
def inventory : Backend → Option Inventory
  | .memory state => state.inventory
  | .rehearsal store => store.inner.inventory
  | .relational store => store.inventory

/-- The store once other numbers of permissions and roles were made known. -/
def publish (backend : Backend) (inventory : Inventory) : Backend :=
  match backend with
  | .memory state => .memory { state with inventory := some inventory }
  | .rehearsal store =>
    .rehearsal { store with inner := { store.inner with inventory := some inventory } }
  | .relational store => .relational { store with inventory := some inventory }

end Backend

end Rolebook.Service
