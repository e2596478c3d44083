import Rolebook.Fault
import Rolebook.Memory.Operations

/-!
# Rehearsals

A store in memory that is made to misbehave: calls fail by plan, and a rival changes things just
before a permission set is replaced.
-/

namespace Rolebook

open Rolebook.Store (Error Call)

/-- What a rival does. -/
inductive Rival.Action
  /-- Gives its permission to the role, or takes it if the role has it. -/
  | toggle
  /-- Deletes the role. -/
  | deleteRole
  /-- Deletes its permission. -/
  | deletePermission
deriving DecidableEq, Repr

/-- Someone who acts before the permission set of a role is replaced. -/
structure Rival where
  action : Rival.Action
  permission : Id
  /-- How often the rival will act yet. -/
  times : Nat
deriving DecidableEq, Repr

/-- The state after an operation that succeeds, or why it fails. -/
def stateAfter (outcome : Memory.Outcome α) : Except Error Memory.State :=
  outcome.1.map fun _ => outcome.2

/-- What becomes of a store when the rival acts on a role, or why the rival fails. -/
def Rival.act (rival : Rival) (role : Id) (state : Memory.State) : Except Error Memory.State :=
  match rival.action with
  | .toggle =>
    match state.getRole role with
    | .error error => .error error
    | .ok role =>
      let toggled :=
        if rival.permission ∈ role.permissionIds then
          role.permissionIds.erase rival.permission
        else
          role.permissionIds.insert rival.permission
      stateAfter (state.setRolePermissions role.id toggled)
  | .deleteRole => stateAfter (state.deleteRole role)
  | .deletePermission => stateAfter (state.deletePermission rival.permission)

/-- A planned failure of a call. -/
inductive Failure
  /-- The call answers with an error. -/
  | error (error : Error)
  /-- The one who makes the call is brought to an end. -/
  | abort
deriving DecidableEq, Repr

/-- A store in memory that is made to misbehave. -/
structure Rehearsal where
  inner : Memory.State
  /-- Whether the store says of itself that it is durable. -/
  durable : Bool
  faults : List (Fault Failure)
  rival : Option Rival

namespace Rehearsal

/-- A rehearsal without entities and with nothing planned. -/
def empty (durable : Bool) : Rehearsal :=
  ⟨.empty, durable, [], none⟩

/-- The rehearsal after the rival has acted on a role, if there is one that will act yet, and why
the rival fails. -/
def letRivalAct (rehearsal : Rehearsal) (role : Id) : Option Error × Rehearsal :=
  match rehearsal.rival with
  | none => (none, rehearsal)
  | some rival =>
    match rival.times with
    | 0 => (none, rehearsal)
    | times + 1 =>
      let rehearsal := { rehearsal with rival := some { rival with times } }
      match rival.act role rehearsal.inner with
      | .ok inner => (none, { rehearsal with inner })
      | .error error => (some error, rehearsal)

/-- The answer to a call that has met no fault. -/
def performUnharmed (rehearsal : Rehearsal) (moment : Moment) (call : Call) :
    call.Answer × Rehearsal :=
  let (failed, rehearsal) :=
    match call with
    | .replaceRolePermissions role _ _ => rehearsal.letRivalAct role
    | _ => (none, rehearsal)
  match failed with
  | some error => (.error error, rehearsal)
  | none =>
    let (answer, inner) := rehearsal.inner.perform moment call
    (answer, { rehearsal with inner })

/-- The answer to a call, if the one who makes it lives on, and the rehearsal after it. -/
def performDirectly (rehearsal : Rehearsal) (moment : Moment) (call : Call) :
    Option call.Answer × Rehearsal :=
  let (failure?, faults) := Fault.strike call.label rehearsal.faults
  let rehearsal := { rehearsal with faults }
  match failure? with
  | some .abort => (none, rehearsal)
  | some (.error error) => (some (.error error), rehearsal)
  | none =>
    let (answer, rehearsal) := rehearsal.performUnharmed moment call
    (some answer, rehearsal)

/-- The answer to a call, if the one who makes it lives on, and the rehearsal after it. The
permissions of a role are found by reading the role. -/
def perform (rehearsal : Rehearsal) (moment : Moment) (call : Call) :
    Option call.Answer × Rehearsal :=
  match call with
  | .rolePermissionIds id =>
    let (answer?, rehearsal) := rehearsal.performDirectly moment (.getRole id)
    (answer?.map fun (answer : Call.Answer (.getRole id)) => answer.map Role.permissionIds,
      rehearsal)
  | call => rehearsal.performDirectly moment call

end Rehearsal

end Rolebook
