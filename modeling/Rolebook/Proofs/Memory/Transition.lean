import Rolebook.Memory.Operations

/-!
# What a call does to a store in memory

`Transition` lists all that one call can do: it fails and leaves the state alone, it only reads, or
it is one of the eight writes, each with what was found before it. `transition_perform` says that
nothing else happens, so what every call keeps is shown by going through these cases and never
through the operations again.
-/

namespace Rolebook.Memory

open Rolebook.Store (Error Call)

/-- Whether a call asks for something without changing anything. -/
def readsOnly : Call → Bool
  | .listPermissions | .getPermission _ | .getPermissionByName _ => true
  | .listRoles | .getRole _ | .getRoleByName _ => true
  | .rolePermissionIds _ | .healthCheck => true
  | _ => false

/-- What a call answers in a state and what becomes of the state. -/
inductive Transition (moment : Moment) (state : State) : (call : Call) → call.Answer → State → Prop
  | fails {call : Call} (error : Error) :
      Transition moment state call (.error error) state
  | reads {call : Call} (answer : call.Answer) (hReads : readsOnly call = true) :
      Transition moment state call answer state
  | createPermission {name kept : String} {description : Option String}
      (hKept : keptName .permission name = .ok kept)
      (hFree : state.permissionNameTaken kept none = false) :
      Transition moment state (.createPermission name description)
        (.ok ((state.addPermission (.new moment kept description)).showPermission
          (.new moment kept description)))
        (state.addPermission (.new moment kept description))
  | updatePermission {id : Id} {name kept : String} {description : Option String}
      {record : PermissionRecord}
      (hKept : keptName .permission name = .ok kept)
      (hFound : state.permission? id = some record)
      (hFree : state.permissionNameTaken kept (some id) = false) :
      Transition moment state (.updatePermission id name description)
        (.ok ((state.describePermission id kept description).showPermission
          { record with name := kept, description }))
        (state.describePermission id kept description)
  | deletePermission {id : Id} {record : PermissionRecord}
      (hFound : state.permission? id = some record) :
      Transition moment state (.deletePermission id) (.ok ()) (state.removePermission id)
  | createRole {name kept : String}
      (hKept : keptName .role name = .ok kept)
      (hFree : state.roleNameTaken kept none = false) :
      Transition moment state (.createRole name)
        (.ok ((state.addRole (.new moment kept)).showRole (.new moment kept)))
        (state.addRole (.new moment kept))
  | updateRole {id : Id} {name kept : String} {record : RoleRecord}
      (hKept : keptName .role name = .ok kept)
      (hFound : state.role? id = some record)
      (hFree : state.roleNameTaken kept (some id) = false) :
      Transition moment state (.updateRole id name)
        (.ok ((state.renameRole id kept).showRole { record with name := kept }))
        (state.renameRole id kept)
  | deleteRole {id : Id} {record : RoleRecord}
      (hFound : state.role? id = some record) :
      Transition moment state (.deleteRole id) (.ok ()) (state.removeRole id)
  | setRolePermissions {id : Id} {permissions : IdSet} {record : RoleRecord}
      (hFound : state.role? id = some record)
      (hKnown : ∀ permission ∈ permissions, state.permission? permission ≠ none) :
      Transition moment state (.setRolePermissions id permissions)
        (.ok (((state.setGrants id permissions).bumpRole id).showRole record.bump))
        ((state.setGrants id permissions).bumpRole id)
  | replaceRolePermissions {id : Id} {permissions : IdSet} {record : RoleRecord}
      (hFound : state.role? id = some record)
      (hKnown : ∀ permission ∈ permissions, state.permission? permission ≠ none) :
      Transition moment state (.replaceRolePermissions id record.revision permissions)
        (.ok (((state.setGrants id permissions).bumpRole id).showRole record.bump))
        ((state.setGrants id permissions).bumpRole id)

/-- The exchange of the grants of a role that is there for known permissions is done. -/
theorem replaceGrants_of_known {state : State} {id : Id} {record : RoleRecord} {permissions : IdSet}
    (hFound : state.role? id = some record)
    (hKnown : ∀ permission ∈ permissions, state.permission? permission ≠ none) :
    state.replaceGrants id permissions =
      (.ok (((state.setGrants id permissions).bumpRole id).showRole record.bump),
        (state.setGrants id permissions).bumpRole id) := by
  have hNone : (permissions.toList.find? fun permission => (state.permission? permission).isNone) =
      none := by
    rw [List.find?_eq_none]
    intro permission hPermission
    simpa using hKnown permission hPermission
  -- the exchange of the grants leaves all roles, so the second look-up finds what the first one
  -- found
  have hFound' : (state.setGrants id permissions).role? id = some record := hFound
  simp only [State.replaceGrants, hNone, hFound']

/-- The grants of a role that is there are exchanged, or a permission to be granted is missing and
nothing happens. The look-up behind the exchange never fails then. -/
theorem replaceGrants_cases {state : State} {id : Id} {record : RoleRecord}
    (hFound : state.role? id = some record) (permissions : IdSet) :
    (∃ error, state.replaceGrants id permissions = (.error error, state)) ∨
      (∀ permission ∈ permissions, state.permission? permission ≠ none) ∧
        state.replaceGrants id permissions =
          (.ok (((state.setGrants id permissions).bumpRole id).showRole record.bump),
            (state.setGrants id permissions).bumpRole id) := by
  cases hMissing : permissions.toList.find? fun permission =>
    (state.permission? permission).isNone with
  | some missing =>
      exact .inl ⟨.missingPermission missing, by simp only [State.replaceGrants, hMissing]⟩
  | none =>
      have hKnown : ∀ permission ∈ permissions, state.permission? permission ≠ none := by
        intro permission hPermission hNone
        have hPresent := List.find?_eq_none.1 hMissing permission hPermission
        rw [hNone] at hPresent
        exact hPresent rfl
      exact .inr ⟨hKnown, replaceGrants_of_known hFound hKnown⟩

-- The cases are those of the operations: a name that cannot be kept, an entity that is missing, a
-- name that is taken.
theorem transition_perform (moment : Moment) (state : State) (call : Call) :
    Transition moment state call (state.perform moment call).1 (state.perform moment call).2 := by
  cases call with
  | listPermissions => exact .reads _ rfl
  | getPermission id => exact .reads _ rfl
  | getPermissionByName name => exact .reads _ rfl
  | listRoles => exact .reads _ rfl
  | getRole id => exact .reads _ rfl
  | getRoleByName name => exact .reads _ rfl
  | rolePermissionIds id => exact .reads _ rfl
  | healthCheck => exact .reads _ rfl
  | createPermission name description =>
      simp only [State.perform, State.createPermission]
      split
      · exact .fails _
      · next kept hKept =>
          split
          · exact .fails _
          · next hFree => exact .createPermission hKept (by simpa using hFree)
  | updatePermission id name description =>
      simp only [State.perform, State.updatePermission]
      split
      · exact .fails _
      · next kept hKept =>
          split
          · exact .fails _
          · next record hFound =>
              split
              · exact .fails _
              · next hFree => exact .updatePermission hKept hFound (by simpa using hFree)
  | deletePermission id =>
      simp only [State.perform, State.deletePermission]
      split
      · exact .fails _
      · next record hFound => exact .deletePermission hFound
  | createRole name =>
      simp only [State.perform, State.createRole]
      split
      · exact .fails _
      · next kept hKept =>
          split
          · exact .fails _
          · next hFree => exact .createRole hKept (by simpa using hFree)
  | updateRole id name =>
      simp only [State.perform, State.updateRole]
      split
      · exact .fails _
      · next kept hKept =>
          split
          · exact .fails _
          · next record hFound =>
              split
              · exact .fails _
              · next hFree => exact .updateRole hKept hFound (by simpa using hFree)
  | deleteRole id =>
      simp only [State.perform, State.deleteRole]
      split
      · exact .fails _
      · next record hFound => exact .deleteRole hFound
  | setRolePermissions id permissions =>
      simp only [State.perform, State.setRolePermissions]
      split
      · exact .fails _
      · next record hFound =>
          rcases replaceGrants_cases hFound permissions with ⟨error, hError⟩ | ⟨hKnown, hWritten⟩
          · rw [hError]
            exact .fails error
          · rw [hWritten]
            exact .setRolePermissions hFound hKnown
  | replaceRolePermissions id expected permissions =>
      simp only [State.perform, State.replaceRolePermissions]
      split
      · exact .fails _
      · next record hFound =>
          split
          · next hRevision =>
              subst hRevision
              rcases replaceGrants_cases hFound permissions with ⟨error, hError⟩ |
                ⟨hKnown, hWritten⟩
              · rw [hError]
                exact .fails error
              · rw [hWritten]
                exact .replaceRolePermissions hFound hKnown
          · exact .fails _

end Rolebook.Memory
