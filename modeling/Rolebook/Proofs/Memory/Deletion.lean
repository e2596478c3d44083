import Rolebook.Proofs.Memory.Span

/-!
# What a deletion takes with it

A permission that is deleted is taken out of the roles that grant it, and these move on by one
revision; a role that is deleted is taken out of the permissions that it grants, and nothing else
happens to them. `PermissionRemoved` and `RoleRemoved` say this of two states by what is shown in
them, for each of the entities that are left.

That nothing else ever names what is gone has nothing to do with the deletion: in a coherent state a
call that reads names only entities that are there (`Coherent.has_of_mentions`).
-/

namespace Rolebook.Memory

open Rolebook.Store (Call)

/-! ## What an answer mentions -/

/-- A permission, as it is shown, has an entity of a kind in it: itself or one of its roles. -/
def MentionedInPermission (kind : EntityKind) (id : Id) (permission : Permission) : Prop :=
  match kind with
  | .permission => permission.id = id
  | .role => id ∈ permission.roleIds

/-- A role, as it is shown, has an entity of a kind in it: itself or one of its permissions. -/
def MentionedInRole (kind : EntityKind) (id : Id) (role : Role) : Prop :=
  match kind with
  | .permission => id ∈ role.permissionIds
  | .role => role.id = id

/-- Something is mentioned in one of several entities. -/
def MentionedAmong {α : Type} (mentioned : α → Prop) (entities : List α) : Prop :=
  ∃ entity ∈ entities, mentioned entity

/-- What a call results in has the identifier of an entity of a kind in it. -/
def Mentions (kind : EntityKind) (id : Id) : (call : Call) → call.Value → Prop
  | .listPermissions, permissions => MentionedAmong (MentionedInPermission kind id) permissions
  | .getPermission _, permission => MentionedInPermission kind id permission
  | .getPermissionByName _, permission? =>
    MentionedAmong (MentionedInPermission kind id) (Option.toList permission?)
  | .createPermission _ _, permission => MentionedInPermission kind id permission
  | .updatePermission _ _ _, permission => MentionedInPermission kind id permission
  | .deletePermission _, _ => False
  | .listRoles, roles => MentionedAmong (MentionedInRole kind id) roles
  | .getRole _, role => MentionedInRole kind id role
  | .getRoleByName _, role? => MentionedAmong (MentionedInRole kind id) (Option.toList role?)
  | .createRole _, role => MentionedInRole kind id role
  | .updateRole _ _, role => MentionedInRole kind id role
  | .deleteRole _, _ => False
  | .rolePermissionIds _, permissions =>
    kind = .permission ∧ MentionedAmong (· = id) (OrderedSet.toList permissions)
  | .setRolePermissions _ _, role => MentionedInRole kind id role
  | .replaceRolePermissions _ _ _, role => MentionedInRole kind id role
  | .healthCheck, _ => False

section Mentions

variable {state : State} (hState : Coherent state) {kind : EntityKind} {id : Id}

include hState

theorem Coherent.has_of_shown_permission {key : Id} {record : PermissionRecord}
    (hFound : state.permission? key = some record)
    (hMentioned : MentionedInPermission kind id (state.showPermission record)) :
    state.Has kind id := by
  cases kind with
  | permission =>
      obtain rfl : record.id = id := hMentioned
      rw [hState.permissions.own_id key record hFound]
      exact has_permission hFound
  | role => exact (hState.grants _ (State.mem_roleIdsOf.1 hMentioned)).1

theorem Coherent.has_of_shown_role {key : Id} {record : RoleRecord}
    (hFound : state.role? key = some record)
    (hMentioned : MentionedInRole kind id (state.showRole record)) : state.Has kind id := by
  cases kind with
  | permission => exact (hState.grants _ (State.mem_permissionIdsOf.1 hMentioned)).2
  | role =>
      obtain rfl : record.id = id := hMentioned
      rw [hState.roles.own_id key record hFound]
      exact has_role hFound

/-- A call that reads mentions only entities that are there. -/
theorem Coherent.has_of_mentions {moment : Moment} {call : Call} {value : call.Value}
    (hReads : readsOnly call = true) (hAnswer : (state.perform moment call).1 = .ok value)
    (hMentions : Mentions kind id call value) : state.Has kind id := by
  cases call with
  | listPermissions =>
      obtain rfl := Except.ok.inj hAnswer
      obtain ⟨permission, hListed, hMentioned⟩ := hMentions
      obtain ⟨record, hRecord, rfl⟩ := List.mem_map.1 (List.mem_mergeSort.1 hListed)
      obtain ⟨key, hFound⟩ := Table.mem_values.1 hRecord
      exact hState.has_of_shown_permission hFound hMentioned
  | getPermission key =>
      obtain ⟨record, hFound, rfl⟩ := getPermission_eq_ok_iff.1 hAnswer
      exact hState.has_of_shown_permission hFound hMentions
  | getPermissionByName name =>
      obtain rfl := Except.ok.inj hAnswer
      obtain ⟨permission, hNamed, hMentioned⟩ := hMentions
      obtain ⟨record, hRecord, rfl⟩ := Option.map_eq_some_iff.1 (Option.mem_toList.1 hNamed)
      obtain ⟨key, hFound⟩ := Table.mem_values.1 (List.mem_of_find?_eq_some hRecord)
      exact hState.has_of_shown_permission hFound hMentioned
  | listRoles =>
      obtain rfl := Except.ok.inj hAnswer
      obtain ⟨role, hListed, hMentioned⟩ := hMentions
      obtain ⟨record, hRecord, rfl⟩ := List.mem_map.1 (List.mem_mergeSort.1 hListed)
      obtain ⟨key, hFound⟩ := Table.mem_values.1 hRecord
      exact hState.has_of_shown_role hFound hMentioned
  | getRole key =>
      obtain ⟨record, hFound, rfl⟩ := getRole_eq_ok_iff.1 hAnswer
      exact hState.has_of_shown_role hFound hMentions
  | getRoleByName name =>
      obtain rfl := Except.ok.inj hAnswer
      obtain ⟨role, hNamed, hMentioned⟩ := hMentions
      obtain ⟨record, hRecord, rfl⟩ := Option.map_eq_some_iff.1 (Option.mem_toList.1 hNamed)
      obtain ⟨key, hFound⟩ := Table.mem_values.1 (List.mem_of_find?_eq_some hRecord)
      exact hState.has_of_shown_role hFound hMentioned
  | rolePermissionIds role =>
      obtain ⟨rfl, permission, hMember, rfl⟩ := hMentions
      simp only [State.perform, State.rolePermissionIds] at hAnswer
      split at hAnswer
      · obtain rfl := Except.ok.inj hAnswer
        exact (hState.grants _ (State.mem_permissionIdsOf.1 hMember)).2
      · cases hAnswer
  | healthCheck => exact hMentions.elim
  | _ => cases hReads

/-- Nothing that a call reads mentions an entity of a kind. -/
def Unmentioned (state : State) (kind : EntityKind) (id : Id) : Prop :=
  ∀ (moment : Moment) (call : Call) (value : call.Value), readsOnly call = true →
    (state.perform moment call).1 = .ok value → ¬ Mentions kind id call value

theorem Coherent.unmentioned (hAbsent : ¬ state.Has kind id) : Unmentioned state kind id :=
  fun _ _ _ hReads hAnswer hMentions => hAbsent (hState.has_of_mentions hReads hAnswer hMentions)

end Mentions

/-! ## What is shown after a deletion -/

/-- A role that has lost a permission: if it granted the permission, it is shown without it and at
its next revision. -/
def withoutPermission (permission : Id) (role : Role) : Role :=
  if permission ∈ role.permissionIds then
    { role with
      permissionIds := role.permissionIds.erase permission
      revision := role.revision + 1 }
  else
    role

/-- A permission that has lost a role, with all else that is shown of it left as it was. -/
def withoutRole (role : Id) (permission : Permission) : Permission :=
  { permission with roleIds := permission.roleIds.erase role }

/-- A permission was there, and it is gone: all other permissions are shown as before, and each role
as before but for this permission. -/
structure PermissionRemoved (state state' : State) (id : Id) : Prop where
  gone : state.permission? id ≠ none ∧ state'.getPermission id = .error (.missing .permission)
  permissions : ∀ other, other ≠ id → state'.getPermission other = state.getPermission other
  roles : ∀ role, state'.getRole role = (state.getRole role).map (withoutPermission id)
  unmentioned : Unmentioned state' .permission id
  /-- Permissions and roles have identifiers of their own, so a role may have had the one of the
  permission. -/
  nowhere : state.role? id = none → ∀ kind, Unmentioned state' kind id

/-- A role was there, and it is gone: all other roles are shown as before, their revisions included,
and each permission as before but for this role. What is kept of the permissions is untouched. -/
structure RoleRemoved (state state' : State) (id : Id) : Prop where
  gone : state.role? id ≠ none ∧ state'.getRole id = .error (.missing .role)
  roles : ∀ other, other ≠ id → state'.getRole other = state.getRole other
  permissions : ∀ permission, state'.getPermission permission =
    (state.getPermission permission).map (withoutRole id)
  records : ∀ permission, state'.permission? permission = state.permission? permission
  unmentioned : Unmentioned state' .role id
  nowhere : state.permission? id = none → ∀ kind, Unmentioned state' kind id

section Removals

variable {state : State} (hState : Coherent state) (id : Id)

theorem getPermission_removeRole (permission : Id) :
    (state.removeRole id).getPermission permission =
      (state.getPermission permission).map (withoutRole id) := by
  unfold State.getPermission
  rw [State.permission?_removeRole]
  cases state.permission? permission with
  | none => rfl
  | some record =>
      simp only [State.showPermission, State.roleIdsOf_removeRole, Except.map, withoutRole]

include hState

/-- The roles that move on are those that granted the permission, each of them once. -/
theorem getRole_removePermission (role : Id) :
    (state.removePermission id).getRole role = (state.getRole role).map (withoutPermission id) := by
  unfold State.getRole
  rw [State.role?_removePermission]
  cases hFound : state.role? role with
  | none => simp [Except.map]
  | some record =>
      have hId := hState.roles.own_id role record hFound
      have hHolds : role ∈ state.holders id ↔ id ∈ state.permissionIdsOf record.id := by
        rw [hId, State.mem_holders, State.mem_permissionIdsOf]
      by_cases hGranted : id ∈ state.permissionIdsOf record.id
      · rw [if_pos (hHolds.2 hGranted)]
        simp [Except.map, withoutPermission, State.showRole, RoleRecord.bump, hGranted]
      · rw [if_neg (mt hHolds.1 hGranted)]
        simp [Except.map, withoutPermission, State.showRole, hGranted,
          OrderedSet.erase_of_not_mem hGranted]

theorem Coherent.permissionRemoved (hFound : state.permission? id ≠ none) :
    PermissionRemoved state (state.removePermission id) id where
  gone := ⟨hFound, by rw [State.getPermission, State.permission?_removePermission, if_pos rfl]⟩
  permissions _ hOther := hState.getPermission_congr (by simp [hOther]) (by simp [hOther])
  roles := getRole_removePermission hState id
  unmentioned := hState.removePermission.unmentioned fun hHas =>
    (State.has_removePermission.1 hHas).2 ⟨rfl, rfl⟩
  nowhere hNoRole kind := by
    refine hState.removePermission.unmentioned fun hHas => ?_
    obtain ⟨hBefore, hOther⟩ := State.has_removePermission.1 hHas
    cases kind with
    | permission => exact hOther ⟨rfl, rfl⟩
    | role => exact hBefore hNoRole

theorem Coherent.roleRemoved (hFound : state.role? id ≠ none) :
    RoleRemoved state (state.removeRole id) id where
  gone := ⟨hFound, by rw [State.getRole, State.role?_removeRole, if_pos rfl]⟩
  roles _ hOther := hState.getRole_congr (by simp [hOther]) (by simp [hOther])
  permissions := getPermission_removeRole id
  records _ := State.permission?_removeRole
  unmentioned := hState.removeRole.unmentioned fun hHas =>
    (State.has_removeRole.1 hHas).2 ⟨rfl, rfl⟩
  nowhere hNoPermission kind := by
    refine hState.removeRole.unmentioned fun hHas => ?_
    obtain ⟨hBefore, hOther⟩ := State.has_removeRole.1 hHas
    cases kind with
    | permission => exact hBefore hNoPermission
    | role => exact hOther ⟨rfl, rfl⟩

end Removals

/-- In every state that a store in memory can come to, a deletion that succeeds takes with it
exactly what it has to: from a permission that is deleted, its place in the roles that granted it,
which move on by one revision, and from a role, its place in the permissions that it granted. All
else is shown as before, and nothing that is read names what is gone. -/
theorem deletion_cascades_exactly {state : State} (hState : Reachable state) (moment : Moment)
    (id : Id) :
    ((state.perform moment (.deletePermission id)).1 = .ok () →
        PermissionRemoved state (state.perform moment (.deletePermission id)).2 id) ∧
      ((state.perform moment (.deleteRole id)).1 = .ok () →
        RoleRemoved state (state.perform moment (.deleteRole id)).2 id) := by
  have hPermission := transition_perform moment state (.deletePermission id)
  have hRole := transition_perform moment state (.deleteRole id)
  constructor
  · intro hDone
    rw [hDone] at hPermission
    generalize (state.perform moment (.deletePermission id)).2 = state' at hPermission
    cases hPermission with
    | reads _ hReads => cases hReads
    | deletePermission hFound => exact hState.coherent.permissionRemoved id (has_permission hFound)
  · intro hDone
    rw [hDone] at hRole
    generalize (state.perform moment (.deleteRole id)).2 = state' at hRole
    cases hRole with
    | reads _ hReads => cases hReads
    | deleteRole hFound => exact hState.coherent.roleRemoved id (has_role hFound)

/-- Two roles that grant a permission in common, one of them another one too. -/
def shared : State :=
  let one := (State.empty.perform ⟨⟨0⟩, "p"⟩ (.createPermission "read" none)).2
  let two := (one.perform ⟨⟨1⟩, "q"⟩ (.createPermission "write" none)).2
  let three := (two.perform ⟨⟨2⟩, "r"⟩ (.createRole "editor")).2
  let four := (three.perform ⟨⟨3⟩, "s"⟩ (.createRole "viewer")).2
  let five := (four.perform ⟨⟨4⟩, ""⟩ (.setRolePermissions "r" (.ofList ["p", "q"]))).2
  (five.perform ⟨⟨5⟩, ""⟩ (.setRolePermissions "s" (.ofList ["p"]))).2

theorem reachable_shared : Reachable shared := by
  have hPermissions :=
    (Reachable.empty.perform ⟨⟨0⟩, "p"⟩ (.createPermission "read" none) rfl).perform
    ⟨⟨1⟩, "q"⟩ (.createPermission "write" none)
      (by change State.permission? _ "q" = none; decide +kernel)
  have hRoles := (hPermissions.perform ⟨⟨2⟩, "r"⟩ (.createRole "editor")
    (by change State.role? _ "r" = none; decide +kernel)).perform
    ⟨⟨3⟩, "s"⟩ (.createRole "viewer") (by change State.role? _ "s" = none; decide +kernel)
  have hOne := hRoles.perform ⟨⟨4⟩, ""⟩ (.setRolePermissions "r" (.ofList ["p", "q"])) trivial
  exact hOne.perform ⟨⟨5⟩, ""⟩ (.setRolePermissions "s" (.ofList ["p"])) trivial

/-- Both roles lose the permission that they have in common, and the other permission loses the role
that granted it. -/
theorem deletion_cascades_exactly_of_shared :
    Reachable shared ∧
      ((shared.perform ⟨⟨6⟩, ""⟩ (.deletePermission "p")).1 = .ok () ∧
        PermissionRemoved shared (shared.perform ⟨⟨6⟩, ""⟩ (.deletePermission "p")).2 "p") ∧
      ((shared.perform ⟨⟨6⟩, ""⟩ (.deleteRole "r")).1 = .ok () ∧
        RoleRemoved shared (shared.perform ⟨⟨6⟩, ""⟩ (.deleteRole "r")).2 "r") := by
  have hPermission := (deletion_cascades_exactly reachable_shared ⟨⟨6⟩, ""⟩ "p").1
  have hRole := (deletion_cascades_exactly reachable_shared ⟨⟨6⟩, ""⟩ "r").2
  exact ⟨reachable_shared, ⟨rfl, hPermission rfl⟩, ⟨rfl, hRole rfl⟩⟩

end Rolebook.Memory
