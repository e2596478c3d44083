import Rolebook.Memory.State

/-!
# Changes of the state

What an operation makes of the state once it has found that it may. Here nothing is checked.
-/

namespace Rolebook.Memory

/-- The record of a new permission. -/
def PermissionRecord.new (moment : Moment) (name : String) (description : Option String) :
    PermissionRecord :=
  ⟨moment.newId, name, description, moment.now⟩

/-- The record of a new role. -/
def RoleRecord.new (moment : Moment) (name : String) : RoleRecord :=
  ⟨moment.newId, name, moment.now, 0⟩

/-- The record at its next revision. -/
def RoleRecord.bump (record : RoleRecord) : RoleRecord :=
  { record with revision := record.revision + 1 }

namespace State

variable (state : State)

/-- The state with one more permission. -/
def addPermission (record : PermissionRecord) : State :=
  { state with permissions := state.permissions.insert record.id record }.counted

/-- The state in which a permission has another name and description. -/
def describePermission (id : Id) (name : String) (description : Option String) : State :=
  { state with
    permissions := state.permissions.update id fun record => { record with name, description } }

/-- The state without a permission. Each role that granted it loses it and moves on to its next
revision. -/
def removePermission (id : Id) : State :=
  { state with
    permissions := state.permissions.erase id
    grants := state.grants.filter fun grant => grant.permission != id
    roles := (state.holders id).foldl (fun roles role => roles.update role RoleRecord.bump)
      state.roles }.counted

/-- The state with one more role. -/
def addRole (record : RoleRecord) : State :=
  { state with roles := state.roles.insert record.id record }.counted

/-- The state in which a role has another name. -/
def renameRole (id : Id) (name : String) : State :=
  { state with roles := state.roles.update id fun record => { record with name } }

/-- The state without a role and what it grants. -/
def removeRole (id : Id) : State :=
  { state with
    roles := state.roles.erase id
    grants := state.grants.filter fun grant => grant.role != id }.counted

/-- The state in which a role grants exactly these permissions, still at the same revision. -/
def setGrants (id : Id) (permissions : IdSet) : State :=
  { state with
    grants := (state.grants.filter fun grant => grant.role != id).insertAll
      (permissions.toList.map fun permission => ⟨id, permission⟩) }

/-- The state in which a role is at its next revision. -/
def bumpRole (id : Id) : State :=
  { state with roles := state.roles.update id RoleRecord.bump }

/-! ## What is found after a change -/

variable {state} {id other : Id} {grant : Grant} {permissions : IdSet}

@[simp] theorem permission?_addPermission {record : PermissionRecord} :
    (state.addPermission record).permission? other =
      if other = record.id then some record else state.permission? other :=
  Table.find?_insert ..

@[simp] theorem permission?_describePermission {name : String} {description : Option String} :
    (state.describePermission id name description).permission? other =
      if other = id then (state.permission? id).map fun record => { record with name, description }
      else state.permission? other :=
  Table.find?_update ..

@[simp] theorem permission?_removePermission :
    (state.removePermission id).permission? other =
      if other = id then none else state.permission? other :=
  Table.find?_erase ..

@[simp] theorem permission?_addRole {record : RoleRecord} :
    (state.addRole record).permission? other = state.permission? other :=
  rfl

@[simp] theorem permission?_renameRole {name : String} :
    (state.renameRole id name).permission? other = state.permission? other :=
  rfl

@[simp] theorem permission?_removeRole :
    (state.removeRole id).permission? other = state.permission? other :=
  rfl

@[simp] theorem permission?_setGrants :
    (state.setGrants id permissions).permission? other = state.permission? other :=
  rfl

@[simp] theorem permission?_bumpRole :
    (state.bumpRole id).permission? other = state.permission? other :=
  rfl

@[simp] theorem role?_addPermission {record : PermissionRecord} :
    (state.addPermission record).role? other = state.role? other :=
  rfl

@[simp] theorem role?_describePermission {name : String} {description : Option String} :
    (state.describePermission id name description).role? other = state.role? other :=
  rfl

@[simp] theorem role?_removePermission :
    (state.removePermission id).role? other =
      if other ∈ state.holders id then (state.role? other).map RoleRecord.bump
        else state.role? other :=
  Table.find?_foldl_update (state.nodup_holders id) ..

@[simp] theorem role?_addRole {record : RoleRecord} :
    (state.addRole record).role? other =
      if other = record.id then some record else state.role? other :=
  Table.find?_insert ..

@[simp] theorem role?_renameRole {name : String} :
    (state.renameRole id name).role? other =
      if other = id then (state.role? id).map fun record => { record with name }
        else state.role? other :=
  Table.find?_update ..

@[simp] theorem role?_removeRole :
    (state.removeRole id).role? other = if other = id then none else state.role? other :=
  Table.find?_erase ..

@[simp] theorem role?_setGrants :
    (state.setGrants id permissions).role? other = state.role? other :=
  rfl

@[simp] theorem role?_bumpRole :
    (state.bumpRole id).role? other =
      if other = id then (state.role? id).map RoleRecord.bump else state.role? other :=
  Table.find?_update ..

@[simp] theorem grants_addPermission {record : PermissionRecord} :
    (state.addPermission record).grants = state.grants :=
  rfl

@[simp] theorem grants_describePermission {name : String} {description : Option String} :
    (state.describePermission id name description).grants = state.grants :=
  rfl

@[simp] theorem mem_grants_removePermission :
    grant ∈ (state.removePermission id).grants ↔ grant ∈ state.grants ∧ grant.permission ≠ id := by
  simp [removePermission, counted, OrderedSet.mem_filter]

@[simp] theorem grants_addRole {record : RoleRecord} :
    (state.addRole record).grants = state.grants :=
  rfl

@[simp] theorem grants_renameRole {name : String} :
    (state.renameRole id name).grants = state.grants :=
  rfl

@[simp] theorem mem_grants_removeRole :
    grant ∈ (state.removeRole id).grants ↔ grant ∈ state.grants ∧ grant.role ≠ id := by
  simp [removeRole, counted, OrderedSet.mem_filter]

@[simp] theorem mem_grants_setGrants :
    grant ∈ (state.setGrants id permissions).grants ↔
      grant ∈ state.grants ∧ grant.role ≠ id ∨
        grant.role = id ∧ grant.permission ∈ permissions := by
  show grant ∈ OrderedSet.insertAll _ _ ↔ _
  rw [OrderedSet.mem_insertAll, OrderedSet.mem_filter, List.mem_map]
  constructor
  · rintro (⟨hGrant, hRole⟩ | ⟨permission, hPermission, rfl⟩)
    · exact .inl ⟨hGrant, by simpa using hRole⟩
    · exact .inr ⟨rfl, hPermission⟩
  · rintro (⟨hGrant, hRole⟩ | ⟨rfl, hPermission⟩)
    · exact .inl ⟨hGrant, by simpa using hRole⟩
    · exact .inr ⟨grant.permission, hPermission, rfl⟩

@[simp] theorem grants_bumpRole : (state.bumpRole id).grants = state.grants :=
  rfl

@[simp] theorem permissionIdsOf_removePermission :
    (state.removePermission id).permissionIdsOf other = (state.permissionIdsOf other).erase id := by
  apply OrderedSet.ext
  intro permission
  rw [mem_permissionIdsOf, mem_grants_removePermission, OrderedSet.mem_erase, mem_permissionIdsOf]

@[simp] theorem permissionIdsOf_removeRole :
    (state.removeRole id).permissionIdsOf other =
      if other = id then ∅ else state.permissionIdsOf other := by
  apply OrderedSet.ext
  intro permission
  rw [mem_permissionIdsOf, mem_grants_removeRole]
  split
  · next hOther => exact iff_of_false (fun h => h.2 hOther) List.not_mem_nil
  · next hOther => rw [mem_permissionIdsOf, and_iff_left hOther]

/-- A role that is given other permissions has exactly these, and all other roles have theirs. -/
@[simp] theorem permissionIdsOf_setGrants :
    (state.setGrants id permissions).permissionIdsOf other =
      if other = id then permissions else state.permissionIdsOf other := by
  apply OrderedSet.ext
  intro permission
  rw [mem_permissionIdsOf, mem_grants_setGrants]
  split
  · next hOther => simp [hOther]
  · next hOther => simp [hOther, mem_permissionIdsOf]

@[simp] theorem roleIdsOf_removePermission :
    (state.removePermission id).roleIdsOf other =
      if other = id then ∅ else state.roleIdsOf other := by
  apply OrderedSet.ext
  intro role
  rw [mem_roleIdsOf, mem_grants_removePermission]
  split
  · next hOther => exact iff_of_false (fun h => h.2 hOther) List.not_mem_nil
  · next hOther => rw [mem_roleIdsOf, and_iff_left hOther]

@[simp] theorem roleIdsOf_removeRole :
    (state.removeRole id).roleIdsOf other = (state.roleIdsOf other).erase id := by
  apply OrderedSet.ext
  intro role
  rw [mem_roleIdsOf, mem_grants_removeRole, OrderedSet.mem_erase, mem_roleIdsOf]

/-- A role that is given other permissions stands in each of these and in no others, and all other
roles stay where they were. -/
@[simp] theorem roleIdsOf_setGrants :
    (state.setGrants id permissions).roleIdsOf other =
      if other ∈ permissions then (state.roleIdsOf other).insert id
        else (state.roleIdsOf other).erase id := by
  apply OrderedSet.ext
  intro role
  rw [mem_roleIdsOf, mem_grants_setGrants]
  split
  · next hGiven =>
      rw [OrderedSet.mem_insert, mem_roleIdsOf, and_iff_left hGiven, or_comm]
      by_cases hRole : role = id <;> simp [hRole]
  · next hGiven => rw [OrderedSet.mem_erase, mem_roleIdsOf, or_iff_left fun h => hGiven h.2]

@[simp] theorem permissionIdsOf_bumpRole :
    (state.bumpRole id).permissionIdsOf other = state.permissionIdsOf other :=
  rfl

@[simp] theorem roleIdsOf_bumpRole : (state.bumpRole id).roleIdsOf other = state.roleIdsOf other :=
  rfl

end State

end Rolebook.Memory
