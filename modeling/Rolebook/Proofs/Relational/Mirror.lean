import Rolebook.Proofs.Memory.Coherence
import Rolebook.Proofs.Relational.Dialogue
import Rolebook.Proofs.Text.ByteOrder

/-!
# Tables that mirror a state in memory

The rows of a database and the records of a store in memory that have been through the same calls:
the same permissions and roles in the same order, and the same grants. What is found in such tables
is what is found in the state, and each change of the tables that the constraints of the schema
allow is the change of the state.

Both tables of entities are treated alike, so what concerns one of them is stated once, for rows
that are made of the records of a `Table`.
-/

namespace Rolebook.Relational

open Rolebook.Memory (State PermissionRecord RoleRecord Coherent nameTaken)

/-! ## Rows in order -/

/-- A database compares two rows as a store in memory compares two entities. -/
theorem precedes_eq {α : Type} (createdAt : α → Instant) (name : α → String) (row other : α) :
    precedes createdAt name row other =
      if createdAt row = createdAt other then
        !before (name other) (name row)
      else
        decide ((createdAt other).nanoseconds < (createdAt row).nanoseconds) := by
  unfold precedes
  cases hOrder : compare (createdAt other).nanoseconds (createdAt row).nanoseconds with
  | lt =>
      have hLater := Int.compare_eq_lt.1 hOrder
      have hOther : createdAt row ≠ createdAt other := fun hSame => Int.lt_irrefl _ (hSame ▸ hLater)
      rw [if_neg hOther, decide_eq_true hLater]
  | eq =>
      have hInstant : createdAt row = createdAt other :=
        congrArg Instant.mk (Int.compare_eq_eq.1 hOrder).symm
      rw [if_pos hInstant, ← Bool.decide_coe (before _ _)]
      exact congrArg not (decide_eq_decide.2 Text.before_iff_toUtf8_lt.symm)
  | gt =>
      have hEarlier := Int.compare_eq_gt.1 hOrder
      have hOther : createdAt row ≠ createdAt other :=
        fun hSame => Int.lt_irrefl _ (hSame ▸ hEarlier)
      rw [if_neg hOther, decide_eq_false (Int.lt_asymm hEarlier)]

/-- A database puts rows into the order in which a store in memory lists its entities. -/
theorem orderByCreationAndName_eq_newestFirst {α : Type} (createdAt : α → Instant)
    (name : α → String) (rows : List α) :
    orderByCreationAndName createdAt name rows = newestFirst createdAt name rows :=
  congrArg (fun compare => rows.mergeSort compare)
    (funext fun row => funext (precedes_eq createdAt name row))

/-! ## Rows made of records -/

section Rows

variable {α ρ : Type} {id name : α → String} {table : Table α} {row : α → ρ}
  {rowId rowName : ρ → String} (hId : ∀ record, rowId (row record) = id record)
  (hName : ∀ record, rowName (row record) = name record)

include hId

theorem find?_rows (hKeyed : table.Keyed id) (key : Id) :
    ((table.values.map row).find? fun r => rowId r == key) = (table.find? key).map row := by
  rw [List.find?_map, hKeyed.find?_eq]
  simp only [Function.comp_def, hId]

theorem any_rows (hKeyed : table.Keyed id) (key : Id) :
    ((table.values.map row).any fun r => rowId r == key) = (table.find? key).isSome := by
  have hFound := find?_rows hId hKeyed key
  rw [Bool.eq_iff_iff, List.any_eq_true, ← List.find?_isSome, hFound, Option.isSome_map]

theorem isEmpty_filter_rows (hKeyed : table.Keyed id) (key : Id) :
    ((table.values.map row).filter fun r => rowId r == key).isEmpty = (table.find? key).isNone := by
  rw [Bool.eq_iff_iff, List.isEmpty_iff, List.filter_eq_nil_iff, ← List.find?_eq_none,
    find?_rows hId hKeyed,
    Option.map_eq_none_iff, Option.isNone_iff_eq_none]

theorem update_rows (hKeyed : table.Keyed id) (key : Id) (change : α → α) (rowChange : ρ → ρ)
    (hChange : ∀ record, row (change record) = rowChange (row record)) :
    ((table.values.map row).map fun r => if rowId r == key then rowChange r else r) =
      (table.update key change).values.map row := by
  rw [hKeyed.values_update, List.map_map, List.map_map]
  apply List.map_congr_left
  intro record _
  simp only [Function.comp_apply, hId]
  split
  · exact (hChange record).symm
  · rfl

theorem erase_rows (hKeyed : table.Keyed id) (key : Id) :
    ((table.values.map row).filter fun r => !(rowId r == key)) =
      (table.erase key).values.map row := by
  rw [hKeyed.values_erase, List.filter_map]
  simp only [Function.comp_def, hId]
  rfl

include hName

omit hId in
theorem any_name_rows (wanted : String) :
    ((table.values.map row).any fun r => rowName r == wanted) =
      nameTaken id name table wanted none := by
  rw [List.any_map, nameTaken]
  refine congrArg table.values.any (funext fun record => ?_)
  simp [hName]

theorem any_name_others (wanted : String) (key : Id) :
    (((table.values.map row).filter fun r => !(rowId r == key)).any fun r => rowName r == wanted) =
      nameTaken id name table wanted (some key) := by
  rw [List.any_filter, List.any_map, nameTaken]
  refine congrArg table.values.any (funext fun record => ?_)
  simp [hId, hName, Bool.and_comm, bne]

end Rows

/-! ## Tables and states -/

/-- The row of a permission. -/
def PermissionRow.of (record : PermissionRecord) : PermissionRow :=
  ⟨record.id, record.name, record.description, record.createdAt⟩

/-- The row of a role. -/
def RoleRow.of (record : RoleRecord) : RoleRow :=
  ⟨record.id, record.name, record.revision.toInt64, record.createdAt⟩

theorem PermissionRow.id_of (record : PermissionRecord) :
    (PermissionRow.of record).id = record.id :=
  rfl

theorem PermissionRow.name_of (record : PermissionRecord) :
    (PermissionRow.of record).name = record.name :=
  rfl

theorem RoleRow.id_of (record : RoleRecord) : (RoleRow.of record).id = record.id :=
  rfl

theorem RoleRow.name_of (record : RoleRecord) : (RoleRow.of record).name = record.name :=
  rfl

/-- The tables have the rows of the records of a state, in their order, and its grants. -/
structure Mirrors (tables : Tables) (state : State) : Prop where
  permissions : tables.permissions = state.permissions.values.map PermissionRow.of
  roles : tables.roles = state.roles.values.map RoleRow.of
  grants : ∀ role permission, ⟨role, permission⟩ ∈ tables.grants ↔ ⟨role, permission⟩ ∈ state.grants

/-- The state in which the roles that grant a permission have moved on, and which is the same
otherwise. -/
def holdersBumped (state : State) (id : Id) : State :=
  { state with roles := (state.removePermission id).roles }

theorem permission?_holdersBumped (state : State) (id other : Id) :
    (holdersBumped state id).permission? other = state.permission? other :=
  rfl

theorem mirrors_empty (migrations : List MigrationRow) :
    Mirrors { Tables.empty with migrations } .empty where
  permissions := rfl
  roles := rfl
  grants _ _ := iff_of_false List.not_mem_nil List.not_mem_nil

/-- The records of a state stand under their own identifiers. -/
structure OwnIds (state : State) : Prop where
  permissions : state.permissions.Keyed PermissionRecord.id
  roles : state.roles.Keyed RoleRecord.id

theorem ownIds_of_coherent {state : State} (hState : Coherent state) : OwnIds state where
  permissions entry hEntry :=
    hState.permissions.own_id entry.1 entry.2 (Table.find?_eq_some_iff.2 hEntry)
  roles entry hEntry := hState.roles.own_id entry.1 entry.2 (Table.find?_eq_some_iff.2 hEntry)

namespace Mirrors

variable {tables : Tables} {state : State} (hMirrors : Mirrors tables state)

include hMirrors

/-! ## What is found -/

theorem permissionIdsOf (role : Id) :
    OrderedSet.ofList
      ((tables.grants.filter fun grant => grant.role == role).map GrantRow.permission) =
      state.permissionIdsOf role := by
  apply OrderedSet.ext
  intro permission
  rw [OrderedSet.mem_ofList, State.mem_permissionIdsOf, ← hMirrors.grants]
  constructor
  · intro hMember
    obtain ⟨⟨_, _⟩, hGrant, rfl⟩ := List.mem_map.1 hMember
    obtain ⟨hGrant, hRole⟩ := List.mem_filter.1 hGrant
    exact eq_of_beq hRole ▸ hGrant
  · intro hGrant
    exact List.mem_map.2 ⟨_, List.mem_filter.2 ⟨hGrant, beq_self_eq_true role⟩, rfl⟩

theorem roleIdsOf (permission : Id) :
    OrderedSet.ofList
      ((tables.grants.filter fun grant => grant.permission == permission).map GrantRow.role) =
      state.roleIdsOf permission := by
  apply OrderedSet.ext
  intro role
  rw [OrderedSet.mem_ofList, State.mem_roleIdsOf, ← hMirrors.grants]
  constructor
  · intro hMember
    obtain ⟨⟨_, _⟩, hGrant, rfl⟩ := List.mem_map.1 hMember
    obtain ⟨hGrant, hPermission⟩ := List.mem_filter.1 hGrant
    exact eq_of_beq hPermission ▸ hGrant
  · intro hGrant
    exact List.mem_map.2 ⟨_, List.mem_filter.2 ⟨hGrant, beq_self_eq_true permission⟩, rfl⟩

theorem joinPermission (record : PermissionRecord) :
    tables.joinPermission (.of record) = state.showPermission record :=
  congrArg (Permission.mk record.id record.name record.description record.createdAt)
    (hMirrors.roleIdsOf record.id)

theorem joinRole (record : RoleRecord) : tables.joinRole (.of record) = state.showRole record := by
  have hRevision : record.revision.toInt64.toUInt64 = record.revision := by simp
  simp only [Tables.joinRole, RoleRow.of, State.showRole, hRevision]
  rw [hMirrors.permissionIdsOf]

theorem listPermissions : tables.listPermissions = state.listPermissions := by
  rw [Tables.listPermissions, orderByCreationAndName_eq_newestFirst, hMirrors.permissions,
    List.map_map]
  exact congrArg _ (List.map_congr_left fun record _ => hMirrors.joinPermission record)

theorem listRoles : tables.listRoles = state.listRoles := by
  rw [Tables.listRoles, orderByCreationAndName_eq_newestFirst, hMirrors.roles, List.map_map]
  exact congrArg _ (List.map_congr_left fun record _ => hMirrors.joinRole record)

theorem permissionByName (name : String) :
    (tables.permissions.find? fun row => row.name == name).map tables.joinPermission =
      state.getPermissionByName name := by
  rw [hMirrors.permissions, List.find?_map, Option.map_map]
  exact Option.map_congr fun record _ => hMirrors.joinPermission record

theorem roleByName (name : String) :
    (tables.roles.find? fun row => row.name == name).map tables.joinRole =
      state.getRoleByName name := by
  rw [hMirrors.roles, List.find?_map, Option.map_map]
  exact Option.map_congr fun record _ => hMirrors.joinRole record

theorem length_permissions : tables.permissions.length = state.permissions.size := by
  rw [hMirrors.permissions, List.length_map, Table.values, List.length_map, Table.size]

theorem length_roles : tables.roles.length = state.roles.size := by
  rw [hMirrors.roles, List.length_map, Table.values, List.length_map, Table.size]

section OwnIds

variable (hState : OwnIds state)

include hState

theorem permissionById (id : Id) :
    (tables.permissions.find? fun row => row.id == id).map tables.joinPermission =
      (state.permission? id).map state.showPermission := by
  rw [hMirrors.permissions, find?_rows PermissionRow.id_of hState.permissions, Option.map_map]
  exact Option.map_congr fun record _ => hMirrors.joinPermission record

theorem roleById (id : Id) :
    (tables.roles.find? fun row => row.id == id).map tables.joinRole =
      (state.role? id).map state.showRole := by
  rw [hMirrors.roles, find?_rows RoleRow.id_of hState.roles, Option.map_map]
  exact Option.map_congr fun record _ => hMirrors.joinRole record

theorem any_permission (id : Id) :
    (tables.permissions.any fun row => row.id == id) = (state.permission? id).isSome := by
  rw [hMirrors.permissions, any_rows PermissionRow.id_of hState.permissions]
  rfl

theorem any_role (id : Id) :
    (tables.roles.any fun row => row.id == id) = (state.role? id).isSome := by
  rw [hMirrors.roles, any_rows RoleRow.id_of hState.roles]
  rfl

theorem lockedRevision (id : Id) :
    ((tables.roles.find? fun row => row.id == id).map fun row => row.revision.toUInt64) =
      (state.role? id).map RoleRecord.revision := by
  rw [hMirrors.roles, find?_rows RoleRow.id_of hState.roles, Option.map_map]
  exact Option.map_congr fun record _ => by simp [RoleRow.of]

end OwnIds

theorem any_permission_name (name : String) :
    (tables.permissions.any fun row => row.name == name) = state.permissionNameTaken name none := by
  rw [hMirrors.permissions]
  exact any_name_rows PermissionRow.name_of name

theorem any_role_name (name : String) :
    (tables.roles.any fun row => row.name == name) = state.roleNameTaken name none := by
  rw [hMirrors.roles]
  exact any_name_rows RoleRow.name_of name

/-! ## What the constraints of the schema come to -/

section Constraints

variable (hState : OwnIds state) {now : Instant} {id : Id} {name : String}
  {description : Option String}

include hState

theorem insertPermission_eq :
    tables.insertPermission now id name description =
      if isRefusedName name then .error (.blankName .permission)
      else if (state.permission? id).isSome then .error (.keyTaken "permissions")
      else if state.permissionNameTaken name none then .error (.nameTaken .permission)
      else .ok
        (now, { tables with
          permissions := tables.permissions ++ [.of ⟨id, name, description, now⟩] }) := by
  rw [Tables.insertPermission, hMirrors.any_permission hState, hMirrors.any_permission_name]
  rfl

theorem insertRole_eq :
    tables.insertRole now id name =
      if isRefusedName name then .error (.blankName .role)
      else if (state.role? id).isSome then .error (.keyTaken "roles")
      else if state.roleNameTaken name none then .error (.nameTaken .role)
      else .ok (now, { tables with roles := tables.roles ++ [.of ⟨id, name, now, 0⟩] }) := by
  rw [Tables.insertRole, hMirrors.any_role hState, hMirrors.any_role_name]
  rfl

theorem updatePermission_eq :
    tables.updatePermission id name description =
      if (state.permission? id).isNone then .ok (0, tables)
      else if isRefusedName name then .error (.blankName .permission)
      else if state.permissionNameTaken name (some id) then .error (.nameTaken .permission)
      else .ok ((tables.permissions.filter fun row => row.id == id).length,
        { tables with
          permissions :=
            (state.describePermission id name description).permissions.values.map .of }) := by
  have hNone := isEmpty_filter_rows PermissionRow.id_of hState.permissions id
  have hNames :
      ((tables.permissions.filter fun row => !(row.id == id)).any fun row => row.name == name) =
      state.permissionNameTaken name (some id) := by
    rw [hMirrors.permissions]
    exact any_name_others PermissionRow.id_of PermissionRow.name_of name id
  have hRows := update_rows PermissionRow.id_of hState.permissions id
    (fun record => { record with name, description })
    (fun row => { row with name, description }) fun _ => rfl
  rw [← hMirrors.permissions] at hNone hRows
  simp only [Tables.updatePermission, List.partition_eq_filter_filter, Function.comp_def,
    hNone, hNames, hRows]
  rfl

theorem updateRole_eq :
    tables.updateRole id name =
      if (state.role? id).isNone then .ok (0, tables)
      else if isRefusedName name then .error (.blankName .role)
      else if state.roleNameTaken name (some id) then .error (.nameTaken .role)
      else .ok ((tables.roles.filter fun row => row.id == id).length,
        { tables with roles := (state.renameRole id name).roles.values.map .of }) := by
  have hNone := isEmpty_filter_rows RoleRow.id_of hState.roles id
  have hNames : ((tables.roles.filter fun row => !(row.id == id)).any fun row => row.name == name) =
      state.roleNameTaken name (some id) := by
    rw [hMirrors.roles]
    exact any_name_others RoleRow.id_of RoleRow.name_of name id
  have hRows := update_rows RoleRow.id_of hState.roles id
    (fun record => { record with name }) (fun row => { row with name }) fun _ => rfl
  rw [← hMirrors.roles] at hNone hRows
  simp only [Tables.updateRole, List.partition_eq_filter_filter, Function.comp_def,
    hNone, hNames, hRows]
  rfl

theorem deletePermission_eq :
    tables.deletePermission id =
      if (state.permission? id).isNone then (0, tables)
      else ((tables.permissions.filter fun row => row.id == id).length,
        { tables with
          permissions := (state.permissions.erase id).values.map .of
          grants := tables.grants.filter fun grant => grant.permission != id }) := by
  have hNone := isEmpty_filter_rows PermissionRow.id_of hState.permissions id
  have hRows := erase_rows PermissionRow.id_of hState.permissions id
  rw [← hMirrors.permissions] at hNone hRows
  simp only [Tables.deletePermission, List.partition_eq_filter_filter,
    Function.comp_def, hNone, hRows]
  rfl

theorem deleteRole_eq :
    tables.deleteRole id =
      if (state.role? id).isNone then (0, tables)
      else ((tables.roles.filter fun row => row.id == id).length,
        { tables with
          roles := (state.roles.erase id).values.map .of
          grants := tables.grants.filter fun grant => grant.role != id }) := by
  have hNone := isEmpty_filter_rows RoleRow.id_of hState.roles id
  have hRows := erase_rows RoleRow.id_of hState.roles id
  rw [← hMirrors.roles] at hNone hRows
  simp only [Tables.deleteRole, List.partition_eq_filter_filter, Function.comp_def, hNone, hRows]
  rfl

/-- Rows with the identifier of a record are there. -/
theorem length_permission_ne_zero {record : PermissionRecord}
    (hFound : state.permission? id = some record) :
    (tables.permissions.filter fun row => row.id == id).length ≠ 0 := by
  have hNone := isEmpty_filter_rows PermissionRow.id_of hState.permissions id
  rw [← hMirrors.permissions, show state.permissions.find? id = some record from hFound] at hNone
  simpa using hNone

theorem length_role_ne_zero {record : RoleRecord} (hFound : state.role? id = some record) :
    (tables.roles.filter fun row => row.id == id).length ≠ 0 := by
  have hNone := isEmpty_filter_rows RoleRow.id_of hState.roles id
  rw [← hMirrors.roles, show state.roles.find? id = some record from hFound] at hNone
  simpa using hNone

end Constraints

/-! ## Changed tables and changed states -/

theorem addPermission {record : PermissionRecord} (hAbsent : state.permission? record.id = none) :
    Mirrors { tables with permissions := tables.permissions ++ [.of record] }
      (state.addPermission record) where
  permissions := by
    have hValues : (state.addPermission record).permissions.values =
        state.permissions.values ++ [record] :=
      Table.values_insert hAbsent record
    rw [hValues, List.map_append, hMirrors.permissions, List.map_singleton]
  roles := hMirrors.roles
  grants := hMirrors.grants

theorem addRole {record : RoleRecord} (hAbsent : state.role? record.id = none) :
    Mirrors { tables with roles := tables.roles ++ [.of record] } (state.addRole record) where
  permissions := hMirrors.permissions
  roles := by
    have hValues : (state.addRole record).roles.values = state.roles.values ++ [record] :=
      Table.values_insert hAbsent record
    rw [hValues, List.map_append, hMirrors.roles, List.map_singleton]
  grants := hMirrors.grants

theorem describePermission (id : Id) (name : String) (description : Option String) :
    Mirrors { tables with
      permissions := (state.describePermission id name description).permissions.values.map .of }
      (state.describePermission id name description) where
  permissions := rfl
  roles := hMirrors.roles
  grants := hMirrors.grants

theorem renameRole (id : Id) (name : String) :
    Mirrors { tables with roles := (state.renameRole id name).roles.values.map .of }
      (state.renameRole id name) where
  permissions := hMirrors.permissions
  roles := rfl
  grants := hMirrors.grants

theorem removeRole (id : Id) :
    Mirrors
      { tables with
        roles := (state.roles.erase id).values.map .of
        grants := tables.grants.filter fun grant => grant.role != id }
      (state.removeRole id) where
  permissions := hMirrors.permissions
  roles := rfl
  grants role permission := by
    rw [State.mem_grants_removeRole, ← hMirrors.grants, List.mem_filter, bne_iff_ne]

theorem clearGrants (id : Id) :
    Mirrors { tables with grants := tables.grants.filter fun grant => grant.role != id }
      (state.setGrants id ∅) where
  permissions := hMirrors.permissions
  roles := hMirrors.roles
  grants role permission := by
    have hNone : permission ∉ (∅ : IdSet) := List.not_mem_nil
    rw [State.mem_grants_setGrants, ← hMirrors.grants, List.mem_filter, bne_iff_ne]
    simp only [hNone, and_false, or_false]

theorem bumpRole (id : Id) :
    Mirrors { tables with roles := (state.bumpRole id).roles.values.map .of }
      (state.bumpRole id) where
  permissions := hMirrors.permissions
  roles := rfl
  grants := hMirrors.grants

omit hMirrors

/-- A permission is removed when the roles that granted it have been moved on. -/
theorem removePermission {id : Id} (hBumped : Mirrors tables (holdersBumped state id)) :
    Mirrors
      { tables with
        permissions := (state.permissions.erase id).values.map .of
        grants := tables.grants.filter fun grant => grant.permission != id }
      (state.removePermission id) where
  permissions := rfl
  roles := hBumped.roles
  grants role permission := by
    have hSame : ⟨role, permission⟩ ∈ tables.grants ↔ ⟨role, permission⟩ ∈ state.grants :=
      hBumped.grants role permission
    rw [State.mem_grants_removePermission, List.mem_filter, hSame, bne_iff_ne]

section Filled

variable {id : Id} {permissions : IdSet} (hCleared : Mirrors tables (state.setGrants id ∅))

include hCleared

theorem role_ne_of_cleared {grant : GrantRow} (hGrant : grant ∈ tables.grants) :
    grant.role ≠ id := by
  have hKept := (hCleared.grants grant.role grant.permission).1 hGrant
  rcases State.mem_grants_setGrants.1 hKept with ⟨-, hOther⟩ | ⟨-, hNone⟩
  · exact hOther
  · exact absurd hNone List.not_mem_nil

/-- A role without grants may be given any that are known. -/
theorem insertGrants_eq (hState : OwnIds state) (hRole : state.role? id ≠ none)
    (hKnown : ∀ permission ∈ permissions, state.permission? permission ≠ none) :
    tables.insertGrants id permissions.toList =
      .ok ((), { tables with
        grants := tables.grants ++ permissions.toList.map (GrantRow.mk id) }) := by
  have hOwn : OwnIds (state.setGrants id ∅) := ⟨hState.permissions, hState.roles⟩
  have hDistinct : (permissions.toList.map (GrantRow.mk id)).Nodup := by
    refine List.pairwise_map.2 (permissions.ascending.imp fun {a b} hBefore hSame => ?_)
    cases hSame
    exact StrictOrder.not_before_self a hBefore
  have hNew : (permissions.toList.map (GrantRow.mk id)).any tables.grants.contains = false := by
    rw [List.any_eq_false]
    intro grant hGrant hOld
    obtain ⟨permission, -, rfl⟩ := List.mem_map.1 hGrant
    exact hCleared.role_ne_of_cleared (List.contains_iff_mem.1 hOld) rfl
  have hThere : (tables.roles.any fun row => row.id == id) = true := by
    rw [hCleared.any_role hOwn, State.role?_setGrants, Option.isSome_iff_ne_none]
    exact hRole
  have hAll : (permissions.toList.any fun permission => !tables.permissions.any fun row => row.id ==
      permission) = false := by
    rw [List.any_eq_false]
    intro permission hPermission
    rw [hCleared.any_permission hOwn, State.permission?_setGrants]
    simpa [Option.isSome_iff_ne_none] using hKnown permission hPermission
  simp [Tables.insertGrants, hDistinct, hNew, hThere, hAll]

theorem fillGrants :
    Mirrors { tables with grants := tables.grants ++ permissions.toList.map (GrantRow.mk id) }
      (state.setGrants id permissions)
    where
  permissions := hCleared.permissions
  roles := hCleared.roles
  grants role permission := by
    have hNone : permission ∉ (∅ : IdSet) := List.not_mem_nil
    have hNew : ⟨role, permission⟩ ∈ permissions.toList.map (GrantRow.mk id) ↔
        role = id ∧ permission ∈ permissions := by
      rw [List.mem_map]
      constructor
      · rintro ⟨new, hNew, hSame⟩
        cases hSame
        exact ⟨rfl, hNew⟩
      · rintro ⟨rfl, hNew⟩
        exact ⟨permission, hNew, rfl⟩
    rw [List.mem_append, hCleared.grants, hNew, State.mem_grants_setGrants,
      State.mem_grants_setGrants]
    simp only [hNone, and_false, or_false]

end Filled

end Mirrors

/-! ## Revisions -/

/-- A revision whose successor is in the range of signed numbers is not the last of them. -/
theorem toInt64_ne_maxValue {revision : Revision}
    (hRange : (revision + 1).toNat < 9223372036854775808) :
    revision.toInt64 ≠ Int64.maxValue := by
  intro hLast
  have hRevision : revision = 9223372036854775807 := by
    have hBack : revision.toInt64.toUInt64 = revision := by simp
    rw [← hBack, hLast]
    rfl
  rw [hRevision] at hRange
  exact absurd hRange (by decide)

theorem RoleRow.bump_of {record : RoleRecord}
    (hRange : record.bump.revision.toNat < 9223372036854775808) :
    (RoleRow.of record).bump = .ok (.of record.bump) := by
  have hLast : (RoleRow.of record).revision ≠ Int64.maxValue := toInt64_ne_maxValue hRange
  have hNext : record.bump.revision.toInt64 = record.revision.toInt64 + 1 := by
    simp [RoleRecord.bump]
  rw [RoleRow.bump, if_neg hLast, RoleRow.of, RoleRow.of, hNext]
  rfl

/-- Roles none of which gets beyond the range of signed numbers are moved on as their records
are. -/
theorem bumpRoles_of {records : List RoleRecord} (test : RoleRow → Bool)
    (bumped : RoleRecord → Bool) (hTest : ∀ record ∈ records, test (.of record) = bumped record)
    (hRange : ∀ record ∈ records, bumped record = true →
      record.bump.revision.toNat < 9223372036854775808) :
    bumpRoles test (records.map .of) =
      .ok ((records.map fun record => if bumped record then record.bump else record).map .of) := by
  induction records with
  | nil => rfl
  | cons record records ih =>
      rw [List.forall_mem_cons] at hTest hRange
      have hRest := ih hTest.2 hRange.2
      unfold bumpRoles at hRest ⊢
      rw [List.map_cons, List.mapM_cons, hRest, hTest.1]
      cases hBumped : bumped record with
      | false =>
          rw [List.map_cons, List.map_cons, hBumped]
          rfl
      | true =>
          rw [if_pos rfl, RoleRow.bump_of (hRange.1 hBumped), List.map_cons, List.map_cons, hBumped]
          rfl

theorem Mirrors.bump_eq {tables : Tables} {state : State} (hMirrors : Mirrors tables state)
    {test : RoleRow → Bool} (bumped : RoleRecord → Bool)
    (hTest : ∀ record ∈ state.roles.values, test (.of record) = bumped record)
    (hRange : ∀ record ∈ state.roles.values, bumped record = true →
      record.bump.revision.toNat < 9223372036854775808) :
    tables.bump test =
      .ok ((), { tables with
        roles := (state.roles.values.map fun record =>
          if bumped record then record.bump else record).map .of }) := by
  rw [Tables.bump, hMirrors.roles, bumpRoles_of test bumped hTest hRange]
  rfl

end Rolebook.Relational
