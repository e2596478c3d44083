import Rolebook.Proofs.Memory.Deletion
import Rolebook.Proofs.Record.Listing

/-!
# The order of the records

A store goes through its records in an order that nobody promises. `Reordered` says of two states
that they differ in this order only, and such states cannot be told apart: each call is answered
alike in both, and the states after it differ in the order only once more (`Reordered.perform`), so
the records may be put into another order before every single call of a run (`RunInAnyOrder`).

What makes this so is that names are taken once. It leaves one way to list the entities, one entity
to be found by a name (`Orderly.find?_values_eq_some_iff`), and no difference between the ways in
which an entity can be read (`ReadsAgree`).
-/

namespace Rolebook

/-! ## Tables -/

namespace Table

variable {α : Type} {table table' : Table α}

/-- Two tables differ in their order only if the same is found in them. -/
theorem perm_iff :
    table.entries.Perm table'.entries ↔ ∀ key, table'.find? key = table.find? key := by
  rw [List.perm_ext_iff_of_nodup (.of_map _ table.distinct) (.of_map _ table'.distinct)]
  constructor
  · intro hSame key
    apply Option.ext
    intro record
    rw [find?_eq_some_iff, find?_eq_some_iff]
    exact (hSame (key, record)).symm
  · rintro hSame ⟨key, record⟩
    rw [← find?_eq_some_iff, ← find?_eq_some_iff, hSame]

section Changes

variable (hOrder : table.entries.Perm table'.entries) (key : Id)

include hOrder

theorem perm_values : table.values.Perm table'.values :=
  hOrder.map Prod.snd

theorem perm_insert (record : α) :
    (table.insert key record).entries.Perm (table'.insert key record).entries :=
  perm_iff.2 fun other => by rw [find?_insert, find?_insert, perm_iff.1 hOrder]

theorem perm_erase : (table.erase key).entries.Perm (table'.erase key).entries :=
  perm_iff.2 fun other => by rw [find?_erase, find?_erase, perm_iff.1 hOrder]

theorem perm_update (change : α → α) :
    (table.update key change).entries.Perm (table'.update key change).entries :=
  perm_iff.2 fun other => by rw [find?_update, find?_update, perm_iff.1 hOrder, perm_iff.1 hOrder]

omit key in
theorem perm_foldl_update (keys : List Id) (change : α → α) :
    (keys.foldl (fun table key => table.update key change) table).entries.Perm
      (keys.foldl (fun table key => table.update key change) table').entries := by
  induction keys generalizing table table' with
  | nil => exact hOrder
  | cons key keys ih => exact ih (perm_update hOrder key change)

end Changes

end Table

namespace Memory

open Rolebook.Store (Call Error Exchange)

section Orderly

variable {α : Type} {id name : α → String} {table table' : Table α} {wanted : String}

theorem Orderly.values_id (hTable : Orderly id name table) :
    table.values.map id = table.entries.map Prod.fst := by
  rw [Table.values, List.map_map]
  refine List.map_congr_left fun entry hEntry => ?_
  exact hTable.own_id entry.1 entry.2 (Table.find?_eq_some_iff.2 hEntry)

theorem Orderly.nodup_names (hTable : Orderly id name table) : (table.values.map name).Nodup := by
  rw [Table.values, List.map_map, List.Nodup, List.pairwise_map]
  refine (List.pairwise_map.1 table.distinct).imp_of_mem ?_
  intro entry other hEntry hOther hKeys hNames
  exact hKeys (hTable.name_unique _ _ entry.2 other.2 (Table.find?_eq_some_iff.2 hEntry)
    (Table.find?_eq_some_iff.2 hOther)
    hNames)

/-- The first record that has a name is the only one. -/
theorem Orderly.find?_values_eq_some_iff (hTable : Orderly id name table) {record : α} :
    (table.values.find? fun record => name record == wanted) = some record ↔
      table.find? (id record) = some record ∧ name record = wanted := by
  constructor
  · exact hTable.found_of_find?_values
  · rintro ⟨hFound, hName⟩
    cases hFirst : table.values.find? fun record => name record == wanted with
    | none => exact absurd ⟨record, hFound, hName⟩ (find?_values_eq_none_iff.1 hFirst (id record))
    | some first =>
        obtain ⟨hFound', hName'⟩ := hTable.found_of_find?_values hFirst
        have hKey : id first = id record :=
          hTable.name_unique _ _ _ _ hFound' hFound (hName'.trans hName.symm)
        rw [hKey, hFound] at hFound'
        exact hFound'.symm

theorem Orderly.of_perm (hTable : Orderly id name table)
    (hOrder : table.entries.Perm table'.entries) :
    Orderly id name table' :=
  hTable.of_same_names fun key record' hFound =>
    ⟨record', (Table.perm_iff.1 hOrder key).symm.trans hFound, rfl, rfl⟩

theorem Orderly.find?_values_of_perm (hTable : Orderly id name table)
    (hOrder : table.entries.Perm table'.entries) :
    (table'.values.find? fun record => name record == wanted) =
      table.values.find? fun record => name record == wanted := by
  apply Option.ext
  intro record
  rw [(hTable.of_perm hOrder).find?_values_eq_some_iff, hTable.find?_values_eq_some_iff,
    Table.perm_iff.1 hOrder]

theorem nameTaken_of_perm (hOrder : table.entries.Perm table'.entries) (except : Option Id) :
    nameTaken id name table' wanted except = nameTaken id name table wanted except :=
  (Table.perm_values hOrder).any_eq.symm

end Orderly

/-! ## Ways to read -/

/-- The ways to read the entities of a kind agree: the listing has each of them once, the newest
first, and shows it as it is shown when it is asked for by its identifier or by its name; and by a
name is found what is listed under it. -/
structure ReadsAgree {α : Type} (has : Id → Prop) (id name : α → String) (createdAt : α → Instant)
    (listed : List α) (get : Id → Except Error α) (getByName : String → Option α) : Prop where
  once : (listed.map id).Nodup ∧ ∀ key, key ∈ listed.map id ↔ has key
  ordered : listed.Pairwise (Newer createdAt name)
  same : ∀ entity ∈ listed, get (id entity) = .ok entity ∧ getByName (name entity) = some entity
  named_iff : ∀ wanted, (∃ entity, getByName wanted = some entity) ↔ wanted ∈ listed.map name

/-- It is so for the entities of an orderly table, if what is shown of a record has its identifier
and its name. -/
theorem Orderly.readsAgree {α β : Type} {id name : α → String} {table : Table α}
    (hTable : Orderly id name table) {shown : α → β} {shownId shownName : β → String}
    (createdAt : β → Instant) {get : Id → Except Error β}
    (hId : ∀ record, shownId (shown record) = id record)
    (hName : ∀ record, shownName (shown record) = name record)
    (hGet : ∀ key record, table.find? key = some record → get key = .ok (shown record)) :
    ReadsAgree (fun key => table.find? key ≠ none) shownId shownName createdAt
      (newestFirst createdAt shownName (table.values.map shown)) get
      (fun wanted => (table.values.find? fun record => name record == wanted).map shown) := by
  have hIds : (table.values.map shown).map shownId = table.entries.map Prod.fst := by
    rw [List.map_map, ← hTable.values_id]
    exact List.map_congr_left fun record _ => hId record
  have hNames : (table.values.map shown).map shownName = table.values.map name := by
    rw [List.map_map]
    exact List.map_congr_left fun record _ => hName record
  have hListed : (newestFirst createdAt shownName (table.values.map shown)).Perm
      (table.values.map shown) :=
    List.mergeSort_perm _ _
  refine ⟨⟨?_, fun key => ?_⟩, pairwise_newestFirst (hNames ▸ hTable.nodup_names),
    fun entity hEntity => ?_, fun wanted => ?_⟩
  · rw [(hListed.map shownId).nodup_iff, hIds]
    exact table.distinct
  · rw [(hListed.map shownId).mem_iff, hIds, ← not_iff_not, Ne, Classical.not_not,
      Table.find?_eq_none_iff]
  · obtain ⟨record, hRecord, rfl⟩ := List.mem_map.1 (hListed.mem_iff.1 hEntity)
    obtain ⟨key, hFound⟩ := Table.mem_values.1 hRecord
    obtain rfl := hTable.own_id key record hFound
    rw [hId, hName]
    exact ⟨hGet _ record hFound, by rw [hTable.find?_values_eq_some_iff.2 ⟨hFound, rfl⟩]; rfl⟩
  · rw [(hListed.map shownName).mem_iff, hNames, List.mem_map]
    constructor
    · rintro ⟨_, hNamed⟩
      obtain ⟨record, hRecord, -⟩ := Option.map_eq_some_iff.1 hNamed
      exact ⟨record, List.mem_of_find?_eq_some hRecord, by simpa using List.find?_some hRecord⟩
    · rintro ⟨record, hRecord, rfl⟩
      obtain ⟨key, hFound⟩ := Table.mem_values.1 hRecord
      obtain rfl := hTable.own_id key record hFound
      rw [hTable.find?_values_eq_some_iff.2 ⟨hFound, rfl⟩]
      exact ⟨_, rfl⟩

section Reads

variable {state : State} (hState : Coherent state)

include hState

theorem Coherent.permissions_readsAgree :
    ReadsAgree (state.Has .permission) Permission.id Permission.name Permission.createdAt
      state.listPermissions
      state.getPermission state.getPermissionByName :=
  hState.permissions.readsAgree Permission.createdAt (fun _ => rfl) (fun _ => rfl)
    fun _ record hFound => getPermission_eq_ok_iff.2 ⟨record, hFound, rfl⟩

theorem Coherent.roles_readsAgree :
    ReadsAgree (state.Has .role) Role.id Role.name Role.createdAt state.listRoles state.getRole
      state.getRoleByName :=
  hState.roles.readsAgree Role.createdAt (fun _ => rfl) (fun _ => rfl)
    fun _ record hFound => getRole_eq_ok_iff.2 ⟨record, hFound, rfl⟩

/-- To ask for the permissions of a role is to read the role. -/
theorem Coherent.rolePermissionIds_eq (id : Id) :
    state.rolePermissionIds id = (state.getRole id).map Role.permissionIds := by
  unfold State.rolePermissionIds State.getRole
  cases hFound : state.role? id with
  | none => rfl
  | some record => simp only [Except.map, State.showRole, hState.roles.own_id id record hFound]

end Reads

/-! ## States that differ in an order -/

/-- Two states have the same records, the same pairs and the same numbers made known. The records
may be in another order. -/
structure Reordered (state state' : State) : Prop where
  permissions : state.permissions.entries.Perm state'.permissions.entries
  roles : state.roles.entries.Perm state'.roles.entries
  grants : state'.grants = state.grants
  inventory : state'.inventory = state.inventory

/-- No more than this can vary: the same records are found by all identifiers, and wherever this is
so the order alone differs. -/
theorem reordered_iff {state state' : State} :
    Reordered state state' ↔
      (∀ key, state'.permission? key = state.permission? key) ∧
        (∀ key, state'.role? key = state.role? key) ∧
        state'.grants = state.grants ∧ state'.inventory = state.inventory := by
  constructor
  · rintro ⟨hPermissions, hRoles, hGrants, hInventory⟩
    exact ⟨Table.perm_iff.1 hPermissions, Table.perm_iff.1 hRoles, hGrants, hInventory⟩
  · rintro ⟨hPermissions, hRoles, hGrants, hInventory⟩
    exact ⟨Table.perm_iff.2 hPermissions, Table.perm_iff.2 hRoles, hGrants, hInventory⟩

namespace Reordered

theorem refl (state : State) : Reordered state state :=
  ⟨.refl _, .refl _, rfl, rfl⟩

theorem symm {state state' : State} (h : Reordered state state') : Reordered state' state :=
  ⟨h.permissions.symm, h.roles.symm, h.grants.symm, h.inventory.symm⟩

theorem trans {state state' state'' : State} (h : Reordered state state')
    (h' : Reordered state' state'') :
    Reordered state state'' :=
  ⟨h.permissions.trans h'.permissions, h.roles.trans h'.roles, h'.grants.trans h.grants,
    h'.inventory.trans h.inventory⟩

variable {state state' : State} (h : Reordered state state')

include h

theorem permission?_eq (key : Id) : state'.permission? key = state.permission? key :=
  Table.perm_iff.1 h.permissions key

theorem role?_eq (key : Id) : state'.role? key = state.role? key :=
  Table.perm_iff.1 h.roles key

theorem permissionIdsOf_eq (role : Id) :
    state'.permissionIdsOf role = state.permissionIdsOf role := by
  rw [State.permissionIdsOf, State.permissionIdsOf, h.grants]

theorem roleIdsOf_eq (permission : Id) :
    state'.roleIdsOf permission = state.roleIdsOf permission := by
  rw [State.roleIdsOf, State.roleIdsOf, State.holders, State.holders, h.grants]

theorem showPermission_eq : state'.showPermission = state.showPermission :=
  funext fun record => by rw [State.showPermission, State.showPermission, h.roleIdsOf_eq]

theorem showRole_eq : state'.showRole = state.showRole :=
  funext fun record => by rw [State.showRole, State.showRole, h.permissionIdsOf_eq]

theorem permissionNameTaken_eq (name : String) (except : Option Id) :
    state'.permissionNameTaken name except = state.permissionNameTaken name except :=
  nameTaken_of_perm h.permissions except

theorem roleNameTaken_eq (name : String) (except : Option Id) :
    state'.roleNameTaken name except = state.roleNameTaken name except :=
  nameTaken_of_perm h.roles except

/-! ### Changes -/

/-- The numbers of the records do not depend on their order either. -/
theorem counted : Reordered state.counted state'.counted where
  permissions := h.permissions
  roles := h.roles
  grants := h.grants
  inventory :=
    congrArg some (congrArg₂ Store.Inventory.mk h.permissions.length_eq.symm h.roles.length_eq.symm)

theorem addPermission (record : PermissionRecord) :
    Reordered (state.addPermission record) (state'.addPermission record) :=
  counted ⟨Table.perm_insert h.permissions record.id record, h.roles, h.grants, h.inventory⟩

theorem describePermission (id : Id) (name : String) (description : Option String) :
    Reordered (state.describePermission id name description)
      (state'.describePermission id name description) :=
  ⟨Table.perm_update h.permissions id _, h.roles, h.grants, h.inventory⟩

theorem removePermission (id : Id) :
    Reordered (state.removePermission id) (state'.removePermission id) := by
  have hHolders : state'.holders id = state.holders id := by
    rw [State.holders, State.holders, h.grants]
  unfold State.removePermission
  rw [hHolders, h.grants]
  exact counted ⟨Table.perm_erase h.permissions id,
    Table.perm_foldl_update h.roles _ _, rfl, h.inventory⟩

theorem addRole (record : RoleRecord) : Reordered (state.addRole record) (state'.addRole record) :=
  counted ⟨h.permissions, Table.perm_insert h.roles record.id record, h.grants, h.inventory⟩

theorem renameRole (id : Id) (name : String) :
    Reordered (state.renameRole id name) (state'.renameRole id name) :=
  ⟨h.permissions, Table.perm_update h.roles id _, h.grants, h.inventory⟩

theorem removeRole (id : Id) : Reordered (state.removeRole id) (state'.removeRole id) := by
  unfold State.removeRole
  rw [h.grants]
  exact counted ⟨h.permissions, Table.perm_erase h.roles id, rfl, h.inventory⟩

theorem setGrants (id : Id) (permissions : IdSet) :
    Reordered (state.setGrants id permissions) (state'.setGrants id permissions) := by
  unfold State.setGrants
  rw [h.grants]
  exact ⟨h.permissions, h.roles, rfl, h.inventory⟩

theorem bumpRole (id : Id) : Reordered (state.bumpRole id) (state'.bumpRole id) :=
  ⟨h.permissions, Table.perm_update h.roles id _, h.grants, h.inventory⟩

/-! ### Operations -/

/-- An operation has the same result in both states, and leaves states that differ in their order
only. -/
def Agrees {α : Type} (outcome outcome' : Outcome α) : Prop :=
  outcome'.1 = outcome.1 ∧ Reordered outcome.2 outcome'.2

theorem getPermission_eq (id : Id) : state'.getPermission id = state.getPermission id := by
  simp only [State.getPermission, h.permission?_eq, h.showPermission_eq]

theorem getRole_eq (id : Id) : state'.getRole id = state.getRole id := by
  simp only [State.getRole, h.role?_eq, h.showRole_eq]

theorem rolePermissionIds_eq (id : Id) :
    state'.rolePermissionIds id = state.rolePermissionIds id := by
  simp only [State.rolePermissionIds, h.role?_eq, h.permissionIdsOf_eq]

theorem agrees_createPermission (moment : Moment) (name : String) (description : Option String) :
    Agrees (state.createPermission moment name description)
      (state'.createPermission moment name description) := by
  simp only [State.createPermission, h.permissionNameTaken_eq]
  split
  · exact ⟨rfl, h⟩
  · next kept _ =>
      split
      · exact ⟨rfl, h⟩
      · have hAdded := h.addPermission (.new moment kept description)
        exact ⟨by rw [hAdded.showPermission_eq], hAdded⟩

theorem agrees_updatePermission (id : Id) (name : String) (description : Option String) :
    Agrees (state.updatePermission id name description)
      (state'.updatePermission id name description) := by
  simp only [State.updatePermission, h.permission?_eq, h.permissionNameTaken_eq]
  split
  · exact ⟨rfl, h⟩
  · next kept _ =>
      split
      · exact ⟨rfl, h⟩
      · split
        · exact ⟨rfl, h⟩
        · have hDescribed := h.describePermission id kept description
          exact ⟨by rw [hDescribed.showPermission_eq], hDescribed⟩

theorem agrees_deletePermission (id : Id) :
    Agrees (state.deletePermission id) (state'.deletePermission id) := by
  simp only [State.deletePermission, h.permission?_eq]
  split
  · exact ⟨rfl, h⟩
  · exact ⟨rfl, h.removePermission id⟩

theorem agrees_createRole (moment : Moment) (name : String) :
    Agrees (state.createRole moment name) (state'.createRole moment name) := by
  simp only [State.createRole, h.roleNameTaken_eq]
  split
  · exact ⟨rfl, h⟩
  · next kept _ =>
      split
      · exact ⟨rfl, h⟩
      · have hAdded := h.addRole (.new moment kept)
        exact ⟨by rw [hAdded.showRole_eq], hAdded⟩

theorem agrees_updateRole (id : Id) (name : String) :
    Agrees (state.updateRole id name) (state'.updateRole id name) := by
  simp only [State.updateRole, h.role?_eq, h.roleNameTaken_eq]
  split
  · exact ⟨rfl, h⟩
  · next kept _ =>
      split
      · exact ⟨rfl, h⟩
      · split
        · exact ⟨rfl, h⟩
        · have hRenamed := h.renameRole id kept
          exact ⟨by rw [hRenamed.showRole_eq], hRenamed⟩

theorem agrees_deleteRole (id : Id) : Agrees (state.deleteRole id) (state'.deleteRole id) := by
  simp only [State.deleteRole, h.role?_eq]
  split
  · exact ⟨rfl, h⟩
  · exact ⟨rfl, h.removeRole id⟩

theorem agrees_replaceGrants (id : Id) (permissions : IdSet) :
    Agrees (state.replaceGrants id permissions) (state'.replaceGrants id permissions) := by
  have hSet := h.setGrants id permissions
  simp only [State.replaceGrants, h.permission?_eq, hSet.role?_eq]
  split
  · exact ⟨rfl, h⟩
  · split
    · exact ⟨rfl, hSet⟩
    · have hBumped := hSet.bumpRole id
      exact ⟨by rw [hBumped.showRole_eq], hBumped⟩

theorem agrees_setRolePermissions (id : Id) (permissions : IdSet) :
    Agrees (state.setRolePermissions id permissions)
      (state'.setRolePermissions id permissions) := by
  simp only [State.setRolePermissions, h.role?_eq]
  split
  · exact ⟨rfl, h⟩
  · exact h.agrees_replaceGrants id permissions

theorem agrees_replaceRolePermissions (id : Id) (expected : Revision) (permissions : IdSet) :
    Agrees (state.replaceRolePermissions id expected permissions)
      (state'.replaceRolePermissions id expected permissions) := by
  simp only [State.replaceRolePermissions, h.role?_eq]
  split
  · exact ⟨rfl, h⟩
  · split
    · exact h.agrees_replaceGrants id permissions
    · exact ⟨rfl, h⟩

section Coherent

variable (hState : Coherent state)

include hState

theorem coherent : Coherent state' where
  permissions := hState.permissions.of_perm h.permissions
  roles := hState.roles.of_perm h.roles
  grants grant hGrant := by
    rw [h.role?_eq, h.permission?_eq]
    exact hState.grants grant (h.grants ▸ hGrant)

theorem getPermissionByName_eq (name : String) :
    state'.getPermissionByName name = state.getPermissionByName name := by
  rw [State.getPermissionByName, State.getPermissionByName,
    hState.permissions.find?_values_of_perm h.permissions,
    h.showPermission_eq]

theorem getRoleByName_eq (name : String) :
    state'.getRoleByName name = state.getRoleByName name := by
  rw [State.getRoleByName, State.getRoleByName,
    hState.roles.find?_values_of_perm h.roles, h.showRole_eq]

theorem listPermissions_eq : state'.listPermissions = state.listPermissions := by
  rw [State.listPermissions, State.listPermissions, h.showPermission_eq]
  refine newestFirst_eq_of_perm ?_ ((Table.perm_values h.permissions).map state.showPermission)
  rw [List.map_map]
  exact hState.permissions.nodup_names

theorem listRoles_eq : state'.listRoles = state.listRoles := by
  rw [State.listRoles, State.listRoles, h.showRole_eq]
  refine newestFirst_eq_of_perm ?_ ((Table.perm_values h.roles).map state.showRole)
  rw [List.map_map]
  exact hState.roles.nodup_names

/-- No call tells two states apart that differ in their order only, and after it they differ in that
only. -/
theorem perform (moment : Moment) (call : Call) :
    Agrees (state.perform moment call) (state'.perform moment call) := by
  cases call with
  | listPermissions => exact ⟨congrArg Except.ok (h.listPermissions_eq hState), h⟩
  | getPermission id => exact ⟨h.getPermission_eq id, h⟩
  | getPermissionByName name => exact ⟨congrArg Except.ok (h.getPermissionByName_eq hState name), h⟩
  | createPermission name description => exact h.agrees_createPermission moment name description
  | updatePermission id name description => exact h.agrees_updatePermission id name description
  | deletePermission id => exact h.agrees_deletePermission id
  | listRoles => exact ⟨congrArg Except.ok (h.listRoles_eq hState), h⟩
  | getRole id => exact ⟨h.getRole_eq id, h⟩
  | getRoleByName name => exact ⟨congrArg Except.ok (h.getRoleByName_eq hState name), h⟩
  | createRole name => exact h.agrees_createRole moment name
  | updateRole id name => exact h.agrees_updateRole id name
  | deleteRole id => exact h.agrees_deleteRole id
  | rolePermissionIds id => exact ⟨h.rolePermissionIds_eq id, h⟩
  | setRolePermissions id permissions => exact h.agrees_setRolePermissions id permissions
  | replaceRolePermissions id expected permissions =>
      exact h.agrees_replaceRolePermissions id expected permissions
  | healthCheck => exact ⟨rfl, h⟩

end Coherent

end Reordered

/-! ## Runs -/

/-- Calls are answered one after the other, and before each of them the records may be put into
another order. -/
inductive RunInAnyOrder : State → List (Moment × Call) → List Exchange → State → Prop
  | done (state : State) : RunInAnyOrder state [] [] state
  | call {state state' after : State} {moment : Moment} {call : Call} {calls : List (Moment × Call)}
      {log : List Exchange}
      (hOrder : Reordered state state')
      (hRest : RunInAnyOrder (state'.perform moment call).2 calls log after) :
      RunInAnyOrder state ((moment, call) :: calls)
        (⟨call, (state'.perform moment call).1⟩ :: log) after

/-- Two runs of the same calls, from states that differ in their order only, have the same
answers. -/
theorem RunInAnyOrder.agrees {state state' after after' : State} {calls : List (Moment × Call)}
    {log log' : List Exchange} (hState : Coherent state) (hOrder : Reordered state state')
    (hRun : RunInAnyOrder state calls log after) (hRun' : RunInAnyOrder state' calls log' after') :
    log' = log ∧ Reordered after after' := by
  induction hRun generalizing state' log' with
  | done state =>
      cases hRun'
      exact ⟨rfl, hOrder⟩
  | @call state between after moment call calls log hFirst hRest ih =>
      cases hRun' with
      | @call _ between' _ _ _ _ rest' hFirst' hRest' =>
          -- both states that the call meets differ from the first one in their order only
          have hMet : Reordered between between' := hFirst.symm.trans (hOrder.trans hFirst')
          have hBetween := hFirst.coherent hState
          obtain ⟨hAnswer, hNext⟩ := hMet.perform hBetween moment call
          obtain ⟨rfl, hAfter⟩ := ih (hBetween.perform moment call) hNext hRest'
          exact ⟨by rw [hAnswer], hAfter⟩

/-- In every state that a store in memory can come to, and whatever order its records are gone
through, all ways to read the permissions and the roles agree: each is listed once, strictly by the
time of its creation and then by its name, as it is shown by its identifier and by its name, and no
other names are found. The permissions of a role are those that it is shown with. The order makes no
difference to the answer to any call, nor to those of a whole run in which it changes before each
call. -/
theorem readings_agree_in_any_order {state state' : State} (hState : Reachable state)
    (hOrder : Reordered state state') :
    ReadsAgree (state'.Has .permission) Permission.id Permission.name Permission.createdAt
        state'.listPermissions state'.getPermission state'.getPermissionByName ∧
      ReadsAgree (state'.Has .role) Role.id Role.name Role.createdAt
        state'.listRoles state'.getRole state'.getRoleByName ∧
      (∀ id, state'.rolePermissionIds id = (state'.getRole id).map Role.permissionIds) ∧
      (∀ moment call, (state'.perform moment call).1 = (state.perform moment call).1 ∧
        Reordered (state.perform moment call).2 (state'.perform moment call).2) ∧
      ∀ calls log log' after after', RunInAnyOrder state calls log after →
        RunInAnyOrder state' calls log' after' →
        log' = log ∧ Reordered after after' := by
  have hCoherent := hOrder.coherent hState.coherent
  refine ⟨hCoherent.permissions_readsAgree, hCoherent.roles_readsAgree,
    hCoherent.rolePermissionIds_eq, ?_, ?_⟩
  · exact hOrder.perform hState.coherent
  · intro calls log log' after after'
    exact RunInAnyOrder.agrees hState.coherent hOrder

/-- The state with all its records in the opposite order. -/
def State.reversed (state : State) : State :=
  { state with
    permissions :=
      ⟨state.permissions.entries.reverse,
        by rw [List.map_reverse]; exact List.nodup_reverse.2 state.permissions.distinct⟩
    roles :=
      ⟨state.roles.entries.reverse,
        by rw [List.map_reverse]; exact List.nodup_reverse.2 state.roles.distinct⟩ }

theorem reordered_reversed (state : State) : Reordered state state.reversed :=
  ⟨(List.reverse_perm _).symm, (List.reverse_perm _).symm, rfl, rfl⟩

theorem readings_agree_in_any_order_of_shared :
    Reachable shared ∧ Reordered shared shared.reversed ∧
      shared.reversed.roles.values.map RoleRecord.name = ["viewer", "editor"] ∧
      ReadsAgree (shared.reversed.Has .role) Role.id Role.name Role.createdAt
        shared.reversed.listRoles shared.reversed.getRole shared.reversed.getRoleByName ∧
      (shared.reversed.perform ⟨⟨6⟩, ""⟩ .listRoles).1 =
        (shared.perform ⟨⟨6⟩, ""⟩ .listRoles).1 := by
  obtain ⟨-, hRoles, -, hCalls, -⟩ :=
    readings_agree_in_any_order reachable_shared (reordered_reversed shared)
  exact ⟨reachable_shared, reordered_reversed shared, rfl, hRoles, (hCalls ⟨⟨6⟩, ""⟩ .listRoles).1⟩

end Memory

end Rolebook
