import Mathlib.Data.List.Nodup
import Mathlib.Logic.Equiv.Basic
import Rolebook.Proofs.Memory.Refusal
import Rolebook.Proofs.Text.ByteOrder

/-!
# Other identifiers

Two stores give the entities that they make identifiers of their own, so what is the same in both
can only be said up to a `Renaming`, which sends the identifiers of one store to those of the other.
It goes through all that a store in memory does: a call about the other identifiers, in the state
with the other identifiers, is answered by the other identifiers and leaves the state with them
(`perform_rename`).

One thing is not sent to its counterpart. Of several unknown permissions that a role is to grant,
the error names the first, and which one is the first is a matter of the identifiers. `AnswersMatch`
says what each side names.
-/

namespace Rolebook

/-! ## Sets -/

namespace OrderedSet

variable {α β : Type} [StrictOrder α] [StrictOrder β] {set : OrderedSet α} {f : α → β}

/-- The set of what the members are sent to. -/
def image (set : OrderedSet α) (f : α → β) : OrderedSet β :=
  .ofList (set.toList.map f)

theorem mem_image {b : β} : b ∈ set.image f ↔ ∃ a ∈ set, f a = b :=
  mem_ofList.trans List.mem_map

theorem mem_image_of_injective (hf : f.Injective) {a : α} : f a ∈ set.image f ↔ a ∈ set := by
  rw [mem_image]
  constructor
  · rintro ⟨b, hMember, hSame⟩
    exact hf hSame ▸ hMember
  · intro hMember
    exact ⟨a, hMember, rfl⟩

/-- The members are tested before or after they are sent. -/
theorem filter_image {test : α → Bool} {test' : β → Bool} (hTest : ∀ a, test' (f a) = test a) :
    (set.image f).filter test' = (set.filter test).image f := by
  apply ext
  intro b
  simp only [mem_filter, mem_image]
  constructor
  · rintro ⟨⟨a, hMember, rfl⟩, hPasses⟩
    exact ⟨a, ⟨hMember, hTest a ▸ hPasses⟩, rfl⟩
  · rintro ⟨a, ⟨hMember, hPasses⟩, rfl⟩
    exact ⟨⟨a, hMember, rfl⟩, (hTest a).trans hPasses⟩

theorem insertAll_image {as : List α} {bs : List β} (hSame : ∀ b, b ∈ bs ↔ ∃ a ∈ as, f a = b) :
    (set.image f).insertAll bs = (set.insertAll as).image f := by
  apply ext
  intro b
  rw [mem_insertAll, mem_image, mem_image, hSame]
  constructor
  · rintro (⟨a, hMember, rfl⟩ | ⟨a, hMember, rfl⟩)
    · exact ⟨a, mem_insertAll.2 (.inl hMember), rfl⟩
    · exact ⟨a, mem_insertAll.2 (.inr hMember), rfl⟩
  · rintro ⟨a, hMember, rfl⟩
    exact (mem_insertAll.1 hMember).imp (fun h => ⟨a, h, rfl⟩) fun h => ⟨a, h, rfl⟩

end OrderedSet

/-! ## Tables -/

namespace Table

variable {α : Type} {σ : Id → Id}

/-- The table with other identifiers, and with what becomes of the records for that. -/
def rename (hσ : σ.Injective) (change : α → α) (table : Table α) : Table α where
  entries := table.entries.map fun entry => (σ entry.1, change entry.2)
  distinct := by
    have hKeys := table.distinct.map hσ
    rw [List.map_map] at hKeys ⊢
    exact hKeys

variable (hσ : σ.Injective) {change : α → α} {table : Table α}

@[simp] theorem find?_rename (id : Id) :
    (table.rename hσ change).find? (σ id) = (table.find? id).map change := by
  apply Option.ext
  intro a
  simp only [find?_eq_some_iff, Option.map_eq_some_iff, rename, List.mem_map, Prod.mk.injEq]
  constructor
  · rintro ⟨⟨key, b⟩, hEntry, hKey, rfl⟩
    exact ⟨b, hσ hKey ▸ hEntry, rfl⟩
  · rintro ⟨b, hEntry, rfl⟩
    exact ⟨(id, b), hEntry, rfl, rfl⟩

@[simp] theorem values_rename : (table.rename hσ change).values = table.values.map change := by
  rw [values, values, rename, List.map_map, List.map_map]
  rfl

@[simp] theorem size_rename : (table.rename hσ change).size = table.size :=
  List.length_map _

theorem erase_rename (id : Id) :
    (table.rename hσ change).erase (σ id) = (table.erase id).rename hσ change := by
  apply ext_entries
  simp only [erase, rename, List.filter_map]
  refine congrArg _ (List.filter_congr fun entry _ => ?_)
  simp only [Function.comp_apply, bne, beq_eq_decide, hσ.eq_iff]

theorem update_rename (id : Id) {step step' : α → α}
    (hStep : ∀ a, step' (change a) = change (step a)) :
    (table.rename hσ change).update (σ id) step' = (table.update id step).rename hσ change := by
  apply ext_entries
  simp only [update, rename, List.map_map]
  refine List.map_congr_left fun entry _ => ?_
  simp only [Function.comp_apply, beq_iff_eq, hσ.eq_iff]
  split
  · simp only [hStep]
  · rfl

theorem insert_rename (id : Id) (a : α) :
    (table.rename hσ change).insert (σ id) (change a) = (table.insert id a).rename hσ change := by
  have hFind : (table.rename hσ change).find? (σ id) = (table.find? id).map change :=
    find?_rename hσ id
  cases hOld : table.find? id with
  | some record =>
      rw [hOld] at hFind
      rw [insert_of_present hFind, insert_of_present hOld]
      exact update_rename hσ id fun _ => rfl
  | none =>
      rw [hOld] at hFind
      apply ext_entries
      rw [entries_insert hFind]
      show _ = (table.insert id a).entries.map _
      rw [entries_insert hOld, List.map_append]
      rfl

/-- The records under several identifiers are changed in any order. -/
theorem foldl_update_rename {ids ids' : List Id} (hIds : ids'.Perm (ids.map σ)) {step step' : α → α}
    (hStep : ∀ a, step' (change a) = change (step a)) :
    ids'.foldl (fun table id => table.update id step') (table.rename hσ change) =
      (ids.foldl (fun table id => table.update id step) table).rename hσ change := by
  rw [hIds.foldl_eq' (fun id _ other _ table => update_comm table id other step'), List.foldl_map]
  clear hIds
  induction ids generalizing table with
  | nil => rfl
  | cons id ids ih =>
      rw [List.foldl_cons, List.foldl_cons, update_rename hσ id hStep, ih]

end Table

/-! ## Entities and calls -/

/-- What becomes of the identifiers of the entities of each kind. No two become the same. -/
structure Renaming where
  apply : EntityKind → Id → Id
  injective : ∀ kind, (apply kind).Injective

namespace Renaming

/-- Identifiers that are exchanged for each other. -/
def ofPerms (permission role : Equiv.Perm Id) : Renaming where
  apply
    | .permission => permission
    | .role => role
  injective
    | .permission => permission.injective
    | .role => role.injective

/-- Whatever different identifiers one store has given out in turn and whatever different ones the
other, there is a way to send each to its counterpart. -/
theorem exists_perm_of_nodup {pairs : List (Id × Id)} (hFirst : (pairs.map Prod.fst).Nodup)
    (hSecond : (pairs.map Prod.snd).Nodup) :
    ∃ σ : Equiv.Perm Id, ∀ pair ∈ pairs, σ pair.1 = pair.2 := by
  induction pairs with
  | nil => exact ⟨Equiv.refl Id, List.forall_mem_nil _⟩
  | cons pair pairs ih =>
      rw [List.map_cons, List.nodup_cons] at hFirst hSecond
      obtain ⟨σ, hSent⟩ := ih hFirst.2 hSecond.2
      -- the one in front is sent right by an exchange that touches none of the others
      refine ⟨σ.trans (Equiv.swap (σ pair.1) pair.2), List.forall_mem_cons.2 ⟨by simp, ?_⟩⟩
      intro other hOther
      have hNe : other.1 ≠ pair.1 := fun hSame => hFirst.1 (hSame ▸ List.mem_map_of_mem hOther)
      have hNe' : other.2 ≠ pair.2 := fun hSame => hSecond.1 (hSame ▸ List.mem_map_of_mem hOther)
      rw [Equiv.trans_apply, hSent other hOther]
      refine Equiv.swap_apply_of_ne_of_ne ?_ hNe'
      rw [← hSent other hOther]
      exact σ.injective.ne hNe

end Renaming

variable (ρ : Renaming)

/-- A permission with the other identifiers. -/
def Permission.rename (permission : Permission) : Permission :=
  { permission with
    id := ρ.apply .permission permission.id
    roleIds := permission.roleIds.image (ρ.apply .role) }

/-- A role with the other identifiers. -/
def Role.rename (role : Role) : Role :=
  { role with
    id := ρ.apply .role role.id
    permissionIds := role.permissionIds.image (ρ.apply .permission) }

@[simp] theorem Permission.createdAt_rename (permission : Permission) :
    (permission.rename ρ).createdAt = permission.createdAt :=
  rfl

@[simp] theorem Permission.name_rename (permission : Permission) :
    (permission.rename ρ).name = permission.name :=
  rfl

@[simp] theorem Role.createdAt_rename (role : Role) : (role.rename ρ).createdAt = role.createdAt :=
  rfl

@[simp] theorem Role.name_rename (role : Role) : (role.rename ρ).name = role.name :=
  rfl

namespace Store

/-- A call by the other identifiers. -/
def Call.rename : Call → Call
  | .listPermissions => .listPermissions
  | .getPermission id => .getPermission (ρ.apply .permission id)
  | .getPermissionByName name => .getPermissionByName name
  | .createPermission name description => .createPermission name description
  | .updatePermission id name description =>
    .updatePermission (ρ.apply .permission id) name description
  | .deletePermission id => .deletePermission (ρ.apply .permission id)
  | .listRoles => .listRoles
  | .getRole id => .getRole (ρ.apply .role id)
  | .getRoleByName name => .getRoleByName name
  | .createRole name => .createRole name
  | .updateRole id name => .updateRole (ρ.apply .role id) name
  | .deleteRole id => .deleteRole (ρ.apply .role id)
  | .rolePermissionIds id => .rolePermissionIds (ρ.apply .role id)
  | .setRolePermissions id permissions =>
    .setRolePermissions (ρ.apply .role id) (permissions.image (ρ.apply .permission))
  | .replaceRolePermissions id expected permissions =>
    .replaceRolePermissions (ρ.apply .role id) expected (permissions.image (ρ.apply .permission))
  | .healthCheck => .healthCheck

/-- What a call results in, by the other identifiers. -/
def Call.renameValue : (call : Call) → call.Value → (call.rename ρ).Value
  | .listPermissions => List.map (Permission.rename ρ)
  | .getPermissionByName _ => Option.map (Permission.rename ρ)
  | .getPermission _ | .createPermission _ _ | .updatePermission _ _ _ => Permission.rename ρ
  | .listRoles => List.map (Role.rename ρ)
  | .getRoleByName _ => Option.map (Role.rename ρ)
  | .getRole _ | .createRole _ | .updateRole _ _ => Role.rename ρ
  | .setRolePermissions _ _ | .replaceRolePermissions _ _ _ => Role.rename ρ
  | .rolePermissionIds _ => fun permissions => permissions.image (ρ.apply .permission)
  | .deletePermission _ | .deleteRole _ | .healthCheck => id

end Store

/-- The identifier of a new entity becomes the other one. -/
def Renaming.Matches (id other : Id) : Store.Call → Prop
  | .createPermission _ _ => ρ.apply .permission id = other
  | .createRole _ => ρ.apply .role id = other
  | _ => True

namespace Memory

open Rolebook.Store (Call Error)

/-! ## States -/

/-- A record of a permission with the other identifier. -/
def PermissionRecord.rename (record : PermissionRecord) : PermissionRecord :=
  { record with id := ρ.apply .permission record.id }

/-- A record of a role with the other identifier. -/
def RoleRecord.rename (record : RoleRecord) : RoleRecord :=
  { record with id := ρ.apply .role record.id }

@[simp] theorem PermissionRecord.id_rename (record : PermissionRecord) :
    (record.rename ρ).id = ρ.apply .permission record.id :=
  rfl

@[simp] theorem PermissionRecord.name_rename (record : PermissionRecord) :
    (record.rename ρ).name = record.name :=
  rfl

@[simp] theorem RoleRecord.id_rename (record : RoleRecord) :
    (record.rename ρ).id = ρ.apply .role record.id :=
  rfl

@[simp] theorem RoleRecord.name_rename (record : RoleRecord) :
    (record.rename ρ).name = record.name :=
  rfl

/-- A pair of the other identifiers. -/
def Grant.rename (grant : Grant) : Grant :=
  ⟨ρ.apply .role grant.role, ρ.apply .permission grant.permission⟩

theorem Grant.rename_injective : (Grant.rename ρ).Injective := by
  rintro ⟨role, permission⟩ ⟨role', permission'⟩ hSame
  obtain ⟨hRole, hPermission⟩ := Grant.mk.inj hSame
  exact Grant.mk.injEq .. ▸ ⟨ρ.injective _ hRole, ρ.injective _ hPermission⟩

/-- The state with the other identifiers. -/
def State.rename (state : State) : State where
  permissions := state.permissions.rename (ρ.injective .permission) (PermissionRecord.rename ρ)
  roles := state.roles.rename (ρ.injective .role) (RoleRecord.rename ρ)
  grants := state.grants.image (Grant.rename ρ)
  inventory := state.inventory

@[simp] theorem State.rename_empty : State.empty.rename ρ = .empty :=
  rfl

section Readings

variable {ρ} {state : State}

@[simp] theorem permission?_rename (id : Id) :
    (state.rename ρ).permission? (ρ.apply .permission id) =
      (state.permission? id).map (PermissionRecord.rename ρ) :=
  Table.find?_rename (ρ.injective .permission) id

@[simp] theorem role?_rename (id : Id) :
    (state.rename ρ).role? (ρ.apply .role id) = (state.role? id).map (RoleRecord.rename ρ) :=
  Table.find?_rename (ρ.injective .role) id

theorem mem_grants_rename {role permission : Id} :
    ⟨ρ.apply .role role, ρ.apply .permission permission⟩ ∈ (state.rename ρ).grants ↔
      ⟨role, permission⟩ ∈ state.grants :=
  OrderedSet.mem_image_of_injective (a := ⟨role, permission⟩) (Grant.rename_injective ρ)

/-- What a role grants with the other identifiers is what the other identifiers stand for. -/
theorem permissionIdsOf_rename (role : Id) :
    (state.rename ρ).permissionIdsOf (ρ.apply .role role) =
      (state.permissionIdsOf role).image (ρ.apply .permission) := by
  apply OrderedSet.ext
  intro permission
  rw [State.mem_permissionIdsOf, OrderedSet.mem_image]
  constructor
  · intro hGrant
    obtain ⟨grant, hMember, hSame⟩ := OrderedSet.mem_image.1 hGrant
    obtain ⟨hRole, rfl⟩ := Grant.mk.inj hSame
    obtain rfl := ρ.injective _ hRole
    exact ⟨grant.permission, State.mem_permissionIdsOf.2 hMember, rfl⟩
  · rintro ⟨permission, hMember, rfl⟩
    exact mem_grants_rename.2 (State.mem_permissionIdsOf.1 hMember)

theorem mem_holders_rename {role permission : Id} :
    role ∈ (state.rename ρ).holders (ρ.apply .permission permission) ↔
      role ∈ (state.holders permission).map (ρ.apply .role) := by
  rw [State.mem_holders, List.mem_map]
  constructor
  · intro hGrant
    obtain ⟨grant, hMember, hSame⟩ := OrderedSet.mem_image.1 hGrant
    obtain ⟨rfl, hPermission⟩ := Grant.mk.inj hSame
    obtain rfl := ρ.injective _ hPermission
    exact ⟨grant.role, State.mem_holders.2 hMember, rfl⟩
  · rintro ⟨role, hMember, rfl⟩
    exact mem_grants_rename.2 (State.mem_holders.1 hMember)

/-- The holders of a permission are those of the other identifiers, in an order of their own. -/
theorem perm_holders_rename (permission : Id) :
    ((state.rename ρ).holders (ρ.apply .permission permission)).Perm
      ((state.holders permission).map (ρ.apply .role)) :=
  (List.perm_ext_iff_of_nodup (State.nodup_holders _ _)
    ((state.nodup_holders permission).map (ρ.injective .role))).2 fun _ => mem_holders_rename

theorem roleIdsOf_rename (permission : Id) :
    (state.rename ρ).roleIdsOf (ρ.apply .permission permission) =
      (state.roleIdsOf permission).image (ρ.apply .role) := by
  apply OrderedSet.ext
  intro role
  rw [State.roleIdsOf, OrderedSet.mem_ofList, mem_holders_rename, List.mem_map,
    OrderedSet.mem_image]
  simp only [State.roleIdsOf, OrderedSet.mem_ofList]

theorem showPermission_rename (record : PermissionRecord) :
    (state.rename ρ).showPermission (record.rename ρ) = (state.showPermission record).rename ρ := by
  simp only [State.showPermission, PermissionRecord.rename, roleIdsOf_rename, Permission.rename]

theorem showRole_rename (record : RoleRecord) :
    (state.rename ρ).showRole (record.rename ρ) = (state.showRole record).rename ρ := by
  simp only [State.showRole, RoleRecord.rename, permissionIdsOf_rename, Role.rename]

/-- A name is taken or not, whatever the identifiers are. -/
theorem nameTaken_rename {α : Type} {id name : α → String} {σ : Id → Id} (hσ : σ.Injective)
    {change : α → α} (hId : ∀ a, id (change a) = σ (id a)) (hName : ∀ a, name (change a) = name a)
    (table : Table α) (wanted : String) (except : Option Id) :
    nameTaken id name (table.rename hσ change) wanted (except.map σ) =
      nameTaken id name table wanted except := by
  rw [nameTaken, nameTaken, Table.values_rename, List.any_map]
  refine congrArg (List.any _) (funext fun record => ?_)
  cases except with
  | none =>
      rw [Function.comp_apply, hName]
      rfl
  | some other =>
      simp [hId, hName, bne, beq_eq_decide, hσ.eq_iff]

theorem permissionNameTaken_rename (name : String) (except : Option Id) :
    (state.rename ρ).permissionNameTaken name (except.map (ρ.apply .permission)) =
      state.permissionNameTaken name except :=
  nameTaken_rename (ρ.injective .permission) (PermissionRecord.id_rename ρ)
    (PermissionRecord.name_rename ρ) ..

theorem roleNameTaken_rename (name : String) (except : Option Id) :
    (state.rename ρ).roleNameTaken name (except.map (ρ.apply .role)) =
      state.roleNameTaken name except :=
  nameTaken_rename (ρ.injective .role) (RoleRecord.id_rename ρ) (RoleRecord.name_rename ρ) ..

/-- The order of a listing is by what the identifiers have no part in. -/
theorem newestFirst_map {α : Type} {createdAt : α → Instant} {name : α → String} {f : α → α}
    (hCreatedAt : ∀ a, createdAt (f a) = createdAt a) (hName : ∀ a, name (f a) = name a)
    (elements : List α) :
    newestFirst createdAt name (elements.map f) = (newestFirst createdAt name elements).map f := by
  unfold newestFirst
  refine (List.map_mergeSort fun a _ b _ => ?_).symm
  simp only [hCreatedAt, hName]

theorem listPermissions_rename :
    (state.rename ρ).listPermissions = state.listPermissions.map (Permission.rename ρ) := by
  unfold State.listPermissions
  rw [← newestFirst_map (Permission.createdAt_rename ρ) (Permission.name_rename ρ)]
  refine congrArg _ ?_
  rw [State.rename, Table.values_rename, List.map_map, List.map_map]
  exact List.map_congr_left fun record _ => showPermission_rename record

theorem listRoles_rename :
    (state.rename ρ).listRoles = state.listRoles.map (Role.rename ρ) := by
  unfold State.listRoles
  rw [← newestFirst_map (Role.createdAt_rename ρ) (Role.name_rename ρ)]
  refine congrArg _ ?_
  rw [State.rename, Table.values_rename, List.map_map, List.map_map]
  exact List.map_congr_left fun record _ => showRole_rename record

theorem getPermission_rename (id : Id) :
    (state.rename ρ).getPermission (ρ.apply .permission id) =
      (state.getPermission id).map (Permission.rename ρ) := by
  rw [State.getPermission, State.getPermission, permission?_rename]
  cases state.permission? id with
  | none => rfl
  | some record => exact congrArg Except.ok (showPermission_rename record)

theorem getRole_rename (id : Id) :
    (state.rename ρ).getRole (ρ.apply .role id) = (state.getRole id).map (Role.rename ρ) := by
  rw [State.getRole, State.getRole, role?_rename]
  cases state.role? id with
  | none => rfl
  | some record => exact congrArg Except.ok (showRole_rename record)

theorem getPermissionByName_rename (name : String) :
    (state.rename ρ).getPermissionByName name =
      (state.getPermissionByName name).map (Permission.rename ρ) := by
  rw [State.getPermissionByName, State.rename, Table.values_rename, List.find?_map,
    State.getPermissionByName, Option.map_map, Option.map_map]
  exact congrFun (congrArg Option.map (funext showPermission_rename)) _

theorem getRoleByName_rename (name : String) :
    (state.rename ρ).getRoleByName name = (state.getRoleByName name).map (Role.rename ρ) := by
  rw [State.getRoleByName, State.rename, Table.values_rename, List.find?_map,
    State.getRoleByName, Option.map_map, Option.map_map]
  exact congrFun (congrArg Option.map (funext showRole_rename)) _

theorem rolePermissionIds_rename (id : Id) :
    (state.rename ρ).rolePermissionIds (ρ.apply .role id) =
      (state.rolePermissionIds id).map fun permissions =>
        permissions.image (ρ.apply .permission) := by
  rw [State.rolePermissionIds, State.rolePermissionIds, role?_rename]
  cases state.role? id with
  | none => rfl
  | some record => exact congrArg Except.ok (permissionIdsOf_rename id)

end Readings

/-! ## Changes -/

section Changes

variable {ρ} (state : State)

theorem counted_rename : (state.rename ρ).counted = state.counted.rename ρ := by
  simp only [State.counted, State.rename, Table.size_rename]

theorem addPermission_rename (record : PermissionRecord) :
    (state.rename ρ).addPermission (record.rename ρ) = (state.addPermission record).rename ρ := by
  rw [State.addPermission, State.addPermission, ← counted_rename]
  exact congrArg (fun permissions => { state.rename ρ with permissions }.counted)
    (Table.insert_rename (ρ.injective .permission) record.id record)

theorem addRole_rename (record : RoleRecord) :
    (state.rename ρ).addRole (record.rename ρ) = (state.addRole record).rename ρ := by
  rw [State.addRole, State.addRole, ← counted_rename]
  exact congrArg (fun roles => { state.rename ρ with roles }.counted)
    (Table.insert_rename (ρ.injective .role) record.id record)

theorem describePermission_rename (id : Id) (name : String) (description : Option String) :
    (state.rename ρ).describePermission (ρ.apply .permission id) name description =
      (state.describePermission id name description).rename ρ := by
  refine congrArg (fun permissions => { state.rename ρ with permissions }) ?_
  exact Table.update_rename (ρ.injective .permission) id fun _ => rfl

theorem renameRole_rename (id : Id) (name : String) :
    (state.rename ρ).renameRole (ρ.apply .role id) name = (state.renameRole id name).rename ρ := by
  refine congrArg (fun roles => { state.rename ρ with roles }) ?_
  exact Table.update_rename (ρ.injective .role) id fun _ => rfl

theorem bumpRole_rename (id : Id) :
    (state.rename ρ).bumpRole (ρ.apply .role id) = (state.bumpRole id).rename ρ := by
  refine congrArg (fun roles => { state.rename ρ with roles }) ?_
  exact Table.update_rename (ρ.injective .role) id fun _ => rfl

/-- The pairs are rid of those with an entity, by the one identifier or by the other. -/
theorem filter_grants_rename {of : Grant → Id} {kind : EntityKind}
    (hOf : ∀ grant, of (grant.rename ρ) = ρ.apply kind (of grant)) (id : Id) :
    ((state.rename ρ).grants.filter fun grant => of grant != ρ.apply kind id) =
      (state.grants.filter fun grant => of grant != id).image (Grant.rename ρ) :=
  OrderedSet.filter_image fun grant => by
    simp only [hOf, bne, beq_eq_decide, (ρ.injective kind).eq_iff]

theorem removePermission_rename (id : Id) :
    (state.rename ρ).removePermission (ρ.apply .permission id) =
      (state.removePermission id).rename ρ := by
  rw [State.removePermission, State.removePermission, ← counted_rename]
  refine congrArg State.counted ((State.mk.injEq ..).mpr ⟨?_, ?_, ?_, rfl⟩)
  · exact Table.erase_rename (ρ.injective .permission) id
  · exact Table.foldl_update_rename (ρ.injective .role) (perm_holders_rename id) fun _ => rfl
  · exact filter_grants_rename state (fun _ => rfl) id

theorem removeRole_rename (id : Id) :
    (state.rename ρ).removeRole (ρ.apply .role id) = (state.removeRole id).rename ρ := by
  rw [State.removeRole, State.removeRole, ← counted_rename]
  refine congrArg State.counted ((State.mk.injEq ..).mpr ⟨rfl, ?_, ?_, rfl⟩)
  · exact Table.erase_rename (ρ.injective .role) id
  · exact filter_grants_rename state (fun _ => rfl) id

theorem setGrants_rename (id : Id) (permissions : IdSet) :
    (state.rename ρ).setGrants (ρ.apply .role id) (permissions.image (ρ.apply .permission)) =
      (state.setGrants id permissions).rename ρ := by
  refine congrArg (fun grants => { state.rename ρ with grants }) ?_
  have hOthers : ((state.rename ρ).grants.filter fun grant => grant.role != ρ.apply .role id) =
      (state.grants.filter fun grant => grant.role != id).image (Grant.rename ρ) :=
    filter_grants_rename state (fun _ => rfl) id
  rw [hOthers]
  refine OrderedSet.insertAll_image fun grant => ?_
  simp only [List.mem_map, exists_exists_and_eq_and]
  constructor
  · rintro ⟨permission, hMember, rfl⟩
    obtain ⟨given, hGiven, rfl⟩ := OrderedSet.mem_image.1 hMember
    exact ⟨given, hGiven, rfl⟩
  · rintro ⟨given, hGiven, rfl⟩
    exact ⟨_, OrderedSet.mem_image.2 ⟨given, hGiven, rfl⟩, rfl⟩

end Changes

/-! ## Operations -/

/-- The outcome of an operation with the other identifiers. -/
def renameOutcome {α β : Type} (onValue : α → β) (outcome : Outcome α) : Outcome β :=
  (outcome.1.map onValue, outcome.2.rename ρ)

section Operations

variable (state : State)

theorem createPermission_rename (now : Instant) (id : Id) (name : String)
    (description : Option String) :
    (state.rename ρ).createPermission ⟨now, ρ.apply .permission id⟩ name description =
      renameOutcome ρ (Permission.rename ρ)
        (state.createPermission ⟨now, id⟩ name description) := by
  simp only [State.createPermission]
  cases keptName .permission name with
  | error error => rfl
  | ok kept =>
      have hRecord : PermissionRecord.new ⟨now, ρ.apply .permission id⟩ kept description =
          (PermissionRecord.new ⟨now, id⟩ kept description).rename ρ := rfl
      have hTaken : (state.rename ρ).permissionNameTaken kept none =
          state.permissionNameTaken kept none :=
        permissionNameTaken_rename kept none
      simp only [hRecord, hTaken, addPermission_rename, showPermission_rename]
      split <;> rfl

theorem updatePermission_rename (id : Id) (name : String) (description : Option String) :
    (state.rename ρ).updatePermission (ρ.apply .permission id) name description =
      renameOutcome ρ (Permission.rename ρ) (state.updatePermission id name description) := by
  simp only [State.updatePermission]
  cases keptName .permission name with
  | error error => rfl
  | ok kept =>
      have hTaken : (state.rename ρ).permissionNameTaken kept (some (ρ.apply .permission id)) =
          state.permissionNameTaken kept (some id) := permissionNameTaken_rename kept (some id)
      simp only [permission?_rename, hTaken]
      cases state.permission? id with
      | none => rfl
      | some record =>
          have hRecord : { record.rename ρ with name := kept, description } =
            ({ record with name := kept, description } : PermissionRecord).rename ρ := rfl
          simp only [Option.map_some, hRecord, describePermission_rename, showPermission_rename]
          split <;> rfl

theorem deletePermission_rename (id : Id) :
    (state.rename ρ).deletePermission (ρ.apply .permission id) =
      renameOutcome ρ (fun done => done) (state.deletePermission id) := by
  simp only [State.deletePermission, permission?_rename]
  cases state.permission? id with
  | none => rfl
  | some record =>
      simp only [Option.map_some, removePermission_rename]
      rfl

theorem createRole_rename (now : Instant) (id : Id) (name : String) :
    (state.rename ρ).createRole ⟨now, ρ.apply .role id⟩ name =
      renameOutcome ρ (Role.rename ρ) (state.createRole ⟨now, id⟩ name) := by
  simp only [State.createRole]
  cases keptName .role name with
  | error error => rfl
  | ok kept =>
      have hRecord : RoleRecord.new ⟨now, ρ.apply .role id⟩ kept =
        (RoleRecord.new ⟨now, id⟩ kept).rename ρ := rfl
      have hTaken : (state.rename ρ).roleNameTaken kept none = state.roleNameTaken kept none :=
        roleNameTaken_rename kept none
      simp only [hRecord, hTaken, addRole_rename, showRole_rename]
      split <;> rfl

theorem updateRole_rename (id : Id) (name : String) :
    (state.rename ρ).updateRole (ρ.apply .role id) name =
      renameOutcome ρ (Role.rename ρ) (state.updateRole id name) := by
  simp only [State.updateRole]
  cases keptName .role name with
  | error error => rfl
  | ok kept =>
      have hTaken : (state.rename ρ).roleNameTaken kept (some (ρ.apply .role id)) =
          state.roleNameTaken kept (some id) := roleNameTaken_rename kept (some id)
      simp only [role?_rename, hTaken]
      cases state.role? id with
      | none => rfl
      | some record =>
          have hRecord : { record.rename ρ with name := kept } =
            ({ record with name := kept } : RoleRecord).rename ρ := rfl
          simp only [Option.map_some, hRecord, renameRole_rename, showRole_rename]
          split <;> rfl

theorem deleteRole_rename (id : Id) :
    (state.rename ρ).deleteRole (ρ.apply .role id) =
      renameOutcome ρ (fun done => done) (state.deleteRole id) := by
  simp only [State.deleteRole, role?_rename]
  cases state.role? id with
  | none => rfl
  | some record =>
      simp only [Option.map_some, removeRole_rename]
      rfl

/-- The permissions of a role that is there are exchanged for known ones. -/
theorem replaceGrants_rename {id : Id} {record : RoleRecord} {permissions : IdSet}
    (hFound : state.role? id = some record)
    (hKnown : ∀ permission ∈ permissions, state.permission? permission ≠ none) :
    (state.rename ρ).replaceGrants (ρ.apply .role id) (permissions.image (ρ.apply .permission)) =
      renameOutcome ρ (Role.rename ρ) (state.replaceGrants id permissions) := by
  have hFound' : (state.rename ρ).role? (ρ.apply .role id) = some (record.rename ρ) := by
    rw [role?_rename, hFound]
    rfl
  have hKnown' : ∀ permission ∈ permissions.image (ρ.apply .permission),
      (state.rename ρ).permission? permission ≠ none := by
    intro permission hMember
    obtain ⟨given, hGiven, rfl⟩ := OrderedSet.mem_image.1 hMember
    simpa using hKnown given hGiven
  rw [replaceGrants_of_known hFound hKnown, replaceGrants_of_known hFound' hKnown']
  have hRecord : (record.rename ρ).bump = record.bump.rename ρ := rfl
  rw [hRecord, setGrants_rename, bumpRole_rename, showRole_rename]
  rfl

end Operations

/-! ## Answers -/

/-- No unknown permission of a set comes before this one in the order of bytes, by what is written
for their identifiers. -/
structure FirstUnknown (state : State) (permissions : IdSet) (written : Id → Id) (id : Id) :
    Prop where
  given : id ∈ permissions
  unknown : state.permission? id = none
  least : ∀ other ∈ permissions, state.permission? other = none →
    ¬ Text.toUtf8 (written other) < Text.toUtf8 (written id)

/-- What a call is answered on one side and on the other. Both do what they are asked to, and the
results have each other's identifiers; or both fail by the same error, except that of several
unknown permissions each side names the one that comes first among the identifiers that it has
itself. -/
inductive AnswersMatch (state : State) (call : Call) : call.Answer → (call.rename ρ).Answer → Prop
  | value (value : call.Value) :
      AnswersMatch state call (.ok value) (.ok (call.renameValue ρ value))
  | error {error : Error} (hOther : ∀ id, error ≠ .missingPermission id) :
      AnswersMatch state call (.error error) (.error error)
  | unknown {id other : Id}
      (hFirst : FirstUnknown state (permissionsGiven call) (fun id => id) id)
      (hOther : FirstUnknown state (permissionsGiven call) (ρ.apply .permission) other) :
      AnswersMatch state call (.error (.missingPermission id))
        (.error (.missingPermission (ρ.apply .permission other)))

section Answers

variable {ρ} {state : State} {call : Call}

theorem missing_ne_missingPermission (kind : EntityKind) (id : Id) :
    Error.missing kind ≠ .missingPermission id := by
  intro hSame
  have hLength := congrArg String.length (Error.notFound.inj hSame)
  have hBlank : " ".length = 1 := rfl
  have hRole : "role".length = 4 := rfl
  have hPermission : "permission".length = 10 := rfl
  simp only [String.length_append] at hLength
  cases kind <;> simp only [EntityKind.noun] at hLength <;> omega

/-- An unknown permission is named only where permissions are given. -/
theorem ne_missingPermission_of_none_given (hState : Coherent state)
    (hNone : permissionsGiven call = ∅) (moment : Moment) (id : Id) :
    (state.perform moment call).1 ≠ .error (.missingPermission id) := by
  intro hError
  have hReason := refused_of_perform hState hError
  generalize hNamed : Error.missingPermission id = error at hReason
  cases hReason with
  | missing => exact missing_ne_missingPermission _ _ hNamed.symm
  | unknownPermission _ _ hGiven =>
      rw [hNone] at hGiven
      exact List.not_mem_nil hGiven
  | _ => cases hNamed

theorem answersMatch_of_map {answer : call.Answer}
    (hOther : ∀ id, answer ≠ .error (.missingPermission id)) :
    AnswersMatch ρ state call answer (answer.map (call.renameValue ρ)) := by
  cases answer with
  | ok value => exact .value value
  | error error => exact .error fun id hSame => hOther id (congrArg Except.error hSame)

/-- Some unknown permission is the first, in whatever way the identifiers are written. -/
theorem exists_firstUnknown {permissions : IdSet} {permission : Id}
    (hGiven : permission ∈ permissions) (hUnknown : state.permission? permission = none)
    (written : Id → Id) :
    ∃ id, FirstUnknown state permissions written id := by
  have hMember {id : Id} : id ∈ permissions.filter (fun id => (state.permission? id).isNone) ↔
      id ∈ permissions ∧ state.permission? id = none := by
    rw [OrderedSet.mem_filter, Option.isNone_iff_eq_none]
  generalize hUnknowns : permissions.filter (fun id => (state.permission? id).isNone) =
    unknowns at hMember
  cases hFirst : (unknowns.image written).toList.find? fun _ => true with
  | none =>
      have hWritten : written permission ∈ unknowns.image written :=
        OrderedSet.mem_image.2 ⟨permission, hMember.2 ⟨hGiven, hUnknown⟩, rfl⟩
      exact absurd rfl (List.find?_eq_none.1 hFirst _ hWritten)
  | some first =>
      obtain ⟨hFirst, -, hLeast⟩ := OrderedSet.find?_toList_eq_some_iff.1 hFirst
      obtain ⟨id, hId, rfl⟩ := OrderedSet.mem_image.1 hFirst
      obtain ⟨hId, hNone⟩ := hMember.1 hId
      refine ⟨id, hId, hNone, fun other hOther hOtherNone hBefore => ?_⟩
      have hOther' : written other ∈ unknowns.image written :=
        OrderedSet.mem_image.2 ⟨other, hMember.2 ⟨hOther, hOtherNone⟩, rfl⟩
      exact hLeast _ hOther' (Text.before_iff_toUtf8_lt.2 hBefore) rfl

theorem replaceGrants_of_firstUnknown {role permission : Id} {permissions : IdSet}
    (hFirst : FirstUnknown state permissions (fun id => id) permission) :
    state.replaceGrants role permissions = (.error (.missingPermission permission), state) :=
  replaceGrants_of_unknown hFirst.given hFirst.unknown fun other hOther hBefore hNone =>
    hFirst.least other hOther hNone (Text.before_iff_toUtf8_lt.1 hBefore)

theorem replaceGrants_rename_of_firstUnknown {role permission : Id} {permissions : IdSet}
    (hFirst : FirstUnknown state permissions (ρ.apply .permission) permission) :
    (state.rename ρ).replaceGrants role (permissions.image (ρ.apply .permission)) =
      (.error (.missingPermission (ρ.apply .permission permission)), state.rename ρ) := by
  refine replaceGrants_of_unknown (OrderedSet.mem_image.2 ⟨permission, hFirst.given, rfl⟩) ?_ ?_
  · rw [permission?_rename, hFirst.unknown]
    rfl
  · intro other hMember hBefore hNone
    obtain ⟨given, hGiven, rfl⟩ := OrderedSet.mem_image.1 hMember
    rw [permission?_rename, Option.map_eq_none_iff] at hNone
    exact hFirst.least given hGiven hNone (Text.before_iff_toUtf8_lt.1 hBefore)

/-- To exchange the permissions of a role that is there succeeds on both sides or finds unknown ones
on both. -/
theorem replaceGrants_cases_rename {id : Id} {record : RoleRecord}
    (hFound : state.role? id = some record) (permissions : IdSet) :
    (∃ role after, state.replaceGrants id permissions = (.ok role, after) ∧
        (state.rename ρ).replaceGrants (ρ.apply .role id)
          (permissions.image (ρ.apply .permission)) =
          (.ok (role.rename ρ), after.rename ρ)) ∨
      ∃ first other, FirstUnknown state permissions (fun id => id) first ∧
        FirstUnknown state permissions (ρ.apply .permission) other ∧
        state.replaceGrants id permissions = (.error (.missingPermission first), state) ∧
        (state.rename ρ).replaceGrants (ρ.apply .role id)
          (permissions.image (ρ.apply .permission)) =
          (.error (.missingPermission (ρ.apply .permission other)), state.rename ρ) := by
  by_cases hKnown : ∀ permission ∈ permissions, state.permission? permission ≠ none
  · left
    rw [replaceGrants_rename ρ state hFound hKnown, replaceGrants_of_known hFound hKnown]
    exact ⟨_, _, rfl, rfl⟩
  · right
    simp only [not_forall, Classical.not_not] at hKnown
    obtain ⟨permission, hGiven, hUnknown⟩ := hKnown
    obtain ⟨first, hFirst⟩ := exists_firstUnknown hGiven hUnknown fun id => id
    obtain ⟨other, hOther⟩ := exists_firstUnknown hGiven hUnknown (ρ.apply .permission)
    exact ⟨first, other, hFirst, hOther, replaceGrants_of_firstUnknown hFirst,
      replaceGrants_rename_of_firstUnknown hOther⟩

end Answers

/-! ## Calls -/

/-- Two answers match, and the states behind them have each other's identifiers. -/
def OutcomesMatch (state : State) (call : Call) (outcome : call.Answer × State)
    (outcome' : (call.rename ρ).Answer × State) : Prop :=
  AnswersMatch ρ state call outcome.1 outcome'.1 ∧ outcome'.2 = outcome.2.rename ρ

section Calls

variable {ρ} {state : State} {call : Call}

theorem outcomesMatch_of_ok {value : call.Value} {after : State} :
    OutcomesMatch ρ state call (.ok value, after)
      (.ok (call.renameValue ρ value), after.rename ρ) :=
  ⟨.value value, rfl⟩

/-- A call that gives no permissions has nothing to name that is not sent to its counterpart. -/
theorem outcomesMatch_of_none_given (hState : Coherent state) (hNone : permissionsGiven call = ∅)
    {now : Instant} {id other : Id}
    (hSame : (state.rename ρ).perform ⟨now, other⟩ (call.rename ρ) =
      renameOutcome ρ (call.renameValue ρ) (state.perform ⟨now, id⟩ call)) :
    OutcomesMatch ρ state call (state.perform ⟨now, id⟩ call)
      ((state.rename ρ).perform ⟨now, other⟩ (call.rename ρ)) := by
  rw [hSame]
  exact ⟨answersMatch_of_map (ne_missingPermission_of_none_given hState hNone _), rfl⟩

theorem outcomesMatch_setRolePermissions (id : Id) (permissions : IdSet) :
    OutcomesMatch ρ state (.setRolePermissions id permissions)
      (state.setRolePermissions id permissions)
      ((state.rename ρ).setRolePermissions (ρ.apply .role id)
        (permissions.image (ρ.apply .permission))) := by
  simp only [State.setRolePermissions, role?_rename]
  cases hFound : state.role? id with
  | none => exact ⟨.error (missing_ne_missingPermission .role), rfl⟩
  | some record =>
      simp only [Option.map_some]
      rcases replaceGrants_cases_rename hFound permissions with
        ⟨role, after, hDone, hDone'⟩ | ⟨first, other, hFirst, hOther, hFailed, hFailed'⟩
      · rw [hDone, hDone']
        exact outcomesMatch_of_ok
      · rw [hFailed, hFailed']
        exact ⟨.unknown hFirst hOther, rfl⟩

theorem outcomesMatch_replaceRolePermissions (id : Id) (expected : Revision) (permissions : IdSet) :
    OutcomesMatch ρ state (.replaceRolePermissions id expected permissions)
      (state.replaceRolePermissions id expected permissions)
      ((state.rename ρ).replaceRolePermissions (ρ.apply .role id) expected
        (permissions.image (ρ.apply .permission))) := by
  simp only [State.replaceRolePermissions, role?_rename]
  cases hFound : state.role? id with
  | none => exact ⟨.error (missing_ne_missingPermission .role), rfl⟩
  | some record =>
      have hRevision : (record.rename ρ).revision = record.revision := rfl
      simp only [Option.map_some, hRevision]
      split
      · rcases replaceGrants_cases_rename hFound permissions with
          ⟨role, after, hDone, hDone'⟩ | ⟨first, other, hFirst, hOther, hFailed, hFailed'⟩
        · rw [hDone, hDone']
          exact outcomesMatch_of_ok
        · rw [hFailed, hFailed']
          exact ⟨.unknown hFirst hOther, rfl⟩
      · refine ⟨.error fun id hSame => ?_, rfl⟩
        cases hSame

/-- A call by the other identifiers comes to the same by the other identifiers. -/
theorem perform_rename (hState : Coherent state) (now : Instant) {id other : Id}
    (hMatches : ρ.Matches id other call) :
    OutcomesMatch ρ state call (state.perform ⟨now, id⟩ call)
      ((state.rename ρ).perform ⟨now, other⟩ (call.rename ρ)) := by
  cases call with
  | setRolePermissions role permissions => exact outcomesMatch_setRolePermissions role permissions
  | replaceRolePermissions role expected permissions =>
      exact outcomesMatch_replaceRolePermissions role expected permissions
  | listPermissions =>
      refine outcomesMatch_of_none_given hState rfl ?_
      exact Prod.ext (congrArg Except.ok listPermissions_rename) rfl
  | getPermission permission =>
      refine outcomesMatch_of_none_given hState rfl ?_
      exact Prod.ext (getPermission_rename permission) rfl
  | getPermissionByName name =>
      refine outcomesMatch_of_none_given hState rfl ?_
      exact Prod.ext (congrArg Except.ok (getPermissionByName_rename name)) rfl
  | createPermission name description =>
      obtain rfl : ρ.apply .permission id = other := hMatches
      exact outcomesMatch_of_none_given hState rfl
        (createPermission_rename ρ state now id name description)
  | updatePermission permission name description =>
      exact outcomesMatch_of_none_given hState rfl
        (updatePermission_rename ρ state permission name description)
  | deletePermission permission =>
      exact outcomesMatch_of_none_given hState rfl (deletePermission_rename ρ state permission)
  | listRoles =>
      refine outcomesMatch_of_none_given hState rfl ?_
      exact Prod.ext (congrArg Except.ok listRoles_rename) rfl
  | getRole role =>
      refine outcomesMatch_of_none_given hState rfl ?_
      exact Prod.ext (getRole_rename role) rfl
  | getRoleByName name =>
      refine outcomesMatch_of_none_given hState rfl ?_
      exact Prod.ext (congrArg Except.ok (getRoleByName_rename name)) rfl
  | createRole name =>
      obtain rfl : ρ.apply .role id = other := hMatches
      exact outcomesMatch_of_none_given hState rfl (createRole_rename ρ state now id name)
  | updateRole role name =>
      exact outcomesMatch_of_none_given hState rfl (updateRole_rename ρ state role name)
  | deleteRole role =>
      exact outcomesMatch_of_none_given hState rfl (deleteRole_rename ρ state role)
  | rolePermissionIds role =>
      refine outcomesMatch_of_none_given hState rfl ?_
      exact Prod.ext (rolePermissionIds_rename role) rfl
  | healthCheck => exact outcomesMatch_of_none_given hState rfl rfl

end Calls

end Memory

end Rolebook
