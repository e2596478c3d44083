import Rolebook.Proofs.Memory.Reordering
import Rolebook.Proofs.Memory.Replacement

/-!
# States by the names of their entities

Identifiers and times of creation are given to a store from outside. What is left of a state without
them is told by the names of its entities (`State.byName`), and two states are alike but for
identifiers and times if this is the same for both.

Sets of permissions are compared by names in the same way. A set is the one with certain names
(`IdsOf`) as long as no permission is renamed or removed, whatever is added (`IdsOf.later`,
`IdsOf.earlier`).
-/

namespace Rolebook.Memory

/-- A state in which entities are told apart by their names only. -/
structure ByName where
  /-- The description of the permission with a name. -/
  permissions : String → Option (Option String)
  /-- The revision of the role with a name, and the names of the permissions that it grants. -/
  roles : String → Option (Revision × OrderedSet String)

theorem ByName.ext {names names' : ByName}
    (hPermissions : ∀ name, names.permissions name = names'.permissions name)
    (hRoles : ∀ name, names.roles name = names'.roles name) : names = names' := by
  cases names
  cases names'
  rw [ByName.mk.injEq]
  exact ⟨funext hPermissions, funext hRoles⟩

namespace State

variable (state : State)

/-- The names of the permissions with these identifiers. -/
def namesOf (ids : IdSet) : OrderedSet String :=
  .ofList (ids.toList.filterMap fun id => (state.permission? id).map PermissionRecord.name)

/-- What there is under each name. -/
def byName : ByName where
  permissions name := (state.getPermissionByName name).map Permission.description
  roles name := (state.getRoleByName name).map fun role =>
    (role.revision, state.namesOf role.permissionIds)

variable {state}

theorem mem_namesOf {ids : IdSet} {name : String} :
    name ∈ state.namesOf ids ↔
      ∃ id ∈ ids, Named PermissionRecord.name state.permissions name id := by
  rw [namesOf, OrderedSet.mem_ofList, List.mem_filterMap]
  simp only [Option.map_eq_some_iff]
  rfl

end State

/-! ## What is under a name -/

section Lookup

variable {state : State} {name : String}

theorem Coherent.byName_permissions_eq_some_iff (hState : Coherent state)
    {description : Option String} :
    state.byName.permissions name = some description ↔
      ∃ record, state.permission? record.id = some record ∧ record.name = name ∧
        record.description = description := by
  simp only [State.byName, State.getPermissionByName, Option.map_map, Option.map_eq_some_iff,
    hState.permissions.find?_values_eq_some_iff, and_assoc]
  rfl

theorem Coherent.byName_roles_eq_some_iff (hState : Coherent state)
    {entry : Revision × OrderedSet String} :
    state.byName.roles name = some entry ↔
      ∃ record, state.role? record.id = some record ∧ record.name = name ∧
        (record.revision, state.namesOf (state.permissionIdsOf record.id)) = entry := by
  simp only [State.byName, State.getRoleByName, Option.map_map, Option.map_eq_some_iff,
    hState.roles.find?_values_eq_some_iff, and_assoc]
  rfl

theorem byName_permissions_eq_none_iff :
    state.byName.permissions name = none ↔
      ∀ id, ¬ Named PermissionRecord.name state.permissions name id := by
  rw [State.byName, Option.map_eq_none_iff, getPermissionByName_eq_none_iff]

theorem byName_roles_eq_none_iff :
    state.byName.roles name = none ↔ ∀ id, ¬ Named RoleRecord.name state.roles name id := by
  rw [State.byName, Option.map_eq_none_iff, getRoleByName_eq_none_iff]

/-- Only permissions that are there are granted. -/
theorem Coherent.permission_of_granted (hState : Coherent state) {role permission : Id}
    (hGranted : permission ∈ state.permissionIdsOf role) : state.permission? permission ≠ none :=
  (hState.grants _ (State.mem_permissionIdsOf.1 hGranted)).2

theorem Coherent.permission_of_shown (hState : Coherent state) {id permission : Id} {role : Role}
    (hShown : state.getRole id = .ok role) (hMember : permission ∈ role.permissionIds) :
    state.permission? permission ≠ none := by
  obtain ⟨-, -, -, -, hSet⟩ := hState.shown_role hShown
  exact hState.permission_of_granted (hSet ▸ hMember)

/-- There is one role of a name. -/
theorem Coherent.role_unique (hState : Coherent state) {id id' : Id} {role role' : Role}
    (hShown : state.getRole id = .ok role) (hShown' : state.getRole id' = .ok role')
    (hName : role.name = role'.name) : role = role' := by
  obtain ⟨record, hFound, rfl⟩ := getRole_eq_ok_iff.1 hShown
  obtain ⟨record', hFound', rfl⟩ := getRole_eq_ok_iff.1 hShown'
  obtain rfl := hState.roles.name_unique _ _ _ _ hFound hFound' hName
  obtain rfl := Option.some.inj (hFound.symm.trans hFound')
  rfl

end Lookup

/-! ## Sets of permissions by their names -/

/-- The identifiers are those of the permissions with these names, and there is one of each name. -/
structure IdsOf (state : State) (names : List String) (ids : IdSet) : Prop where
  mem_iff : ∀ id, id ∈ ids ↔ ∃ name ∈ names, Named PermissionRecord.name state.permissions name id
  present : ∀ name ∈ names, ∃ id, Named PermissionRecord.name state.permissions name id

/-- Each permission of a state is there in another one, and it is the same. -/
def KeepsPermissions (state after : State) : Prop :=
  ∀ id record, state.permission? id = some record → after.permission? id = some record

section IdsOf

variable {state after : State} {names : List String} {ids ids' : IdSet}

theorem IdsOf.unique (h : IdsOf state names ids) (h' : IdsOf state names ids') : ids = ids' :=
  OrderedSet.ext fun id => (h.mem_iff id).trans (h'.mem_iff id).symm

theorem IdsOf.known (h : IdsOf state names ids) {id : Id} (hId : id ∈ ids) :
    state.permission? id ≠ none := by
  obtain ⟨-, -, record, hFound, -⟩ := (h.mem_iff id).1 hId
  exact Option.ne_none_iff_exists'.2 ⟨record, hFound⟩

theorem IdsOf.namesOf_eq (h : IdsOf state names ids) : state.namesOf ids = .ofList names := by
  apply OrderedSet.ext
  intro name
  rw [State.mem_namesOf, OrderedSet.mem_ofList]
  constructor
  · rintro ⟨id, hId, record, hFound, rfl⟩
    obtain ⟨name, hName, record', hFound', rfl⟩ := (h.mem_iff id).1 hId
    obtain rfl := Option.some.inj (hFound.symm.trans hFound')
    exact hName
  · intro hName
    obtain ⟨id, hNamed⟩ := h.present name hName
    exact ⟨id, (h.mem_iff id).2 ⟨name, hName, hNamed⟩, hNamed⟩

/-- Permissions that are there are told by their names. -/
theorem Coherent.idsOf_of_namesOf (hState : Coherent state)
    (hKnown : ∀ id ∈ ids, state.permission? id ≠ none)
    (hNames : state.namesOf ids = .ofList names) : IdsOf state names ids := by
  have hMember : ∀ name, name ∈ names ↔ ∃ id ∈ ids,
      Named PermissionRecord.name state.permissions name id := by
    intro name
    rw [← State.mem_namesOf, hNames, OrderedSet.mem_ofList]
  constructor
  · intro id
    constructor
    · intro hId
      obtain ⟨record, hFound⟩ := Option.ne_none_iff_exists'.1 (hKnown id hId)
      exact ⟨record.name, (hMember record.name).2 ⟨id, hId, record, hFound, rfl⟩,
        record, hFound, rfl⟩
    · rintro ⟨name, hName, hNamed⟩
      obtain ⟨id', hId', hNamed'⟩ := (hMember name).1 hName
      rwa [hState.permissions.named_unique hNamed hNamed']
  · intro name hName
    obtain ⟨id, -, hNamed⟩ := (hMember name).1 hName
    exact ⟨id, hNamed⟩

theorem KeepsPermissions.named (hKeeps : KeepsPermissions state after) {name : String} {id : Id}
    (hNamed : Named PermissionRecord.name state.permissions name id) :
    Named PermissionRecord.name after.permissions name id := by
  obtain ⟨record, hFound, hName⟩ := hNamed
  exact ⟨record, hKeeps id record hFound, hName⟩

theorem IdsOf.later (h : IdsOf state names ids) (hKeeps : KeepsPermissions state after)
    (hAfter : Coherent after) :
    IdsOf after names ids where
  mem_iff id := by
    rw [h.mem_iff]
    constructor
    · rintro ⟨name, hName, hNamed⟩
      exact ⟨name, hName, hKeeps.named hNamed⟩
    · rintro ⟨name, hName, hNamed⟩
      -- the name was taken before, so it is no other permission that has it now
      obtain ⟨id', hBefore⟩ := h.present name hName
      obtain rfl := hAfter.permissions.named_unique hNamed (hKeeps.named hBefore)
      exact ⟨name, hName, hBefore⟩
  present name hName := by
    obtain ⟨id, hNamed⟩ := h.present name hName
    exact ⟨id, hKeeps.named hNamed⟩

theorem IdsOf.earlier (h : IdsOf after names ids) (hKeeps : KeepsPermissions state after)
    (hKnown : ∀ id ∈ ids, state.permission? id ≠ none) : IdsOf state names ids := by
  have hBefore : ∀ name id, id ∈ ids → Named PermissionRecord.name after.permissions name id →
      Named PermissionRecord.name state.permissions name id := by
    rintro name id hId ⟨record, hFound, hName⟩
    obtain ⟨record', hFound'⟩ := Option.ne_none_iff_exists'.1 (hKnown id hId)
    obtain rfl := Option.some.inj ((hKeeps id record' hFound').symm.trans hFound)
    exact ⟨record', hFound', hName⟩
  constructor
  · intro id
    constructor
    · intro hId
      obtain ⟨name, hName, hNamed⟩ := (h.mem_iff id).1 hId
      exact ⟨name, hName, hBefore name id hId hNamed⟩
    · rintro ⟨name, hName, hNamed⟩
      exact (h.mem_iff id).2 ⟨name, hName, hKeeps.named hNamed⟩
  · intro name hName
    obtain ⟨id, hNamed⟩ := h.present name hName
    exact ⟨id, hBefore name id ((h.mem_iff id).2 ⟨name, hName, hNamed⟩) hNamed⟩

end IdsOf

/-! ## What is under a name after a change -/

/-- What has a name in a table once a record with an identifier and a name of its own is put in. If
these were in use before, they were those of the record whose place it has taken. -/
theorem exists_named_put_iff {α : Type} {id name : α → String} {table table' : Table α} {new : α}
    {key : Id} {own : String}
    (hFind : ∀ other, table'.find? other = if other = key then some new else table.find? other)
    (hSole : ∀ other record, table.find? other = some record → (other = key ↔ name record = own))
    (hId : id new = key) (hName : name new = own) (holds : α → Prop) (wanted : String) :
    (∃ record, table'.find? (id record) = some record ∧ name record = wanted ∧ holds record) ↔
      if wanted = own then holds new
      else ∃ record, table.find? (id record) = some record ∧ name record = wanted ∧
        holds record := by
  subst hId hName
  simp only [hFind]
  split
  · next hWanted =>
      subst hWanted
      constructor
      · rintro ⟨record, hFound, hName, hHolds⟩
        split at hFound
        · exact Option.some.inj hFound ▸ hHolds
        · next hOther => exact absurd ((hSole _ record hFound).2 hName) hOther
      · intro hHolds
        exact ⟨new, if_pos rfl, rfl, hHolds⟩
  · next hWanted =>
      refine exists_congr fun record => ?_
      split
      · next hSame =>
          refine iff_of_false ?_ ?_
          · rintro ⟨hFound, hName, -⟩
            exact hWanted (Option.some.inj hFound ▸ hName.symm)
          · rintro ⟨hFound, hName, -⟩
            exact hWanted (hName ▸ (hSole _ record hFound).1 hSame)
      · rfl

section Changes

variable {state : State}

theorem State.namesOf_congr {after : State} {ids : IdSet}
    (hSame : ∀ id ∈ ids, after.permission? id = state.permission? id) :
    after.namesOf ids = state.namesOf ids := by
  apply OrderedSet.ext
  intro name
  rw [mem_namesOf, mem_namesOf]
  refine exists_congr fun id => and_congr_right fun hId => ?_
  show (∃ record, after.permission? id = some record ∧ _) ↔
      ∃ record, state.permission? id = some record ∧ _
  rw [hSame id hId]

/-- An identifier and a name that are not in use are those of no record. -/
theorem sole_of_free {α : Type} {name : α → String} {table : Table α} {key : Id} {own : String}
    (hNew : table.find? key = none) (hFree : ∀ other, ¬ Named name table own other) (other : Id)
    (record : α) (hFound : table.find? other = some record) : other = key ↔ name record = own := by
  refine iff_of_false ?_ fun hName => hFree other ⟨record, hFound, hName⟩
  rintro rfl
  exact nomatch hNew.symm.trans hFound

section AddPermission

variable {record : PermissionRecord} (hState : Coherent state)
  (hAfter : Coherent (state.addPermission record)) (hNew : state.permission? record.id = none)

include hState hAfter hNew

theorem Coherent.byName_permissions_addPermission
    (hFree : ∀ id, ¬ Named PermissionRecord.name state.permissions record.name id) (name : String) :
    (state.addPermission record).byName.permissions name =
      if name = record.name then some record.description else state.byName.permissions name := by
  apply Option.ext
  intro description
  rw [hAfter.byName_permissions_eq_some_iff]
  refine (exists_named_put_iff (fun _ => State.permission?_addPermission) (sole_of_free hNew hFree)
    rfl rfl _ name).trans ?_
  split
  · exact Option.some_inj.symm
  · exact hState.byName_permissions_eq_some_iff.symm

theorem Coherent.byName_roles_addPermission (name : String) :
    (state.addPermission record).byName.roles name = state.byName.roles name := by
  apply Option.ext
  intro entry
  rw [hAfter.byName_roles_eq_some_iff, hState.byName_roles_eq_some_iff]
  refine exists_congr fun role => ?_
  have hNames : (state.addPermission record).namesOf (state.permissionIdsOf role.id) =
      state.namesOf (state.permissionIdsOf role.id) := by
    refine State.namesOf_congr fun id hId => ?_
    rw [State.permission?_addPermission, if_neg]
    rintro rfl
    exact hState.permission_of_granted hId hNew
  rw [← hNames]
  rfl

end AddPermission

theorem Coherent.byName_roles_addRole {record : RoleRecord} (hState : Coherent state)
    (hAfter : Coherent (state.addRole record)) (hNew : state.role? record.id = none)
    (hFree : ∀ id, ¬ Named RoleRecord.name state.roles record.name id) (name : String) :
    (state.addRole record).byName.roles name =
      if name = record.name then some (record.revision, ∅) else state.byName.roles name := by
  apply Option.ext
  intro entry
  rw [hAfter.byName_roles_eq_some_iff]
  refine (exists_named_put_iff (fun _ => State.role?_addRole) (sole_of_free hNew hFree) rfl
    rfl _ name).trans ?_
  split
  · have hSet : (state.addRole record).permissionIdsOf record.id = ∅ :=
      hState.permissionIdsOf_of_absent hNew
    rw [hSet]
    exact Option.some_inj.symm
  · exact hState.byName_roles_eq_some_iff.symm

section Rewrite

variable {record : RoleRecord} {wanted : IdSet} (hState : Coherent state)
  (hAfter : Coherent ((state.setGrants record.id wanted).bumpRole record.id))

include hState hAfter

theorem Coherent.byName_permissions_rewrite (name : String) :
    ((state.setGrants record.id wanted).bumpRole record.id).byName.permissions name =
      state.byName.permissions name := by
  apply Option.ext
  intro description
  rw [hAfter.byName_permissions_eq_some_iff, hState.byName_permissions_eq_some_iff]
  rfl

theorem Coherent.byName_roles_rewrite (hFound : state.role? record.id = some record)
    (name : String) :
    ((state.setGrants record.id wanted).bumpRole record.id).byName.roles name =
      if name = record.name then some (record.revision + 1, state.namesOf wanted)
        else state.byName.roles name := by
  have hFind : ∀ key, ((state.setGrants record.id wanted).bumpRole record.id).role? key =
      if key = record.id then some record.bump else state.role? key := by
    intro key
    rw [State.role?_bumpRole, State.role?_setGrants, State.role?_setGrants, hFound, Option.map_some]
  have hSole : ∀ key other, state.role? key = some other →
      (key = record.id ↔ other.name = record.name) := by
    intro key other hOther
    refine ⟨?_, hState.roles.name_unique _ _ _ _ hOther hFound⟩
    rintro rfl
    exact congrArg RoleRecord.name (Option.some.inj (hOther.symm.trans hFound))
  apply Option.ext
  intro entry
  rw [hAfter.byName_roles_eq_some_iff]
  refine (exists_named_put_iff hFind hSole rfl rfl _ name).trans ?_
  split
  · rw [State.permissionIdsOf_bumpRole, State.permissionIdsOf_setGrants,
      if_pos (show record.bump.id = record.id from rfl)]
    exact Option.some_inj.symm
  · next hName =>
      rw [hState.byName_roles_eq_some_iff]
      refine exists_congr fun other => and_congr_right fun hOther =>
        and_congr_right fun hOtherName => ?_
      rw [State.permissionIdsOf_bumpRole, State.permissionIdsOf_setGrants,
        if_neg fun hId => hName (hOtherName ▸ (hSole _ other hOther).1 hId)]
      rfl

end Rewrite

end Changes

end Rolebook.Memory
