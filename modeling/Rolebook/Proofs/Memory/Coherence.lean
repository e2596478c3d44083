import Rolebook.Proofs.Memory.Transition

/-!
# Coherence of a store in memory

What holds in every state that a store in memory can come to, whatever is asked of it and whether or
not it succeeds, as long as the identifier of each new entity is in use by no other of its kind:
records stand under their own identifiers, names are kept trimmed and are taken once, and a pair is
made of a role and a permission that are both there.

Both tables are subject to the same rules, so these are stated once, as `Orderly`, for records of
any sort. A write keeps them by the lemma on the operation of `Table` that it is made of.
-/

namespace Rolebook.Memory

open Rolebook.Store (Call)

/-! ## Tables of named records -/

/-- The records of a table stand under their own identifiers, and their names are kept ones that
differ. -/
structure Orderly {α : Type} (id name : α → String) (table : Table α) : Prop where
  own_id : ∀ key record, table.find? key = some record → id record = key
  name_unique : ∀ key key' record record', table.find? key = some record →
    table.find? key' = some record' →
    name record = name record' → key = key'
  name_kept : ∀ key record, table.find? key = some record →
    name record ≠ "" ∧ Text.trim (name record) = name record

section Orderly

variable {α : Type} {id name : α → String} {table : Table α}

theorem Orderly.empty : Orderly id name ∅ :=
  ⟨by simp, by simp, by simp⟩

/-- The records of a table that stays orderly may be exchanged for others of the same identifier and
name. -/
theorem Orderly.of_same_names {table' : Table α} (hTable : Orderly id name table)
    (hSame : ∀ key record', table'.find? key = some record' →
      ∃ record, table.find? key = some record ∧ id record = id record' ∧
        name record = name record') :
    Orderly id name table' where
  own_id key record' hFound' := by
    obtain ⟨record, hFound, hId, -⟩ := hSame key record' hFound'
    exact hId ▸ hTable.own_id key record hFound
  name_unique key₁ key₂ record₁ record₂ hFound₁ hFound₂ hName := by
    obtain ⟨old₁, hOld₁, -, hName₁⟩ := hSame key₁ record₁ hFound₁
    obtain ⟨old₂, hOld₂, -, hName₂⟩ := hSame key₂ record₂ hFound₂
    exact hTable.name_unique key₁ key₂ old₁ old₂ hOld₁ hOld₂
      (hName₁.trans (hName.trans hName₂.symm))
  name_kept key record' hFound' := by
    obtain ⟨record, hFound, -, hName⟩ := hSame key record' hFound'
    exact hName ▸ hTable.name_kept key record hFound

/-- A record comes into an orderly table under an identifier whose record, if any, it replaces. Its
name may be taken by that one only. -/
theorem Orderly.put {table' : Table α} (hTable : Orderly id name table) (new : α)
    (hFind : ∀ key, table'.find? key = if key = id new then some new else table.find? key)
    (hFree : ∀ record ∈ table.values, name record = name new → id record = id new)
    (hKept : name new ≠ "" ∧ Text.trim (name new) = name new) : Orderly id name table' := by
  -- whoever has the name of the new record already has its identifier, and is replaced
  have hClash : ∀ key record, table.find? key = some record → name record = name new →
      key = id new := by
    intro key record hFound hName
    rw [← hTable.own_id key record hFound]
    exact hFree record (Table.mem_values.2 ⟨key, hFound⟩) hName
  have hCases : ∀ key record, table'.find? key = some record →
      key = id new ∧ record = new ∨ key ≠ id new ∧ table.find? key = some record := by
    intro key record hFound
    rw [hFind] at hFound
    by_cases hKey : key = id new
    · rw [if_pos hKey, Option.some.injEq] at hFound
      exact .inl ⟨hKey, hFound.symm⟩
    · rw [if_neg hKey] at hFound
      exact .inr ⟨hKey, hFound⟩
  constructor
  · -- its own identifier
    intro key record hFound
    rcases hCases key record hFound with ⟨rfl, rfl⟩ | ⟨-, hOld⟩
    · rfl
    · exact hTable.own_id key record hOld
  · -- a name of its own: only a new record and an old one could clash
    intro key key' record record' hFound hFound' hName
    rcases hCases key record hFound with ⟨rfl, rfl⟩ | ⟨-, hOld⟩ <;>
      rcases hCases key' record' hFound' with ⟨rfl, rfl⟩ | ⟨-, hOld'⟩
    · rfl
    · exact (hClash key' record' hOld' hName.symm).symm
    · exact hClash key record hOld hName
    · exact hTable.name_unique key key' record record' hOld hOld' hName
  · intro key record hFound
    rcases hCases key record hFound with ⟨rfl, rfl⟩ | ⟨-, hOld⟩
    · exact hKept
    · exact hTable.name_kept key record hOld

theorem Orderly.erase (hTable : Orderly id name table) (key : Id) :
    Orderly id name (table.erase key) := by
  refine hTable.of_same_names fun other record hFound => ⟨record, ?_, rfl, rfl⟩
  rw [Table.find?_erase] at hFound
  split at hFound
  · cases hFound
  · exact hFound

end Orderly

/-! ## Coherent states -/

/-- Both tables are orderly, and each pair is made of a role and a permission that are there. -/
structure Coherent (state : State) : Prop where
  permissions : Orderly PermissionRecord.id PermissionRecord.name state.permissions
  roles : Orderly RoleRecord.id RoleRecord.name state.roles
  grants : ∀ grant ∈ state.grants, state.role? grant.role ≠ none ∧
    state.permission? grant.permission ≠ none

/-- A call that makes a new entity gets an identifier that no other of its kind has at present. -/
def NewIdUnused (moment : Moment) (state : State) : Call → Prop
  | .createPermission _ _ => state.permission? moment.newId = none
  | .createRole _ => state.role? moment.newId = none
  | _ => True

/-- The states that a store in memory can come to. -/
inductive Reachable : State → Prop
  | empty : Reachable .empty
  | perform {state : State} (moment : Moment) (call : Call) :
      Reachable state → NewIdUnused moment state call → Reachable (state.perform moment call).2

theorem Coherent.empty : Coherent .empty where
  permissions := .empty
  roles := .empty
  grants _ hGrant := absurd hGrant List.not_mem_nil

/-- A name that is not taken belongs to no record, or to the one that it may belong to. -/
theorem free_of_nameTaken {α : Type} {id name : α → String} {records : Table α} {wanted : String}
    {except : Option Id} (hFree : nameTaken id name records wanted except = false) :
    ∀ record ∈ records.values, name record = wanted → some (id record) = except := by
  intro record hRecord hName
  simpa [hName] using List.any_eq_false.1 hFree record hRecord

/-- A name is kept without the blanks at its ends, if anything is left of it. -/
theorem keptName_eq (kind : EntityKind) (name : String) :
    keptName kind name =
      if Text.trim name = "" then .error (.invalid (blankNameMessage kind.noun))
        else .ok (Text.trim name) := by
  unfold keptName normalizeName
  by_cases hBlank : Text.trim name = ""
  · rw [if_pos (String.isEmpty_iff.2 hBlank), if_pos hBlank]
    rfl
  · rw [if_neg fun hEmpty => hBlank (String.isEmpty_iff.1 hEmpty), if_neg hBlank]
    rfl

theorem kept_eq_trim {kind : EntityKind} {name kept : String} (h : keptName kind name = .ok kept) :
    kept = Text.trim name := by
  rw [keptName_eq] at h
  split at h
  · cases h
  · exact (Except.ok.inj h).symm

theorem kept_of_keptName {kind : EntityKind} {name kept : String}
    (h : keptName kind name = .ok kept) :
    kept ≠ "" ∧ Text.trim kept = kept := by
  obtain rfl := kept_eq_trim h
  rw [keptName_eq] at h
  split at h
  · cases h
  · next hBlank => exact ⟨hBlank, Text.trim_trim name⟩

section Writes

variable {state : State} {id : Id} {kept : String} (hState : Coherent state)

include hState

theorem Coherent.addPermission {record : PermissionRecord}
    (hFree : state.permissionNameTaken record.name none = false)
    (hKept : record.name ≠ "" ∧ Text.trim record.name = record.name) :
    Coherent (state.addPermission record) where
  permissions :=
    hState.permissions.put record (fun _ => State.permission?_addPermission)
      (fun other hOther hName => by simpa using free_of_nameTaken hFree other hOther hName) hKept
  roles := hState.roles
  grants grant hGrant := by
    obtain ⟨hRole, hPermission⟩ := hState.grants grant hGrant
    refine ⟨hRole, ?_⟩
    rw [State.permission?_addPermission]
    split
    · exact Option.some_ne_none record
    · exact hPermission

theorem Coherent.describePermission {record : PermissionRecord} {description : Option String}
    (hFound : state.permission? id = some record)
    (hFree : state.permissionNameTaken kept (some id) = false)
    (hKept : kept ≠ "" ∧ Text.trim kept = kept) :
    Coherent (state.describePermission id kept description) where
  permissions := by
    obtain rfl : record.id = id := hState.permissions.own_id id record hFound
    refine hState.permissions.put { record with name := kept, description } ?_ ?_ hKept
    · intro key
      have hFind : (state.describePermission record.id kept description).permission? key = _ :=
        State.permission?_describePermission
      rw [hFound] at hFind
      exact hFind
    · intro other hOther hName
      exact Option.some.inj (free_of_nameTaken hFree other hOther hName)
  roles := hState.roles
  grants grant hGrant := by
    obtain ⟨hRole, hPermission⟩ := hState.grants grant hGrant
    refine ⟨hRole, ?_⟩
    rw [State.permission?_describePermission]
    split
    · simp [hFound]
    · exact hPermission

/-- Roles that only move on in their revisions keep their identifiers and names. -/
theorem Coherent.roles_of_bump {state' : State} (bumped : Id → Prop) [DecidablePred bumped]
    (hFind : ∀ key, state'.role? key =
      if bumped key then (state.role? key).map RoleRecord.bump else state.role? key) :
    Orderly RoleRecord.id RoleRecord.name state'.roles := by
  refine hState.roles.of_same_names fun key record' hFound' => ?_
  have hEither := (hFind key).symm.trans hFound'
  split at hEither
  · obtain ⟨record, hFound, rfl⟩ := Option.map_eq_some_iff.1 hEither
    exact ⟨record, hFound, rfl, rfl⟩
  · exact ⟨record', hEither, rfl, rfl⟩

theorem Coherent.removePermission : Coherent (state.removePermission id) where
  permissions := hState.permissions.erase id
  roles := hState.roles_of_bump (· ∈ state.holders id) fun _ => State.role?_removePermission
  grants grant hGrant := by
    obtain ⟨hGrant, hOther⟩ := State.mem_grants_removePermission.1 hGrant
    obtain ⟨hRole, hPermission⟩ := hState.grants grant hGrant
    constructor
    · rw [State.role?_removePermission]
      split
      · simpa using hRole
      · exact hRole
    · rw [State.permission?_removePermission, if_neg hOther]
      exact hPermission

theorem Coherent.addRole {record : RoleRecord}
    (hFree : state.roleNameTaken record.name none = false)
    (hKept : record.name ≠ "" ∧ Text.trim record.name = record.name) :
    Coherent (state.addRole record) where
  permissions := hState.permissions
  roles :=
    hState.roles.put record (fun _ => State.role?_addRole)
      (fun other hOther hName => by simpa using free_of_nameTaken hFree other hOther hName) hKept
  grants grant hGrant := by
    obtain ⟨hRole, hPermission⟩ := hState.grants grant hGrant
    refine ⟨?_, hPermission⟩
    rw [State.role?_addRole]
    split
    · exact Option.some_ne_none record
    · exact hRole

theorem Coherent.renameRole {record : RoleRecord} (hFound : state.role? id = some record)
    (hFree : state.roleNameTaken kept (some id) = false)
    (hKept : kept ≠ "" ∧ Text.trim kept = kept) :
    Coherent (state.renameRole id kept) where
  permissions := hState.permissions
  roles := by
    obtain rfl : record.id = id := hState.roles.own_id id record hFound
    refine hState.roles.put { record with name := kept } ?_ ?_ hKept
    · intro key
      have hFind : (state.renameRole record.id kept).role? key = _ := State.role?_renameRole
      rw [hFound] at hFind
      exact hFind
    · intro other hOther hName
      exact Option.some.inj (free_of_nameTaken hFree other hOther hName)
  grants grant hGrant := by
    obtain ⟨hRole, hPermission⟩ := hState.grants grant hGrant
    refine ⟨?_, hPermission⟩
    rw [State.role?_renameRole]
    split
    · simp [hFound]
    · exact hRole

theorem Coherent.removeRole : Coherent (state.removeRole id) where
  permissions := hState.permissions
  roles := hState.roles.erase id
  grants grant hGrant := by
    obtain ⟨hGrant, hOther⟩ := State.mem_grants_removeRole.1 hGrant
    obtain ⟨hRole, hPermission⟩ := hState.grants grant hGrant
    refine ⟨?_, hPermission⟩
    rw [State.role?_removeRole, if_neg hOther]
    exact hRole

theorem Coherent.rewriteGrants {record : RoleRecord} {permissions : IdSet}
    (hFound : state.role? id = some record)
    (hKnown : ∀ permission ∈ permissions, state.permission? permission ≠ none) :
    Coherent ((state.setGrants id permissions).bumpRole id) where
  permissions := hState.permissions
  roles := hState.roles_of_bump (· = id) fun key => by
    rw [State.role?_bumpRole, State.role?_setGrants, State.role?_setGrants]
    split
    · next hKey => rw [hKey]
    · rfl
  grants grant hGrant := by
    have hRole : ((state.setGrants id permissions).bumpRole id).role? grant.role ≠ none ↔
        state.role? grant.role ≠ none := by
      rw [State.role?_bumpRole, State.role?_setGrants, State.role?_setGrants]
      split
      · next hSame => simp [hSame]
      · rfl
    rw [hRole]
    rcases State.mem_grants_setGrants.1 hGrant with ⟨hOld, -⟩ | ⟨hSame, hPermission⟩
    · exact hState.grants grant hOld
    · refine ⟨?_, hKnown _ hPermission⟩
      rw [hSame, hFound]
      exact Option.some_ne_none record

end Writes

/-- No call makes a coherent state incoherent. -/
theorem Coherent.perform {state : State} (hState : Coherent state) (moment : Moment) (call : Call) :
    Coherent (state.perform moment call).2 := by
  have hStep := transition_perform moment state call
  -- the cases are easier to tell apart if the answer and the next state are variables
  generalize (state.perform moment call).1 = answer, (state.perform moment call).2 = state' at hStep
  cases hStep with
  | fails error => exact hState
  | reads _ hReads => exact hState
  | createPermission hKept hFree => exact hState.addPermission hFree (kept_of_keptName hKept)
  | updatePermission hKept hFound hFree =>
      exact hState.describePermission hFound hFree (kept_of_keptName hKept)
  | deletePermission hFound => exact hState.removePermission
  | createRole hKept hFree => exact hState.addRole hFree (kept_of_keptName hKept)
  | updateRole hKept hFound hFree => exact hState.renameRole hFound hFree (kept_of_keptName hKept)
  | deleteRole hFound => exact hState.removeRole
  | setRolePermissions hFound hKnown => exact hState.rewriteGrants hFound hKnown
  | replaceRolePermissions hFound hKnown => exact hState.rewriteGrants hFound hKnown

theorem Reachable.coherent {state : State} (hState : Reachable state) : Coherent state := by
  induction hState with
  | empty => exact .empty
  | perform moment call _ _ ih => exact ih.perform moment call

/-! ## Entities that are not there -/

/-- A permission that is not there is granted by no role. -/
theorem Coherent.roleIdsOf_of_absent {state : State} (hState : Coherent state) {id : Id}
    (hAbsent : state.permission? id = none) : state.roleIdsOf id = ∅ := by
  apply OrderedSet.ext
  intro role
  refine iff_of_false (fun hGrant => ?_) List.not_mem_nil
  exact (hState.grants _ (State.mem_roleIdsOf.1 hGrant)).2 hAbsent

/-- A role that is not there grants no permission. -/
theorem Coherent.permissionIdsOf_of_absent {state : State} (hState : Coherent state) {id : Id}
    (hAbsent : state.role? id = none) : state.permissionIdsOf id = ∅ := by
  apply OrderedSet.ext
  intro permission
  refine iff_of_false (fun hGrant => ?_) List.not_mem_nil
  exact (hState.grants _ (State.mem_permissionIdsOf.1 hGrant)).1 hAbsent

/-! ## The two sides of a grant -/

theorem getRole_eq_ok_iff {state : State} {id : Id} {shown : Role} :
    state.getRole id = .ok shown ↔ ∃ record, state.role? id = some record ∧
      state.showRole record = shown := by
  unfold State.getRole
  cases state.role? id with
  | none => simp
  | some record => simp

theorem getPermission_eq_ok_iff {state : State} {id : Id} {shown : Permission} :
    state.getPermission id = .ok shown ↔
      ∃ record, state.permission? id = some record ∧ state.showPermission record = shown := by
  unfold State.getPermission
  cases state.permission? id with
  | none => simp
  | some record => simp

/-- A role whose record and whose permissions are the same in two states is shown in the same
way. -/
theorem Coherent.getRole_congr {state state' : State} (hState : Coherent state) {id : Id}
    (hRecord : state'.role? id = state.role? id)
    (hSet : state'.permissionIdsOf id = state.permissionIdsOf id) :
    state'.getRole id = state.getRole id := by
  unfold State.getRole
  rw [hRecord]
  cases hFound : state.role? id with
  | none => rfl
  | some record => simp only [State.showRole, hState.roles.own_id id record hFound, hSet]

theorem Coherent.getPermission_congr {state state' : State} (hState : Coherent state) {id : Id}
    (hRecord : state'.permission? id = state.permission? id)
    (hRoles : state'.roleIdsOf id = state.roleIdsOf id) :
    state'.getPermission id = state.getPermission id := by
  unfold State.getPermission
  rw [hRecord]
  cases hFound : state.permission? id with
  | none => rfl
  | some record =>
      simp only [State.showPermission, hState.permissions.own_id id record hFound, hRoles]

/-- A role is shown with a permission exactly if there is such a pair, since none is left behind by
an entity that is gone. -/
theorem Coherent.shown_in_role_iff {state : State} (hState : Coherent state)
    (role permission : Id) :
    (∃ shown, state.getRole role = .ok shown ∧ permission ∈ shown.permissionIds) ↔
      ⟨role, permission⟩ ∈ state.grants := by
  constructor
  · rintro ⟨shown, hShown, hMember⟩
    obtain ⟨record, hFound, rfl⟩ := getRole_eq_ok_iff.1 hShown
    rw [← hState.roles.own_id role record hFound]
    exact State.mem_permissionIdsOf.1 hMember
  · intro hGrant
    obtain ⟨record, hFound⟩ := Option.ne_none_iff_exists'.1 (hState.grants _ hGrant).1
    refine ⟨_, getRole_eq_ok_iff.2 ⟨record, hFound, rfl⟩, State.mem_permissionIdsOf.2 ?_⟩
    rw [hState.roles.own_id role record hFound]
    exact hGrant

theorem Coherent.shown_in_permission_iff {state : State} (hState : Coherent state)
    (role permission : Id) :
    (∃ shown, state.getPermission permission = .ok shown ∧ role ∈ shown.roleIds) ↔
      ⟨role, permission⟩ ∈ state.grants := by
  constructor
  · rintro ⟨shown, hShown, hMember⟩
    obtain ⟨record, hFound, rfl⟩ := getPermission_eq_ok_iff.1 hShown
    rw [← hState.permissions.own_id permission record hFound]
    exact State.mem_roleIdsOf.1 hMember
  · intro hGrant
    obtain ⟨record, hFound⟩ := Option.ne_none_iff_exists'.1 (hState.grants _ hGrant).2
    refine ⟨_, getPermission_eq_ok_iff.2 ⟨record, hFound, rfl⟩, State.mem_roleIdsOf.2 ?_⟩
    rw [hState.permissions.own_id permission record hFound]
    exact hGrant

/-- A store in memory is coherent in every state that it can come to, and its roles and its
permissions show the same grants. -/
theorem reachable_coherent_and_views_agree {state : State} (hState : Reachable state) :
    Coherent state ∧
      ∀ role permission,
        (∃ shown, state.getRole role = .ok shown ∧ permission ∈ shown.permissionIds) ↔
          ∃ shown, state.getPermission permission = .ok shown ∧ role ∈ shown.roleIds := by
  have hCoherent := hState.coherent
  refine ⟨hCoherent, fun role permission => ?_⟩
  rw [hCoherent.shown_in_role_iff, hCoherent.shown_in_permission_iff]

/-- A role was given two permissions, one under a name with blanks around it, and the other one was
deleted since. -/
theorem coherent_and_views_agree_after_deletion :
    ∃ state : State, Reachable state ∧ state.permission? "p2" = none ∧
      state.grants.toList = [⟨"r", "p1"⟩] ∧
      Coherent state ∧
        ∀ role permission,
          (∃ shown, state.getRole role = .ok shown ∧ permission ∈ shown.permissionIds) ↔
            ∃ shown, state.getPermission permission = .ok shown ∧ role ∈ shown.roleIds := by
  have hTwo := (Reachable.empty.perform ⟨⟨0⟩, "p1"⟩ (.createPermission " read " none) rfl).perform
    ⟨⟨1⟩, "p2"⟩ (.createPermission "write" (some "changes things"))
    (by change State.permission? _ "p2" = none; decide +kernel)
  have hRole :=
    hTwo.perform ⟨⟨2⟩, "r"⟩ (.createRole "viewer")
      (by change State.role? _ "r" = none; decide +kernel)
  have hGranted := hRole.perform ⟨⟨3⟩, ""⟩ (.setRolePermissions "r" (.ofList ["p1", "p2"])) trivial
  have hDeleted := hGranted.perform ⟨⟨4⟩, ""⟩ (.deletePermission "p2") trivial
  exact ⟨_, hDeleted, by decide +kernel, by decide +kernel,
    reachable_coherent_and_views_agree hDeleted⟩

end Rolebook.Memory
