import Rolebook.Proofs.Command.Contention
import Rolebook.Proofs.Memory.Reordering

/-!
# The meaning of a command

What a command comes to when nothing else happens meanwhile, said by the records of the state and
without a word about calls: the reply and what is found in the state afterwards (`Means`). A command
adds one entity (`PermissionAdded`, `RoleAdded`), or it rewrites the whole set of a role, and then
the state differs from the one before by one pair and one revision only (`PairChanged`).

Each of the scripts of a command is followed call by call; the lemmas on them say what they come to
in every coherent state.
-/

namespace Rolebook.Command

open Rolebook.Memory
open Rolebook.Store (Call Script)

/-! ## What a command is to do -/

/-- A table has one more record, and all others are as they were. -/
def OneMore {α : Type} (id : Id) (record : α) (table table' : Table α) : Prop :=
  table.find? id = none ∧ ∀ other, table'.find? other =
    if other = id then some record else table.find? other

/-- The same records are found in two tables. -/
def SameFound {α : Type} (table table' : Table α) : Prop :=
  ∀ id, table'.find? id = table.find? id

/-- There is a permission that was not there before and that no role grants. Nothing else has
changed but the numbers of the entities that are made known. -/
structure PermissionAdded (record : PermissionRecord) (state after : State) : Prop where
  permissions : OneMore record.id record state.permissions after.permissions
  roles : SameFound state.roles after.roles
  grants : after.grants = state.grants
  unassigned : ∀ role, ⟨role, record.id⟩ ∉ after.grants
  inventory : after.inventory = some ⟨state.permissions.size + 1, state.roles.size⟩

/-- There is a role that was not there before and that grants nothing. Nothing else has changed but
the numbers of the entities that are made known. -/
structure RoleAdded (record : RoleRecord) (state after : State) : Prop where
  permissions : SameFound state.permissions after.permissions
  roles : OneMore record.id record state.roles after.roles
  grants : after.grants = state.grants
  unassigned : ∀ permission, ⟨record.id, permission⟩ ∉ after.grants
  inventory : after.inventory = some ⟨state.permissions.size, state.roles.size + 1⟩

/-- One pair has been added to those of a state, or taken from them, and the revision of its role is
greater by one. All other pairs, all that else is kept of the role, all other roles and all
permissions are as they were. -/
structure PairChanged (change : Change) (grant : Grant) (state after : State) : Prop where
  permissions : SameFound state.permissions after.permissions
  role : ∃ record, state.role? grant.role = some record ∧
    after.role? grant.role = some { record with revision := record.revision + 1 }
  other_roles : ∀ id, id ≠ grant.role → after.role? id = state.role? id
  pair_before : grant ∈ state.grants ↔ change = .revoke
  pair_after : grant ∈ after.grants ↔ change = .grant
  other_pairs : ∀ other, other ≠ grant → (other ∈ after.grants ↔ other ∈ state.grants)
  inventory : after.inventory = state.inventory

/-- What a change has done to a state: it has changed a pair, or nothing. -/
def Change.Did (change : Change) (pair? : Option Grant) (state after : State) : Prop :=
  match pair? with
  | some pair => PairChanged change pair state after
  | none => after = state

/-- What a change by names comes to: the reply and the pair that is changed, if any is. The role is
looked for before the permission. -/
inductive ChangeMeans (change : Change) (roleName permissionName : String) (state : State) :
    Reply → Option Grant → Prop
  | roleMissing (hRole : ∀ id, ¬ Named RoleRecord.name state.roles roleName id) :
      ChangeMeans change roleName permissionName state
        (.to change.wording.intent .failure
          ("Role '" ++ roleName ++ "' not found." ++ change.wording.advice)) none
  | permissionMissing {role : Id} (hRole : Named RoleRecord.name state.roles roleName role)
      (hPermission : ∀ id, ¬ Named PermissionRecord.name state.permissions permissionName id) :
      ChangeMeans change roleName permissionName state
        (.to change.wording.intent .failure
          ("Permission '" ++ permissionName ++ "' not found." ++ change.wording.advice)) none
  | idle {role permission : Id} (hRole : Named RoleRecord.name state.roles roleName role)
      (hPermission : Named PermissionRecord.name state.permissions permissionName permission)
      (hIdle : change.Idle permission (state.permissionIdsOf role)) :
      ChangeMeans change roleName permissionName state
        (.to change.wording.intent .info (change.wording.idle permissionName roleName)) none
  | made {role permission : Id} (hRole : Named RoleRecord.name state.roles roleName role)
      (hPermission : Named PermissionRecord.name state.permissions permissionName permission)
      (hNeeded : ¬ change.Idle permission (state.permissionIdsOf role)) :
      ChangeMeans change roleName permissionName state
        (.to change.wording.intent .success (change.wording.done permissionName roleName))
        (some ⟨role, permission⟩)

/-- What a text comes to in a state, by the command that it is: the reply to it and the state
afterwards. Names are taken without the blanks at their ends. -/
inductive Means (moment : Moment) (state : State) : Option Phrase.Command → Reply → State → Prop
  | notUnderstood : Means moment state none .notUnderstood state
  | permissionRefused {name : String} {description : Option String} {reply : Reply}
      (hName : Text.trim name = "" ∨
        ∃ id, Named PermissionRecord.name state.permissions (Text.trim name) id)
      (hStatus : reply.status = .failure) :
      Means moment state (some (.createPermission name description)) reply state
  | permissionCreated {name : String} {description : Option String} {reply : Reply} {after : State}
      (hName : Text.trim name ≠ "")
      (hFree : ∀ id, ¬ Named PermissionRecord.name state.permissions (Text.trim name) id)
      (hStatus : reply.status = .success)
      (hAdded : PermissionAdded ⟨moment.newId, Text.trim name, description, moment.now⟩
        state after) :
      Means moment state (some (.createPermission name description)) reply after
  | roleRefused {name : String} {reply : Reply}
      (hName : Text.trim name = "" ∨ ∃ id, Named RoleRecord.name state.roles (Text.trim name) id)
      (hStatus : reply.status = .failure) :
      Means moment state (some (.createRole name)) reply state
  | roleCreated {name : String} {reply : Reply} {after : State}
      (hName : Text.trim name ≠ "")
      (hFree : ∀ id, ¬ Named RoleRecord.name state.roles (Text.trim name) id)
      (hStatus : reply.status = .success)
      (hAdded : RoleAdded ⟨moment.newId, Text.trim name, moment.now, 0⟩ state after) :
      Means moment state (some (.createRole name)) reply after
  | assigned {role permission : String} {reply : Reply} {pair? : Option Grant} {after : State}
      (hChange : ChangeMeans .grant (Text.trim role) (Text.trim permission) state reply pair?)
      (hDid : Change.grant.Did pair? state after) :
      Means moment state (some (.assignPermission role permission)) reply after
  | removed {role permission : String} {reply : Reply} {pair? : Option Grant} {after : State}
      (hChange : ChangeMeans .revoke (Text.trim role) (Text.trim permission) state reply pair?)
      (hDid : Change.revoke.Did pair? state after) :
      Means moment state (some (.removePermission role permission)) reply after

/-! ## A whole set is written, and one pair is changed -/

/-- The state in which a role grants one permission more, or one less, and is at its next
revision. -/
def Change.apply (change : Change) (grant : Grant) (state : State) : State :=
  { state with
    roles := state.roles.update grant.role fun record =>
      { record with revision := record.revision + 1 }
    grants :=
      match change with
      | .grant => state.grants.insert grant
      | .revoke => state.grants.erase grant }

/-- The state after a change of a pair, or of nothing. -/
def Change.applyTo (change : Change) (pair? : Option Grant) (state : State) : State :=
  pair?.elim state fun pair => change.apply pair state

/-- To exchange the set of a role for one that differs by one member comes to a change by one
pair. -/
theorem Change.rewrite_eq_apply {change : Change} {role permission : Id} {state : State}
    {wanted : IdSet} (hMakes : change.Makes permission (state.permissionIdsOf role) wanted) :
    (state.setGrants role wanted).bumpRole role = change.apply ⟨role, permission⟩ state := by
  have hMember (grant : Grant) :
      grant ∈ (state.setGrants role wanted).grants ↔
        grant ∈ (change.apply ⟨role, permission⟩ state).grants := by
    rw [State.mem_grants_setGrants]
    obtain ⟨holder, held⟩ := grant
    by_cases hHolder : holder = role
    · -- of the role itself there are the pairs of the set that is written
      subst hHolder
      cases change with
      | grant => simp [Change.apply, OrderedSet.mem_insert, hMakes.2, State.mem_permissionIdsOf]
      | revoke => simp [Change.apply, OrderedSet.mem_erase, hMakes.2, State.mem_permissionIdsOf]
    · cases change <;> simp [Change.apply, OrderedSet.mem_insert, OrderedSet.mem_erase, hHolder]
  have hGrants : (state.setGrants role wanted).grants =
      (change.apply ⟨role, permission⟩ state).grants :=
    OrderedSet.ext hMember
  show (⟨_, _, (state.setGrants role wanted).grants, _⟩ : State) = _
  rw [hGrants]
  rfl

theorem Change.not_idle_of_makes {change : Change} {permission : Id} {set changed : IdSet}
    (h : change.Makes permission set changed) : ¬ change.Idle permission set := by
  cases change with
  | grant => exact h.1
  | revoke => exact not_not_intro h.1

/-- A set that is written holds permissions that were in the set before, and the one that is
granted. -/
theorem Change.mem_of_makes {change : Change} {permission other : Id} {set changed : IdSet}
    (h : change.Makes permission set changed) (hOther : other ∈ changed) :
    other = permission ∨ other ∈ set := by
  cases change with
  | grant => exact (h.2 other).1 hOther
  | revoke => exact .inr ((h.2 other).1 hOther).1

/-- A change decides about its own pair, and all other pairs stay as they are. -/
theorem Change.mem_apply {change : Change} {grant other : Grant} {state : State} :
    other ∈ (change.apply grant state).grants ↔
      if other = grant then change = .grant else other ∈ state.grants := by
  cases change <;> by_cases hOther : other = grant <;>
    simp [Change.apply, OrderedSet.mem_insert, OrderedSet.mem_erase, hOther]

theorem Change.role?_apply {change : Change} {grant : Grant} {state : State} {id : Id} :
    (change.apply grant state).role? id =
      if id = grant.role then
        (state.role? grant.role).map fun record => { record with revision := record.revision + 1 }
      else
        state.role? id :=
  Table.find?_update ..

/-- A role that has a need of a change gets it, and nothing else happens. -/
theorem Change.pairChanged_apply {change : Change} {role permission : Id} {state : State}
    (hRole : state.role? role ≠ none)
    (hNeeded : ¬ change.Idle permission (state.permissionIdsOf role)) :
    PairChanged change ⟨role, permission⟩ state (change.apply ⟨role, permission⟩ state) where
  permissions := fun _ => rfl
  role := by
    obtain ⟨record, hFound⟩ := Option.ne_none_iff_exists'.1 hRole
    exact ⟨record, hFound, by rw [Change.role?_apply, if_pos rfl, hFound]; rfl⟩
  other_roles := fun id hOther => by rw [Change.role?_apply, if_neg hOther]
  pair_before := by
    rw [← State.mem_permissionIdsOf]
    cases change with
    | grant => exact iff_of_false hNeeded nofun
    | revoke => exact iff_of_true (Classical.not_not.1 hNeeded) rfl
  pair_after := by rw [Change.mem_apply, if_pos rfl]
  other_pairs := fun other hOther => by rw [Change.mem_apply, if_neg hOther]
  inventory := rfl

/-- What is said of a change by names is what its script makes of the state. -/
theorem ChangeMeans.did {change : Change} {roleName permissionName : String} {state : State}
    {reply : Reply} {pair? : Option Grant}
    (h : ChangeMeans change roleName permissionName state reply pair?) :
    change.Did pair? state (change.applyTo pair? state) := by
  cases h with
  | roleMissing | permissionMissing | idle => exact rfl
  | made hRole hPermission hNeeded =>
      obtain ⟨record, hFound, -⟩ := hRole
      exact Change.pairChanged_apply (by rw [State.role?, hFound]; nofun) hNeeded

/-- Names stay as they are when a revision moves on. -/
theorem Change.named_apply {change : Change} {grant : Grant} {state : State} {name : String}
    {id : Id} :
    Named RoleRecord.name (change.apply grant state).roles name id ↔
      Named RoleRecord.name state.roles name id := by
  have hFind : (change.apply grant state).roles.find? id =
      if id = grant.role then (state.roles.find? grant.role).map RoleRecord.bump
        else state.roles.find? id :=
    Table.find?_update ..
  unfold Named
  rw [hFind]
  split
  · next hId =>
      subst hId
      cases state.roles.find? grant.role <;> simp [RoleRecord.bump]
  · rfl

/-! ## Scripts, call by call -/

section Runs

variable {state : State} (hState : Coherent state) (clock : Nat → Moment)

include hState

/-- A role that is as it was read is written at the first attempt, or there is nothing to write. -/
theorem run_attemptChange {change : Change} {permission : Id} {shown : Role} {record : RoleRecord}
    (hFound : state.role? shown.id = some record) (hShown : state.showRole record = shown)
    (hPermission : state.permission? permission ≠ none)
    (again? : Option (Role → Script (Except Store.Error Bool))) :
    let ended := Alone.run ⟨state, clock⟩ (attemptChange change permission shown again?)
    change.Idle permission (state.permissionIdsOf shown.id) ∧ ended.1 = .ok false ∧
        ended.2.state = state ∨
      ¬ change.Idle permission (state.permissionIdsOf shown.id) ∧ ended.1 = .ok true ∧
        ended.2.state = change.apply ⟨shown.id, permission⟩ state := by
  have hId : record.id = shown.id := hState.roles.own_id _ _ hFound
  have hSet : shown.permissionIds = state.permissionIdsOf shown.id := by
    rw [← hId, ← hShown]
    rfl
  have hRevision : record.revision = shown.revision := by
    rw [← hShown]
    rfl
  cases hWanted : change.wanted? permission shown.permissionIds with
  | none =>
      refine .inl ⟨hSet ▸ Change.idle_of_wanted? hWanted, ?_⟩
      rw [attemptChange, hWanted]
      exact ⟨rfl, rfl⟩
  | some wanted =>
      have hMakes := hSet ▸ Change.makes_of_wanted? hWanted
      have hKnown : ∀ other ∈ wanted, state.permission? other ≠ none := by
        intro other hOther
        rcases Change.mem_of_makes hMakes hOther with rfl | hHeld
        · exact hPermission
        · exact (hState.grants _ (State.mem_permissionIdsOf.1 hHeld)).2
      have hWritten := replaceGrants_of_known hFound hKnown
      rw [Change.rewrite_eq_apply hMakes] at hWritten
      have hAnswer : state.replaceRolePermissions shown.id shown.revision wanted =
          state.replaceGrants shown.id wanted := by
        rw [State.replaceRolePermissions, hFound]
        exact if_pos hRevision
      refine .inr ⟨Change.not_idle_of_makes hMakes, ?_⟩
      rw [attemptChange, hWanted]
      simp only [Alone.run_ask, Alone.perform, State.perform, hAnswer, hWritten]
      exact ⟨rfl, rfl⟩

theorem run_writeChange {change : Change} {permission : Id} {shown : Role} {record : RoleRecord}
    (hFound : state.role? shown.id = some record) (hShown : state.showRole record = shown)
    (hPermission : state.permission? permission ≠ none) (attempts : Nat) :
    let ended := Alone.run ⟨state, clock⟩ (writeChange change permission attempts shown)
    change.Idle permission (state.permissionIdsOf shown.id) ∧ ended.1 = .ok false ∧
        ended.2.state = state ∨
      ¬ change.Idle permission (state.permissionIdsOf shown.id) ∧ ended.1 = .ok true ∧
        ended.2.state = change.apply ⟨shown.id, permission⟩ state := by
  cases attempts <;> exact run_attemptChange hState clock hFound hShown hPermission _

/-- What a change by names comes to. -/
theorem run_changeByName (change : Change) (roleName permissionName : String) :
    let ended := Alone.run ⟨state, clock⟩ (changeByName change roleName permissionName)
    ∃ pair?, ChangeMeans change roleName permissionName state ended.1 pair? ∧
      ended.2.state = change.applyTo pair? state := by
  rw [changeByName, Alone.run_ask]
  simp only [Alone.perform, State.perform]
  cases hRole : state.getRoleByName roleName with
  | none => exact ⟨none, .roleMissing (getRoleByName_eq_none_iff.1 hRole), rfl⟩
  | some role =>
      obtain ⟨record, hFound, hName, hShown⟩ := hState.role_of_getRoleByName hRole
      have hRoleNamed : Named RoleRecord.name state.roles roleName role.id :=
        ⟨record, hFound, hName⟩
      simp only [Alone.run_ask, Alone.perform, State.perform]
      cases hPermission : state.getPermissionByName permissionName with
      | none =>
          have hNone := getPermissionByName_eq_none_iff.1 hPermission
          exact ⟨none, .permissionMissing hRoleNamed hNone, rfl⟩
      | some permission =>
          have hPermissionNamed := hState.permission_of_getPermissionByName hPermission
          have hPresent : state.permission? permission.id ≠ none := by
            obtain ⟨held, hHeld, -⟩ := hPermissionNamed
            rw [State.permission?, hHeld]
            exact Option.some_ne_none held
          -- both calls were readings, so the role is changed in the state in which it was read
          simp only [Alone.run_bind]
          rcases run_writeChange hState _ hFound hShown hPresent (maxWriteAttempts - 1) with
            ⟨hIdle, hResult, hAfter⟩ | ⟨hNeeded, hResult, hAfter⟩
          · rw [hResult]
            exact ⟨none, .idle hRoleNamed hPermissionNamed hIdle, hAfter⟩
          · rw [hResult]
            exact ⟨some ⟨role.id, permission.id⟩, .made hRoleNamed hPermissionNamed hNeeded, hAfter⟩

/-- A new permission is granted by nobody, and it leaves everything else as it is. -/
theorem permissionAdded_addPermission (record : PermissionRecord)
    (hNew : state.permission? record.id = none) :
    PermissionAdded record state (state.addPermission record) where
  permissions := ⟨hNew, fun _ => State.permission?_addPermission⟩
  roles := fun _ => rfl
  grants := rfl
  unassigned := fun _ hGrant => (hState.grants _ hGrant).2 hNew
  inventory := by
    rw [State.addPermission, State.counted, Table.size_insert hNew]

/-- A new role grants nothing, and it leaves everything else as it is. -/
theorem roleAdded_addRole (record : RoleRecord) (hNew : state.role? record.id = none) :
    RoleAdded record state (state.addRole record) where
  permissions := fun _ => rfl
  roles := ⟨hNew, fun _ => State.role?_addRole⟩
  grants := rfl
  unassigned := fun _ hGrant => (hState.grants _ hGrant).1 hNew
  inventory := by
    rw [State.addRole, State.counted, Table.size_insert hNew]

/-- What the creation of a permission comes to. -/
theorem run_createPermission (hNew : state.permission? (clock 0).newId = none) (name : String)
    (description : Option String) :
    let ended := Alone.run ⟨state, clock⟩ (createPermission (Text.trim name) description)
    Means (clock 0) state (some (.createPermission name description)) ended.1 ended.2.state := by
  -- the store trims the name once more
  have hTrim := Text.trim_trim name
  rw [createPermission, Alone.run_ask]
  by_cases hName : Text.trim name = "" ∨
      ∃ id, Named PermissionRecord.name state.permissions (Text.trim name) id
  · obtain ⟨error, hError⟩ := createPermission_refused (clock 0) description (by rwa [hTrim])
    simp only [Alone.perform, State.perform, Alone.moment, hError]
    cases error <;> exact .permissionRefused hName rfl
  · obtain ⟨hBlank, hTaken⟩ := not_or.1 hName
    have hFree := not_exists.1 hTaken
    obtain ⟨shown, hShown⟩ :=
      createPermission_done (clock 0) description (by rwa [hTrim]) (by rwa [hTrim])
    simp only [Alone.perform, State.perform, Alone.moment, hShown, hTrim]
    have hAdded := permissionAdded_addPermission hState
      (.new (clock 0) (Text.trim name) description) hNew
    cases shown.description <;> exact .permissionCreated hBlank hFree rfl hAdded

/-- What the creation of a role comes to. -/
theorem run_createRole (hNew : state.role? (clock 0).newId = none) (name : String) :
    let ended := Alone.run ⟨state, clock⟩ (createRole (Text.trim name))
    Means (clock 0) state (some (.createRole name)) ended.1 ended.2.state := by
  have hTrim := Text.trim_trim name
  rw [createRole, Alone.run_ask]
  by_cases hName : Text.trim name = "" ∨ ∃ id, Named RoleRecord.name state.roles (Text.trim name) id
  · obtain ⟨error, hError⟩ := createRole_refused (clock 0) (by rwa [hTrim])
    simp only [Alone.perform, State.perform, Alone.moment, hError]
    cases error <;> exact .roleRefused hName rfl
  · obtain ⟨hBlank, hTaken⟩ := not_or.1 hName
    have hFree := not_exists.1 hTaken
    obtain ⟨shown, hShown⟩ := createRole_done (clock 0) (by rwa [hTrim]) (by rwa [hTrim])
    simp only [Alone.perform, State.perform, Alone.moment, hShown, hTrim]
    have hAdded := roleAdded_addRole hState (.new (clock 0) (Text.trim name)) hNew
    exact .roleCreated hBlank hFree rfl hAdded

end Runs

/-! ## Texts -/

theorem evaluate_of_none {text : String} (hText : Phrase.parse? text = none) :
    evaluate text = pure .notUnderstood := by
  rw [evaluate, hText]

theorem evaluate_of_some {text : String} {command : Phrase.Command}
    (hText : Phrase.parse? text = some command) :
    evaluate text = execute command := by
  rw [evaluate, hText]

/-- What a text comes to in a coherent state whose identifiers are not given again. -/
theorem run_evaluate {state : State} (hState : Coherent state) (clock : Nat → Moment)
    (hNew : state.permission? (clock 0).newId = none ∧ state.role? (clock 0).newId = none)
    (text : String) :
    let ended := Alone.run ⟨state, clock⟩ (evaluate text)
    Means (clock 0) state (Phrase.parse? text) ended.1 ended.2.state := by
  dsimp only
  cases hText : Phrase.parse? text with
  | none =>
      rw [evaluate_of_none hText]
      exact .notUnderstood
  | some command =>
      rw [evaluate_of_some hText]
      cases command with
      | createPermission name description =>
          rw [execute]
          exact run_createPermission hState clock hNew.1 name description
      | createRole name =>
          rw [execute]
          exact run_createRole hState clock hNew.2 name
      | assignPermission role permission =>
          rw [execute]
          obtain ⟨pair?, hChange, hAfter⟩ := run_changeByName hState clock .grant _ _
          exact .assigned hChange (hAfter ▸ hChange.did)
      | removePermission role permission =>
          rw [execute]
          obtain ⟨pair?, hChange, hAfter⟩ := run_changeByName hState clock .revoke _ _
          exact .removed hChange (hAfter ▸ hChange.did)

/-! ## The meaning is one, and success is change -/

section Meaning

variable {state : State} {reply reply' : Reply} {after after' : State}

theorem OneMore.ne {α : Type} {id : Id} {record : α} {table table' : Table α}
    (h : OneMore id record table table') : table' ≠ table := by
  rintro rfl
  have hFound := h.2 id
  rw [h.1, if_pos rfl] at hFound
  cases hFound

/-- What is added to one table is found in both of two others. -/
theorem OneMore.same {α : Type} {id : Id} {record : α} {table table' table'' : Table α}
    (h : OneMore id record table table') (h' : OneMore id record table table'') :
    SameFound table' table'' :=
  fun other => (h'.2 other).trans (h.2 other).symm

theorem PermissionAdded.reordered {record : PermissionRecord}
    (h : PermissionAdded record state after) (h' : PermissionAdded record state after') :
    Reordered after after' :=
  reordered_iff.2 ⟨h.permissions.same h'.permissions,
    fun id => (h'.roles id).trans (h.roles id).symm,
    h'.grants.trans h.grants.symm, h'.inventory.trans h.inventory.symm⟩

theorem RoleAdded.reordered {record : RoleRecord} (h : RoleAdded record state after)
    (h' : RoleAdded record state after') : Reordered after after' :=
  reordered_iff.2 ⟨fun id => (h'.permissions id).trans (h.permissions id).symm,
    h.roles.same h'.roles,
    h'.grants.trans h.grants.symm, h'.inventory.trans h.inventory.symm⟩

/-- A change of a pair makes another state of the one before. -/
theorem PairChanged.ne {change : Change} {grant : Grant}
    (h : PairChanged change grant state after) :
    after ≠ state := by
  rintro rfl
  have hBoth := h.pair_before.symm.trans h.pair_after
  cases change <;> simp at hBoth

theorem PairChanged.reordered {change : Change} {grant : Grant}
    (h : PairChanged change grant state after) (h' : PairChanged change grant state after') :
    Reordered after after' := by
  refine reordered_iff.2 ⟨fun id => (h'.permissions id).trans (h.permissions id).symm, fun id => ?_,
    OrderedSet.ext fun other => ?_, h'.inventory.trans h.inventory.symm⟩
  · by_cases hId : id = grant.role
    · obtain ⟨record, hFound, hAfter⟩ := h.role
      obtain ⟨record', hFound', hAfter'⟩ := h'.role
      obtain rfl := Option.some.inj (hFound.symm.trans hFound')
      rw [hId, hAfter, hAfter']
    · rw [h.other_roles id hId, h'.other_roles id hId]
  · by_cases hOther : other = grant
    · rw [hOther, h.pair_after, h'.pair_after]
    · rw [h.other_pairs other hOther, h'.other_pairs other hOther]

theorem Change.Did.reordered {change : Change} {pair? : Option Grant}
    (h : change.Did pair? state after) (h' : change.Did pair? state after') :
    Reordered after after' := by
  cases pair? with
  | none =>
      obtain rfl : after = state := h
      obtain rfl : after' = after := h'
      exact .refl _
  | some pair => exact PairChanged.reordered h h'

theorem ChangeMeans.success_iff {change : Change} {roleName permissionName : String}
    {pair? : Option Grant} (h : ChangeMeans change roleName permissionName state reply pair?)
    (hDid : change.Did pair? state after) : reply.status = .success ↔ after ≠ state := by
  cases h with
  | roleMissing | permissionMissing | idle => exact iff_of_false nofun (absurd hDid)
  | made hRole hPermission hNeeded => exact iff_of_true rfl (PairChanged.ne hDid)

/-- A command succeeds exactly if it changes the state. -/
theorem Means.success_iff {moment : Moment} {command? : Option Phrase.Command}
    (h : Means moment state command? reply after) : reply.status = .success ↔ after ≠ state := by
  cases h with
  | notUnderstood => exact iff_of_false nofun (absurd rfl)
  | permissionRefused hName hStatus | roleRefused hName hStatus =>
      exact iff_of_false (by simp [hStatus]) (absurd rfl)
  | permissionCreated hName hFree hStatus hAdded =>
      exact iff_of_true hStatus fun hSame =>
        hAdded.permissions.ne (congrArg State.permissions hSame)
  | roleCreated hName hFree hStatus hAdded =>
      exact iff_of_true hStatus fun hSame => hAdded.roles.ne (congrArg State.roles hSame)
  | assigned hChange hDid | removed hChange hDid => exact hChange.success_iff hDid

theorem ChangeMeans.unique (hState : Coherent state) {change : Change}
    {roleName permissionName : String} {pair? pair?' : Option Grant}
    (h : ChangeMeans change roleName permissionName state reply pair?)
    (h' : ChangeMeans change roleName permissionName state reply' pair?') :
    reply = reply' ∧ pair? = pair?' := by
  cases h with
  | roleMissing hNoRole =>
      cases h' with
      | roleMissing => exact ⟨rfl, rfl⟩
      | permissionMissing hRole | idle hRole | made hRole => exact absurd hRole (hNoRole _)
  | permissionMissing hRole hNoPermission =>
      cases h' with
      | roleMissing hNoRole => exact absurd hRole (hNoRole _)
      | permissionMissing => exact ⟨rfl, rfl⟩
      | idle _ hPermission | made _ hPermission => exact absurd hPermission (hNoPermission _)
  | idle hRole hPermission hIdle =>
      cases h' with
      | roleMissing hNoRole => exact absurd hRole (hNoRole _)
      | permissionMissing _ hNoPermission => exact absurd hPermission (hNoPermission _)
      | idle => exact ⟨rfl, rfl⟩
      | made hRole' hPermission' hNeeded =>
          obtain rfl := hState.roles.named_unique hRole hRole'
          obtain rfl := hState.permissions.named_unique hPermission hPermission'
          exact absurd hIdle hNeeded
  | made hRole hPermission hNeeded =>
      cases h' with
      | roleMissing hNoRole => exact absurd hRole (hNoRole _)
      | permissionMissing _ hNoPermission => exact absurd hPermission (hNoPermission _)
      | idle hRole' hPermission' hIdle =>
          obtain rfl := hState.roles.named_unique hRole hRole'
          obtain rfl := hState.permissions.named_unique hPermission hPermission'
          exact absurd hIdle hNeeded
      | made hRole' hPermission' _ =>
          obtain rfl := hState.roles.named_unique hRole hRole'
          obtain rfl := hState.permissions.named_unique hPermission hPermission'
          exact ⟨rfl, rfl⟩

/-- A text does not come to two things: the cases exclude each other, since names are taken once. -/
theorem Means.unique (hState : Coherent state) {moment : Moment} {command? : Option Phrase.Command}
    (h : Means moment state command? reply after) (h' : Means moment state command? reply' after') :
    reply.status = reply'.status ∧ Reordered after after' := by
  cases h with
  | notUnderstood =>
      cases h'
      exact ⟨rfl, .refl _⟩
  | permissionRefused hName hStatus =>
      cases h' with
      | permissionRefused _ hStatus' => exact ⟨hStatus.trans hStatus'.symm, .refl _⟩
      | permissionCreated hName' hFree =>
          exact (hName.elim hName' fun ⟨id, hNamed⟩ => hFree id hNamed).elim
  | permissionCreated hName hFree hStatus hAdded =>
      cases h' with
      | permissionRefused hName' =>
          exact (hName'.elim hName fun ⟨id, hNamed⟩ => hFree id hNamed).elim
      | permissionCreated _ _ hStatus' hAdded' =>
          exact ⟨hStatus.trans hStatus'.symm, hAdded.reordered hAdded'⟩
  | roleRefused hName hStatus =>
      cases h' with
      | roleRefused _ hStatus' => exact ⟨hStatus.trans hStatus'.symm, .refl _⟩
      | roleCreated hName' hFree =>
          exact (hName.elim hName' fun ⟨id, hNamed⟩ => hFree id hNamed).elim
  | roleCreated hName hFree hStatus hAdded =>
      cases h' with
      | roleRefused hName' => exact (hName'.elim hName fun ⟨id, hNamed⟩ => hFree id hNamed).elim
      | roleCreated _ _ hStatus' hAdded' =>
          exact ⟨hStatus.trans hStatus'.symm, hAdded.reordered hAdded'⟩
  | assigned hChange hDid =>
      cases h' with
      | assigned hChange' hDid' =>
          obtain ⟨rfl, rfl⟩ := hChange.unique hState hChange'
          exact ⟨rfl, hDid.reordered hDid'⟩
  | removed hChange hDid =>
      cases h' with
      | removed hChange' hDid' =>
          obtain ⟨rfl, rfl⟩ := hChange.unique hState hChange'
          exact ⟨rfl, hDid.reordered hDid'⟩

end Meaning

/-- A text that is evaluated in any state that a store in memory can come to ends as its command is
meant to, and so does the state, which nothing else is done to. It is meant to end in one way only,
but for the order in which records are kept, and it succeeds exactly if it changes the state. -/
theorem evaluation_is_what_the_command_means {state : State} (hState : Reachable state)
    (clock : Nat → Moment)
    (hNew : state.permission? (clock 0).newId = none ∧ state.role? (clock 0).newId = none)
    (text : String) :
    let ended := Alone.run ⟨state, clock⟩ (evaluate text)
    Means (clock 0) state (Phrase.parse? text) ended.1 ended.2.state ∧
      (∀ reply after, Means (clock 0) state (Phrase.parse? text) reply after →
        reply.status = ended.1.status ∧ Reordered after ended.2.state) ∧
      (ended.1.status = .success ↔ ended.2.state ≠ state) := by
  have hMeans := run_evaluate hState.coherent clock hNew text
  exact ⟨hMeans, fun reply after hOther => hOther.unique hState.coherent hMeans, hMeans.success_iff⟩

/-- A store with two permissions and a role that grants the first of them. -/
def readers : State :=
  let one := (State.empty.perform ⟨⟨0⟩, "p1"⟩ (.createPermission "read" none)).2
  let two := (one.perform ⟨⟨1⟩, "p2"⟩ (.createPermission "write" (some "changes things"))).2
  let three := (two.perform ⟨⟨2⟩, "r"⟩ (.createRole "viewer")).2
  (three.perform ⟨⟨3⟩, ""⟩ (.setRolePermissions "r" (.ofList ["p1"]))).2

theorem reachable_readers : Reachable readers := by
  have hTwo := (Reachable.empty.perform ⟨⟨0⟩, "p1"⟩ (.createPermission "read" none) rfl).perform
    ⟨⟨1⟩, "p2"⟩ (.createPermission "write" (some "changes things"))
    (by change State.permission? _ "p2" = none; decide +kernel)
  have hThree :=
    hTwo.perform ⟨⟨2⟩, "r"⟩ (.createRole "viewer")
      (by change State.role? _ "r" = none; decide +kernel)
  exact hThree.perform ⟨⟨3⟩, ""⟩ (.setRolePermissions "r" (.ofList ["p1"])) trivial

/-- The role is given the other permission, by a name with blanks around it. -/
def grantText : String :=
  "give the role 'viewer' the permission ' write '"

theorem evaluation_is_what_the_command_means_of_grant :
    Reachable readers ∧ (readers.permission? "new" = none ∧ readers.role? "new" = none) ∧
      Phrase.parse? grantText = some (.assignPermission "viewer" " write ") ∧
      let ended := Alone.run ⟨readers, fun _ => ⟨⟨9⟩, "new"⟩⟩ (evaluate grantText)
      Means ⟨⟨9⟩, "new"⟩ readers (some (.assignPermission "viewer" " write "))
        ended.1 ended.2.state ∧
        ended.1.status = .success ∧ ended.2.state ≠ readers ∧
        readers.grants.toList = [⟨"r", "p1"⟩] ∧
        ended.2.state.grants.toList = [⟨"r", "p1"⟩, ⟨"r", "p2"⟩] ∧
        readers.role? "r" = some ⟨"r", "viewer", ⟨2⟩, 1⟩ ∧
        ended.2.state.role? "r" = some ⟨"r", "viewer", ⟨2⟩, 2⟩ := by
  have hText : Phrase.parse? grantText = some (.assignPermission "viewer" " write ") := by
    decide +kernel
  have hNew : readers.permission? "new" = none ∧ readers.role? "new" = none := by decide +kernel
  obtain ⟨hMeans, -, hSuccess⟩ :=
    evaluation_is_what_the_command_means reachable_readers (fun _ => ⟨⟨9⟩, "new"⟩) hNew grantText
  rw [hText] at hMeans
  have hStatus :
      (Alone.run ⟨readers, fun _ => ⟨⟨9⟩, "new"⟩⟩ (evaluate grantText)).1.status = .success := by
    decide +kernel
  exact ⟨reachable_readers, hNew, hText, hMeans, hStatus, hSuccess.1 hStatus, by decide +kernel,
    by decide +kernel, by decide +kernel, by decide +kernel⟩

end Rolebook.Command
