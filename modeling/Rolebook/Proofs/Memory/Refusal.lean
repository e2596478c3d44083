import Rolebook.Proofs.Memory.Alone
import Rolebook.Proofs.Memory.Run

/-!
# Calls that a store in memory refuses

A call is checked before anything is changed: the name that it gives, the entity that it is about,
whether the name is free, the revision that it expects and the permissions that are to be granted,
in this order. `Refused` lists what can be wrong at each of these, for all calls at once and in
terms of the records; `perform_eq_error_iff` says that a call fails for these reasons and for no
others.

Some grants are exchanged before the role is looked up for the second time. That this look-up cannot
fail is settled in `transition_perform`, and with it that a call which fails leaves the state alone.
-/

namespace Rolebook.Memory

open Rolebook.Store (Call Error)

/-! ## What a call is about -/

/-- The name that a call gives, and the kind of the entity that is to have it. -/
def nameGiven? : Call → Option (EntityKind × String)
  | .createPermission name _ | .updatePermission _ name _ => some (.permission, name)
  | .createRole name | .updateRole _ name => some (.role, name)
  | _ => none

/-- The entity that a call is about, by its kind and its identifier. -/
def target? : Call → Option (EntityKind × Id)
  | .getPermission id | .updatePermission id _ _ | .deletePermission id => some (.permission, id)
  | .getRole id | .updateRole id _ | .deleteRole id => some (.role, id)
  | .rolePermissionIds id | .setRolePermissions id _ | .replaceRolePermissions id _ _ =>
    some (.role, id)
  | _ => none

/-- The permissions that a call wants a role to grant. -/
def permissionsGiven : Call → IdSet
  | .setRolePermissions _ permissions | .replaceRolePermissions _ _ permissions => permissions
  | _ => ∅

/-- There is an entity of a kind under an identifier. -/
def State.Has (state : State) : EntityKind → Id → Prop
  | .permission, id => state.permission? id ≠ none
  | .role, id => state.role? id ≠ none

/-- The entity of a kind under an identifier has a name. -/
def State.IsNamed (state : State) : EntityKind → String → Id → Prop
  | .permission, name, id => Named PermissionRecord.name state.permissions name id
  | .role, name, id => Named RoleRecord.name state.roles name id

/-- The name that a call gives, if it gives one, can be kept. -/
def GivesName (call : Call) : Prop :=
  ∀ kind name, nameGiven? call = some (kind, name) → Text.trim name ≠ ""

/-- The entity that a call is about, if there is to be one, is there. -/
def FindsTarget (state : State) (call : Call) : Prop :=
  ∀ kind id, target? call = some (kind, id) → state.Has kind id

/-- The role that is to be written is at the revision that the call expects, if it expects one. -/
def MeetsRevision (state : State) : Call → Prop
  | .replaceRolePermissions id expected _ =>
      ∃ record, state.role? id = some record ∧ record.revision = expected
  | _ => True

/-- What a store in memory has against a call. Each reason is given only if the checks before it are
passed. -/
inductive Refused (state : State) (call : Call) : Error → Prop
  | blankName {kind : EntityKind} {name : String} (hName : nameGiven? call = some (kind, name))
      (hBlank : Text.trim name = "") : Refused state call (.invalid (blankNameMessage kind.noun))
  | missing {kind : EntityKind} {id : Id} (hGiven : GivesName call)
      (hTarget : target? call = some (kind, id))
      (hAbsent : ¬ state.Has kind id) : Refused state call (.missing kind)
  | nameTaken {kind : EntityKind} {name : String} {other : Id} (hFound : FindsTarget state call)
      (hName : nameGiven? call = some (kind, name)) (hKept : Text.trim name ≠ "")
      (hTaken : state.IsNamed kind (Text.trim name) other)
      (hOther : some other ≠ (target? call).map Prod.snd) :
      Refused state call (.nameTaken kind (Text.trim name))
  | stale {id : Id} {expected : Revision} {permissions : IdSet} {record : RoleRecord}
      (hCall : call = .replaceRolePermissions id expected permissions)
      (hFound : state.role? id = some record)
      (hMoved : record.revision ≠ expected) :
      Refused state call (.revisionMismatch expected record.revision)
  | unknownPermission {permission : Id} (hFound : FindsTarget state call)
      (hRevision : MeetsRevision state call)
      (hGiven : permission ∈ permissionsGiven call) (hAbsent : state.permission? permission = none)
      (hLeast : ∀ other ∈ permissionsGiven call, before other permission →
        state.permission? other ≠ none) :
      Refused state call (.missingPermission permission)

/-! ## Names -/

theorem Orderly.nameTaken_iff {α : Type} {id name : α → String} {table : Table α}
    (hTable : Orderly id name table) {wanted : String} {except : Option Id} :
    nameTaken id name table wanted except = true ↔
      ∃ key, Named name table wanted key ∧ some key ≠ except := by
  rw [nameTaken, List.any_eq_true]
  constructor
  · rintro ⟨record, hRecord, hTaken⟩
    obtain ⟨key, hFound⟩ := Table.mem_values.1 hRecord
    obtain ⟨hName, hOther⟩ : name record = wanted ∧ some (id record) ≠ except := by
      simpa using hTaken
    exact ⟨key, ⟨record, hFound, hName⟩, hTable.own_id key record hFound ▸ hOther⟩
  · rintro ⟨key, ⟨record, hFound, hName⟩, hOther⟩
    refine ⟨record, Table.mem_values.2 ⟨key, hFound⟩, ?_⟩
    rw [hTable.own_id key record hFound]
    simpa [hName] using hOther

theorem keptName_of_ne {name : String} (hName : Text.trim name ≠ "") (kind : EntityKind) :
    keptName kind name = .ok (Text.trim name) := by
  rw [keptName_eq, if_neg hName]

theorem keptName_of_blank {name : String} (hBlank : Text.trim name = "") (kind : EntityKind) :
    keptName kind name = .error (.invalid (blankNameMessage kind.noun)) := by
  rw [keptName_eq, if_pos hBlank]

theorem blank_of_keptName {kind : EntityKind} {name : String} {error : Error}
    (h : keptName kind name = .error error) :
    Text.trim name = "" ∧ error = .invalid (blankNameMessage kind.noun) := by
  rw [keptName_eq] at h
  split at h
  · next hBlank => exact ⟨hBlank, (Except.error.inj h).symm⟩
  · cases h

/-! ## The checks of a call -/

section Checks

variable {state : State} {call : Call} {kind : EntityKind} {name : String} {id : Id}

theorem givesName_of_none (hNone : nameGiven? call = none) : GivesName call :=
  fun _ _ hGiven => nomatch hNone.symm.trans hGiven

theorem givesName_of_kept {kept : String} (hGiven : nameGiven? call = some (kind, name))
    (hKept : keptName kind name = .ok kept) : GivesName call := by
  obtain rfl := kept_eq_trim hKept
  intro kind' name' hGiven'
  obtain ⟨-, rfl⟩ := Prod.mk.inj (Option.some.inj (hGiven.symm.trans hGiven'))
  exact (kept_of_keptName hKept).1

theorem findsTarget_of_none (hNone : target? call = none) : FindsTarget state call :=
  fun _ _ hTarget => nomatch hNone.symm.trans hTarget

theorem findsTarget_of_has (hTarget : target? call = some (kind, id)) (hHas : state.Has kind id) :
    FindsTarget state call := by
  intro kind' id' hTarget'
  obtain ⟨rfl, rfl⟩ := Prod.mk.inj (Option.some.inj (hTarget.symm.trans hTarget'))
  exact hHas

theorem has_permission {record : PermissionRecord} (hFound : state.permission? id = some record) :
    state.Has .permission id := by
  rw [State.Has, hFound]
  exact Option.some_ne_none record

theorem has_role {record : RoleRecord} (hFound : state.role? id = some record) :
    state.Has .role id := by
  rw [State.Has, hFound]
  exact Option.some_ne_none record

theorem not_has_permission_iff : ¬ state.Has .permission id ↔ state.permission? id = none := by
  simp [State.Has]

theorem not_has_role_iff : ¬ state.Has .role id ↔ state.role? id = none := by
  simp [State.Has]

end Checks

/-! ## Why a call fails -/

section Reasons

variable {α : Type} {state : State} {call : Call} {error : Error} {kind : EntityKind}
  {name kept : String} {id : Id}

theorem refused_of_blank {complaint : Error} (hName : nameGiven? call = some (kind, name))
    (hKept : keptName kind name = .error complaint)
    (hError : (.error complaint : Except Error α) = .error error) :
    Refused state call error := by
  obtain ⟨hBlank, rfl⟩ := blank_of_keptName hKept
  obtain rfl := Except.error.inj hError
  exact .blankName hName hBlank

theorem refused_of_absent (hGiven : GivesName call) (hTarget : target? call = some (kind, id))
    (hAbsent : ¬ state.Has kind id)
    (hError : (.error (.missing kind) : Except Error α) = .error error) :
    Refused state call error := by
  obtain rfl := Except.error.inj hError
  exact .missing hGiven hTarget hAbsent

theorem refused_of_taken (hFound : FindsTarget state call)
    (hName : nameGiven? call = some (kind, name)) (hKept : keptName kind name = .ok kept)
    (hTaken : ∃ other, state.IsNamed kind kept other ∧ some other ≠ (target? call).map Prod.snd)
    (hError : (.error (.nameTaken kind kept) : Except Error α) = .error error) :
    Refused state call error := by
  obtain rfl := kept_eq_trim hKept
  obtain rfl := Except.error.inj hError
  obtain ⟨other, hNamed, hOther⟩ := hTaken
  exact .nameTaken hFound hName (kept_of_keptName hKept).1 hNamed hOther

theorem refused_of_replaceGrants {record : RoleRecord} (hRole : state.role? id = some record)
    (hFound : FindsTarget state call) (hRevision : MeetsRevision state call)
    (hError : (state.replaceGrants id (permissionsGiven call)).1 = .error error) :
    Refused state call error := by
  unfold State.replaceGrants at hError
  split at hError
  · next missing hMissing =>
      obtain ⟨hMember, hAbsent, hLeast⟩ := OrderedSet.find?_toList_eq_some_iff.1 hMissing
      obtain rfl := Except.error.inj hError
      refine .unknownPermission hFound hRevision hMember (by simpa using hAbsent)
        fun other hOther hBefore => ?_
      simpa using hLeast other hOther hBefore
  · have hRole' : (state.setGrants id (permissionsGiven call)).role? id = some record := hRole
    simp [hRole'] at hError

/-- A call that fails does so for one of the reasons. -/
theorem refused_of_perform (hState : Coherent state) {moment : Moment}
    (hError : (state.perform moment call).1 = .error error) : Refused state call error := by
  -- each operation is followed through its checks, and the first that fails is the reason
  cases call with
  | listPermissions | getPermissionByName name | listRoles | getRoleByName name | healthCheck =>
      cases hError
  | getPermission id =>
      simp only [State.perform, State.getPermission] at hError
      split at hError
      · cases hError
      · next hAbsent =>
          exact refused_of_absent (givesName_of_none rfl) rfl
            (not_has_permission_iff.2 hAbsent) hError
  | deletePermission id =>
      simp only [State.perform, State.deletePermission] at hError
      split at hError
      · next hAbsent =>
          exact refused_of_absent (givesName_of_none rfl) rfl
            (not_has_permission_iff.2 hAbsent) hError
      · cases hError
  | getRole id =>
      simp only [State.perform, State.getRole] at hError
      split at hError
      · cases hError
      · next hAbsent =>
          exact refused_of_absent (givesName_of_none rfl) rfl (not_has_role_iff.2 hAbsent) hError
  | rolePermissionIds id =>
      simp only [State.perform, State.rolePermissionIds] at hError
      split at hError
      · cases hError
      · next hAbsent =>
          exact refused_of_absent (givesName_of_none rfl) rfl (not_has_role_iff.2 hAbsent) hError
  | deleteRole id =>
      simp only [State.perform, State.deleteRole] at hError
      split at hError
      · next hAbsent =>
          exact refused_of_absent (givesName_of_none rfl) rfl (not_has_role_iff.2 hAbsent) hError
      · cases hError
  | createPermission name description =>
      simp only [State.perform, State.createPermission] at hError
      split at hError
      · next hBlank => exact refused_of_blank rfl hBlank hError
      · next hKept =>
          split at hError
          · next hTaken =>
              exact refused_of_taken (findsTarget_of_none rfl) rfl hKept
                (hState.permissions.nameTaken_iff.1 hTaken) hError
          · cases hError
  | createRole name =>
      simp only [State.perform, State.createRole] at hError
      split at hError
      · next hBlank => exact refused_of_blank rfl hBlank hError
      · next hKept =>
          split at hError
          · next hTaken =>
              exact refused_of_taken (findsTarget_of_none rfl) rfl hKept
                (hState.roles.nameTaken_iff.1 hTaken) hError
          · cases hError
  | updatePermission id name description =>
      simp only [State.perform, State.updatePermission] at hError
      split at hError
      · next hBlank => exact refused_of_blank rfl hBlank hError
      · next hKept =>
          split at hError
          · next hAbsent =>
              exact refused_of_absent (givesName_of_kept rfl hKept) rfl
                (not_has_permission_iff.2 hAbsent) hError
          · next hFound =>
              split at hError
              · next hTaken =>
                  exact refused_of_taken (findsTarget_of_has rfl (has_permission hFound)) rfl hKept
                    (hState.permissions.nameTaken_iff.1 hTaken) hError
              · cases hError
  | updateRole id name =>
      simp only [State.perform, State.updateRole] at hError
      split at hError
      · next hBlank => exact refused_of_blank rfl hBlank hError
      · next hKept =>
          split at hError
          · next hAbsent =>
              exact refused_of_absent (givesName_of_kept rfl hKept) rfl
                (not_has_role_iff.2 hAbsent) hError
          · next hFound =>
              split at hError
              · next hTaken =>
                  exact refused_of_taken (findsTarget_of_has rfl (has_role hFound)) rfl hKept
                    (hState.roles.nameTaken_iff.1 hTaken) hError
              · cases hError
  | setRolePermissions id permissions =>
      simp only [State.perform, State.setRolePermissions] at hError
      split at hError
      · next hAbsent =>
          exact refused_of_absent (givesName_of_none rfl) rfl (not_has_role_iff.2 hAbsent) hError
      · next hFound =>
          exact refused_of_replaceGrants hFound
            (findsTarget_of_has rfl (has_role hFound)) trivial hError
  | replaceRolePermissions id expected permissions =>
      simp only [State.perform, State.replaceRolePermissions] at hError
      split at hError
      · next hAbsent =>
          exact refused_of_absent (givesName_of_none rfl) rfl (not_has_role_iff.2 hAbsent) hError
      · next record hFound =>
          split at hError
          · next hRevision =>
              exact refused_of_replaceGrants hFound (findsTarget_of_has rfl (has_role hFound))
                ⟨record, hFound, hRevision⟩
                hError
          · next hMoved =>
              obtain rfl := Except.error.inj hError
              exact .stale rfl hFound hMoved

/-- The grants of a role are not exchanged if one of the permissions is missing, and the least of
these is named. -/
theorem replaceGrants_of_unknown {permissions : IdSet} {permission : Id}
    (hGiven : permission ∈ permissions) (hAbsent : state.permission? permission = none)
    (hLeast : ∀ other ∈ permissions, before other permission → state.permission? other ≠ none) :
    state.replaceGrants id permissions = (.error (.missingPermission permission), state) := by
  have hMissing : (permissions.toList.find? fun other => (state.permission? other).isNone) =
      some permission := by
    rw [OrderedSet.find?_toList_eq_some_iff]
    exact ⟨hGiven, by simp [hAbsent], fun other hOther hBefore =>
      by simpa using hLeast other hOther hBefore⟩
  simp only [State.replaceGrants, hMissing]

/-- Each of the reasons makes the call fail, by the error that belongs to it. -/
theorem perform_of_refused (hState : Coherent state) (moment : Moment)
    (h : Refused state call error) :
    (state.perform moment call).1 = .error error := by
  cases h with
  | @blankName kind name hName hBlank =>
      -- four calls give a name, and they look at it before anything else
      have hKept := keptName_of_blank hBlank kind
      cases call with
      | createPermission | createRole | updatePermission | updateRole =>
          cases hName
          simp only [State.perform, State.createPermission, State.createRole,
            State.updatePermission, State.updateRole, hKept]
          rfl
      | _ => cases hName
  | @missing kind id hGiven hTarget hAbsent =>
      -- calls that also give a name come to look for the entity only if the name can be kept
      cases call with
      | getPermission | deletePermission =>
          cases hTarget
          rw [not_has_permission_iff] at hAbsent
          simp only [State.perform, State.getPermission, State.deletePermission, hAbsent]
          rfl
      | updatePermission _ name =>
          cases hTarget
          rw [not_has_permission_iff] at hAbsent
          have hKept := keptName_of_ne (hGiven _ _ rfl) .permission
          simp only [State.perform, State.updatePermission, hKept, hAbsent]
          rfl
      | getRole | rolePermissionIds | deleteRole | setRolePermissions | replaceRolePermissions =>
          cases hTarget
          rw [not_has_role_iff] at hAbsent
          simp only [State.perform, State.getRole, State.rolePermissionIds, State.deleteRole,
            State.setRolePermissions,
            State.replaceRolePermissions, hAbsent]
          rfl
      | updateRole _ name =>
          cases hTarget
          rw [not_has_role_iff] at hAbsent
          have hKept := keptName_of_ne (hGiven _ _ rfl) .role
          simp only [State.perform, State.updateRole, hKept, hAbsent]
          rfl
      | _ => cases hTarget
  | @nameTaken kind name other hFound hName hBlank hTaken hOther =>
      have hKept := keptName_of_ne hBlank kind
      cases call with
      | createPermission =>
          cases hName
          have hTaken : state.permissionNameTaken _ none = true :=
            hState.permissions.nameTaken_iff.2 ⟨other, hTaken, hOther⟩
          simp only [State.perform, State.createPermission, hKept, hTaken]
          rfl
      | createRole =>
          cases hName
          have hTaken : state.roleNameTaken _ none = true :=
            hState.roles.nameTaken_iff.2 ⟨other, hTaken, hOther⟩
          simp only [State.perform, State.createRole, hKept, hTaken]
          rfl
      | updatePermission id =>
          cases hName
          have hTaken : state.permissionNameTaken _ (some id) = true :=
            hState.permissions.nameTaken_iff.2 ⟨other, hTaken, hOther⟩
          obtain ⟨record, hRecord⟩ := Option.ne_none_iff_exists'.1 (hFound .permission id rfl)
          simp only [State.perform, State.updatePermission, hKept, hRecord, hTaken]
          rfl
      | updateRole id =>
          cases hName
          have hTaken : state.roleNameTaken _ (some id) = true :=
            hState.roles.nameTaken_iff.2 ⟨other, hTaken, hOther⟩
          obtain ⟨record, hRecord⟩ := Option.ne_none_iff_exists'.1 (hFound .role id rfl)
          simp only [State.perform, State.updateRole, hKept, hRecord, hTaken]
          rfl
      | _ => cases hName
  | @stale id expected permissions record hCall hFound hMoved =>
      subst hCall
      simp only [State.perform, State.replaceRolePermissions, hFound, if_neg hMoved]
      rfl
  | @unknownPermission permission hFound hRevision hGiven hAbsent hLeast =>
      -- the exchange of the grants stops at the least of the permissions that are missing
      have hUnknown :=
        fun id => @replaceGrants_of_unknown state id _ permission hGiven hAbsent hLeast
      cases call with
      | setRolePermissions id permissions =>
          obtain ⟨record, hRole⟩ := Option.ne_none_iff_exists'.1 (hFound .role id rfl)
          simp only [State.perform, State.setRolePermissions, hRole]
          exact congrArg Prod.fst (hUnknown id)
      | replaceRolePermissions id expected permissions =>
          obtain ⟨record, hRole, hExpected⟩ := hRevision
          simp only [State.perform, State.replaceRolePermissions, hRole, if_pos hExpected]
          exact congrArg Prod.fst (hUnknown id)
      | _ => exact absurd hGiven List.not_mem_nil

theorem perform_eq_error_iff (hState : Coherent state) (moment : Moment) :
    (state.perform moment call).1 = .error error ↔ Refused state call error :=
  ⟨refused_of_perform hState, perform_of_refused hState moment⟩

end Reasons

/-- In every state that a store in memory can come to, a call fails exactly if one of the reasons
applies, and by the error that belongs to it. It has changed nothing then: no permission, no role
and none of their revisions, no grant, and not the numbers of permissions and roles that were made
known. -/
theorem failed_call_has_a_reason_and_changes_nothing {state : State} (hState : Reachable state)
    (moment : Moment) (call : Call) (error : Error) :
    ((state.perform moment call).1 = .error error ↔ Refused state call error) ∧
      ((state.perform moment call).1 = .error error → (state.perform moment call).2 = state) := by
  refine ⟨perform_eq_error_iff hState.coherent moment, fun hError => ?_⟩
  have hStep := transition_perform moment state call
  rw [hError] at hStep
  exact hStep.eq_of_error

/-- A role that grants one permission. -/
def granted : State :=
  let one := (State.empty.perform ⟨⟨0⟩, "p"⟩ (.createPermission "read" none)).2
  let two := (one.perform ⟨⟨1⟩, "r"⟩ (.createRole "viewer")).2
  (two.perform ⟨⟨2⟩, ""⟩ (.setRolePermissions "r" (.ofList ["p"]))).2

theorem reachable_granted : Reachable granted := by
  have hTwo := (Reachable.empty.perform ⟨⟨0⟩, "p"⟩ (.createPermission "read" none) rfl).perform
    ⟨⟨1⟩, "r"⟩ (.createRole "viewer") (by change State.role? _ "r" = none; decide +kernel)
  exact hTwo.perform ⟨⟨2⟩, ""⟩ (.setRolePermissions "r" (.ofList ["p"])) trivial

/-- The role keeps its grant when it is to grant two permissions of which one is missing. -/
theorem failed_call_has_a_reason_and_changes_nothing_of_unknown :
    let call : Call := .replaceRolePermissions "r" 1 (.ofList ["p", "q"])
    Reachable granted ∧ granted.grants.toList = [⟨"r", "p"⟩] ∧
      (granted.perform ⟨⟨3⟩, ""⟩ call).1 = .error (.missingPermission "q") ∧
      Refused granted call (.missingPermission "q") ∧
      (granted.perform ⟨⟨3⟩, ""⟩ call).2 = granted := by
  intro call
  obtain ⟨hReason, hUnchanged⟩ :=
    failed_call_has_a_reason_and_changes_nothing reachable_granted ⟨⟨3⟩, ""⟩ call
      (.missingPermission "q")
  have hError : (granted.perform ⟨⟨3⟩, ""⟩ call).1 = .error (.missingPermission "q") := rfl
  exact ⟨reachable_granted, by decide +kernel, hError, hReason.1 hError, hUnchanged hError⟩

end Rolebook.Memory
