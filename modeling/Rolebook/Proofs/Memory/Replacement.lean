import Rolebook.Proofs.Memory.Refusal
import Rolebook.Proofs.Text.ByteOrder

/-!
# What the exchange of a set does

To give a role a set of permissions is to take all its pairs away and to put others in, amid the
pairs of all other roles. What can be seen of it is said by `SetReplaced`, and `ReplacesSet` says
all of the operation: when it is done, what it does then, that to do it once more changes nothing
but the revision, and which permission is named if some are unknown.
-/

namespace Rolebook.Memory

open Rolebook.Store (Error)

/-! ## What is shown after an exchange -/

/-- A role that has been given a set: it has exactly this set, and it is at its next revision. -/
def withSet (wanted : IdSet) (role : Role) : Role :=
  { role with permissionIds := wanted, revision := role.revision + 1 }

/-- A permission when a role has been given a set: the role stands in it if the permission is in the
set, and does not if it is not. -/
def withHolder (role : Id) (wanted : IdSet) (permission : Permission) : Permission :=
  { permission with
    roleIds := if permission.id ∈ wanted then permission.roleIds.insert role
      else permission.roleIds.erase role }

/-- A role that is there has been given a set: all other roles are shown as before, and each
permission as before but for this role. What is kept of the permissions and the numbers that were
made known are untouched. -/
structure SetReplaced (state state' : State) (id : Id) (wanted : IdSet) : Prop where
  role : state.Has .role id ∧ state'.getRole id = (state.getRole id).map (withSet wanted)
  roles : ∀ other, other ≠ id → state'.getRole other = state.getRole other
  permissions : ∀ permission, state'.getPermission permission =
    (state.getPermission permission).map (withHolder id wanted)
  records : state'.permissions = state.permissions
  inventory : state'.inventory = state.inventory

/-- The permission is wanted and is not there, and of all such it has the least bytes. -/
structure LeastUnknown (state : State) (wanted : IdSet) (permission : Id) : Prop where
  member : permission ∈ wanted
  absent : ¬ state.Has .permission permission
  least : ∀ other ∈ wanted, ¬ state.Has .permission other →
    other = permission ∨ Text.toUtf8 permission < Text.toUtf8 other

/-- All that can be said of giving a role a set of permissions in a state, with or without a
revision that is expected. -/
structure ReplacesSet (state : State) (id : Id) (wanted : IdSet) : Prop where
  /-- It is done exactly if the role and all the permissions are there. -/
  succeeds_iff : (∃ shown, (state.setRolePermissions id wanted).1 = .ok shown) ↔
    state.Has .role id ∧ ∀ permission ∈ wanted, state.Has .permission permission
  /-- It answers with the role as it is shown from then on. -/
  done : ∀ shown state', state.setRolePermissions id wanted = (.ok shown, state') →
    SetReplaced state state' id wanted ∧ state'.getRole id = .ok shown
  /-- Once more, it does nothing but move the role on by another revision. -/
  again : ∀ shown state', state.setRolePermissions id wanted = (.ok shown, state') →
    state'.setRolePermissions id wanted =
      (.ok { shown with revision := shown.revision + 1 }, state'.bumpRole id)
  /-- If the role is there but some permissions are not, the least of these is named and nothing is
  done. -/
  unknown : state.Has .role id → (∃ permission ∈ wanted, ¬ state.Has .permission permission) →
    ∃ permission, LeastUnknown state wanted permission ∧
      state.setRolePermissions id wanted = (.error (.missingPermission permission), state)
  /-- At the revision that is expected it is the same. -/
  expected : ∀ expected shown, state.getRole id = .ok shown → shown.revision = expected →
    state.replaceRolePermissions id expected wanted = state.setRolePermissions id wanted
  /-- Without a role at the revision that is expected it fails, and nothing is done. -/
  unexpected : ∀ expected, (∀ shown, state.getRole id = .ok shown → shown.revision ≠ expected) →
    ∃ error, state.replaceRolePermissions id expected wanted = (.error error, state)

/-! ## The operation -/

section Operation

variable {state : State} {id : Id} {wanted : IdSet} {record : RoleRecord}

theorem setRolePermissions_of_absent (hAbsent : ¬ state.Has .role id) :
    state.setRolePermissions id wanted = (.error (.missing .role), state) := by
  rw [not_has_role_iff] at hAbsent
  rw [State.setRolePermissions, hAbsent]

theorem setRolePermissions_of_known (hFound : state.role? id = some record)
    (hKnown : ∀ permission ∈ wanted, state.Has .permission permission) :
    state.setRolePermissions id wanted =
      (.ok (((state.setGrants id wanted).bumpRole id).showRole record.bump),
        (state.setGrants id wanted).bumpRole id) := by
  rw [State.setRolePermissions, hFound]
  exact replaceGrants_of_known hFound hKnown

/-- The permissions are gone through from the least one on, so the first that is not there is the
least. -/
theorem exists_leastUnknown (hUnknown : ∃ permission ∈ wanted, ¬ state.Has .permission permission) :
    ∃ permission, LeastUnknown state wanted permission ∧
      ∀ other ∈ wanted, before other permission → state.permission? other ≠ none := by
  cases hFirst : wanted.toList.find? fun permission => (state.permission? permission).isNone with
  | none =>
      obtain ⟨permission, hWanted, hAbsent⟩ := hUnknown
      rw [not_has_permission_iff] at hAbsent
      exact absurd (Option.isNone_iff_eq_none.2 hAbsent)
        (List.find?_eq_none.1 hFirst permission hWanted)
  | some permission =>
      obtain ⟨hWanted, hAbsent, hLeast⟩ := OrderedSet.find?_toList_eq_some_iff.1 hFirst
      have hBefore : ∀ other ∈ wanted, before other permission → state.permission? other ≠ none :=
        fun other hOther hBefore => by simpa using hLeast other hOther hBefore
      refine ⟨permission, ⟨hWanted, not_has_permission_iff.2 (by simpa using hAbsent),
        fun other hOther hGone => ?_⟩, hBefore⟩
      rw [← Text.before_iff_toUtf8_lt]
      by_cases hAfter : before permission other = true
      · exact .inr hAfter
      · exact .inl
          (StrictOrder.before_total (fun hLess => hGone (hBefore other hOther hLess)) hAfter)

theorem setRolePermissions_of_unknown (hRole : state.Has .role id)
    (hUnknown : ∃ permission ∈ wanted, ¬ state.Has .permission permission) :
    ∃ permission, LeastUnknown state wanted permission ∧
      state.setRolePermissions id wanted = (.error (.missingPermission permission), state) := by
  obtain ⟨record, hFound⟩ := Option.ne_none_iff_exists'.1 hRole
  obtain ⟨permission, hPermission, hBefore⟩ := exists_leastUnknown hUnknown
  refine ⟨permission, hPermission, ?_⟩
  rw [State.setRolePermissions, hFound]
  exact replaceGrants_of_unknown hPermission.member
    (not_has_permission_iff.1 hPermission.absent) hBefore

theorem setRolePermissions_eq_ok_iff {shown : Role} {state' : State} :
    state.setRolePermissions id wanted = (.ok shown, state') ↔
      ∃ record, state.role? id = some record ∧
        (∀ permission ∈ wanted, state.Has .permission permission) ∧
        ((state.setGrants id wanted).bumpRole id).showRole record.bump = shown ∧
          (state.setGrants id wanted).bumpRole id = state' := by
  constructor
  · intro hDone
    by_cases hRole : state.Has .role id
    · by_cases hKnown : ∀ permission ∈ wanted, state.Has .permission permission
      · obtain ⟨record, hFound⟩ := Option.ne_none_iff_exists'.1 hRole
        rw [setRolePermissions_of_known hFound hKnown, Prod.mk.injEq, Except.ok.injEq] at hDone
        exact ⟨record, hFound, hKnown, hDone⟩
      · obtain ⟨permission, hUnknown⟩ := Classical.not_forall.1 hKnown
        obtain ⟨_, -, hFails⟩ :=
          setRolePermissions_of_unknown hRole ⟨permission, Classical.not_imp.1 hUnknown⟩
        rw [hFails] at hDone
        cases hDone
    · rw [setRolePermissions_of_absent hRole] at hDone
      cases hDone
  · rintro ⟨record, hFound, hKnown, rfl, rfl⟩
    exact setRolePermissions_of_known hFound hKnown

theorem replaceRolePermissions_of_expected {shown : Role} (hShown : state.getRole id = .ok shown) :
    state.replaceRolePermissions id shown.revision wanted = state.setRolePermissions id wanted := by
  obtain ⟨record, hFound, rfl⟩ := getRole_eq_ok_iff.1 hShown
  simp only [State.replaceRolePermissions, State.setRolePermissions, hFound]
  exact if_pos rfl

theorem replaceRolePermissions_of_unexpected {expected : Revision}
    (hMoved : ∀ shown, state.getRole id = .ok shown → shown.revision ≠ expected) :
    ∃ error, state.replaceRolePermissions id expected wanted = (.error error, state) := by
  unfold State.replaceRolePermissions
  cases hFound : state.role? id with
  | none => exact ⟨_, rfl⟩
  | some record => exact ⟨_, if_neg (hMoved _ (getRole_eq_ok_iff.2 ⟨record, hFound, rfl⟩))⟩

/-- To put the pairs in once more changes nothing. -/
theorem setGrants_setGrants (state : State) (id : Id) (wanted : IdSet) :
    (state.setGrants id wanted).setGrants id wanted = state.setGrants id wanted := by
  have hGrants : ((state.setGrants id wanted).setGrants id wanted).grants =
      (state.setGrants id wanted).grants := by
    apply OrderedSet.ext
    intro grant
    rw [State.mem_grants_setGrants, State.mem_grants_setGrants]
    by_cases hRole : grant.role = id <;> simp [hRole]
  exact congrArg (fun grants => ({ state with grants } : State)) hGrants

end Operation

section Exchange

variable {state : State} (hState : Coherent state) {id : Id} {record : RoleRecord} (wanted : IdSet)

include hState

/-- What can be seen of an exchange. -/
theorem Coherent.setReplaced (hFound : state.role? id = some record) :
    SetReplaced state ((state.setGrants id wanted).bumpRole id) id wanted where
  role := by
    refine ⟨has_role hFound, ?_⟩
    have hId := hState.roles.own_id id record hFound
    simp [State.getRole, hFound, Except.map, withSet, State.showRole, RoleRecord.bump, hId]
  roles _ hOther := hState.getRole_congr (by simp [hOther]) (by simp [hOther])
  permissions permission := by
    unfold State.getPermission
    rw [State.permission?_bumpRole, State.permission?_setGrants]
    cases state.permission? permission with
    | none => rfl
    | some record =>
        simp only [State.showPermission, State.roleIdsOf_bumpRole, State.roleIdsOf_setGrants]
        rfl
  records := rfl
  inventory := rfl

theorem Coherent.replacesSet (id : Id) : ReplacesSet state id wanted where
  succeeds_iff := by
    constructor
    · rintro ⟨shown, hDone⟩
      obtain ⟨record, hFound, hKnown, -⟩ := setRolePermissions_eq_ok_iff.1 (Prod.ext hDone rfl)
      exact ⟨has_role hFound, hKnown⟩
    · rintro ⟨hRole, hKnown⟩
      obtain ⟨record, hFound⟩ := Option.ne_none_iff_exists'.1 hRole
      exact ⟨_, congrArg Prod.fst (setRolePermissions_of_known hFound hKnown)⟩
  done shown state' hDone := by
    obtain ⟨record, hFound, -, rfl, rfl⟩ := setRolePermissions_eq_ok_iff.1 hDone
    exact ⟨hState.setReplaced wanted hFound,
      getRole_eq_ok_iff.2 ⟨record.bump, by simp [hFound], rfl⟩⟩
  again shown state' hDone := by
    obtain ⟨record, hFound, hKnown, rfl, rfl⟩ := setRolePermissions_eq_ok_iff.1 hDone
    have hFound' : ((state.setGrants id wanted).bumpRole id).role? id = some record.bump := by
      simp [hFound]
    have hSame : ((state.setGrants id wanted).bumpRole id).setGrants id wanted =
        (state.setGrants id wanted).bumpRole id :=
      congrArg (State.bumpRole · id) (setGrants_setGrants state id wanted)
    rw [setRolePermissions_of_known hFound' hKnown, hSame]
    rfl
  unknown := setRolePermissions_of_unknown
  expected := by
    rintro _ shown hShown rfl
    exact replaceRolePermissions_of_expected hShown
  unexpected _ := replaceRolePermissions_of_unexpected

end Exchange

end Rolebook.Memory
