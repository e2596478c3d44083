import Mathlib.Logic.Relation
import Rolebook.Demo
import Rolebook.Proofs.Memory.ByName

/-!
# The changes that seeding makes

Seeding changes a store in three ways only: it makes a demonstration permission whose name is free,
it makes a demonstration role whose name is free, or it gives a demonstration role the set that this
should have (`Advance`). All that is said of a seeding, whether it has come to its end or not, is
derived from this.

An advance leaves it open which state the seeding comes to but for identifiers and times
(`Advance.seeded_byName`), and there is none where the demonstration data are complete
(`Settled.eq_of_path`). It keeps the permissions that are there, and each role either as it was or
with the set of its demonstration permissions one revision on, and this once only
(`roleOutcome_of_path`).
-/

namespace Rolebook.Demo

open Relation (ReflTransGen)
open Rolebook.Memory

/-! ## The demonstration data -/

theorem kept_of_mem_permissions {name description : String}
    (hDemo : (name, description) ∈ permissions) :
    name ≠ "" ∧ Text.trim name = name :=
  (by decide +kernel : ∀ entry ∈ permissions, entry.1 ≠ "" ∧ Text.trim entry.1 = entry.1)
  (name, description) hDemo

theorem kept_of_mem_roles {name : String} {names : List String} (hDemo : (name, names) ∈ roles) :
    name ≠ "" ∧ Text.trim name = name :=
  (by decide +kernel : ∀ entry ∈ roles, entry.1 ≠ "" ∧ Text.trim entry.1 = entry.1)
  (name, names) hDemo

theorem lookup_permissions_iff {name description : String} :
    permissions.lookup name = some description ↔ (name, description) ∈ permissions :=
  @Table.find?_eq_some_iff _ ⟨permissions, by decide⟩ name description

theorem lookup_roles_iff {name : String} {names : List String} :
    roles.lookup name = some names ↔ (name, names) ∈ roles :=
  @Table.find?_eq_some_iff _ ⟨roles, by decide⟩ name names

/-- There is one set for each role. -/
theorem names_unique {name : String} {names names' : List String} (hDemo : (name, names) ∈ roles)
    (hDemo' : (name, names') ∈ roles) : names = names' :=
  Option.some.inj ((lookup_roles_iff.2 hDemo).symm.trans (lookup_roles_iff.2 hDemo'))

theorem mem_permissions_of_mem_roles {name : String} {names : List String}
    (hDemo : (name, names) ∈ roles) :
    ∀ permission ∈ names, permission ∈ permissions.map Prod.fst :=
  (by decide : ∀ entry ∈ roles, ∀ permission ∈ entry.2, permission ∈ permissions.map Prod.fst)
  (name, names) hDemo

/-! ## Advances -/

/-- One change that seeding makes. -/
inductive Advance (state : State) : State → Prop
  | permission {name description : String} (moment : Moment)
      (hDemo : (name, description) ∈ permissions)
      (hFree : ∀ id, ¬ Named PermissionRecord.name state.permissions name id)
      (hNew : state.permission? moment.newId = none) :
      Advance state (state.addPermission (.new moment name (some description)))
  | role {name : String} {names : List String} (moment : Moment) (hDemo : (name, names) ∈ roles)
      (hFree : ∀ id, ¬ Named RoleRecord.name state.roles name id)
      (hNew : state.role? moment.newId = none) :
      Advance state (state.addRole (.new moment name))
  | grants {record : RoleRecord} {names : List String} {wanted : IdSet}
      (hDemo : (record.name, names) ∈ roles)
      (hFound : state.role? record.id = some record) (hWanted : IdsOf state names wanted)
      (hDiffers : state.permissionIdsOf record.id ≠ wanted) :
      Advance state ((state.setGrants record.id wanted).bumpRole record.id)

section Advance

variable {state after : State}

theorem Advance.coherent (h : Advance state after) (hState : Coherent state) : Coherent after := by
  cases h with
  | permission moment hDemo hFree hNew =>
      refine hState.addPermission ?_ (kept_of_mem_permissions hDemo)
      rw [← Bool.not_eq_true, State.permissionNameTaken, nameTaken_none_iff, not_exists]
      exact hFree
  | role moment hDemo hFree hNew =>
      refine hState.addRole ?_ (kept_of_mem_roles hDemo)
      rw [← Bool.not_eq_true, State.roleNameTaken, nameTaken_none_iff, not_exists]
      exact hFree
  | grants hDemo hFound hWanted hDiffers => exact hState.rewriteGrants hFound fun _ => hWanted.known

theorem coherent_of_path (hPath : ReflTransGen Advance state after) (hState : Coherent state) :
    Coherent after := by
  induction hPath with
  | refl => exact hState
  | tail _ hAdvance ih => exact hAdvance.coherent ih

theorem Advance.keepsPermissions (h : Advance state after) : KeepsPermissions state after := by
  intro id record hRecord
  cases h with
  | permission moment hDemo hFree hNew =>
      rw [State.permission?_addPermission, if_neg, hRecord]
      rintro rfl
      exact nomatch hNew.symm.trans hRecord
  | role moment hDemo hFree hNew => exact hRecord
  | grants hDemo hFound hWanted hDiffers => exact hRecord

theorem keepsPermissions_of_path (hPath : ReflTransGen Advance state after) :
    KeepsPermissions state after := by
  induction hPath with
  | refl => exact fun _ _ hRecord => hRecord
  | tail _ hAdvance ih =>
      exact fun id record hRecord => hAdvance.keepsPermissions id record (ih id record hRecord)

/-! ## What seeding comes to -/

/-- What seeding makes of what there is under the name of a permission: it is as it was, or if there
was none then it is the demonstration permission of this name, if there is one. -/
def seededPermission (name : String) (description? : Option (Option String)) :
    Option (Option String) :=
  description? <|> (permissions.lookup name).map some

/-- What seeding makes of what there is under the name of a role: it is as it was, or for the name
of a demonstration role it has the set that this should have, and has moved on to its next revision
if it had another one. A role that is made for it starts without permissions. -/
def seededRole (name : String) (former? : Option (Revision × OrderedSet String)) :
    Option (Revision × OrderedSet String) :=
  match roles.lookup name with
  | none => former?
  | some names =>
    let (revision, set) := former?.getD (0, ∅)
    some (if set = .ofList names then revision else revision + 1, .ofList names)

/-- What seeding makes of what there is under all names. -/
def seeded (state : ByName) : ByName where
  permissions name := seededPermission name (state.permissions name)
  roles name := seededRole name (state.roles name)

theorem seededRole_of_demo {name : String} {names : List String} (hDemo : (name, names) ∈ roles)
    (revision : Revision) (set : OrderedSet String) :
    seededRole name (some (revision, set)) =
      some (if set = .ofList names then revision else revision + 1, .ofList names) := by
  rw [seededRole, lookup_roles_iff.2 hDemo]
  rfl

/-- An advance is a part of the way to what seeding comes to, and it does not lead off this way. -/
theorem Advance.seeded_byName (h : Advance state after) (hState : Coherent state) :
    seeded after.byName = seeded state.byName := by
  have hAfter := h.coherent hState
  cases h with
  | @permission name description moment hDemo hFree hNew =>
      refine ByName.ext (fun other => ?_) fun other => ?_
      · show seededPermission other _ = seededPermission other _
        rw [hState.byName_permissions_addPermission hAfter hNew hFree]
        split
        · next hOther =>
            obtain rfl : other = name := hOther
            rw [byName_permissions_eq_none_iff.2 hFree, seededPermission, seededPermission,
              lookup_permissions_iff.2 hDemo]
            rfl
        · rfl
      · show seededRole other _ = seededRole other _
        rw [hState.byName_roles_addPermission hAfter hNew]
  | @role name names moment hDemo hFree hNew =>
      refine ByName.ext (fun other => rfl) fun other => ?_
      show seededRole other _ = seededRole other _
      rw [hState.byName_roles_addRole hAfter hNew hFree]
      split
      · next hOther =>
          obtain rfl : other = name := hOther
          rw [byName_roles_eq_none_iff.2 hFree, seededRole, seededRole, lookup_roles_iff.2 hDemo]
          rfl
      · rfl
  | @grants record names wanted hDemo hFound hWanted hDiffers =>
      refine ByName.ext (fun other => ?_) fun other => ?_
      · show seededPermission other _ = seededPermission other _
        rw [hState.byName_permissions_rewrite hAfter]
      · show seededRole other _ = seededRole other _
        rw [hState.byName_roles_rewrite hAfter hFound]
        split
        · next hOther =>
            subst hOther
            -- the role had another set, so its revision is the next one before and after
            have hBefore : state.byName.roles record.name =
                some (record.revision, state.namesOf (state.permissionIdsOf record.id)) :=
              hState.byName_roles_eq_some_iff.2 ⟨record, hFound, rfl, rfl⟩
            have hNames : state.namesOf (state.permissionIdsOf record.id) ≠ .ofList names := by
              intro hSame
              have hSet := hState.idsOf_of_namesOf (fun _ => hState.permission_of_granted) hSame
              exact hDiffers (hSet.unique hWanted)
            rw [hBefore, seededRole_of_demo hDemo, seededRole_of_demo hDemo, hWanted.namesOf_eq,
              if_pos rfl, if_neg hNames]
        · rfl

theorem seeded_byName_of_path (hPath : ReflTransGen Advance state after) (hState : Coherent state) :
    seeded after.byName = seeded state.byName := by
  induction hPath with
  | refl => rfl
  | tail hEarlier hAdvance ih =>
      exact (hAdvance.seeded_byName (coherent_of_path hEarlier hState)).trans ih

end Advance

/-! ## Complete data -/

/-- There is a permission of this name. -/
def HasPermission (name : String) (state : State) : Prop :=
  ∃ id, Named PermissionRecord.name state.permissions name id

/-- There is a role of this name, and it grants the permissions with these names. -/
def HasRole (name : String) (names : List String) (state : State) : Prop :=
  ∃ id role, state.getRole id = .ok role ∧ role.name = name ∧ IdsOf state names role.permissionIds

/-- All demonstration permissions are there. -/
def HasPermissions (state : State) : Prop :=
  ∀ entry ∈ permissions, HasPermission entry.1 state

/-- All demonstration data are there. -/
structure Settled (state : State) : Prop where
  hasPermissions : HasPermissions state
  hasRoles : ∀ entry ∈ roles, HasRole entry.1 entry.2 state

section Settled

variable {state after : State}

theorem Settled.idsOf (h : Settled state) (hState : Coherent state) {id : Id} {role : Role}
    {names : List String} (hShown : state.getRole id = .ok role)
    (hDemo : (role.name, names) ∈ roles) : IdsOf state names role.permissionIds := by
  obtain ⟨_, other, hOther, hName, hSet⟩ := h.hasRoles _ hDemo
  rwa [hState.role_unique hOther hShown hName] at hSet

theorem Settled.not_advance (h : Settled state) (hState : Coherent state) :
    ¬ Advance state after := by
  intro hAdvance
  cases hAdvance with
  | permission moment hDemo hFree hNew =>
      obtain ⟨id, hNamed⟩ := h.hasPermissions _ hDemo
      exact hFree id hNamed
  | role moment hDemo hFree hNew =>
      obtain ⟨id, role, hShown, hName, -⟩ := h.hasRoles _ hDemo
      obtain ⟨record, hFound, rfl⟩ := getRole_eq_ok_iff.1 hShown
      exact hFree id ⟨record, hFound, hName⟩
  | grants hDemo hFound hWanted hDiffers =>
      have hSet := h.idsOf hState (getRole_eq_ok_iff.2 ⟨_, hFound, rfl⟩) hDemo
      exact hDiffers (hSet.unique hWanted)

theorem Settled.eq_of_path (h : Settled state) (hState : Coherent state)
    (hPath : ReflTransGen Advance state after) :
    after = state := by
  rcases ReflTransGen.cases_head hPath with hSame | ⟨between, hAdvance, -⟩
  · exact hSame.symm
  · exact absurd hAdvance (h.not_advance hState)

theorem Settled.seeded_byName (h : Settled state) (hState : Coherent state) :
    seeded state.byName = state.byName := by
  refine ByName.ext (fun name => ?_) fun name => ?_
  · show seededPermission name _ = _
    cases hHere : state.byName.permissions name with
    | some description => rfl
    | none =>
        cases hLookup : permissions.lookup name with
        | none => rw [seededPermission, hLookup]; rfl
        | some description =>
            obtain ⟨id, hNamed⟩ := h.hasPermissions _ (lookup_permissions_iff.1 hLookup)
            exact absurd hNamed (byName_permissions_eq_none_iff.1 hHere id)
  · show seededRole name _ = _
    cases hLookup : roles.lookup name with
    | none => rw [seededRole, hLookup]
    | some names =>
        have hDemo : (name, names) ∈ roles := lookup_roles_iff.1 hLookup
        obtain ⟨id, role, hShown, hName, hSet⟩ := h.hasRoles _ hDemo
        obtain ⟨record, hFound, rfl⟩ := getRole_eq_ok_iff.1 hShown
        obtain rfl := hState.roles.own_id id record hFound
        have hHere : state.byName.roles name = some (record.revision, .ofList names) :=
          hState.byName_roles_eq_some_iff.2
            ⟨record, hFound, hName, congrArg (Prod.mk record.revision) hSet.namesOf_eq⟩
        rw [hHere, seededRole_of_demo hDemo, if_pos rfl]

end Settled

/-! ## What becomes of a role -/

/-- What becomes of a role in a seeding: it is as it was, or it is a demonstration role that did not
have the set that it should have, and now it has this set and is one revision on. -/
inductive RoleOutcome (state after : State) (id : Id) (role : Role) : Prop
  | kept (hKept : after.getRole id = .ok role)
  | reset {names : List String} {wanted : IdSet} (hDemo : (role.name, names) ∈ roles)
      (hDiffered : ¬ IdsOf state names role.permissionIds) (hWanted : IdsOf after names wanted)
      (hReset : after.getRole id = .ok (withSet wanted role))

section RoleOutcome

variable {state after : State} {id : Id} {role : Role}

/-- An advance leaves a role as it is, or it gives it the set that it should have. -/
theorem Advance.role_cases (h : Advance state after) (hState : Coherent state)
    (hRole : state.getRole id = .ok role) :
    after.getRole id = .ok role ∨
      ∃ names wanted, (role.name, names) ∈ roles ∧ IdsOf state names wanted ∧
        role.permissionIds ≠ wanted ∧
        after.getRole id = .ok (withSet wanted role) := by
  cases h with
  | permission moment hDemo hFree hNew => exact .inl hRole
  | role moment hDemo hFree hNew =>
      left
      rw [← hRole]
      refine hState.getRole_congr ?_ rfl
      rw [State.role?_addRole, if_neg]
      rintro rfl
      obtain ⟨record, hFound, -⟩ := getRole_eq_ok_iff.1 hRole
      exact nomatch hNew.symm.trans hFound
  | @grants record names wanted hDemo hFound hWanted hDiffers =>
      have hReplaced := hState.setReplaced wanted hFound
      by_cases hSame : id = record.id
      · obtain rfl : state.showRole record = role :=
          Except.ok.inj ((getRole_eq_ok_iff.2 ⟨record, hFound, rfl⟩).symm.trans (hSame ▸ hRole))
        refine .inr ⟨names, wanted, hDemo, hWanted, hDiffers, ?_⟩
        rw [hSame, hReplaced.role.2, ← hSame, hRole]
        rfl
      · exact .inl ((hReplaced.roles id hSame).trans hRole)

/-- A role is given the set that it should have at most once. -/
theorem roleOutcome_of_path (hPath : ReflTransGen Advance state after) (hState : Coherent state)
    (hRole : state.getRole id = .ok role) : RoleOutcome state after id role := by
  induction hPath with
  | refl => exact .kept hRole
  | @tail between after hEarlier hAdvance ih =>
      have hBetween := coherent_of_path hEarlier hState
      have hKeeps := keepsPermissions_of_path hEarlier
      cases ih with
      | kept hKept =>
          rcases hAdvance.role_cases hBetween hKept with hSame |
            ⟨names, wanted, hDemo, hWanted, hDiffers, hReset⟩
          · exact .kept hSame
          · refine .reset hDemo (fun hBefore => hDiffers ?_)
              (hWanted.later hAdvance.keepsPermissions (hAdvance.coherent hBetween)) hReset
            exact (hBefore.later hKeeps hBetween).unique hWanted
      | reset hDemo hDiffered hWanted hReset =>
          rcases hAdvance.role_cases hBetween hReset with hSame |
            ⟨names, again, hDemo', hWanted', hDiffers, -⟩
          · exact .reset hDemo hDiffered
              (hWanted.later hAdvance.keepsPermissions (hAdvance.coherent hBetween)) hSame
          · -- it has this set by now
            obtain rfl := names_unique hDemo hDemo'
            exact absurd (hWanted.unique hWanted') hDiffers

end RoleOutcome

end Rolebook.Demo
