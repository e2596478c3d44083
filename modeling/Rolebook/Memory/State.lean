import Rolebook.Record.Table
import Rolebook.Store.Inventory

/-!
# State of a store in memory

Records of permissions and roles, and the pairs of a role and a permission that it grants. What is
shown of an entity is put together from its record and the pairs each time it is read.
-/

namespace Rolebook.Memory

open Rolebook.Store (Inventory)

/-- What is kept of a permission. -/
structure PermissionRecord where
  id : Id
  name : String
  description : Option String
  createdAt : Instant
deriving DecidableEq, Repr

/-- What is kept of a role. -/
structure RoleRecord where
  id : Id
  name : String
  createdAt : Instant
  revision : Revision
deriving DecidableEq, Repr

/-- A role grants a permission. -/
structure Grant where
  role : Id
  permission : Id
deriving DecidableEq, Repr

/-- Grants are ordered by role, those of one role by permission. -/
instance : StrictOrder Grant where
  before a b := before a.role b.role || (a.role == b.role && before a.permission b.permission)
  before_trans := by
    intro a b c h h'
    simp only [Bool.or_eq_true, Bool.and_eq_true, beq_iff_eq] at h h' ⊢
    rcases h with h | ⟨h, h2⟩ <;> rcases h' with h' | ⟨h', h2'⟩
    · exact .inl (StrictOrder.before_trans h h')
    · exact .inl (h' ▸ h)
    · exact .inl (h ▸ h')
    · exact .inr ⟨h.trans h', StrictOrder.before_trans h2 h2'⟩
  not_before_self a := by
    simp [StrictOrder.not_before_self]
  before_total := by
    intro a b h h'
    simp only [Bool.or_eq_true, Bool.and_eq_true, beq_iff_eq, not_or, not_and] at h h'
    have hr : a.role = b.role := StrictOrder.before_total h.1 h'.1
    have hp : a.permission = b.permission := StrictOrder.before_total (h.2 hr) (h'.2 hr.symm)
    cases a; cases b; simp_all

/-- Whether a record has this name, other than the one with the identifier given. -/
def nameTaken (id name : α → String) (records : Table α) (wanted : String) (except : Option Id) :
    Bool :=
  records.values.any fun record => name record == wanted && some (id record) != except

/-- The state of a store in memory. -/
structure State where
  permissions : Table PermissionRecord
  roles : Table RoleRecord
  grants : OrderedSet Grant
  /-- The numbers of permissions and roles when one was last created or deleted. -/
  inventory : Option Inventory
deriving DecidableEq

namespace State

/-- The store without any entities. -/
def empty : State :=
  ⟨∅, ∅, ∅, none⟩

variable (state : State)

/-- The record of the permission with an identifier. -/
def permission? (id : Id) : Option PermissionRecord :=
  state.permissions.find? id

/-- The record of the role with an identifier. -/
def role? (id : Id) : Option RoleRecord :=
  state.roles.find? id

/-- The permissions that a role grants. -/
def permissionIdsOf (role : Id) : IdSet :=
  .ofList ((state.grants.toList.filter fun grant => grant.role == role).map Grant.permission)

/-- The roles of the pairs that a permission is in, in the order of the pairs. -/
def holders (permission : Id) : List Id :=
  (state.grants.toList.filter fun grant => grant.permission == permission).map Grant.role

/-- The roles that grant a permission. -/
def roleIdsOf (permission : Id) : IdSet :=
  .ofList (state.holders permission)

/-- A permission as it is shown. -/
def showPermission (record : PermissionRecord) : Permission :=
  ⟨record.id, record.name, record.description, record.createdAt, state.roleIdsOf record.id⟩

/-- A role as it is shown. -/
def showRole (record : RoleRecord) : Role :=
  ⟨record.id, record.name, record.createdAt, state.permissionIdsOf record.id, record.revision⟩

/-- Whether a permission has this name, other than the one with the identifier given. -/
def permissionNameTaken (name : String) (except : Option Id) : Bool :=
  nameTaken PermissionRecord.id PermissionRecord.name state.permissions name except

/-- Whether a role has this name, other than the one with the identifier given. -/
def roleNameTaken (name : String) (except : Option Id) : Bool :=
  nameTaken RoleRecord.id RoleRecord.name state.roles name except

/-- The state with its present numbers of permissions and roles made known. -/
def counted : State :=
  { state with inventory := some ⟨state.permissions.size, state.roles.size⟩ }

variable {state : State} {role permission : Id}

theorem mem_holders : role ∈ state.holders permission ↔ ⟨role, permission⟩ ∈ state.grants := by
  show role ∈ (state.grants.toList.filter _).map Grant.role ↔ _ ∈ state.grants.toList
  simp only [List.mem_map, List.mem_filter, beq_iff_eq]
  constructor
  · rintro ⟨⟨_, _⟩, ⟨hGrant, rfl⟩, rfl⟩
    exact hGrant
  · intro hGrant
    exact ⟨_, ⟨hGrant, rfl⟩, rfl⟩

theorem mem_roleIdsOf : role ∈ state.roleIdsOf permission ↔ ⟨role, permission⟩ ∈ state.grants :=
  OrderedSet.mem_ofList.trans mem_holders

theorem mem_permissionIdsOf :
    permission ∈ state.permissionIdsOf role ↔ ⟨role, permission⟩ ∈ state.grants := by
  rw [permissionIdsOf, OrderedSet.mem_ofList]
  show _ ↔ _ ∈ state.grants.toList
  simp only [List.mem_map, List.mem_filter, beq_iff_eq]
  constructor
  · rintro ⟨⟨_, _⟩, ⟨hGrant, rfl⟩, rfl⟩
    exact hGrant
  · intro hGrant
    exact ⟨_, ⟨hGrant, rfl⟩, rfl⟩

/-- No role is named twice among those of the pairs that one permission is in. -/
theorem nodup_holders (state : State) (permission : Id) : (state.holders permission).Nodup := by
  unfold holders
  rw [List.Nodup, List.pairwise_map]
  -- two pairs with this permission and one role would be the same pair, but no pair is there twice
  refine (state.grants.ascending.filter _).imp_of_mem ?_
  intro a b ha hb hBefore hRole
  have hPermission : a.permission = b.permission := by
    rw [eq_of_beq (List.mem_filter.1 ha).2, eq_of_beq (List.mem_filter.1 hb).2]
  obtain rfl : a = b := by
    cases a; cases b; simp_all
  exact StrictOrder.not_before_self a hBefore

end State

end Rolebook.Memory
