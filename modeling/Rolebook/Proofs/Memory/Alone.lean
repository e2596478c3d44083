import Rolebook.Proofs.Memory.Coherence

/-!
# Scripts that have a store to themselves

While a script runs alone, nothing happens between its calls: each of them meets the state that the
one before it has left. What a script does then is a function of the state that it starts in
(`Alone.run`), and it can be followed call by call (`Alone.run_ask`).

What calls that look for a name find is said here by the records, whatever the order in which these
are gone through.
-/

namespace Rolebook.Memory

open Rolebook.Store (Call Error Script)

/-- A store that a script has to itself, with the moments of the calls to come. -/
structure Alone where
  state : State
  clock : Nat → Moment

namespace Alone

variable {α β : Type}

/-- The moment of the next call. -/
def moment (alone : Alone) : Moment :=
  alone.clock 0

/-- The answer to a call, and the store for the next one. -/
def perform (alone : Alone) (call : Call) : call.Answer × Alone :=
  let (answer, state) := alone.state.perform alone.moment call
  (answer, ⟨state, fun number => alone.clock (number + 1)⟩)

/-- The result of a script, and the store that it leaves. -/
def run (alone : Alone) (script : Script α) : α × Alone :=
  (script.run (m := StateM Alone) fun call alone => alone.perform call) alone

theorem run_ask (alone : Alone) (call : Call) (next : call.Answer → Script α) :
    alone.run (.ask call next) = (alone.perform call).2.run (next (alone.perform call).1) :=
  rfl

theorem run_bind (alone : Alone) (script : Script α) (next : α → Script β) :
    alone.run (script >>= next) = (alone.run script).2.run (next (alone.run script).1) := by
  induction script generalizing alone with
  | done result => rfl
  | ask call rest ih => exact ih (alone.perform call).1 (alone.perform call).2

/-- A script that starts in a coherent state ends in one. -/
theorem coherent_run {alone : Alone} (hState : Coherent alone.state) (script : Script α) :
    Coherent (alone.run script).2.state := by
  induction script generalizing alone with
  | done result => exact hState
  | ask call next ih => exact ih _ (hState.perform alone.moment call)

end Alone

/-! ## Records with a name -/

/-- The record under an identifier has a name. -/
def Named {α : Type} (name : α → String) (table : Table α) (wanted : String) (id : Id) : Prop :=
  ∃ record, table.find? id = some record ∧ name record = wanted

section Named

variable {α : Type} {id name : α → String} {table : Table α} {wanted : String}

theorem find?_values_eq_none_iff :
    (table.values.find? fun record => name record == wanted) = none ↔
      ∀ key, ¬ Named name table wanted key := by
  rw [List.find?_eq_none]
  constructor
  · rintro hNone key ⟨record, hFound, hName⟩
    exact hNone record (Table.mem_values.2 ⟨key, hFound⟩) (beq_iff_eq.2 hName)
  · intro hNone record hRecord hName
    obtain ⟨key, hFound⟩ := Table.mem_values.1 hRecord
    exact hNone key ⟨record, hFound, beq_iff_eq.1 hName⟩

/-- A record that is found by its name in an orderly table stands under its own identifier. -/
theorem Orderly.found_of_find?_values (hTable : Orderly id name table) {record : α}
    (hRecord : (table.values.find? fun record => name record == wanted) = some record) :
    table.find? (id record) = some record ∧ name record = wanted := by
  obtain ⟨key, hFound⟩ := Table.mem_values.1 (List.mem_of_find?_eq_some hRecord)
  have hName : name record = wanted := by simpa using List.find?_some hRecord
  obtain rfl := hTable.own_id key record hFound
  exact ⟨hFound, hName⟩

theorem Orderly.named_unique (hTable : Orderly id name table) {key key' : Id}
    (h : Named name table wanted key) (h' : Named name table wanted key') : key = key' := by
  obtain ⟨record, hFound, hName⟩ := h
  obtain ⟨record', hFound', hName'⟩ := h'
  exact hTable.name_unique key key' record record' hFound hFound' (hName.trans hName'.symm)

/-- A record has one name. -/
theorem Named.name_eq {wanted' : String} {key : Id} (h : Named name table wanted key)
    (h' : Named name table wanted' key) :
    wanted = wanted' := by
  obtain ⟨record, hFound, rfl⟩ := h
  obtain ⟨record', hFound', rfl⟩ := h'
  rw [Option.some.inj (hFound.symm.trans hFound')]

theorem nameTaken_none_iff :
    nameTaken id name table wanted none = true ↔ ∃ key, Named name table wanted key := by
  rw [nameTaken, List.any_eq_true]
  constructor
  · rintro ⟨record, hRecord, hTaken⟩
    obtain ⟨key, hFound⟩ := Table.mem_values.1 hRecord
    exact ⟨key, record, hFound, by simpa using hTaken⟩
  · rintro ⟨key, record, hFound, hName⟩
    exact ⟨record, Table.mem_values.2 ⟨key, hFound⟩, by simpa using hName⟩

end Named

section Lookup

variable {state : State} {wanted : String}

theorem getRoleByName_eq_none_iff :
    state.getRoleByName wanted = none ↔ ∀ id, ¬ Named RoleRecord.name state.roles wanted id := by
  rw [State.getRoleByName, Option.map_eq_none_iff, find?_values_eq_none_iff]

theorem getPermissionByName_eq_none_iff :
    state.getPermissionByName wanted = none ↔
      ∀ id, ¬ Named PermissionRecord.name state.permissions wanted id := by
  rw [State.getPermissionByName, Option.map_eq_none_iff, find?_values_eq_none_iff]

theorem Coherent.role_of_getRoleByName (hState : Coherent state) {role : Role}
    (hRole : state.getRoleByName wanted = some role) :
    ∃ record, state.role? role.id = some record ∧ record.name = wanted ∧
      state.showRole record = role := by
  obtain ⟨record, hRecord, rfl⟩ := Option.map_eq_some_iff.1 hRole
  obtain ⟨hFound, hName⟩ := hState.roles.found_of_find?_values hRecord
  exact ⟨record, hFound, hName, rfl⟩

theorem Coherent.permission_of_getPermissionByName (hState : Coherent state)
    {permission : Permission} (hPermission : state.getPermissionByName wanted = some permission) :
    Named PermissionRecord.name state.permissions wanted permission.id := by
  obtain ⟨record, hRecord, rfl⟩ := Option.map_eq_some_iff.1 hPermission
  obtain ⟨hFound, hName⟩ := hState.permissions.found_of_find?_values hRecord
  exact ⟨record, hFound, hName⟩

/-! ## New names -/

variable (moment : Moment) {name : String} (description : Option String)

theorem createPermission_refused
    (hName : Text.trim name = "" ∨
      ∃ id, Named PermissionRecord.name state.permissions (Text.trim name) id) :
    ∃ error, state.createPermission moment name description = (.error error, state) := by
  rw [State.createPermission, keptName_eq]
  by_cases hBlank : Text.trim name = ""
  · rw [if_pos hBlank]
    exact ⟨_, rfl⟩
  · have hTaken : state.permissionNameTaken (Text.trim name) none = true :=
      nameTaken_none_iff.2 (hName.resolve_left hBlank)
    rw [if_neg hBlank]
    exact ⟨_, if_pos hTaken⟩

theorem createPermission_done (hName : Text.trim name ≠ "")
    (hFree : ∀ id, ¬ Named PermissionRecord.name state.permissions (Text.trim name) id) :
    ∃ shown, state.createPermission moment name description =
      (.ok shown, state.addPermission (.new moment (Text.trim name) description)) := by
  have hFree' : ¬ state.permissionNameTaken (Text.trim name) none = true := by
    intro hTaken
    obtain ⟨id, hNamed⟩ := nameTaken_none_iff.1 hTaken
    exact hFree id hNamed
  rw [State.createPermission, keptName_eq, if_neg hName]
  exact ⟨_, if_neg hFree'⟩

theorem createRole_refused
    (hName : Text.trim name = "" ∨ ∃ id, Named RoleRecord.name state.roles (Text.trim name) id) :
    ∃ error, state.createRole moment name = (.error error, state) := by
  rw [State.createRole, keptName_eq]
  by_cases hBlank : Text.trim name = ""
  · rw [if_pos hBlank]
    exact ⟨_, rfl⟩
  · have hTaken : state.roleNameTaken (Text.trim name) none = true :=
      nameTaken_none_iff.2 (hName.resolve_left hBlank)
    rw [if_neg hBlank]
    exact ⟨_, if_pos hTaken⟩

theorem createRole_done (hName : Text.trim name ≠ "")
    (hFree : ∀ id, ¬ Named RoleRecord.name state.roles (Text.trim name) id) :
    ∃ shown, state.createRole moment name =
      (.ok shown, state.addRole (.new moment (Text.trim name))) := by
  have hFree' : ¬ state.roleNameTaken (Text.trim name) none = true := by
    intro hTaken
    obtain ⟨id, hNamed⟩ := nameTaken_none_iff.1 hTaken
    exact hFree id hNamed
  rw [State.createRole, keptName_eq, if_neg hName]
  exact ⟨_, if_neg hFree'⟩

end Lookup

end Rolebook.Memory
