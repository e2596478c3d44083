import Mathlib.Data.List.Find
import Mathlib.Data.List.TakeWhile
import Rolebook.Proofs.Relational.Mirror

/-!
# Dialogues that agree with operations in memory

`Carries` says what comes of an attempt if nothing goes wrong, and which state in memory the tables
mirror then. With one rule for each way in which attempts are built, each dialogue is gone through
request by request, next to the operation that it has to agree with.
-/

namespace Rolebook.Relational

open Rolebook.Store (Error Call Inventory)
open Rolebook.Memory (State PermissionRecord RoleRecord Coherent NewIdUnused keptName)

/-! ## Kept names -/

theorem isClean_of_kept {kind : EntityKind} {name kept : String}
    (hKept : keptName kind name = .ok kept) (hClean : IsClean name) : IsClean kept := by
  intro hNul
  rw [Memory.kept_eq_trim hKept, Text.trim, String.toList_ofList, Text.trimBlanks, List.mem_reverse]
    at hNul
  have hStart := (List.dropWhile_sublist _).subset hNul
  rw [List.mem_reverse] at hStart
  exact hClean ((List.dropWhile_sublist _).subset hStart)

/-- What is left of a name is never refused by the check on names: it is not made of spaces only. -/
theorem not_refused_of_kept {kind : EntityKind} {name kept : String}
    (hKept : keptName kind name = .ok kept) :
    isRefusedName kept = false := by
  obtain ⟨hSome, hTrimmed⟩ := Memory.kept_of_keptName hKept
  cases hRefused : isRefusedName kept with
  | false => rfl
  | true =>
      have hBlank : ∀ c ∈ kept.toList, Text.isBlank c = true := by
        intro c hc
        obtain rfl := eq_of_beq (List.all_eq_true.1 hRefused c hc)
        decide
      have hNothing : Text.trimBlanks kept.toList = [] := by
        rw [Text.trimBlanks, List.dropWhile_eq_nil_iff.2 hBlank]
        rfl
      rw [Text.trim, hNothing] at hTrimmed
      exact absurd hTrimmed.symm hSome

/-! ## Attempts that agree with an operation in memory -/

/-- A server that nothing goes wrong with and whose statements see these tables, in a transaction
over other tables or outside of any. -/
def serving : Option Tables → Tables → Server
  | none, tables => .ofTables tables []
  | some committed, tables => .inside committed tables

theorem calm_serving (committed : Option Tables) (tables : Tables) :
    (serving committed tables).Calm := by
  cases committed <;> exact ⟨rfl, rfl⟩

theorem visible_serving (committed : Option Tables) (tables : Tables) :
    (serving committed tables).visible = tables := by
  cases committed <;> rfl

theorem withVisible_serving (committed : Option Tables) (tables tables' : Tables) :
    (serving committed tables).withVisible tables' = serving committed tables' := by
  cases committed <;> rfl

/-- From these tables, an attempt comes to an outcome and to tables that mirror a state. -/
def Carries {α : Type} (committed : Option Tables) (now : Instant) (tables : Tables)
    (attempt : Attempt α) (outcome : Except Error α) (state : State) : Prop :=
  ∃ tables', Mirrors tables' state ∧
    (serving committed tables).attempt now attempt = (outcome, serving committed tables')

namespace Carries

variable {α β : Type} {committed : Option Tables} {now : Instant} {tables tables' : Tables}
  {state state' : State}

protected theorem pure (hMirrors : Mirrors tables state) (a : α) :
    Carries committed now tables (pure a) (.ok a) state :=
  ⟨tables, hMirrors, Server.attempt_pure a⟩

protected theorem throw (hMirrors : Mirrors tables state) (error : Error) :
    Carries committed now tables (throw error : Attempt α) (.error error) state :=
  ⟨tables, hMirrors, Server.attempt_throw error⟩

theorem bind_ok {first : Attempt α} {next : α → Attempt β} {a : α} {outcome : Except Error β}
    (hFirst : Carries committed now tables first (.ok a) state')
    (hNext : ∀ tables', Mirrors tables' state' →
      Carries committed now tables' (next a) outcome state) :
    Carries committed now tables (first >>= next) outcome state := by
  obtain ⟨between, hBetween, hFirst⟩ := hFirst
  obtain ⟨tables', hMirrors', hNext⟩ := hNext between hBetween
  exact ⟨tables', hMirrors', (Server.attempt_bind_ok hFirst).trans hNext⟩

theorem bind_error {first : Attempt α} {next : α → Attempt β} {error : Error}
    (hFirst : Carries committed now tables first (.error error) state) :
    Carries committed now tables (first >>= next) (.error error) state := by
  obtain ⟨tables', hMirrors', hFirst⟩ := hFirst
  exact ⟨tables', hMirrors', Server.attempt_bind_error hFirst⟩

/-- What comes of an attempt is only put into another form. -/
protected theorem map {first : Attempt α} {outcome : Except Error α}
    (hFirst : Carries committed now tables first outcome state) (f : α → β) :
    Carries committed now tables (first >>= fun a => Pure.pure (f a)) (outcome.map f) state := by
  cases outcome with
  | error error => exact hFirst.bind_error
  | ok a => exact hFirst.bind_ok fun _ hMirrors => .pure hMirrors (f a)

/-- An entity comes with numbers that are made known. -/
theorem announce {first : Attempt (α × Inventory)} {outcome : Except Error α}
    {inventory : Inventory}
    (hFirst : Carries committed now tables first (outcome.map fun a => (a, inventory)) state) :
    Carries committed now tables
      (do
        let (a, inventory) ← first
        return (a, some inventory))
      (outcome.map fun a => (a, some inventory)) state := by
  cases outcome with
  | error error => exact hFirst.bind_error
  | ok a => exact hFirst.bind_ok fun _ hMirrors => .pure hMirrors (a, some inventory)

/-- Nothing but numbers that are made known comes of an attempt. -/
theorem announceOnly {first : Attempt Inventory} {outcome : Except Error Unit}
    {inventory : Inventory}
    (hFirst : Carries committed now tables first (outcome.map fun _ => inventory) state) :
    Carries committed now tables
      (do
        return ((), some (← first)))
      (outcome.map fun a => (a, some inventory)) state := by
  cases outcome with
  | error error => exact hFirst.bind_error
  | ok a => exact hFirst.bind_ok fun _ hMirrors => .pure hMirrors ((), some inventory)

section Statement

variable {statement : Statement} {error : DatabaseError} {taken : Error}

protected theorem query {value : statement.Value} (hClean : ∀ text ∈ statement.texts, IsClean text)
    (hDone : tables.execute now statement = .ok (value, tables'))
    (hMirrors' : Mirrors tables' state') :
    Carries committed now tables (Relational.query statement) (.ok value) state' := by
  rw [← execute_of_clean hClean, ← visible_serving committed tables] at hDone
  have hSent := Server.attempt_query (calm_serving committed tables) hDone
  rw [withVisible_serving] at hSent
  exact ⟨tables', hMirrors', hSent⟩

/-- A statement that finds what is found in memory and changes nothing. -/
protected theorem read {found value : statement.Value}
    (hClean : ∀ text ∈ statement.texts, IsClean text) (hFound : found = value)
    (hReads : tables.execute now statement = .ok (found, tables))
    (hMirrors : Mirrors tables state) :
    Carries committed now tables (Relational.query statement) (.ok value) state :=
  .query hClean (hFound ▸ hReads) hMirrors

protected theorem queryUnique {value : statement.Value}
    (hClean : ∀ text ∈ statement.texts, IsClean text)
    (hDone : tables.execute now statement = .ok (value, tables'))
    (hMirrors' : Mirrors tables' state') :
    Carries committed now tables (Relational.queryUnique statement taken) (.ok value) state' := by
  rw [← execute_of_clean hClean, ← visible_serving committed tables] at hDone
  have hSent : (serving committed tables).attempt now (Relational.queryUnique statement taken) =
      _ :=
    Server.attempt_queryUnique_ok (calm_serving committed tables) hDone
  rw [withVisible_serving] at hSent
  exact ⟨tables', hMirrors', hSent⟩

theorem queryUnique_taken (hClean : ∀ text ∈ statement.texts, IsClean text)
    (hFails : tables.execute now statement = .error error)
    (hCode : error.code = DatabaseError.uniqueViolation) (hMirrors : Mirrors tables state) :
    Carries committed now tables (Relational.queryUnique statement taken) (.error taken) state := by
  rw [← execute_of_clean hClean, ← visible_serving committed tables] at hFails
  exact ⟨tables, hMirrors,
    Server.attempt_queryUnique_taken (calm_serving committed tables) hFails hCode⟩

end Statement

/-- If no row was touched then an entity is missing, and otherwise it goes on. -/
theorem missing {rest : Attempt α} {error : Error} (hMirrors : Mirrors tables state) :
    Carries committed now tables
      (do
        if 0 = 0 then
          throw error
        rest)
      (.error error) state :=
  .bind_error (.throw hMirrors error)

theorem touched {rest : Attempt α} {outcome : Except Error α} {error : Error} {rows : Nat}
    (hRows : rows ≠ 0) (hRest : Carries committed now tables rest outcome state) :
    Carries committed now tables
      (do
        if rows = 0 then
          throw error
        rest)
      outcome state := by
  rw [if_neg hRows]
  exact hRest

protected theorem keepName (hMirrors : Mirrors tables state) (kind : EntityKind) (name : String) :
    Carries committed now tables (Relational.keepName kind name) (keptName kind name) state :=
  ⟨tables, hMirrors, Server.attempt_keepName kind name⟩

theorem inTransaction_ok {body : Attempt α} {a : α}
    (hBody : Carries (some tables) now tables body (.ok a) state') :
    Carries none now tables (inTransaction body) (.ok a) state' := by
  obtain ⟨tables', hMirrors', hBody⟩ := hBody
  exact ⟨tables', hMirrors', Server.attempt_inTransaction_ok hBody⟩

/-- A transaction that fails leaves the tables that it has begun with. -/
theorem inTransaction_error {body : Attempt α} {error : Error} (hMirrors : Mirrors tables state)
    (hBody : ∃ state', Carries (some tables) now tables body (.error error) state') :
    Carries none now tables (inTransaction body) (.error error) state := by
  obtain ⟨_, tables', -, hBody⟩ := hBody
  exact ⟨tables, hMirrors, Server.attempt_inTransaction_error hBody⟩

end Carries

/-! ## Reading -/

section Reading

variable {committed : Option Tables} {now : Instant} {tables : Tables} {state : State}
  (hMirrors : Mirrors tables state) (hState : OwnIds state) {id : Id}

include hMirrors

/-- The numbers of permissions and roles in a state. -/
def inventoryOf (state : State) : Inventory :=
  ⟨state.permissions.size, state.roles.size⟩

theorem carries_countInventory :
    Carries committed now tables countInventory (.ok (inventoryOf state)) state := by
  have hPermissions : Carries committed now tables (query .countPermissions)
      (.ok state.permissions.size) state :=
    .read (List.forall_mem_nil _) hMirrors.length_permissions rfl hMirrors
  refine hPermissions.bind_ok fun tables hMirrors => ?_
  have hRoles : Carries committed now tables (query .countRoles) (.ok state.roles.size) state :=
    .read (List.forall_mem_nil _) hMirrors.length_roles rfl hMirrors
  exact hRoles.bind_ok fun tables hMirrors => .pure hMirrors (inventoryOf state)

theorem carries_listPermissions :
    Carries committed now tables (query .listPermissions) (.ok state.listPermissions) state :=
  .read (List.forall_mem_nil _) hMirrors.listPermissions rfl hMirrors

theorem carries_listRoles :
    Carries committed now tables (query .listRoles) (.ok state.listRoles) state :=
  .read (List.forall_mem_nil _) hMirrors.listRoles rfl hMirrors

theorem carries_permissionByName {name : String} (hClean : IsClean name) :
    Carries committed now tables (query (.permissionByName name))
      (.ok (state.getPermissionByName name)) state :=
  .read (List.forall_mem_singleton.2 hClean) (hMirrors.permissionByName name) rfl hMirrors

theorem carries_roleByName {name : String} (hClean : IsClean name) :
    Carries committed now tables (query (.roleByName name))
      (.ok (state.getRoleByName name)) state :=
  .read (List.forall_mem_singleton.2 hClean) (hMirrors.roleByName name) rfl hMirrors

include hState

theorem carries_getPermission (hClean : IsClean id) :
    Carries committed now tables (getPermission id) (state.getPermission id) state := by
  have hFound : Carries committed now tables (query (.permissionById id))
      (.ok ((state.permission? id).map state.showPermission)) state :=
    .read (List.forall_mem_singleton.2 hClean) (hMirrors.permissionById hState id) rfl hMirrors
  refine hFound.bind_ok fun tables hMirrors => ?_
  unfold State.getPermission
  cases state.permission? id with
  | none => exact .throw hMirrors _
  | some record => exact .pure hMirrors _

theorem carries_getRole (hClean : IsClean id) :
    Carries committed now tables (getRole id) (state.getRole id) state := by
  have hFound : Carries committed now tables (query (.roleById id))
      (.ok ((state.role? id).map state.showRole)) state :=
    .read (List.forall_mem_singleton.2 hClean) (hMirrors.roleById hState id) rfl hMirrors
  refine hFound.bind_ok fun tables hMirrors => ?_
  unfold State.getRole
  cases state.role? id with
  | none => exact .throw hMirrors _
  | some record => exact .pure hMirrors _

theorem carries_rolePermissionIds (hClean : IsClean id) :
    Carries committed now tables (rolePermissionIds id) (state.rolePermissionIds id) state := by
  have hFound : Carries committed now tables (query (.roleExists id))
      (.ok (state.role? id).isSome) state :=
    .read (List.forall_mem_singleton.2 hClean) (hMirrors.any_role hState id) rfl hMirrors
  refine hFound.bind_ok fun tables hMirrors => ?_
  unfold State.rolePermissionIds
  cases state.role? id with
  | none => exact (Carries.throw hMirrors _).bind_error
  | some record =>
      exact .read (List.forall_mem_singleton.2 hClean) (hMirrors.permissionIdsOf id) rfl hMirrors

theorem carries_lockRole (hClean : IsClean id) {record : RoleRecord}
    (hFound : state.role? id = some record) :
    Carries committed now tables (lockRole id) (.ok record.revision) state := by
  have hLocked : Carries committed now tables (query (.lockRole id))
      (.ok (some record.revision)) state := by
    have hRevision := hMirrors.lockedRevision hState id
    rw [hFound] at hRevision
    exact .read (List.forall_mem_singleton.2 hClean) hRevision rfl hMirrors
  exact hLocked.bind_ok fun tables hMirrors => .pure hMirrors _

theorem carries_lockRole_missing (hClean : IsClean id) (hFound : state.role? id = none) :
    Carries committed now tables (lockRole id) (.error (.missing .role)) state := by
  have hLocked : Carries committed now tables (query (.lockRole id)) (.ok none) state := by
    have hRevision := hMirrors.lockedRevision hState id
    rw [hFound] at hRevision
    exact .read (List.forall_mem_singleton.2 hClean) hRevision rfl hMirrors
  exact hLocked.bind_ok fun tables hMirrors => .throw hMirrors _

end Reading

/-! ## Names and descriptions -/

section Naming

variable {moment : Moment} {tables : Tables} {state : State} (hMirrors : Mirrors tables state)
  (hState : Coherent state) {id : Id} {name : String} {description : Option String}

include hMirrors hState

theorem carries_createPermission (hNew : state.permission? moment.newId = none)
    (hClean : ∀ text ∈ moment.newId :: name :: description.toList, IsClean text) :
    Carries none moment.now tables (createPermission moment.newId name description)
      ((state.createPermission moment name description).1.map fun permission =>
        (permission, inventoryOf (state.createPermission moment name description).2))
      (state.createPermission moment name description).2 := by
  rw [List.forall_mem_cons, List.forall_mem_cons] at hClean
  have hName : Carries none moment.now tables (keepName .permission name)
      (keptName .permission name) state :=
    .keepName hMirrors .permission name
  unfold State.createPermission
  cases hKept : keptName .permission name with
  | error error =>
      rw [hKept] at hName
      exact hName.bind_error
  | ok kept =>
      rw [hKept] at hName
      refine hName.bind_ok fun tables hMirrors => ?_
      have hTexts : ∀ text ∈ moment.newId :: kept :: description.toList, IsClean text :=
        List.forall_mem_cons.2
          ⟨hClean.1, List.forall_mem_cons.2 ⟨isClean_of_kept hKept hClean.2.1, hClean.2.2⟩⟩
      have hInsert : tables.insertPermission moment.now moment.newId kept description =
          if state.permissionNameTaken kept none then .error (.nameTaken .permission)
          else .ok (moment.now, { tables with
            permissions := tables.permissions ++ [.of (.new moment kept description)] }) := by
        rw [hMirrors.insertPermission_eq (ownIds_of_coherent hState),
          not_refused_of_kept hKept, hNew]
        rfl
      cases hTaken : state.permissionNameTaken kept none with
      | true =>
          rw [hTaken, if_pos rfl] at hInsert
          simp only [hTaken]
          exact .bind_error (.queryUnique_taken hTexts hInsert rfl hMirrors)
      | false =>
          rw [hTaken, if_neg Bool.false_ne_true] at hInsert
          simp only [hTaken]
          refine .bind_ok (.queryUnique hTexts hInsert (hMirrors.addPermission hNew))
            fun tables hMirrors => ?_
          refine .bind_ok (carries_countInventory hMirrors) fun tables hMirrors => ?_
          have hRoles : (state.addPermission (.new moment kept description)).roleIdsOf
              moment.newId = ∅ :=
            hState.roleIdsOf_of_absent hNew
          have hShown : (state.addPermission (.new moment kept description)).showPermission
              (.new moment kept description) =
              ⟨moment.newId, kept, description, moment.now, ∅⟩ :=
            congrArg (Permission.mk moment.newId kept description moment.now) hRoles
          rw [hShown]
          exact .pure hMirrors _

theorem carries_createRole (hNew : state.role? moment.newId = none)
    (hClean : ∀ text ∈ [moment.newId, name], IsClean text) :
    Carries none moment.now tables (createRole moment.newId name)
      ((state.createRole moment name).1.map fun role =>
        (role, inventoryOf (state.createRole moment name).2))
      (state.createRole moment name).2 := by
  rw [List.forall_mem_cons, List.forall_mem_singleton] at hClean
  have hName : Carries none moment.now tables (keepName .role name) (keptName .role name) state :=
    .keepName hMirrors .role name
  unfold State.createRole
  cases hKept : keptName .role name with
  | error error =>
      rw [hKept] at hName
      exact hName.bind_error
  | ok kept =>
      rw [hKept] at hName
      refine hName.bind_ok fun tables hMirrors => ?_
      have hTexts : ∀ text ∈ [moment.newId, kept], IsClean text :=
        List.forall_mem_cons.2
          ⟨hClean.1, List.forall_mem_singleton.2 (isClean_of_kept hKept hClean.2)⟩
      have hInsert : tables.insertRole moment.now moment.newId kept =
          if state.roleNameTaken kept none then .error (.nameTaken .role)
          else .ok (moment.now,
            { tables with roles := tables.roles ++ [.of (.new moment kept)] }) := by
        rw [hMirrors.insertRole_eq (ownIds_of_coherent hState), not_refused_of_kept hKept, hNew]
        rfl
      cases hTaken : state.roleNameTaken kept none with
      | true =>
          rw [hTaken, if_pos rfl] at hInsert
          simp only [hTaken]
          exact .bind_error (.queryUnique_taken hTexts hInsert rfl hMirrors)
      | false =>
          rw [hTaken, if_neg Bool.false_ne_true] at hInsert
          simp only [hTaken]
          refine .bind_ok (.queryUnique hTexts hInsert (hMirrors.addRole hNew))
            fun tables hMirrors => ?_
          refine .bind_ok (carries_countInventory hMirrors) fun tables hMirrors => ?_
          have hGrants : (state.addRole (.new moment kept)).permissionIdsOf moment.newId = ∅ :=
            hState.permissionIdsOf_of_absent hNew
          have hShown : (state.addRole (.new moment kept)).showRole (.new moment kept) =
              ⟨moment.newId, kept, moment.now, ∅, 0⟩ :=
            congrArg (fun grants => Role.mk moment.newId kept moment.now grants 0) hGrants
          rw [hShown]
          exact .pure hMirrors _

theorem carries_updatePermission {now : Instant}
    (hClean : ∀ text ∈ id :: name :: description.toList, IsClean text) :
    Carries none now tables (updatePermission id name description)
      (state.updatePermission id name description).1
      (state.updatePermission id name description).2 := by
  rw [List.forall_mem_cons, List.forall_mem_cons] at hClean
  have hOwn := ownIds_of_coherent hState
  have hName : Carries none now tables (keepName .permission name)
      (keptName .permission name) state :=
    .keepName hMirrors .permission name
  unfold State.updatePermission
  cases hKept : keptName .permission name with
  | error error =>
      rw [hKept] at hName
      exact hName.bind_error
  | ok kept =>
      rw [hKept] at hName
      refine hName.bind_ok fun tables hMirrors => ?_
      have hTexts : ∀ text ∈ id :: kept :: description.toList, IsClean text :=
        List.forall_mem_cons.2
          ⟨hClean.1, List.forall_mem_cons.2 ⟨isClean_of_kept hKept hClean.2.1, hClean.2.2⟩⟩
      have hUpdate : tables.updatePermission id kept description = _ :=
        hMirrors.updatePermission_eq hOwn
      rw [not_refused_of_kept hKept] at hUpdate
      cases hFound : state.permission? id with
      | none =>
          rw [hFound, Option.isNone_none, if_pos rfl] at hUpdate
          simp only
          exact .bind_ok (.queryUnique hTexts hUpdate hMirrors) fun tables hMirrors =>
            .missing hMirrors
      | some record =>
          rw [hFound, Option.isNone_some, if_neg Bool.false_ne_true, if_neg Bool.false_ne_true]
            at hUpdate
          cases hTaken : state.permissionNameTaken kept (some id) with
          | true =>
              rw [hTaken, if_pos rfl] at hUpdate
              simp only [hTaken]
              exact .bind_error (.queryUnique_taken hTexts hUpdate rfl hMirrors)
          | false =>
              rw [hTaken, if_neg Bool.false_ne_true] at hUpdate
              simp only [hTaken]
              have hRows := hMirrors.length_permission_ne_zero hOwn hFound
              refine .bind_ok
                (.queryUnique hTexts hUpdate (hMirrors.describePermission id kept description)) ?_
              intro tables hMirrors
              have hAfter : OwnIds (state.describePermission id kept description) :=
                ownIds_of_coherent
                  (hState.describePermission hFound hTaken (Memory.kept_of_keptName hKept))
              have hRead : Carries none now tables (getPermission id) _ _ :=
                carries_getPermission hMirrors hAfter hClean.1
              rw [State.getPermission, State.permission?_describePermission, if_pos rfl, hFound]
                at hRead
              exact .touched hRows hRead

theorem carries_updateRole {now : Instant} (hClean : ∀ text ∈ [id, name], IsClean text) :
    Carries none now tables (updateRole id name) (state.updateRole id name).1
      (state.updateRole id name).2 := by
  rw [List.forall_mem_cons, List.forall_mem_singleton] at hClean
  have hOwn := ownIds_of_coherent hState
  have hName : Carries none now tables (keepName .role name) (keptName .role name) state :=
    .keepName hMirrors .role name
  unfold State.updateRole
  cases hKept : keptName .role name with
  | error error =>
      rw [hKept] at hName
      exact hName.bind_error
  | ok kept =>
      rw [hKept] at hName
      refine hName.bind_ok fun tables hMirrors => ?_
      have hTexts : ∀ text ∈ [id, kept], IsClean text :=
        List.forall_mem_cons.2
          ⟨hClean.1, List.forall_mem_singleton.2 (isClean_of_kept hKept hClean.2)⟩
      have hUpdate : tables.updateRole id kept = _ := hMirrors.updateRole_eq hOwn
      rw [not_refused_of_kept hKept] at hUpdate
      cases hFound : state.role? id with
      | none =>
          rw [hFound, Option.isNone_none, if_pos rfl] at hUpdate
          simp only
          exact .bind_ok (.queryUnique hTexts hUpdate hMirrors) fun tables hMirrors =>
            .missing hMirrors
      | some record =>
          rw [hFound, Option.isNone_some, if_neg Bool.false_ne_true, if_neg Bool.false_ne_true]
            at hUpdate
          cases hTaken : state.roleNameTaken kept (some id) with
          | true =>
              rw [hTaken, if_pos rfl] at hUpdate
              simp only [hTaken]
              exact .bind_error (.queryUnique_taken hTexts hUpdate rfl hMirrors)
          | false =>
              rw [hTaken, if_neg Bool.false_ne_true] at hUpdate
              simp only [hTaken]
              have hRows := hMirrors.length_role_ne_zero hOwn hFound
              refine .bind_ok (.queryUnique hTexts hUpdate (hMirrors.renameRole id kept)) ?_
              intro tables hMirrors
              have hAfter : OwnIds (state.renameRole id kept) :=
                ownIds_of_coherent (hState.renameRole hFound hTaken (Memory.kept_of_keptName hKept))
              have hRead : Carries none now tables (getRole id) _ _ :=
                carries_getRole hMirrors hAfter hClean.1
              rw [State.getRole, State.role?_renameRole, if_pos rfl, hFound] at hRead
              exact .touched hRows hRead

end Naming

/-! ## Deletions and sets of permissions -/

/-- No revision is out of the range of signed numbers. -/
def InRange (state : State) : Prop :=
  ∀ record ∈ state.roles.values, record.revision.toNat < 9223372036854775808

instance (state : State) : Decidable (InRange state) :=
  inferInstanceAs
    (Decidable (∀ record ∈ state.roles.values, record.revision.toNat < 9223372036854775808))

theorem InRange.of_found {state : State} (hRange : InRange state) {id : Id} {record : RoleRecord}
    (hFound : state.role? id = some record) : record.revision.toNat < 9223372036854775808 :=
  hRange record (Table.mem_values.2 ⟨id, hFound⟩)

section Sets

variable {committed : Option Tables} {now : Instant} {tables : Tables} {state : State}
  (hMirrors : Mirrors tables state) (hState : Coherent state) {id : Id}

include hMirrors hState

theorem carries_deleteRole (hClean : IsClean id) :
    Carries none now tables (deleteRole id)
      ((state.deleteRole id).1.map fun _ => inventoryOf (state.deleteRole id).2)
      (state.deleteRole id).2 := by
  have hOwn := ownIds_of_coherent hState
  have hDelete : tables.deleteRole id = _ := hMirrors.deleteRole_eq hOwn
  unfold State.deleteRole
  cases hFound : state.role? id with
  | none =>
      rw [hFound, Option.isNone_none, if_pos rfl] at hDelete
      refine .bind_ok
        (.query (List.forall_mem_singleton.2 hClean) (congrArg Except.ok hDelete) hMirrors) ?_
      exact fun tables hMirrors => .missing hMirrors
  | some record =>
      rw [hFound, Option.isNone_some, if_neg Bool.false_ne_true] at hDelete
      have hRows := hMirrors.length_role_ne_zero hOwn hFound
      refine .bind_ok (.query (List.forall_mem_singleton.2 hClean) (congrArg Except.ok hDelete)
        (hMirrors.removeRole id)) ?_
      exact fun tables hMirrors => .touched hRows (carries_countInventory hMirrors)

/-- The roles that grant a permission are moved on. -/
theorem carries_bumpHolders (hClean : IsClean id)
    (hRange : ∀ record ∈ state.roles.values, record.id ∈ state.holders id →
      record.bump.revision.toNat < 9223372036854775808) :
    Carries committed now tables (query (.bumpHolders id)) (.ok ()) (holdersBumped state id) := by
  have hOwn := ownIds_of_coherent hState
  have hTest : ∀ record ∈ state.roles.values,
      tables.grants.contains ⟨(RoleRow.of record).id, id⟩ =
        (state.holders id).contains record.id := by
    intro record _
    rw [Bool.eq_iff_iff, List.contains_iff_mem, List.contains_iff_mem,
      State.mem_holders, hMirrors.grants]
    rfl
  have hBump : tables.bump (fun row => tables.grants.contains ⟨row.id, id⟩) = _ :=
    hMirrors.bump_eq _ hTest fun record hRecord hHolds =>
      hRange record hRecord (List.contains_iff_mem.1 hHolds)
  have hValues : (state.removePermission id).roles.values = state.roles.values.map fun record =>
      if (state.holders id).contains record.id then record.bump else record :=
    hOwn.roles.values_foldl_update (state.nodup_holders id) fun _ => rfl
  rw [← hValues] at hBump
  exact .query (List.forall_mem_singleton.2 hClean) hBump
    ⟨hMirrors.permissions, rfl, hMirrors.grants⟩

theorem carries_deletePermission (hClean : IsClean id)
    (hRange : InRange (state.deletePermission id).2) :
    Carries none now tables (deletePermission id)
      ((state.deletePermission id).1.map fun _ => inventoryOf (state.deletePermission id).2)
        (state.deletePermission id).2 := by
  have hOwn := ownIds_of_coherent hState
  have hBetween : OwnIds (holdersBumped state id) :=
    ⟨hOwn.permissions, (ownIds_of_coherent hState.removePermission).roles⟩
  have hInRange : ∀ record ∈ state.roles.values, record.id ∈ state.holders id →
      record.bump.revision.toNat < 9223372036854775808 := by
    intro record hRecord hHolds
    obtain ⟨key, hFound⟩ := Table.mem_values.1 hRecord
    obtain rfl := hState.roles.own_id key record hFound
    obtain ⟨permission, hPermission⟩ :=
      Option.ne_none_iff_exists'.1 (hState.grants _ (State.mem_holders.1 hHolds)).2
    rw [State.deletePermission, show state.permission? id = some permission from hPermission]
      at hRange
    apply hRange.of_found
    rw [State.role?_removePermission, if_pos hHolds, show state.role? record.id =
      some record from hFound]
    rfl
  have hBumped : Carries (some tables) now tables (query (.bumpHolders id)) (.ok ()) _ :=
    carries_bumpHolders hMirrors hState hClean hInRange
  unfold State.deletePermission
  cases hFound : state.permission? id with
  | none =>
      refine .bind_error
        (.inTransaction_error hMirrors
          ⟨holdersBumped state id, .bind_ok hBumped fun tables hMirrors => ?_⟩)
      have hDelete : tables.deletePermission id = _ := hMirrors.deletePermission_eq hBetween
      rw [permission?_holdersBumped, hFound, Option.isNone_none, if_pos rfl] at hDelete
      refine .bind_ok
        (.query (List.forall_mem_singleton.2 hClean) (congrArg Except.ok hDelete) hMirrors) ?_
      exact fun tables hMirrors => .throw hMirrors _
  | some record =>
      refine .bind_ok (a := ()) (.inTransaction_ok (.bind_ok hBumped fun tables hMirrors => ?_))
        fun tables hMirrors =>
        carries_countInventory hMirrors
      have hDelete : tables.deletePermission id = _ := hMirrors.deletePermission_eq hBetween
      have hRows := hMirrors.length_permission_ne_zero hBetween hFound
      rw [permission?_holdersBumped, hFound, Option.isNone_some, if_neg Bool.false_ne_true]
        at hDelete
      have hRemoved : Mirrors _ (state.removePermission id) := .removePermission hMirrors
      refine .bind_ok
        (.query (List.forall_mem_singleton.2 hClean) (congrArg Except.ok hDelete) hRemoved) ?_
      intro tables hMirrors
      rw [if_neg hRows]
      exact .pure hMirrors ()

variable {permissions : IdSet}

theorem carries_replaceGrants (hClean : ∀ text ∈ id :: permissions.toList, IsClean text)
    {record : RoleRecord} (hFound : state.role? id = some record)
    (hRange : InRange (state.replaceGrants id permissions).2) :
    Carries committed now tables (replaceGrants id permissions)
      ((state.replaceGrants id permissions).1.map fun _ => ())
      (state.replaceGrants id permissions).2 := by
  have hOwn := ownIds_of_coherent hState
  have hTexts := List.forall_mem_cons.1 hClean
  have hSame : (permissions.toList.find? fun permission =>
        !((tables.permissions.map PermissionRow.id).filter fun id =>
          permissions.toList.contains id).contains permission) =
      permissions.toList.find? fun permission => (state.permission? permission).isNone := by
    refine List.find?_congr fun permission hPermission => ?_
    have hThere := hMirrors.any_permission hOwn permission
    rw [← Option.not_isSome, ← hThere]
    refine congrArg Bool.not ?_
    rw [Bool.eq_iff_iff, List.contains_iff_mem, List.mem_filter, List.any_eq_true,
      List.contains_iff_mem, List.mem_map]
    constructor
    · rintro ⟨⟨row, hRow, rfl⟩, -⟩
      exact ⟨row, hRow, beq_self_eq_true row.id⟩
    · rintro ⟨row, hRow, hId⟩
      exact ⟨⟨row, hRow, eq_of_beq hId⟩, hPermission⟩
  refine .bind_ok (.query hTexts.2 rfl hMirrors) fun tables' hMirrors => ?_
  rw [hSame]
  unfold State.replaceGrants at hRange ⊢
  cases hMissing : permissions.toList.find? fun permission =>
    (state.permission? permission).isNone with
  | some missing => exact .throw hMirrors _
  | none =>
      have hFound' : (state.setGrants id permissions).role? id = some record := hFound
      simp only [hMissing, hFound'] at hRange ⊢
      have hKnown : ∀ permission ∈ permissions, state.permission? permission ≠ none := by
        intro permission hPermission
        simpa using List.find?_eq_none.1 hMissing permission hPermission
      have hRole : state.role? id ≠ none := hFound ▸ Option.some_ne_none record
      refine .bind_ok (.query (List.forall_mem_singleton.2 hTexts.1) rfl (hMirrors.clearGrants id))
        fun tables hCleared => ?_
      have hInsert := hCleared.insertGrants_eq hOwn hRole hKnown
      refine .bind_ok (.query hClean hInsert hCleared.fillGrants) fun tables hFilled => ?_
      have hInRange : ∀ other ∈ state.roles.values, (other.id == id) = true →
          other.bump.revision.toNat < 9223372036854775808 := by
        intro other hOther hId
        obtain rfl := eq_of_beq hId
        obtain ⟨key, hThere⟩ := Table.mem_values.1 hOther
        obtain rfl := hState.roles.own_id key other hThere
        apply hRange.of_found
        rw [State.role?_bumpRole, if_pos rfl, State.role?_setGrants, show state.role? other.id =
          some other from hThere]
        rfl
      have hFilledRoles : (state.setGrants id permissions).roles = state.roles := rfl
      have hBump : tables.bump (fun row => row.id == id) = _ :=
        hFilled.bump_eq (fun other => other.id == id) (fun _ _ => rfl) hInRange
      have hValues : ((state.setGrants id permissions).bumpRole id).roles.values =
          state.roles.values.map fun other =>
          if other.id == id then other.bump else other :=
        hOwn.roles.values_update id RoleRecord.bump
      rw [hFilledRoles, ← hValues] at hBump
      exact .query (List.forall_mem_singleton.2 hTexts.1) hBump (hFilled.bumpRole id)

/-- The dialogues that give a role other permissions: a transaction that ends with the exchange of
the grants, and the role as it is afterwards. -/
theorem carries_writeSet {body : Attempt Unit}
    (hClean : ∀ text ∈ id :: permissions.toList, IsClean text) {record : RoleRecord}
    (hFound : state.role? id = some record)
    (hRange : InRange (state.replaceGrants id permissions).2)
    (hBody : ∀ {outcome : Except Error Unit} {state' : State},
      (∀ tables, Mirrors tables state → ∀ committed,
        Carries committed now tables (replaceGrants id permissions) outcome state') →
        Carries (some tables) now tables body outcome state') :
    Carries none now tables
      (do
        inTransaction body
        getRole id)
      (state.replaceGrants id permissions).1 (state.replaceGrants id permissions).2 := by
  have hReplaced : Carries (some tables) now tables body _ _ :=
    hBody fun tables hMirrors committed => carries_replaceGrants hMirrors hState
      hClean hFound hRange
  rcases Memory.replaceGrants_cases hFound permissions with ⟨error, hError⟩ | ⟨hKnown, hWritten⟩
  · rw [hError] at hReplaced ⊢
    exact .bind_error (.inTransaction_error hMirrors ⟨state, hReplaced⟩)
  · rw [hWritten] at hReplaced ⊢
    refine .bind_ok (.inTransaction_ok hReplaced) fun tables hMirrors => ?_
    have hOwn := ownIds_of_coherent (hState.rewriteGrants hFound hKnown)
    have hRead : Carries none now tables (getRole id) _ _ :=
      carries_getRole hMirrors hOwn (List.forall_mem_cons.1 hClean).1
    rw [State.getRole, State.role?_bumpRole, if_pos rfl, State.role?_setGrants, hFound] at hRead
    exact hRead

theorem carries_setRolePermissions (hClean : ∀ text ∈ id :: permissions.toList, IsClean text)
    (hRange : InRange (state.setRolePermissions id permissions).2) :
    Carries none now tables (setRolePermissions id permissions)
      (state.setRolePermissions id permissions).1
      (state.setRolePermissions id permissions).2 := by
  have hOwn := ownIds_of_coherent hState
  have hId := (List.forall_mem_cons.1 hClean).1
  unfold State.setRolePermissions at hRange ⊢
  cases hFound : state.role? id with
  | none =>
      have hLocked : Carries (some tables) now tables (lockRole id)
          (.error (.missing .role)) state :=
        carries_lockRole_missing hMirrors hOwn hId hFound
      exact .bind_error (.inTransaction_error hMirrors ⟨state, hLocked.bind_error⟩)
  | some record =>
      rw [hFound] at hRange
      refine carries_writeSet hMirrors hState hClean hFound hRange fun hReplaced => ?_
      exact .bind_ok (carries_lockRole hMirrors hOwn hId hFound) fun tables hMirrors =>
        hReplaced tables hMirrors _

theorem carries_replaceRolePermissions {expected : Revision}
    (hClean : ∀ text ∈ id :: permissions.toList, IsClean text)
    (hRange : InRange (state.replaceRolePermissions id expected permissions).2) :
    Carries none now tables (replaceRolePermissions id expected permissions)
      (state.replaceRolePermissions id expected permissions).1
        (state.replaceRolePermissions id expected permissions).2 := by
  have hOwn := ownIds_of_coherent hState
  have hId := (List.forall_mem_cons.1 hClean).1
  unfold State.replaceRolePermissions at hRange ⊢
  cases hFound : state.role? id with
  | none =>
      have hLocked : Carries (some tables) now tables (lockRole id)
          (.error (.missing .role)) state :=
        carries_lockRole_missing hMirrors hOwn hId hFound
      exact .bind_error (.inTransaction_error hMirrors ⟨state, hLocked.bind_error⟩)
  | some record =>
      have hLocked : Carries (some tables) now tables (lockRole id) (.ok record.revision) state :=
        carries_lockRole hMirrors hOwn hId hFound
      by_cases hExpected : record.revision = expected
      · simp only [hFound, if_pos hExpected] at hRange ⊢
        refine carries_writeSet hMirrors hState hClean hFound hRange fun hReplaced => ?_
        refine hLocked.bind_ok fun tables hMirrors => ?_
        rw [if_neg (not_not_intro hExpected)]
        exact hReplaced tables hMirrors _
      · simp only [if_neg hExpected]
        refine .bind_error
          (.inTransaction_error hMirrors ⟨state, hLocked.bind_ok fun tables hMirrors => ?_⟩)
        rw [if_pos hExpected]
        exact .bind_error (.throw hMirrors _)

end Sets

end Rolebook.Relational
