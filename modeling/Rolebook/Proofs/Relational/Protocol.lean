import Rolebook.Proofs.Relational.Dialogue
import Rolebook.Relational.Sessions

/-!
# The protocol of sessions

How far a dialogue has got with what it does to the roles, and what it may send next. A session
outside of transactions sends only statements that leave the grants of the roles that stay as they
are; a transaction moves each role that it is going to change on to its next revision before it can
be committed. Every dialogue keeps to this (`follows_dialogue`), so that what sessions do together
can be derived from the protocol alone.
-/

namespace Rolebook.Relational

open Rolebook.Store (Error Call Inventory)

/-- How far a session has got. -/
inductive Phase
  /-- No transaction is open. -/
  | idle
  /-- A transaction has begun. -/
  | opened
  /-- A role is locked. -/
  | locked (role : Id)
  /-- The grants of a role are being replaced. -/
  | rewriting (role : Id)
  /-- The grants of a role have been replaced, and it has been moved on. -/
  | rewritten (role : Id)
  /-- The roles that grant a permission have been moved on. -/
  | bumped (permission : Id)
  /-- A permission has been removed. -/
  | deleted (permission : Id)
  /-- The transaction can only be rolled back. -/
  | failing

/-- Whether a transaction may be committed. -/
def Phase.IsComplete : Phase → Prop
  | .rewritten _ | .deleted _ => True
  | _ => False

/-- Whether a transaction may be rolled back. One that has moved on the roles that grant a
permission goes on to remove it. -/
def Phase.MayEnd : Phase → Prop
  | .idle | .bumped _ => False
  | _ => True

/-- A statement that no role notices unless it is added or removed. -/
def Statement.IsPlain (newId : Id) : Statement → Prop
  | .insertRole id _ => id = newId
  | .bumpHolders _ | .deletePermission _ | .deleteGrants _ | .insertGrants _ _
  | .bumpRole _ => False
  | _ => True

/-- What a session may send in a phase, and which phase comes next with the answer. -/
inductive Phase.Next (newId : Id) : Phase → (request : Request) → request.Answer → Phase → Prop
  | plain {statement : Statement} {answer : Except DatabaseError statement.Value}
      (hPlain : statement.IsPlain newId) :
    Next newId .idle (.execute statement) answer .idle
  | begin {done : Unit} : Next newId .idle .beginTransaction (.ok done) .opened
  | lock {role : Id} {revision : Revision} :
    Next newId .opened (.execute (.lockRole role)) (.ok (some revision)) (.locked role)
  | lockNothing {role : Id} : Next newId .opened (.execute (.lockRole role)) (.ok none) .failing
  | look {role : Id} {ids known : List Id} :
    Next newId (.locked role) (.execute (.knownPermissions ids)) (.ok known) (.locked role)
  | clear {role : Id} {done : Unit} :
      Next newId (.locked role) (.execute (.deleteGrants role)) (.ok done) (.rewriting role)
  | fill {role : Id} {permissions : List Id} {done : Unit} :
    Next newId (.rewriting role) (.execute (.insertGrants role permissions))
      (.ok done) (.rewriting role)
  | bumpRole {role : Id} {done : Unit} :
    Next newId (.rewriting role) (.execute (.bumpRole role)) (.ok done) (.rewritten role)
  | bumpHolders {permission : Id} {done : Unit} :
    Next newId .opened (.execute (.bumpHolders permission)) (.ok done) (.bumped permission)
  | delete {permission : Id} {touched : Nat} (hTouched : touched ≠ 0) :
    Next newId (.bumped permission) (.execute (.deletePermission permission)) (.ok touched)
      (.deleted permission)
  | deleteNothing {permission : Id} :
    Next newId (.bumped permission) (.execute (.deletePermission permission))
      (.ok (0 : Nat)) .failing
  | commit {phase : Phase} {done : Unit} (hComplete : phase.IsComplete) :
      Next newId phase .commit (.ok done) .idle
  | notBegun {error : DatabaseError} : Next newId .idle .beginTransaction (.error error) .idle
  | refuse {phase : Phase} {statement : Statement} {error : DatabaseError} (hOpen : phase ≠ .idle) :
    Next newId phase (.execute statement) (.error error) .failing
  | notCommitted {phase : Phase} {error : DatabaseError} (hOpen : phase ≠ .idle) :
    Next newId phase .commit (.error error) .failing
  | rollback {phase : Phase} {answer : Except DatabaseError Unit} (hEnds : phase.MayEnd) :
    Next newId phase .rollback answer .idle

section Follows

variable {α β : Type} {newId : Id}

/-- From a phase on, a dialogue keeps to the protocol until it ends. -/
def Follows (newId : Id) (ends : α → Phase → Prop) : Phase → Dialogue α → Prop
  | phase, .done a => ends a phase
  | phase, .ask _ rest =>
    ∀ answer, ∃ next, Phase.Next newId phase _ answer next ∧ Follows newId ends next (rest answer)

theorem Follows.mono {ends ends' : α → Phase → Prop} {phase : Phase} {dialogue : Dialogue α}
    (hFollows : Follows newId ends phase dialogue)
    (hEnds : ∀ a phase, ends a phase → ends' a phase) :
    Follows newId ends' phase dialogue := by
  induction dialogue generalizing phase with
  | done a => exact hEnds a phase hFollows
  | ask request rest ih =>
      intro answer
      obtain ⟨next, hNext, hRest⟩ := hFollows answer
      exact ⟨next, hNext, ih answer hRest⟩

theorem Follows.bind {between : α → Phase → Prop} {ends : β → Phase → Prop} {phase : Phase}
    {dialogue : Dialogue α} {next : α → Dialogue β} (hFirst : Follows newId between phase dialogue)
    (hNext : ∀ a phase, between a phase → Follows newId ends phase (next a)) :
    Follows newId ends phase (dialogue.bind next) := by
  induction dialogue generalizing phase with
  | done a => exact hNext a phase hFirst
  | ask request rest ih =>
      intro answer
      obtain ⟨next, hNext, hRest⟩ := hFirst answer
      exact ⟨next, hNext, ih answer hRest⟩

theorem nonempty_value (request : Request) : Nonempty request.Value := by
  cases request with
  | connect | beginTransaction | commit | rollback => exact ⟨()⟩
  | execute statement =>
      cases statement with
      | listPermissions | listRoles | knownPermissions | appliedMigrations => exact ⟨([] : List _)⟩
      | permissionById | permissionByName | roleById | roleByName | lockRole | dirtyMigration =>
          exact ⟨(none : Option _)⟩
      | insertPermission | insertRole => exact ⟨(⟨0⟩ : Instant)⟩
      | updatePermission | deletePermission | countPermissions | updateRole | deleteRole
      | countRoles => exact ⟨(0 : Nat)⟩
      | roleExists => exact ⟨false⟩
      | grantsOfRole => exact ⟨(.ofList [] : IdSet)⟩
      | _ => exact ⟨()⟩

/-- When the roles that grant a permission have been moved on, the next request removes it. -/
theorem Follows.next_of_bumped {permission : Id} {dialogue : Dialogue α}
    (hFollows : Follows newId (fun _ phase => phase = .idle) (.bumped permission) dialogue) :
    ∃ rest, dialogue = .ask (.execute (.deletePermission permission)) rest := by
  cases dialogue with
  | done a => cases hFollows
  | ask request rest =>
      obtain ⟨value⟩ := nonempty_value request
      obtain ⟨next, hNext, -⟩ := hFollows (.ok value)
      cases hNext with
      | delete | deleteNothing => exact ⟨rest, rfl⟩
      | commit hComplete => exact hComplete.elim
      | rollback hEnds => exact hEnds.elim

/-- From a phase on, an attempt keeps to the protocol, and comes to other phases when it has
succeeded or failed. -/
def Obeys (newId : Id) (before : Phase) (attempt : Attempt α) (after : α → Phase → Prop)
    (failed : Phase → Prop) : Prop :=
  Follows newId
    (fun outcome phase =>
      match outcome with
      | .ok a => after a phase
      | .error _ => failed phase)
    before attempt.run

/-- An attempt keeps to the protocol, and no transaction is open before it or after it. -/
structure Outside (newId : Id) (attempt : Attempt α) : Prop where
  obeys : Obeys newId .idle attempt (fun _ phase => phase = .idle) fun phase => phase = .idle

end Follows

/-! ## Rules -/

section Rules

variable {α β : Type} {newId : Id} {before : Phase} {failed : Phase → Prop}

theorem Obeys.pure {a : α} {after : α → Phase → Prop} (hAfter : after a before) :
    Obeys newId before (pure a) after failed :=
  hAfter

theorem Obeys.throw {error : Error} {after : α → Phase → Prop} (hFailed : failed before) :
    Obeys newId before (throw error) after failed :=
  hFailed

theorem Obeys.asking {request : Request} {report : DatabaseError → Error}
    {after : request.Value → Phase → Prop}
    (hDone : ∀ value, ∃ next, Phase.Next newId before request (.ok value) next ∧ after value next)
    (hFails : ∀ error, ∃ next, Phase.Next newId before request (.error error) next ∧ failed next) :
    Obeys newId before (asking request report) after failed := by
  intro answer
  cases answer with
  | ok value => exact hDone value
  | error error => exact hFails error

theorem Obeys.bind {first : Attempt α} {next : α → Attempt β} {between : α → Phase → Prop}
    {after : β → Phase → Prop} (hFirst : Obeys newId before first between failed)
    (hNext : ∀ a phase, between a phase → Obeys newId phase (next a) after failed) :
    Obeys newId before (first >>= next) after failed := by
  refine Follows.bind hFirst fun outcome phase hBetween => ?_
  cases outcome with
  | ok a => exact hNext a phase hBetween
  | error error => exact hBetween

/-- A statement in a transaction is refused, or it brings the session on. -/
theorem Obeys.query {statement : Statement} {after : statement.Value → Phase → Prop}
    (hOpen : before ≠ .idle)
    (hDone : ∀ value, ∃ next, Phase.Next newId before (.execute statement) (.ok value) next ∧
      after value next) :
    Obeys newId before (query statement) after Phase.MayEnd :=
  .asking hDone fun _ => ⟨.failing, .refuse hOpen, trivial⟩

/-- A transaction that keeps to the protocol until it may be committed. -/
theorem Obeys.inTransaction {body : Attempt α}
    (hBody : Obeys newId .opened body (fun _ phase => phase.IsComplete) Phase.MayEnd) :
    Outside newId (inTransaction body) := by
  have hCommit : ∀ result phase, Phase.IsComplete phase →
      Obeys newId phase (send .commit >>= fun _ => Pure.pure result) (fun _ : α => (· = .idle))
        Phase.MayEnd := by
    intro result phase hComplete
    have hOpen : phase ≠ .idle := by
      rintro rfl
      exact hComplete
    have hSent : Obeys newId phase (send .commit) (fun _ phase => phase = .idle) Phase.MayEnd :=
      .asking (fun _ => ⟨.idle, .commit hComplete, rfl⟩) fun _ =>
        ⟨.failing, .notCommitted hOpen, trivial⟩
    exact hSent.bind fun _ phase hIdle => .pure hIdle
  have hCommitting : Obeys newId .opened (Server.committing body)
      (fun _ phase => phase = .idle) Phase.MayEnd :=
    hBody.bind hCommit
  have hBegin : Obeys newId .idle (send .beginTransaction)
      (fun _ phase => phase = .opened) (· = .idle) :=
    .asking (fun _ => ⟨.opened, .begin, rfl⟩) fun _ => ⟨.idle, .notBegun, rfl⟩
  refine ⟨hBegin.bind ?_⟩
  rintro _ _ rfl
  refine Follows.bind hCommitting fun outcome phase hSettled => ?_
  cases outcome with
  | ok result => exact hSettled
  | error error => exact fun answer => ⟨.idle, .rollback hSettled, rfl⟩

end Rules

namespace Outside

variable {α β : Type} {newId : Id}

protected theorem pure (a : α) : Outside newId (pure a) :=
  ⟨.pure rfl⟩

protected theorem throw (error : Error) : Outside newId (throw error : Attempt α) :=
  ⟨.throw rfl⟩

protected theorem bind {first : Attempt α} {next : α → Attempt β} (hFirst : Outside newId first)
    (hNext : ∀ a, Outside newId (next a)) : Outside newId (first >>= next) := by
  refine ⟨hFirst.obeys.bind ?_⟩
  rintro a _ rfl
  exact (hNext a).obeys

theorem map {attempt : Attempt α} (hAttempt : Outside newId attempt) (f : α → β) :
    Outside newId (attempt >>= fun a => Pure.pure (f a)) :=
  hAttempt.bind fun a => .pure (f a)

theorem uncounted {attempt : Attempt α} (hAttempt : Outside newId attempt) :
    Outside newId (uncounted attempt) :=
  hAttempt.map _

theorem keepName (kind : EntityKind) (name : String) : Outside newId (keepName kind name) := by
  unfold Relational.keepName
  cases (normalizeName kind.noun name).mapError Error.invalid with
  | error error => exact .throw error
  | ok kept => exact .pure kept

theorem statement {statement : Statement} {report : DatabaseError → Error}
    (hPlain : statement.IsPlain newId) :
    Outside newId (asking (.execute statement) report) :=
  ⟨.asking (fun _ => ⟨.idle, .plain hPlain, rfl⟩) fun _ => ⟨.idle, .plain hPlain, rfl⟩⟩

theorem query {statement : Statement} (hPlain : statement.IsPlain newId) :
    Outside newId (query statement) :=
  Outside.statement hPlain

theorem queryUnique {statement : Statement} {taken : Error} (hPlain : statement.IsPlain newId) :
    Outside newId (queryUnique statement taken) :=
  Outside.statement hPlain

/-- If no row was touched then an entity is missing, and otherwise it goes on. -/
theorem ifTouched {rest : Attempt α} (hRest : Outside newId rest) (touched : Nat) (error : Error) :
    Outside newId
      (do
        if touched = 0 then
          throw error
        rest) := by
  split
  · exact .bind (.throw error) fun _ => hRest
  · exact hRest

end Outside

/-! ## Dialogues -/

section Dialogues

variable {newId id : Id} {name : String} {description : Option String} {permissions : IdSet}

theorem outside_countInventory : Outside newId countInventory := by
  have hPermissions : Outside newId (query .countPermissions) := .query trivial
  have hRoles : Outside newId (query .countRoles) := .query trivial
  exact hPermissions.bind fun _ => hRoles.map _

theorem outside_getPermission : Outside newId (getPermission id) := by
  have hFound : Outside newId (query (.permissionById id)) := .query trivial
  refine hFound.bind fun found => ?_
  cases found with
  | none => exact .throw _
  | some permission => exact .pure permission

theorem outside_getRole : Outside newId (getRole id) := by
  have hFound : Outside newId (query (.roleById id)) := .query trivial
  refine hFound.bind fun found => ?_
  cases found with
  | none => exact .throw _
  | some role => exact .pure role

theorem outside_createPermission : Outside newId (createPermission newId name description) := by
  refine .bind (.keepName .permission name) fun kept => ?_
  have hInsert : Outside newId
      (queryUnique (.insertPermission newId kept description) (.nameTaken .permission kept)) :=
    .queryUnique trivial
  exact hInsert.bind fun createdAt => outside_countInventory.map _

theorem outside_createRole : Outside newId (createRole newId name) := by
  refine .bind (.keepName .role name) fun kept => ?_
  have hInsert : Outside newId (queryUnique (.insertRole newId kept) (.nameTaken .role kept)) :=
    .queryUnique rfl
  exact hInsert.bind fun createdAt => outside_countInventory.map _

theorem outside_updatePermission : Outside newId (updatePermission id name description) := by
  refine .bind (.keepName .permission name) fun kept => ?_
  have hUpdate : Outside newId
      (queryUnique (.updatePermission id kept description) (.nameTaken .permission kept)) :=
    .queryUnique trivial
  exact hUpdate.bind fun touched => outside_getPermission.ifTouched touched _

theorem outside_updateRole : Outside newId (updateRole id name) := by
  refine .bind (.keepName .role name) fun kept => ?_
  have hUpdate : Outside newId (queryUnique (.updateRole id kept) (.nameTaken .role kept)) :=
    .queryUnique trivial
  exact hUpdate.bind fun touched => outside_getRole.ifTouched touched _

theorem outside_deleteRole : Outside newId (deleteRole id) := by
  have hDelete : Outside newId (query (.deleteRole id)) := .query trivial
  exact hDelete.bind fun touched => outside_countInventory.ifTouched touched _

theorem outside_rolePermissionIds : Outside newId (rolePermissionIds id) := by
  have hFound : Outside newId (query (.roleExists id)) := .query trivial
  have hGrants : Outside newId (query (.grantsOfRole id)) := .query trivial
  refine hFound.bind fun found => ?_
  cases found with
  | false => exact .bind (.throw _) fun _ => hGrants
  | true => exact hGrants

/-- The roles that grant a permission are moved on before it is removed. -/
theorem outside_deletePermission : Outside newId (deletePermission id) := by
  have hBump : Obeys newId .opened (query (.bumpHolders id)) (fun _ phase => phase = .bumped id)
      Phase.MayEnd :=
    .query Phase.noConfusion fun _ => ⟨.bumped id, .bumpHolders, rfl⟩
  have hDelete : Obeys newId (.bumped id) (query (.deletePermission id))
      (fun (touched : Nat) phase => phase = if touched = 0 then .failing else .deleted id)
        Phase.MayEnd := by
    refine .query Phase.noConfusion fun touched => ?_
    by_cases hTouched : touched = (0 : Nat)
    · obtain rfl := hTouched
      exact ⟨.failing, .deleteNothing, rfl⟩
    · exact ⟨.deleted id, .delete hTouched, (if_neg hTouched).symm⟩
  refine Outside.bind (Obeys.inTransaction (hBump.bind ?_)) fun _ => outside_countInventory
  rintro _ _ rfl
  refine hDelete.bind ?_
  rintro touched _ rfl
  split
  · exact .throw trivial
  · exact .pure trivial

theorem obeys_lockRole :
    Obeys newId .opened (lockRole id) (fun _ phase => phase = .locked id) Phase.MayEnd := by
  have hLock : Obeys newId .opened (query (.lockRole id))
      (fun (found : Option Revision) phase => phase = if found.isSome then .locked id else .failing)
        Phase.MayEnd := by
    refine .query Phase.noConfusion fun found => ?_
    cases found with
    | none => exact ⟨.failing, .lockNothing, rfl⟩
    | some revision => exact ⟨.locked id, .lock, rfl⟩
  refine hLock.bind ?_
  rintro found _ rfl
  cases found with
  | none => exact .throw trivial
  | some revision => exact .pure rfl

/-- A locked role is moved on behind the exchange of its grants. -/
theorem obeys_replaceGrants :
    Obeys newId (.locked id) (replaceGrants id permissions) (fun _ phase => phase.IsComplete)
      Phase.MayEnd := by
  have hKnown : Obeys newId (.locked id) (query (.knownPermissions permissions.toList))
      (fun _ phase => phase = .locked id) Phase.MayEnd :=
    .query Phase.noConfusion fun _ => ⟨.locked id, .look, rfl⟩
  have hClear : Obeys newId (.locked id) (query (.deleteGrants id))
      (fun _ phase => phase = .rewriting id) Phase.MayEnd :=
    .query Phase.noConfusion fun _ => ⟨.rewriting id, .clear, rfl⟩
  have hFill : Obeys newId (.rewriting id) (query (.insertGrants id permissions.toList))
      (fun _ phase => phase = .rewriting id) Phase.MayEnd :=
    .query Phase.noConfusion fun _ => ⟨.rewriting id, .fill, rfl⟩
  have hBump : Obeys newId (.rewriting id) (query (.bumpRole id))
      (fun _ phase => phase.IsComplete) Phase.MayEnd :=
    .query Phase.noConfusion fun _ => ⟨.rewritten id, .bumpRole, trivial⟩
  refine hKnown.bind ?_
  rintro known _ rfl
  cases hMissing : permissions.toList.find? fun id => !List.contains known id with
  | some missing => exact .throw trivial
  | none =>
      refine hClear.bind ?_
      rintro _ _ rfl
      refine hFill.bind ?_
      rintro _ _ rfl
      exact hBump

/-- The dialogues that give a role other permissions: a transaction that starts with a lock on the
role, and the role as it is afterwards. -/
theorem outside_writeSet {next : Revision → Attempt Unit}
    (hNext : ∀ found, Obeys newId (.locked id) (next found)
      (fun _ phase => phase.IsComplete) Phase.MayEnd) :
    Outside newId
      (do
        inTransaction do
          let found ← lockRole id
          next found
        getRole id) := by
  refine Outside.bind (Obeys.inTransaction (obeys_lockRole.bind ?_)) fun _ => outside_getRole
  rintro found _ rfl
  exact hNext found

theorem outside_setRolePermissions : Outside newId (setRolePermissions id permissions) :=
  outside_writeSet fun _ => obeys_replaceGrants

theorem outside_replaceRolePermissions {expected : Revision} :
    Outside newId (replaceRolePermissions id expected permissions) := by
  refine outside_writeSet fun found => ?_
  split
  · have hThrown : Obeys newId (.locked id) (throw (.revisionMismatch expected found))
        (fun (_ : Unit) _ => False)
        Phase.MayEnd := .throw trivial
    exact hThrown.bind fun _ _ hNever => hNever.elim
  · exact obeys_replaceGrants

theorem outside_dialogue (newId : Id) (call : Call) : Outside newId (dialogue newId call) := by
  have hRead : ∀ statement : Statement, statement.IsPlain newId →
      Outside newId (uncounted (query statement)) :=
    fun statement hPlain => (Outside.query hPlain).uncounted
  cases call with
  | listPermissions => exact hRead .listPermissions trivial
  | getPermission id => exact outside_getPermission.uncounted
  | getPermissionByName name => exact hRead (.permissionByName name) trivial
  | createPermission name description => exact outside_createPermission.map _
  | updatePermission id name description => exact outside_updatePermission.uncounted
  | deletePermission id => exact outside_deletePermission.map _
  | listRoles => exact hRead .listRoles trivial
  | getRole id => exact outside_getRole.uncounted
  | getRoleByName name => exact hRead (.roleByName name) trivial
  | createRole name => exact outside_createRole.map _
  | updateRole id name => exact outside_updateRole.uncounted
  | deleteRole id => exact outside_deleteRole.map _
  | rolePermissionIds id => exact outside_rolePermissionIds.uncounted
  | setRolePermissions id permissions => exact outside_setRolePermissions.uncounted
  | replaceRolePermissions id expected permissions => exact outside_replaceRolePermissions.uncounted
  | healthCheck => exact hRead .ping trivial

/-- Every dialogue keeps to the protocol, from its start to its end outside of transactions. -/
theorem follows_dialogue (newId : Id) (call : Call) :
    Follows newId (fun _ phase => phase = .idle) .idle (dialogue newId call).run := by
  refine (outside_dialogue newId call).obeys.mono fun outcome phase hIdle => ?_
  cases outcome with
  | ok value => exact hIdle
  | error error => exact hIdle

end Dialogues

end Rolebook.Relational
