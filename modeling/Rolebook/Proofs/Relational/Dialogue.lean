import Rolebook.Relational.Store

/-!
# Laws of dialogues

What a server makes of an attempt is put together from what it makes of its parts: a law for each
way in which attempts are built, so that later proofs never go into the requests of a dialogue.
-/

namespace Rolebook.Relational

open Rolebook.Store (Error Call Inventory)

/-! ## Statements -/

/-- A text that the database can have. -/
def IsClean (text : String) : Prop :=
  '\x00' ∉ text.toList

instance (text : String) : Decidable (IsClean text) :=
  inferInstanceAs (Decidable ('\x00' ∉ text.toList))

theorem execute_of_clean {statement : Statement} {now : Instant} {tables : Tables}
    (hClean : ∀ text ∈ statement.texts, IsClean text) :
    statement.execute now tables = tables.execute now statement := by
  have hNone : ¬ (statement.texts.any fun text => text.toList.contains '\x00') = true := by
    rw [List.any_eq_true]
    rintro ⟨text, hText, hNul⟩
    exact hClean text hText (List.contains_iff_mem.1 hNul)
  rw [Statement.execute, if_neg hNone]

/-- A statement that is done has no text that the database cannot have. -/
theorem clean_of_execute {statement : Statement} {now : Instant} {tables : Tables}
    {done : statement.Value × Tables} (hDone : statement.execute now tables = .ok done) :
    (∀ text ∈ statement.texts, IsClean text) ∧ tables.execute now statement = .ok done := by
  unfold Statement.execute at hDone
  split at hDone
  · cases hDone
  · next hNone =>
      refine ⟨fun text hText hNul => hNone ?_, hDone⟩
      exact List.any_eq_true.2 ⟨text, hText, List.contains_iff_mem.2 hNul⟩

/-- The role at its next revision. -/
def RoleRow.next (row : RoleRow) : RoleRow :=
  { row with revision := row.revision + 1 }

/-- Roles of which none is at its last revision are moved on if they pass the test. -/
theorem bumpRoles_eq_ok {test : RoleRow → Bool} {rows rows' : List RoleRow}
    (hBump : bumpRoles test rows = .ok rows') :
    (∀ row ∈ rows, test row → row.revision ≠ Int64.maxValue) ∧
      rows' = rows.map fun row => if test row then row.next else row := by
  induction rows generalizing rows' with
  | nil =>
      cases hBump
      exact ⟨fun _ hRow => absurd hRow List.not_mem_nil, rfl⟩
  | cons row rows ih =>
      unfold bumpRoles at hBump ih
      rw [List.mapM_cons] at hBump
      generalize hRow : (if test row then row.bump else .ok row) = bumped at hBump
      generalize hRows : (rows.mapM fun row => if test row then row.bump else .ok row) =
        others at hBump
      cases bumped with
      | error error => cases hBump
      | ok row' =>
          cases others with
          | error error => cases hBump
          | ok others =>
              cases hBump
              obtain ⟨hRange, rfl⟩ := ih hRows
              have hHead : (test row → row.revision ≠ Int64.maxValue) ∧
                  row' = if test row then row.next else row := by
                unfold RoleRow.bump at hRow
                split at hRow
                · next hTest =>
                    rw [if_pos hTest]
                    split at hRow
                    · cases hRow
                    · next hLast =>
                        cases hRow
                        exact ⟨fun _ => hLast, rfl⟩
                · next hTest =>
                    rw [if_neg hTest]
                    cases hRow
                    exact ⟨fun hPasses => absurd hPasses hTest, rfl⟩
              rw [List.map_cons, ← hHead.2]
              exact ⟨List.forall_mem_cons.2 ⟨hHead.1, hRange⟩, rfl⟩

theorem bump_eq_ok {tables tables' : Tables} {test : RoleRow → Bool} {value : Unit}
    (hBump : tables.bump test = .ok (value, tables')) :
    (∀ row ∈ tables.roles, test row → row.revision ≠ Int64.maxValue) ∧
      tables' = { tables with
        roles := tables.roles.map fun row => if test row then row.next else row } := by
  unfold Tables.bump at hBump
  cases hRoles : bumpRoles test tables.roles with
  | error error =>
      rw [hRoles] at hBump
      cases hBump
  | ok roles =>
      rw [hRoles] at hBump
      cases hBump
      obtain ⟨hRange, rfl⟩ := bumpRoles_eq_ok hRoles
      exact ⟨hRange, rfl⟩

section Constraints

variable {tables tables' : Tables} {id : Id} {name : String} {description : Option String}
  {touched : Nat}

theorem insertPermission_eq_ok {now createdAt : Instant}
    (hInsert : tables.insertPermission now id name description = .ok (createdAt, tables')) :
    tables' =
      { tables with permissions := tables.permissions ++ [⟨id, name, description, now⟩] } := by
  unfold Tables.insertPermission at hInsert
  split at hInsert
  · cases hInsert
  · split at hInsert
    · cases hInsert
    · split at hInsert
      · cases hInsert
      · cases hInsert
        rfl

/-- A role is added under an identifier that no role has. -/
theorem insertRole_eq_ok {now createdAt : Instant}
    (hInsert : tables.insertRole now id name = .ok (createdAt, tables')) :
    (∀ row ∈ tables.roles, row.id ≠ id) ∧
      tables' = { tables with roles := tables.roles ++ [⟨id, name, 0, now⟩] } := by
  unfold Tables.insertRole at hInsert
  split at hInsert
  · cases hInsert
  · split at hInsert
    · cases hInsert
    · next hAny =>
        split at hInsert
        · cases hInsert
        · cases hInsert
          exact ⟨fun row hRow hId => hAny (List.any_eq_true.2 ⟨row, hRow, beq_iff_eq.2 hId⟩), rfl⟩

/-- Rows of an identifier that are not none are at least one. -/
theorem touched_of_filter {α : Type} {key : α → Id} {rows : List α}
    (hTouched : ¬ (rows.filter fun row => key row == id).isEmpty) :
    (rows.filter fun row => key row == id).length ≠ 0 ∧ id ∈ rows.map key := by
  rw [List.isEmpty_iff] at hTouched
  obtain ⟨row, hRow⟩ := List.exists_mem_of_ne_nil _ hTouched
  obtain ⟨hThere, hId⟩ := List.mem_filter.1 hRow
  exact ⟨fun hZero => hTouched (List.length_eq_zero_iff.1 hZero),
    List.mem_map.2 ⟨row, hThere, eq_of_beq hId⟩⟩

/-- Rows are changed, in which case there are some with the identifier, or nothing is. -/
theorem updatePermission_eq_ok
    (hUpdate : tables.updatePermission id name description = .ok (touched, tables')) :
    tables' = tables ∨ touched ≠ 0 ∧ id ∈ tables.permissions.map PermissionRow.id ∧
      tables' = { tables with
        permissions := tables.permissions.map fun row =>
          if row.id == id then { row with name, description } else row } := by
  simp only [Tables.updatePermission, List.partition_eq_filter_filter] at hUpdate
  split at hUpdate
  · cases hUpdate
    exact .inl rfl
  · next hTouched =>
      obtain ⟨hSome, hThere⟩ := touched_of_filter hTouched
      split at hUpdate
      · cases hUpdate
      · split at hUpdate
        · cases hUpdate
        · cases hUpdate
          exact .inr ⟨hSome, hThere, rfl⟩

theorem updateRole_eq_ok (hUpdate : tables.updateRole id name = .ok (touched, tables')) :
    tables' = tables ∨ touched ≠ 0 ∧ id ∈ tables.roles.map RoleRow.id ∧
      tables' = { tables with
        roles := tables.roles.map fun row =>
          if row.id == id then { row with name } else row } := by
  simp only [Tables.updateRole, List.partition_eq_filter_filter] at hUpdate
  split at hUpdate
  · cases hUpdate
    exact .inl rfl
  · next hTouched =>
      obtain ⟨hSome, hThere⟩ := touched_of_filter hTouched
      split at hUpdate
      · cases hUpdate
      · split at hUpdate
        · cases hUpdate
        · cases hUpdate
          exact .inr ⟨hSome, hThere, rfl⟩

end Constraints

/-- Grants that are added are all of one role. -/
theorem insertGrants_eq_ok {tables tables' : Tables} {role : Id} {permissions : List Id}
    {value : Unit} (hInsert : tables.insertGrants role permissions = .ok (value, tables')) :
    tables' = { tables with grants := tables.grants ++ permissions.map (GrantRow.mk role) } := by
  unfold Tables.insertGrants at hInsert
  dsimp only at hInsert
  split at hInsert
  · cases hInsert
  · split at hInsert
    · cases hInsert
    · split at hInsert
      · cases hInsert
      · cases hInsert
        rfl

/-! ## Attempts -/

variable {α β : Type} {server : Server} {now : Instant}

/-- One request, whose failure is reported in some way. -/
def asking (request : Request) (report : DatabaseError → Error) : Attempt request.Value :=
  ExceptT.mk <| .ask request fun answer => .done (answer.mapError report)

/-- What comes of an attempt, and the server after it. -/
def Server.attempt (server : Server) (now : Instant) (attempt : Attempt α) :
    Except Error α × Server :=
  server.run now attempt.run

namespace Server

theorem run_bind (dialogue : Dialogue α) (next : α → Dialogue β) (server : Server) :
    server.run now (dialogue.bind next) =
      (server.run now dialogue).2.run now (next (server.run now dialogue).1) := by
  induction dialogue generalizing server with
  | done result => rfl
  | ask request rest ih => exact ih _ _

@[simp] theorem attempt_pure (a : α) : server.attempt now (pure a : Attempt α) = (.ok a, server) :=
  rfl

@[simp] theorem attempt_throw (error : Error) :
    server.attempt now (throw error : Attempt α) = (.error error, server) :=
  rfl

/-- The second attempt starts where the first one has come to, if it has succeeded. -/
theorem attempt_bind (first : Attempt α) (next : α → Attempt β) :
    server.attempt now (first >>= next) =
      match server.attempt now first with
      | (.ok a, server) => server.attempt now (next a)
      | (.error error, server) => (.error error, server) := by
  have hRun : server.attempt now (first >>= next) =
      (server.attempt now first).2.run now (ExceptT.bindCont next (server.attempt now first).1) :=
    run_bind ..
  rw [hRun]
  rcases server.attempt now first with ⟨_ | _, _⟩ <;> rfl

theorem attempt_asking (request : Request) (report : DatabaseError → Error) :
    server.attempt now (asking request report) =
      ((server.answer now request).1.mapError report, (server.answer now request).2) :=
  rfl

theorem attempt_send (request : Request) :
    server.attempt now (send request) =
      ((server.answer now request).1.mapError DatabaseError.toError,
        (server.answer now request).2) :=
  rfl

theorem attempt_queryUnique (statement : Statement) (taken : Error) :
    server.attempt now (queryUnique statement taken) =
      ((server.answer now (.execute statement)).1.mapError fun error =>
        if error.code = DatabaseError.uniqueViolation then taken else error.toError,
        (server.answer now (.execute statement)).2) :=
  rfl

theorem attempt_keepName (kind : EntityKind) (name : String) :
    server.attempt now (keepName kind name) =
      ((normalizeName kind.noun name).mapError .invalid, server) :=
  rfl

/-- The requests of a transaction behind its start: those of its body and, if none of them fails,
the commit. -/
def committing (body : Attempt α) : Attempt α := do
  let result ← body
  send .commit
  return result

theorem attempt_committing (body : Attempt α) :
    server.attempt now (committing body) =
      match server.attempt now body with
      | (.ok result, server) =>
        match server.answer now .commit with
        | (.ok _, server) => (.ok result, server)
        | (.error error, server) => (.error error.toError, server)
      | (.error error, server) => (.error error, server) := by
  refine (attempt_bind body _).trans ?_
  rcases server.attempt now body with ⟨error | result, server⟩
  · rfl
  · refine (attempt_bind (send .commit) _).trans ?_
    rw [attempt_send]
    dsimp only
    rcases server.answer now .commit with ⟨_ | _, _⟩ <;> rfl

/-- What is sent behind the last request of a transaction: nothing, or a rollback if the transaction
has failed. -/
def settling : Except Error α → Dialogue (Except Error α)
  | .ok result => .done (.ok result)
  | .error error => .ask .rollback fun _ => .done (.error error)

theorem run_settling (guarded : Attempt α) :
    server.run now (guarded.run.bind settling) =
      match server.attempt now guarded with
      | (.ok result, server) => (.ok result, server)
      | (.error error, server) => (.error error, (server.answer now .rollback).2) := by
  rw [run_bind, show server.run now guarded.run = server.attempt now guarded from rfl]
  rcases server.attempt now guarded with ⟨_ | _, _⟩ <;> rfl

/-- A transaction that cannot be started is not gone into, and one that is not committed is rolled
back. -/
theorem attempt_inTransaction (body : Attempt α) :
    server.attempt now (inTransaction body) =
      match server.answer now .beginTransaction with
      | (.error error, server) => (.error error.toError, server)
      | (.ok _, server) =>
        match server.attempt now (committing body) with
        | (.ok result, server) => (.ok result, server)
        | (.error error, server) => (.error error, (server.answer now .rollback).2) := by
  refine (attempt_bind (send .beginTransaction) _).trans ?_
  rw [attempt_send]
  rcases server.answer now .beginTransaction with ⟨_ | _, server⟩
  · rfl
  · exact run_settling (committing body)

section Bind

variable {server' : Server} {first : Attempt α} {next : α → Attempt β}

theorem attempt_bind_ok {a : α} (hFirst : server.attempt now first = (.ok a, server')) :
    server.attempt now (first >>= next) = server'.attempt now (next a) := by
  rw [attempt_bind, hFirst]

theorem attempt_bind_error {error : Error}
    (hFirst : server.attempt now first = (.error error, server')) :
    server.attempt now (first >>= next) = (.error error, server') := by
  rw [attempt_bind, hFirst]

end Bind

/-! ## Visible tables -/

@[simp] theorem visible_withVisible (server : Server) (tables : Tables) :
    (server.withVisible tables).visible = tables := by
  unfold visible withVisible
  cases server.transaction <;> rfl

@[simp] theorem withVisible_visible (server : Server) :
    server.withVisible server.visible = server := by
  obtain ⟨committed, transaction, connected, faults⟩ := server
  cases transaction <;> rfl

/-! ## Servers that nothing goes wrong with -/

/-- The connection can be used, and no failure is planned. -/
def Calm (server : Server) : Prop :=
  server.connected = true ∧ server.faults = []

theorem answer_of_calm (hCalm : server.Calm) (request : Request) :
    server.answer now request = server.answerUnharmed now request := by
  obtain ⟨committed, transaction, connected, faults⟩ := server
  obtain ⟨rfl, rfl⟩ := hCalm
  rfl

theorem Calm.answerUnharmed (hCalm : server.Calm) (request : Request) :
    (server.answerUnharmed now request).2.Calm := by
  obtain ⟨committed, transaction, connected, faults⟩ := server
  obtain ⟨rfl, rfl⟩ := hCalm
  cases request with
  | connect | beginTransaction | commit | rollback => exact ⟨rfl, rfl⟩
  | execute statement =>
      simp only [Server.answerUnharmed, visible]
      cases statement.execute now (transaction.getD committed) with
      | error error => exact ⟨rfl, rfl⟩
      | ok done => cases transaction <;> exact ⟨rfl, rfl⟩

section Calm

variable {statement : Statement} {tables : Tables} {error : DatabaseError} {taken : Error}
  (hCalm : server.Calm)

include hCalm

theorem answer_execute_ok {value : statement.Value}
    (hDone : statement.execute now server.visible = .ok (value, tables)) :
    server.answer now (.execute statement) = (.ok value, server.withVisible tables) := by
  rw [answer_of_calm hCalm, answerUnharmed, hDone]

theorem answer_execute_error (hFails : statement.execute now server.visible = .error error) :
    server.answer now (.execute statement) = (.error error, server) := by
  rw [answer_of_calm hCalm, answerUnharmed, hFails]

theorem attempt_query {value : statement.Value}
    (hDone : statement.execute now server.visible = .ok (value, tables)) :
    server.attempt now (query statement) = (.ok value, server.withVisible tables) := by
  refine (attempt_send (.execute statement)).trans ?_
  rw [answer_execute_ok hCalm hDone]
  rfl

theorem attempt_queryUnique_ok {value : statement.Value}
    (hDone : statement.execute now server.visible = .ok (value, tables)) :
    server.attempt now (queryUnique statement taken) = (.ok value, server.withVisible tables) := by
  rw [attempt_queryUnique, answer_execute_ok hCalm hDone]
  rfl

theorem attempt_queryUnique_taken (hFails : statement.execute now server.visible = .error error)
    (hCode : error.code = DatabaseError.uniqueViolation) :
    server.attempt now (queryUnique statement taken) = (.error taken, server) := by
  rw [attempt_queryUnique, answer_execute_error hCalm hFails]
  exact congrArg (fun error => (Except.error error, server)) (if_pos hCode)

end Calm

/-- In the middle of a transaction that sees these tables. -/
def inside (committed tables : Tables) : Server :=
  ⟨committed, some tables, true, []⟩

section Transaction

variable {tables tables' : Tables} {body : Attempt α}

theorem attempt_inTransaction_of_calm :
    (ofTables tables []).attempt now (inTransaction body) =
      match (inside tables tables).attempt now (committing body) with
      | (.ok result, server) => (.ok result, server)
      | (.error error, server) => (.error error, (server.answer now .rollback).2) :=
  attempt_inTransaction body

/-- What a transaction that succeeds has done to its tables is done to all. -/
theorem attempt_inTransaction_ok {a : α}
    (hBody : (inside tables tables).attempt now body = (.ok a, inside tables tables')) :
    (ofTables tables []).attempt now (inTransaction body) = (.ok a, ofTables tables' []) := by
  have hCommitting : (inside tables tables).attempt now (committing body) =
      (.ok a, ofTables tables' []) :=
    attempt_bind_ok hBody
  rw [attempt_inTransaction_of_calm, hCommitting]

theorem attempt_inTransaction_error {error : Error}
    (hBody : (inside tables tables).attempt now body = (.error error, inside tables tables')) :
    (ofTables tables []).attempt now (inTransaction body) = (.error error, ofTables tables []) := by
  have hCommitting : (inside tables tables).attempt now (committing body) =
      (.error error, inside tables tables') :=
    attempt_bind_error hBody
  rw [attempt_inTransaction_of_calm, hCommitting]
  rfl

end Transaction

end Server

end Rolebook.Relational
