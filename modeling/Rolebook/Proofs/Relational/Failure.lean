import Rolebook.Proofs.Relational.Disturbance
import Rolebook.Relational.Store

/-!
# Calls that fail

What a call that fails has made of the tables. A call is a change, in one statement or in a
transaction, and the readings behind it. If the change fails then the tables are as before. But a
change that stands is not undone when a reading behind it fails, and the call reports a failure all
the same: then everything has been done, and only what was to be read is missing.
-/

namespace Rolebook.Relational

open Rolebook.Store (Error Call)

variable {α β : Type} {labels : List String}

/-! ## Changes and the readings behind them -/

/-- An error is the report of a failure that was planned for all requests or for one of these. -/
def Reported (labels : List String) (target : Option String) (failure : DatabaseError)
    (error : Error) : Prop :=
  error = failure.toError ∧ ∀ label, target = some label → label ∈ labels

/-- An attempt has failed although it succeeds if nothing goes wrong: what it makes of the tables
then it has made of them, and it was a failure planned for one of these requests that has struck. -/
structure Completed (labels : List String) (server : Server) (now : Instant) (attempt : Attempt α)
    (error : Error) : Prop where
  succeeds : ∃ a, (server.calmed.attempt now attempt).1 = .ok a
  committed : (server.attempt now attempt).2.committed =
    (server.calmed.attempt now attempt).2.committed
  planned : ∃ planned ∈ server.faults, Reported labels planned.target planned.failure error

/-- Outside of transactions, an attempt that fails has changed nothing, or it has done everything
and only the readings at its end have failed. -/
def FailsLate (labels : List String) (attempt : Attempt α) : Prop :=
  ∀ (server : Server) (now : Instant), server.Idle →
    (server.attempt now attempt).2.Idle ∧ ∀ error, (server.attempt now attempt).1 = .error error →
      (server.attempt now attempt).2.committed = server.committed ∨
        Completed labels server now attempt error

theorem KeepsTables.failsLate {attempt : Attempt α} (hKeeps : KeepsTables Server.Idle attempt) :
    FailsLate labels attempt :=
  fun server now hIdle => ⟨(hKeeps server now hIdle).1, fun _ _ => .inl (hKeeps server now hIdle).2⟩

theorem FailsLate.map {attempt : Attempt α} (hFails : FailsLate labels attempt) (f : α → β) :
    FailsLate labels (attempt >>= fun a => pure (f a)) := by
  intro server now hIdle
  obtain ⟨hAfter, hEither⟩ := hFails server now hIdle
  cases hRun : server.attempt now attempt with
  | mk outcome server' =>
      rw [hRun] at hAfter hEither
      cases outcome with
      | ok a =>
          rw [Server.attempt_bind_ok hRun]
          exact ⟨hAfter, fun error hError => nomatch hError⟩
      | error error =>
          rw [Server.attempt_bind_error hRun]
          refine ⟨hAfter, ?_⟩
          rintro _ ⟨⟩
          refine (hEither error rfl).imp_right fun ⟨⟨a, hSucceeds⟩, hSame, hPlanned⟩ => ?_
          have hCalm : server.calmed.attempt now attempt =
              (.ok a, (server.calmed.attempt now attempt).2) :=
            Prod.ext hSucceeds rfl
          constructor
          · rw [Server.attempt_bind_ok hCalm]
            exact ⟨f a, rfl⟩
          · rw [hRun] at hSame
            rw [Server.attempt_bind_error hRun, Server.attempt_bind_ok hCalm]
            exact hSame
          · exact hPlanned

theorem FailsLate.keepName {next : String → Attempt β}
    (hNext : ∀ kept, FailsLate labels (next kept)) (kind : EntityKind) (name : String) :
    FailsLate labels (keepName kind name >>= next) := by
  intro server now hIdle
  have hKept : server.attempt now (Relational.keepName kind name) = _ :=
    Server.attempt_keepName kind name
  have hKept' : server.calmed.attempt now (Relational.keepName kind name) = _ :=
    Server.attempt_keepName kind name
  cases hName : (normalizeName kind.noun name).mapError Error.invalid with
  | error error =>
      rw [hName] at hKept
      rw [Server.attempt_bind_error hKept]
      exact ⟨hIdle, fun _ _ => .inl rfl⟩
  | ok kept =>
      rw [hName] at hKept hKept'
      rw [Server.attempt_bind_ok hKept]
      obtain ⟨hAfter, hEither⟩ := hNext kept server now hIdle
      refine ⟨hAfter, fun error hError => (hEither error hError).imp_right
        fun ⟨hSucceeds, hSame, hPlanned⟩ => ?_⟩
      constructor
      · rwa [Server.attempt_bind_ok hKept']
      · rwa [Server.attempt_bind_ok hKept, Server.attempt_bind_ok hKept']
      · exact hPlanned

/-- An attempt that only reads, and that succeeds on tables in which it finds what it reads. -/
structure Reads (labels : List String) (finds : Tables → Prop) (attempt : Attempt α) : Prop where
  keeps : KeepsTables Server.Idle attempt
  reported : Steady (Reported labels) attempt
  succeeds : ∀ (server : Server) (now : Instant), server.Calm → finds server.visible →
    ∃ a, (server.attempt now attempt).1 = .ok a

/-- An attempt that changes the tables as a whole or not at all, and leaves them as they are or such
that what is read behind it is found. -/
structure Changes (finds : α → Tables → Prop) (attempt : Attempt α) : Prop where
  settles : Settles attempt
  steady : Steady (fun _ _ _ => True) attempt
  found : ∀ (server : Server) (now : Instant) (a : α) (server' : Server), server.Idle →
    server.attempt now attempt = (.ok a, server') →
    server'.visible = server.visible ∨ finds a server'.visible

/-- When a change stands, only a failure that strikes a reading keeps the call from its success. -/
theorem Changes.failsLate {change : Attempt α} {rest : α → Attempt β} {finds : α → Tables → Prop}
    (hChange : Changes finds change) (hReads : ∀ a, Reads labels (finds a) (rest a)) :
    FailsLate labels (change >>= rest) := by
  intro server now hIdle
  cases hRun : server.attempt now change with
  | mk outcome between =>
      obtain ⟨hBetween, hUndone⟩ := hChange.settles server now hIdle
      rw [hRun] at hBetween hUndone
      cases outcome with
      | error error =>
          rw [Server.attempt_bind_error hRun]
          exact ⟨hBetween, fun _ _ => .inl (hUndone error rfl)⟩
      | ok a =>
          rw [Server.attempt_bind_ok hRun]
          obtain ⟨hAfter', hKept⟩ := (hReads a).keeps between now hBetween
          refine ⟨hAfter', fun error hError => ?_⟩
          rcases hChange.found server now a between hIdle hRun with hSame | hFinds
          · rw [hBetween.visible, hIdle.visible] at hSame
            exact .inl (hKept.trans hSame)
          · obtain ⟨b, hSucceeds⟩ :=
              (hReads a).succeeds between.calmed now between.calm_calmed hFinds
            rcases hChange.steady server now with hUndisturbed | ⟨_, hFails, -⟩
            · obtain ⟨hOutcome, hAfter, hLeft, hConnection⟩ := hUndisturbed
              rw [hRun] at hOutcome hAfter hLeft hConnection
              have hCalm : server.calmed.attempt now change = (.ok a, between.calmed) :=
                Prod.ext hOutcome.symm hAfter.symm
              rcases hConnection ⟨a, rfl⟩ with hConnected | rfl
              · -- the change stands, so one of the readings was struck
                rcases (hReads a).reported between now with hUndisturbed' |
                  ⟨error', hFails, hBlamed⟩
                · rw [hUndisturbed'.outcome, hSucceeds] at hError
                  cases hError
                · obtain rfl : error' = error := Except.error.inj (hFails.symm.trans hError)
                  obtain ⟨fault, hFault, hReport⟩ := hBlamed hConnected
                  obtain ⟨planned, hPlanned, hTarget, hFailure⟩ := hLeft fault hFault
                  refine .inr ⟨?_, ?_, planned, hPlanned, by rwa [hTarget, hFailure]⟩
                  · rw [Server.attempt_bind_ok hCalm]
                    exact ⟨b, hSucceeds⟩
                  · rw [Server.attempt_bind_ok hRun, Server.attempt_bind_ok hCalm, hKept]
                    exact ((hReads a).keeps between.calmed now hBetween).2.symm
              · exact .inl hKept
            · rw [hRun] at hFails
              cases hFails

/-! ## Readings -/

section Readings

variable {statement : Statement} {id : Id}

/-- A statement whose only effect is its result. -/
def Statement.IsReading (statement : Statement) : Prop :=
  ∀ (now : Instant) (tables : Tables), ∃ value, tables.execute now statement = .ok (value, tables)

theorem keepsTables_query (hReads : statement.IsReading) :
    KeepsTables Server.Idle (query statement) := by
  refine keepsTables_idle fun now tables value tables' hDone => ?_
  obtain ⟨value', hRead⟩ := hReads now tables
  have hSame := hRead.symm.trans (clean_of_execute hDone).2
  cases hSame
  rfl

theorem steady_query (hLabel : statement.label ∈ labels) :
    Steady (Reported labels) (query statement) := by
  refine .asking (.execute statement) ?_
  rintro target failure (rfl | rfl)
  · exact ⟨rfl, fun _ hTarget => nomatch hTarget⟩
  · exact ⟨rfl, fun label hTarget => Option.some.inj hTarget ▸ hLabel⟩

theorem attempt_query_of_calm {server : Server} (hCalm : server.Calm) {now : Instant}
    {value : statement.Value} (hClean : ∀ text ∈ statement.texts, IsClean text)
    (hReads : server.visible.execute now statement = .ok (value, server.visible)) :
    server.attempt now (query statement) = (.ok value, server) := by
  have hSent := Server.attempt_query hCalm ((execute_of_clean hClean).trans hReads)
  rwa [server.withVisible_visible] at hSent

/-- A permission is in the tables, and the database can be asked for it. -/
def FindsPermission (id : Id) (tables : Tables) : Prop :=
  IsClean id ∧ id ∈ tables.permissions.map PermissionRow.id

/-- A role is in the tables, and the database can be asked for it. -/
def FindsRole (id : Id) (tables : Tables) : Prop :=
  IsClean id ∧ id ∈ tables.roles.map RoleRow.id

theorem reads_countInventory :
    Reads [Statement.countPermissions.label, Statement.countRoles.label] (fun _ => True)
      countInventory where
  keeps := by
    have hPermissions : KeepsTables Server.Idle (query .countPermissions) :=
      keepsTables_query fun _ _ => ⟨_, rfl⟩
    have hRoles : KeepsTables Server.Idle (query .countRoles) :=
      keepsTables_query fun _ _ => ⟨_, rfl⟩
    exact hPermissions.bind fun permissions => hRoles.bind fun roles => .pure _
  reported := by
    have hPermissions :
        Steady (Reported [Statement.countPermissions.label, Statement.countRoles.label])
        (query .countPermissions) := steady_query List.mem_cons_self
    have hRoles : Steady (Reported [Statement.countPermissions.label, Statement.countRoles.label])
        (query .countRoles) := steady_query (List.mem_cons_of_mem _ List.mem_cons_self)
    exact hPermissions.bind fun permissions => hRoles.bind fun roles => .pure _
  succeeds := by
    intro server now hCalm _
    have hPermissions : server.attempt now (query .countPermissions) =
        (.ok server.visible.permissions.length, server) :=
      attempt_query_of_calm hCalm (fun _ hText => nomatch hText) rfl
    have hRoles : server.attempt now (query .countRoles) =
        (.ok server.visible.roles.length, server) :=
      attempt_query_of_calm hCalm (fun _ hText => nomatch hText) rfl
    have hCounted : server.attempt now countInventory =
        (.ok ⟨server.visible.permissions.length, server.visible.roles.length⟩, server) :=
      (Server.attempt_bind_ok hPermissions).trans (Server.attempt_bind_ok hRoles)
    exact ⟨_, congrArg Prod.fst hCounted⟩

theorem keepsTables_getPermission (id : Id) : KeepsTables Server.Idle (getPermission id) := by
  have hFound : KeepsTables Server.Idle (query (.permissionById id)) :=
    keepsTables_query fun _ _ => ⟨_, rfl⟩
  refine hFound.bind fun found => ?_
  cases found with
  | none => exact .throw _
  | some permission => exact .pure permission

theorem keepsTables_getRole (id : Id) : KeepsTables Server.Idle (getRole id) := by
  have hFound : KeepsTables Server.Idle (query (.roleById id)) :=
    keepsTables_query fun _ _ => ⟨_, rfl⟩
  refine hFound.bind fun found => ?_
  cases found with
  | none => exact .throw _
  | some role => exact .pure role

theorem keepsTables_rolePermissionIds (id : Id) :
    KeepsTables Server.Idle (rolePermissionIds id) := by
  have hFound : KeepsTables Server.Idle (query (.roleExists id)) :=
    keepsTables_query fun _ _ => ⟨_, rfl⟩
  have hGrants : KeepsTables Server.Idle (query (.grantsOfRole id)) :=
    keepsTables_query fun _ _ => ⟨_, rfl⟩
  refine hFound.bind fun found => ?_
  cases found with
  | false => exact .bind (.throw _) fun _ => hGrants
  | true => exact hGrants

theorem reads_getPermission :
    Reads [(Statement.permissionById id).label] (FindsPermission id) (getPermission id) where
  keeps := keepsTables_getPermission id
  reported := by
    have hFound : Steady (Reported [(Statement.permissionById id).label])
        (query (.permissionById id)) :=
      steady_query List.mem_cons_self
    refine hFound.bind fun found => ?_
    cases found with
    | none => exact .throw _
    | some permission => exact .pure permission
  succeeds := by
    rintro server now hCalm ⟨hClean, hThere⟩
    obtain ⟨row, hRow, hId⟩ := List.mem_map.1 hThere
    obtain ⟨found, hFound⟩ := Option.isSome_iff_exists.1
      (List.find?_isSome.2 ⟨row, hRow, beq_iff_eq.2 hId⟩ :
        (server.visible.permissions.find? fun row => row.id == id).isSome)
    have hRead : server.attempt now (query (.permissionById id)) =
        (.ok (some (server.visible.joinPermission found)), server) := by
      refine attempt_query_of_calm hCalm (List.forall_mem_singleton.2 hClean) ?_
      rw [Tables.execute, hFound]
      rfl
    exact ⟨_, congrArg Prod.fst (Server.attempt_bind_ok hRead)⟩

theorem reads_getRole : Reads [(Statement.roleById id).label] (FindsRole id) (getRole id) where
  keeps := keepsTables_getRole id
  reported := by
    have hFound : Steady (Reported [(Statement.roleById id).label]) (query (.roleById id)) :=
      steady_query List.mem_cons_self
    refine hFound.bind fun found => ?_
    cases found with
    | none => exact .throw _
    | some role => exact .pure role
  succeeds := by
    rintro server now hCalm ⟨hClean, hThere⟩
    obtain ⟨row, hRow, hId⟩ := List.mem_map.1 hThere
    obtain ⟨found, hFound⟩ := Option.isSome_iff_exists.1
      (List.find?_isSome.2 ⟨row, hRow, beq_iff_eq.2 hId⟩ :
        (server.visible.roles.find? fun row => row.id == id).isSome)
    have hRead : server.attempt now (query (.roleById id)) =
        (.ok (some (server.visible.joinRole found)), server) := by
      refine attempt_query_of_calm hCalm (List.forall_mem_singleton.2 hClean) ?_
      rw [Tables.execute, hFound]
      rfl
    exact ⟨_, congrArg Prod.fst (Server.attempt_bind_ok hRead)⟩

/-- Nothing is read if the change has touched no row. -/
theorem Reads.ifTouched {finds : Tables → Prop} {rest : Attempt α}
    (hReads : Reads labels finds rest) (touched : Nat) (error : Error) :
    Reads labels (fun tables => touched ≠ 0 ∧ finds tables)
      (do
        if touched = 0 then
          throw error
        rest) := by
  by_cases hTouched : touched = 0
  · simp only [if_pos hTouched]
    exact ⟨.bind (.throw error) fun _ => hReads.keeps,
      .bind (.throw error) fun _ => hReads.reported,
      fun _ _ _ hFinds => absurd hTouched hFinds.1⟩
  · simp only [if_neg hTouched]
    exact ⟨hReads.keeps, hReads.reported, fun server now hCalm hFinds =>
      hReads.succeeds server now hCalm hFinds.2⟩

theorem Reads.map {finds : Tables → Prop} {attempt : Attempt α}
    (hReads : Reads labels finds attempt) (f : α → β) :
    Reads labels finds (attempt >>= fun a => pure (f a)) where
  keeps := hReads.keeps.bind fun a => .pure (f a)
  reported := hReads.reported.bind fun a => .pure (f a)
  succeeds := by
    intro server now hCalm hFinds
    obtain ⟨a, hSucceeds⟩ := hReads.succeeds server now hCalm hFinds
    have hRun : server.attempt now attempt = (.ok a, (server.attempt now attempt).2) :=
      Prod.ext hSucceeds rfl
    exact ⟨f a, congrArg Prod.fst (Server.attempt_bind_ok hRun)⟩

end Readings

/-! ## Changes -/

section Changes

variable {report : DatabaseError → Error} {id : Id}

theorem changes_statement (statement : Statement) {finds : statement.Value → Tables → Prop}
    (hFinds : ∀ now tables value tables', statement.execute now tables = .ok (value, tables') →
      tables' = tables ∨ finds value tables') :
    Changes finds (asking (.execute statement) report) where
  settles := settles_statement
  steady := .asking _ fun _ _ _ => trivial
  found := by
    intro server now value server' _ hRun
    have hEnsures : Ensures (· = server.visible) (asking (.execute statement) report)
        fun value tables =>
        tables = server.visible ∨ finds value tables := by
      refine .asking ?_
      rintro now _ value tables' rfl hDone
      exact hFinds now _ value tables' hDone
    exact hEnsures server now value server' rfl hRun

/-- Rows of which some are changed, but not what identifies them. -/
theorem keys_change {ρ : Type} {rows : List ρ} {key : ρ → Id} {test : ρ → Bool} {change : ρ → ρ}
    (hSame : ∀ row, key (change row) = key row) :
    (rows.map fun row => if test row then change row else row).map key = rows.map key := by
  rw [List.map_map]
  refine List.map_congr_left fun row _ => ?_
  show key (if test row then change row else row) = key row
  split
  · exact hSame row
  · rfl

theorem updatePermission_finds {tables tables' : Tables} {name : String}
    {description : Option String} {touched : Nat}
    (hDone : tables.updatePermission id name description = .ok (touched, tables')) :
    tables' = tables ∨ touched ≠ 0 ∧ id ∈ tables'.permissions.map PermissionRow.id := by
  refine (updatePermission_eq_ok hDone).imp_right ?_
  rintro ⟨hTouched, hThere, rfl⟩
  refine ⟨hTouched, ?_⟩
  rw [keys_change]
  · exact hThere
  · exact fun _ => rfl

theorem updateRole_finds {tables tables' : Tables} {name : String} {touched : Nat}
    (hDone : tables.updateRole id name = .ok (touched, tables')) :
    tables' = tables ∨ touched ≠ 0 ∧ id ∈ tables'.roles.map RoleRow.id := by
  refine (updateRole_eq_ok hDone).imp_right ?_
  rintro ⟨hTouched, hThere, rfl⟩
  refine ⟨hTouched, ?_⟩
  rw [keys_change]
  · exact hThere
  · exact fun _ => rfl

theorem deleteRole_touches (tables : Tables) (id : Id) :
    (tables.deleteRole id).2 = tables ∨ (tables.deleteRole id).1 ≠ 0 := by
  simp only [Tables.deleteRole, List.partition_eq_filter_filter]
  split
  · exact .inl rfl
  · next hTouched => exact .inr (touched_of_filter hTouched).1

end Changes

/-! ## Bodies of transactions -/

/-- An attempt that keeps to the tables of the transaction in which it is made, and that only
failures of the plan can disturb. -/
structure Sheltered (attempt : Attempt α) : Prop where
  keeps : KeepsTables Server.Busy attempt
  steady : Steady (fun _ _ _ => True) attempt

namespace Sheltered

variable {id : Id}

protected theorem pure (a : α) : Sheltered (pure a) :=
  ⟨.pure a, .pure a⟩

protected theorem throw (error : Error) : Sheltered (throw error : Attempt α) :=
  ⟨.throw error, .throw error⟩

protected theorem bind {first : Attempt α} {next : α → Attempt β} (hFirst : Sheltered first)
    (hNext : ∀ a, Sheltered (next a)) :
    Sheltered (first >>= next) :=
  ⟨hFirst.keeps.bind fun a => (hNext a).keeps, hFirst.steady.bind fun a => (hNext a).steady⟩

protected theorem query (statement : Statement) : Sheltered (query statement) :=
  ⟨keepsTables_busy, .asking _ fun _ _ _ => trivial⟩

theorem changes {body : Attempt α} (hBody : Sheltered body) {finds : α → Tables → Prop}
    (hFinds : Ensures (fun _ => True) body finds) : Changes finds (inTransaction body) where
  settles := settles_inTransaction hBody.keeps
  steady := steady_inTransaction hBody.steady hBody.keeps
  found :=
    fun _ _ _ _ hIdle hRun => .inr (ensures_inTransaction hFinds hBody.keeps hIdle trivial hRun)

theorem lockRole : Sheltered (lockRole id) := by
  refine .bind (.query (.lockRole id)) fun found => ?_
  cases found with
  | none => exact .throw _
  | some revision => exact .pure revision

theorem replaceGrants {permissions : IdSet} : Sheltered (replaceGrants id permissions) := by
  refine .bind (.query (.knownPermissions permissions.toList)) fun known => ?_
  cases hMissing : permissions.toList.find? fun id => !List.contains known id with
  | some missing => exact .throw _
  | none =>
      exact .bind (.query (.deleteGrants id)) fun _ =>
        .bind (.query (.insertGrants id permissions.toList)) fun _ => .query (.bumpRole id)

end Sheltered

section Finding

variable {id : Id}

/-- A statement behind which a role can still be found. -/
theorem ensures_findsRole {statement : Statement}
    (hKeeps : ∀ (now : Instant) (tables : Tables) (value : statement.Value) (tables' : Tables),
      tables.execute now statement = .ok (value, tables') →
        tables'.roles.map RoleRow.id = tables.roles.map RoleRow.id) :
    Ensures (FindsRole id) (query statement) fun _ => FindsRole id := by
  refine .asking fun now tables value tables' hBefore hDone => ?_
  rw [FindsRole, hKeeps now tables value tables' (clean_of_execute hDone).2]
  exact hBefore

theorem ids_bump {tables tables' : Tables} {test : RoleRow → Bool} {value : Unit}
    (hBump : tables.bump test = .ok (value, tables')) :
    tables'.roles.map RoleRow.id = tables.roles.map RoleRow.id := by
  obtain ⟨-, rfl⟩ := bump_eq_ok hBump
  exact keys_change fun _ => rfl

theorem ensures_lockRole : Ensures (fun _ => True) (lockRole id) fun _ => FindsRole id := by
  have hLocked : Ensures (fun _ => True) (query (.lockRole id)) fun found tables => found ≠ none →
      FindsRole id tables := by
    refine .asking fun now tables found tables' _ hDone hFound => ?_
    obtain ⟨hClean, hDone⟩ := clean_of_execute hDone
    cases hDone
    refine ⟨hClean id List.mem_cons_self, ?_⟩
    obtain ⟨revision, hRevision⟩ := Option.ne_none_iff_exists'.1 hFound
    obtain ⟨row, hRow, -⟩ := Option.map_eq_some_iff.1 hRevision
    have hId := List.find?_some hRow
    exact List.mem_map.2 ⟨row, List.mem_of_find?_eq_some hRow, eq_of_beq hId⟩
  refine hLocked.bind fun found => ?_
  cases found with
  | none => exact .throw _
  | some revision =>
      intro server now _ server' hFinds hRun
      cases hRun
      exact hFinds (Option.some_ne_none _)

theorem ensures_replaceGrants {permissions : IdSet} :
    Ensures (FindsRole id) (replaceGrants id permissions) fun _ => FindsRole id := by
  have hKnown : Ensures (FindsRole id) (query (.knownPermissions permissions.toList)) fun _ =>
      FindsRole id := by
    refine ensures_findsRole ?_
    rintro now tables value _ ⟨⟩
    rfl
  have hDelete : Ensures (FindsRole id) (query (.deleteGrants id)) fun _ => FindsRole id := by
    refine ensures_findsRole ?_
    rintro now tables value _ ⟨⟩
    rfl
  have hInsert : Ensures (FindsRole id) (query (.insertGrants id permissions.toList)) fun _ =>
      FindsRole id :=
    ensures_findsRole fun now tables value tables' hDone => by rw [insertGrants_eq_ok hDone]
  have hBump : Ensures (FindsRole id) (query (.bumpRole id)) fun _ => FindsRole id :=
    ensures_findsRole fun now tables value tables' hDone => ids_bump hDone
  refine hKnown.bind fun known => ?_
  cases hMissing : permissions.toList.find? fun id => !List.contains known id with
  | some missing => exact .throw _
  | none => exact hDelete.bind fun _ => hInsert.bind fun _ => hBump

end Finding

/-! ## Calls -/

/-- The labels of the readings with which a call ends when its change stands. -/
def readingsBehind : Call → List String
  | .createPermission _ _ | .deletePermission _ | .createRole _ | .deleteRole _ =>
    [Statement.countPermissions.label, Statement.countRoles.label]
  | .updatePermission id _ _ => [(Statement.permissionById id).label]
  | .updateRole id _ | .setRolePermissions id _ | .replaceRolePermissions id _ _ =>
    [(Statement.roleById id).label]
  | _ => []

section Calls

variable {id newId : Id} {name : String} {description : Option String} {permissions : IdSet}
  {expected : Revision}

theorem failsLate_createPermission :
    FailsLate (readingsBehind (.createPermission name description))
      (createPermission newId name description) := by
  refine .keepName (fun kept => ?_) .permission name
  have hInsert : Changes (fun _ _ => True)
      (queryUnique (.insertPermission newId kept description) (.nameTaken .permission kept)) :=
    changes_statement (.insertPermission newId kept description) fun _ _ _ _ _ => .inr trivial
  exact hInsert.failsLate fun createdAt => reads_countInventory.map _

theorem failsLate_createRole :
    FailsLate (readingsBehind (.createRole name)) (createRole newId name) := by
  refine .keepName (fun kept => ?_) .role name
  have hInsert :
      Changes (fun _ _ => True) (queryUnique (.insertRole newId kept) (.nameTaken .role kept)) :=
    changes_statement (.insertRole newId kept) fun _ _ _ _ _ => .inr trivial
  exact hInsert.failsLate fun createdAt => reads_countInventory.map _

theorem failsLate_updatePermission :
    FailsLate (readingsBehind (.updatePermission id name description))
      (updatePermission id name description) := by
  refine .keepName (fun kept => ?_) .permission name
  have hUpdate : Changes (fun (touched : Nat) tables => touched ≠ 0 ∧ FindsPermission id tables)
      (queryUnique (.updatePermission id kept description) (.nameTaken .permission kept)) := by
    refine changes_statement (.updatePermission id kept description)
      fun now tables touched tables' hDone => ?_
    obtain ⟨hClean, hDone⟩ := clean_of_execute hDone
    refine (updatePermission_finds hDone).imp_right fun ⟨hTouched, hThere⟩ => ?_
    exact ⟨hTouched, hClean id List.mem_cons_self, hThere⟩
  exact hUpdate.failsLate fun touched => reads_getPermission.ifTouched touched _

theorem failsLate_updateRole :
    FailsLate (readingsBehind (.updateRole id name)) (updateRole id name) := by
  refine .keepName (fun kept => ?_) .role name
  have hUpdate : Changes (fun (touched : Nat) tables => touched ≠ 0 ∧ FindsRole id tables)
      (queryUnique (.updateRole id kept) (.nameTaken .role kept)) := by
    refine changes_statement (.updateRole id kept) fun now tables touched tables' hDone => ?_
    obtain ⟨hClean, hDone⟩ := clean_of_execute hDone
    refine (updateRole_finds hDone).imp_right fun ⟨hTouched, hThere⟩ => ?_
    exact ⟨hTouched, hClean id List.mem_cons_self, hThere⟩
  exact hUpdate.failsLate fun touched => reads_getRole.ifTouched touched _

theorem failsLate_deleteRole : FailsLate (readingsBehind (.deleteRole id)) (deleteRole id) := by
  have hDelete : Changes (fun (touched : Nat) _ => touched ≠ 0 ∧ True)
      (query (.deleteRole id)) := by
    refine changes_statement (.deleteRole id) fun now tables touched tables' hDone => ?_
    have hDone : (tables.deleteRole id) = (touched, tables') :=
      Except.ok.inj (clean_of_execute hDone).2
    have hTouches := deleteRole_touches tables id
    rw [hDone] at hTouches
    exact hTouches.imp_right fun hTouched => ⟨hTouched, trivial⟩
  exact hDelete.failsLate fun touched => reads_countInventory.ifTouched touched _

theorem failsLate_deletePermission :
    FailsLate (readingsBehind (.deletePermission id)) (deletePermission id) := by
  have hBody : Sheltered
      (do
        query (.bumpHolders id)
        let touched : Nat ← query (.deletePermission id)
        if touched = 0 then
          throw (.missing .permission)) := by
    refine .bind (.query (.bumpHolders id)) fun _ =>
      .bind (.query (.deletePermission id)) fun touched => ?_
    split
    · exact .throw _
    · exact .pure _
  have hDelete : Changes (fun _ _ => True) _ := hBody.changes fun _ _ _ _ _ _ => trivial
  exact hDelete.failsLate fun _ => reads_countInventory

/-- The dialogues that give a role other permissions: a transaction that starts with a lock on the
role, and the role as it is afterwards. -/
theorem failsLate_writeSet {next : Revision → Attempt Unit}
    (hNext : ∀ found, Sheltered (next found))
    (hFinds : ∀ found, Ensures (FindsRole id) (next found) fun _ => FindsRole id) :
    FailsLate [(Statement.roleById id).label]
      (do
        inTransaction do
          let found ← lockRole id
          next found
        getRole id) := by
  have hBody : Sheltered (lockRole id >>= next) := .bind .lockRole hNext
  have hWrite := hBody.changes (ensures_lockRole.bind hFinds)
  exact hWrite.failsLate fun _ => reads_getRole

theorem failsLate_setRolePermissions :
    FailsLate (readingsBehind (.setRolePermissions id permissions))
      (setRolePermissions id permissions) :=
  failsLate_writeSet (fun _ => .replaceGrants) fun _ => ensures_replaceGrants

theorem failsLate_replaceRolePermissions :
    FailsLate (readingsBehind (.replaceRolePermissions id expected permissions))
      (replaceRolePermissions id expected permissions) := by
  refine failsLate_writeSet (fun found => ?_) fun found => ?_
  · split
    · exact .bind (.throw _) fun _ => .replaceGrants
    · exact .replaceGrants
  · split
    · exact .bind (.throw _) fun _ => ensures_replaceGrants
    · exact ensures_replaceGrants

theorem failsLate_dialogue (newId : Id) (call : Call) :
    FailsLate (readingsBehind call) (dialogue newId call) := by
  have hRead : ∀ statement : Statement, statement.IsReading →
      FailsLate [] (uncounted (query statement)) :=
    fun statement hReads => (keepsTables_query hReads).failsLate.map _
  cases call with
  | listPermissions => exact hRead .listPermissions fun _ _ => ⟨_, rfl⟩
  | getPermission id => exact (keepsTables_getPermission id).failsLate.map _
  | getPermissionByName name => exact hRead (.permissionByName name) fun _ _ => ⟨_, rfl⟩
  | createPermission name description => exact failsLate_createPermission.map _
  | updatePermission id name description => exact failsLate_updatePermission.map _
  | deletePermission id => exact failsLate_deletePermission.map _
  | listRoles => exact hRead .listRoles fun _ _ => ⟨_, rfl⟩
  | getRole id => exact (keepsTables_getRole id).failsLate.map _
  | getRoleByName name => exact hRead (.roleByName name) fun _ _ => ⟨_, rfl⟩
  | createRole name => exact failsLate_createRole.map _
  | updateRole id name => exact failsLate_updateRole.map _
  | deleteRole id => exact failsLate_deleteRole.map _
  | rolePermissionIds id => exact (keepsTables_rolePermissionIds id).failsLate.map _
  | setRolePermissions id permissions => exact failsLate_setRolePermissions.map _
  | replaceRolePermissions id expected permissions => exact failsLate_replaceRolePermissions.map _
  | healthCheck => exact hRead .ping fun _ _ => ⟨_, rfl⟩

end Calls

namespace Store

/-- The store as it is if nothing goes wrong from now on. -/
def calmed (store : Store) : Store :=
  { store with server := store.server.calmed }

theorem server_perform (store : Store) (moment : Moment) (call : Call) :
    (store.perform moment call).2.server =
      (store.server.attempt moment.now.wholeMicrosecond (dialogue moment.newId call)).2 := by
  unfold perform
  rw [show store.server.run moment.now.wholeMicrosecond (dialogue moment.newId call).run =
    store.server.attempt moment.now.wholeMicrosecond (dialogue moment.newId call) from rfl]
  rcases store.server.attempt moment.now.wholeMicrosecond (dialogue moment.newId call) with
    ⟨_ | _, _⟩ <;> rfl

theorem answer_perform (store : Store) (moment : Moment) (call : Call) :
    (store.perform moment call).1 =
      (store.server.attempt moment.now.wholeMicrosecond (dialogue moment.newId call)).1.map
        Prod.fst := by
  unfold perform
  rw [show store.server.run moment.now.wholeMicrosecond (dialogue moment.newId call).run =
    store.server.attempt moment.now.wholeMicrosecond (dialogue moment.newId call) from rfl]
  rcases store.server.attempt moment.now.wholeMicrosecond (dialogue moment.newId call) with
    ⟨_ | _, _⟩ <;> rfl

/-- A call that fails has left no transaction open. It has changed nothing, or it has changed
exactly what it changes if nothing goes wrong: then it has failed because of a planned failure that
has struck one of the readings behind its change. -/
theorem failed_call_changes_nothing_or_all {store : Store} {moment : Moment} {call : Call}
    {error : Error} (hIdle : store.server.transaction = none)
    (hFailed : (store.perform moment call).1 = .error error) :
    (store.perform moment call).2.server.transaction = none ∧
      ((store.perform moment call).2.server.committed = store.server.committed ∨
        (∃ value, (store.calmed.perform moment call).1 = .ok value) ∧
          (store.perform moment call).2.server.committed =
            (store.calmed.perform moment call).2.server.committed ∧
          ∃ planned ∈ store.server.faults, error = planned.failure.toError ∧
            ∀ label, planned.target = some label → label ∈ readingsBehind call) := by
  obtain ⟨hAfter, hEither⟩ :=
    failsLate_dialogue moment.newId call store.server moment.now.wholeMicrosecond hIdle
  rw [server_perform, server_perform]
  refine ⟨hAfter, ?_⟩
  rw [answer_perform] at hFailed ⊢
  cases hOutcome :
    (store.server.attempt moment.now.wholeMicrosecond (dialogue moment.newId call)).1 with
  | ok value =>
      rw [hOutcome] at hFailed
      cases hFailed
  | error error' =>
      rw [hOutcome] at hFailed
      cases hFailed
      refine (hEither _ hOutcome).imp_right fun ⟨⟨value, hSucceeds⟩, hSame, hPlanned⟩ =>
        ⟨⟨value.1, ?_⟩, hSame, hPlanned⟩
      rw [show store.calmed.server = store.server.calmed from rfl, hSucceeds]
      rfl

/-- An empty store whose database is going to refuse to count the permissions. -/
def uncountable : Store :=
  ⟨.ofTables .empty [⟨some "count_permissions", ⟨"XX000", "db says no"⟩, 0, 1⟩], none⟩

theorem failed_creation_changes_all :
    (uncountable.perform ⟨⟨0⟩, "a"⟩ (.createPermission "p" none)).2.server.transaction = none ∧
      ((uncountable.perform ⟨⟨0⟩, "a"⟩ (.createPermission "p" none)).2.server.committed =
        uncountable.server.committed ∨
        (∃ value,
          (uncountable.calmed.perform ⟨⟨0⟩, "a"⟩ (.createPermission "p" none)).1 = .ok value) ∧
          (uncountable.perform ⟨⟨0⟩, "a"⟩ (.createPermission "p" none)).2.server.committed =
            (uncountable.calmed.perform ⟨⟨0⟩, "a"⟩
              (.createPermission "p" none)).2.server.committed ∧
          ∃ planned ∈ uncountable.server.faults,
            Error.unexpected "error returned from database: db says no"
              ["db says no"] = planned.failure.toError ∧
              ∀ label, planned.target = some label →
                label ∈ readingsBehind (.createPermission "p" none)) :=
  failed_call_changes_nothing_or_all rfl rfl

/-- A call may fail and yet have changed the tables: the permission is there, but its creation is
reported as a failure. -/
theorem failed_creation_leaves_permission :
    (uncountable.perform ⟨⟨0⟩, "a"⟩ (.createPermission "p" none)).1 =
        .error (.unexpected "error returned from database: db says no" ["db says no"]) ∧
      uncountable.server.committed.permissions = [] ∧
      (uncountable.perform ⟨⟨0⟩, "a"⟩ (.createPermission "p" none)).2.server.committed.permissions =
        [⟨"a", "p", none, ⟨0⟩⟩] :=
  ⟨rfl, rfl, rfl⟩

end Store

end Rolebook.Relational
