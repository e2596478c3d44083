import Rolebook.Proofs.Memory.Renaming
import Rolebook.Proofs.Relational.Agreement
import Rolebook.Service.Backend

/-!
# Backends in sequential use

A store in memory and a store over a database that nothing goes wrong with answer every run of calls
alike, from empty on. The proof is a simulation: the tables mirror the state in memory after each
call, by what each dialogue agrees with (`transcript_eq`).

Each of the stores gives the entities identifiers of its own. What it does with those of the other
is what the other does (`runsAlike_rename`), so their answers match up to a `Renaming` that sends
each entity to the one that the same call has made (`backends_are_interchangeable`).
-/

namespace Rolebook.Relational

open Rolebook.Service (Backend)
open Rolebook.Store (Call Inventory)
open Rolebook.Memory
  (State Coherent NewIdUnused AnswersMatch perform_rename permission?_rename role?_rename)

/-! ## Calls -/

/-- The texts that a call hands over. -/
def textsOf : Call → List String
  | .getPermission id | .deletePermission id | .getRole id | .deleteRole id
  | .rolePermissionIds id => [id]
  | .getPermissionByName name | .getRoleByName name | .createRole name => [name]
  | .createPermission name description => name :: description.toList
  | .updatePermission id name description => id :: name :: description.toList
  | .updateRole id name => [id, name]
  | .setRolePermissions id permissions | .replaceRolePermissions id _ permissions =>
    id :: permissions.toList
  | .listPermissions | .listRoles | .healthCheck => []

/-- Whether a call that succeeds makes the numbers of permissions and roles known. -/
def announces : Call → Bool
  | .createPermission _ _ | .deletePermission _ | .createRole _ | .deleteRole _ => true
  | _ => false

/-- What is supposed of a call to a state: a clock that shows whole microseconds, an identifier for
what it may add that no other entity has, texts that the database can have, and revisions that stay
in the range of signed numbers. -/
structure ProperCall (moment : Moment) (state : State) (call : Call) : Prop where
  clock : moment.now.wholeMicrosecond = moment.now
  newId : NewIdUnused moment state call
  clean : ∀ text ∈ moment.newId :: textsOf call, IsClean text
  inRange : InRange (state.perform moment call).2

/-- The numbers that were last made known, after a call. -/
theorem inventory_perform (moment : Moment) (state : State) (call : Call) :
    (state.perform moment call).2.inventory =
      match (state.perform moment call).1 with
      | .ok _ =>
          if announces call then some (inventoryOf (state.perform moment call).2)
            else state.inventory
      | .error _ => state.inventory := by
  have hStep := Memory.transition_perform moment state call
  generalize (state.perform moment call).1 = answer, (state.perform moment call).2 = state' at hStep
  cases hStep with
  | reads answer hReads =>
      have hSilent : announces call = false := by cases call <;> first | rfl | cases hReads
      rw [hSilent]
      cases answer <;> rfl
  | _ => rfl

section Calls

variable {moment : Moment} {tables : Tables} {state : State} {call : Call}

/-- A call comes to the same over a database as in memory. -/
theorem carries_dialogue (hMirrors : Mirrors tables state) (hState : Coherent state)
    (hProper : ProperCall moment state call) :
    Carries none moment.now tables (dialogue moment.newId call)
      ((state.perform moment call).1.map fun value =>
        (value, if announces call then some (inventoryOf (state.perform moment call).2) else none))
      (state.perform moment call).2 := by
  obtain ⟨-, hNew, hClean, hRange⟩ := hProper
  have hOwn := ownIds_of_coherent hState
  have hTexts := (List.forall_mem_cons.1 hClean).2
  cases call with
  | listPermissions => exact (carries_listPermissions hMirrors).map _
  | listRoles => exact (carries_listRoles hMirrors).map _
  | healthCheck => exact (Carries.read (List.forall_mem_nil _) rfl rfl hMirrors).map _
  | getPermissionByName name =>
      exact (carries_permissionByName hMirrors (List.forall_mem_singleton.1 hTexts)).map _
  | getRoleByName name =>
      exact (carries_roleByName hMirrors (List.forall_mem_singleton.1 hTexts)).map _
  | getPermission id =>
      exact (carries_getPermission hMirrors hOwn (List.forall_mem_singleton.1 hTexts)).map _
  | getRole id => exact (carries_getRole hMirrors hOwn (List.forall_mem_singleton.1 hTexts)).map _
  | rolePermissionIds id =>
      exact (carries_rolePermissionIds hMirrors hOwn (List.forall_mem_singleton.1 hTexts)).map _
  | createPermission name description =>
      exact (carries_createPermission hMirrors hState hNew hClean).announce
  | createRole name =>
      exact (carries_createRole hMirrors hState hNew hClean).announce
  | updatePermission id name description =>
      exact (carries_updatePermission hMirrors hState hTexts).map _
  | updateRole id name => exact (carries_updateRole hMirrors hState hTexts).map _
  | deletePermission id =>
      exact (carries_deletePermission hMirrors hState (List.forall_mem_singleton.1 hTexts)
        hRange).announceOnly
  | deleteRole id =>
      exact (carries_deleteRole hMirrors hState (List.forall_mem_singleton.1 hTexts)).announceOnly
  | setRolePermissions id permissions =>
      exact (carries_setRolePermissions hMirrors hState hTexts hRange).map _
  | replaceRolePermissions id expected permissions =>
      exact (carries_replaceRolePermissions hMirrors hState hTexts hRange).map _

/-- A store over a database answers a call like the store in memory, makes the same numbers known,
and has tables that mirror the next state. -/
theorem perform_agrees (hMirrors : Mirrors tables state) (hState : Coherent state)
    (hProper : ProperCall moment state call) :
    ∃ tables', Mirrors tables' (state.perform moment call).2 ∧
      Store.perform ⟨.ofTables tables [], state.inventory⟩ moment call =
        ((state.perform moment call).1,
          ⟨.ofTables tables' [], (state.perform moment call).2.inventory⟩) := by
  obtain ⟨tables', hMirrors', hRun⟩ := carries_dialogue hMirrors hState hProper
  refine ⟨tables', hMirrors', ?_⟩
  have hInventory := inventory_perform moment state call
  have hRun' : (Server.ofTables tables []).run moment.now (dialogue moment.newId call).run = _ :=
    hRun
  rw [Store.perform, hProper.clock, hRun', hInventory]
  cases (state.perform moment call).1 with
  | error error => rfl
  | ok value => cases announces call <;> rfl

end Calls

/-! ## Runs -/

/-- What is seen of a backend when a call is made: the answer, and the numbers that were last made
known. -/
structure Observation where
  call : Call
  answer : Option call.Answer
  inventory : Option Inventory

/-- Why the call failed, if it did. -/
def Observation.error? (observation : Observation) : Option Store.Error :=
  match observation.answer with
  | some (.error error) => some error
  | _ => none

/-- What is seen of a backend while it goes through calls. -/
def transcript (backend : Backend) : List (Moment × Call) → List Observation
  | [] => []
  | (moment, call) :: calls =>
    let (answer, backend) := backend.perform moment call
    ⟨call, answer, backend.inventory⟩ :: transcript backend calls

/-- All calls of a run are proper ones, each to the state that the calls before it have led to. -/
def ProperRun (state : State) : List (Moment × Call) → Prop
  | [] => True
  | (moment, call) :: calls =>
    ProperCall moment state call ∧ ProperRun (state.perform moment call).2 calls

/-- From a state and tables that mirror it, both backends show the same. -/
theorem transcript_eq {tables : Tables} {state : State} (hMirrors : Mirrors tables state)
    (hState : Coherent state) {calls : List (Moment × Call)} (hProper : ProperRun state calls) :
    transcript (.relational ⟨.ofTables tables [], state.inventory⟩) calls =
      transcript (.memory state) calls := by
  induction calls generalizing tables state with
  | nil => rfl
  | cons entry calls ih =>
      obtain ⟨moment, call⟩ := entry
      obtain ⟨hCall, hCalls⟩ := hProper
      obtain ⟨tables', hMirrors', hPerform⟩ := perform_agrees hMirrors hState hCall
      have hRest := ih hMirrors' (hState.perform moment call) hCalls
      unfold transcript
      simp only [Backend.perform, hPerform, hRest]
      rfl

/-- By one and the same identifiers, both backends show the same from empty on, whatever has been
made of the schema of the database. -/
theorem transcript_empty (migrations : List MigrationRow) {calls : List (Moment × Call)}
    (hProper : ProperRun .empty calls) :
    transcript (.relational ⟨.ofTables { Tables.empty with migrations } [], none⟩) calls =
      transcript (.memory .empty) calls :=
  transcript_eq (mirrors_empty migrations) .empty hProper

/-! ## Runs with identifiers of their own -/

/-- A call that both backends are asked, by the identifiers in memory and at the same time, and the
identifier that each of them has for what it may add. -/
structure SharedCall where
  now : Instant
  memoryId : Id
  databaseId : Id
  call : Call

namespace SharedCall

/-- The call to the store in memory. -/
def inMemory (shared : SharedCall) : Moment × Call :=
  (⟨shared.now, shared.memoryId⟩, shared.call)

/-- The call to the store over a database, which is about the same entities by its identifiers. -/
def inDatabase (ρ : Renaming) (shared : SharedCall) : Moment × Call :=
  (⟨shared.now, shared.databaseId⟩, shared.call.rename ρ)

/-- Whether the call is to add an entity of this kind. -/
def adds (kind : EntityKind) (shared : SharedCall) : Bool :=
  match kind, shared.call with
  | .permission, .createPermission _ _ => true
  | .role, .createRole _ => true
  | _, _ => false

/-- Whatever different identifiers each backend has for what it may add, some renaming sends each
entity to the one that the same call has made. -/
theorem exists_matching {calls : List SharedCall}
    (hMemory : ∀ kind, ((calls.filter (adds kind)).map memoryId).Nodup)
    (hDatabase : ∀ kind, ((calls.filter (adds kind)).map databaseId).Nodup) :
    ∃ ρ : Renaming, ∀ shared ∈ calls,
      ρ.Matches shared.memoryId shared.databaseId shared.call := by
  have hEach (kind : EntityKind) : ∃ σ : Equiv.Perm Id, ∀ shared ∈ calls,
      shared.adds kind = true → σ shared.memoryId = shared.databaseId := by
    let pairs := (calls.filter (adds kind)).map fun shared => (shared.memoryId, shared.databaseId)
    have hFirst : (pairs.map Prod.fst).Nodup := by
      rw [List.map_map]
      exact hMemory kind
    have hSecond : (pairs.map Prod.snd).Nodup := by
      rw [List.map_map]
      exact hDatabase kind
    obtain ⟨σ, hSent⟩ := Renaming.exists_perm_of_nodup hFirst hSecond
    refine ⟨σ, fun shared hCall hAdds => hSent (shared.memoryId, shared.databaseId) ?_⟩
    exact List.mem_map_of_mem (List.mem_filter.2 ⟨hCall, hAdds⟩)
  obtain ⟨permission, hPermission⟩ := hEach .permission
  obtain ⟨role, hRole⟩ := hEach .role
  refine ⟨.ofPerms permission role, ?_⟩
  rintro ⟨now, memoryId, databaseId, call⟩ hCall
  cases call with
  | createPermission => exact hPermission _ hCall rfl
  | createRole => exact hRole _ hCall rfl
  | _ => trivial

end SharedCall

/-- What is supposed of a call to both backends: what is supposed of a call to one of them, and that
what it may add is the same entity by its two identifiers. -/
structure ProperSharedCall (ρ : Renaming) (state : State) (shared : SharedCall) : Prop where
  clock : shared.now.wholeMicrosecond = shared.now
  newId : NewIdUnused ⟨shared.now, shared.memoryId⟩ state shared.call
  matched : ρ.Matches shared.memoryId shared.databaseId shared.call
  clean : ∀ text ∈ shared.databaseId :: textsOf (shared.call.rename ρ), IsClean text
  inRange : InRange (state.perform ⟨shared.now, shared.memoryId⟩ shared.call).2

/-- All calls of a run are proper ones, each to the state in memory that the calls before it have
led to. The entities of both backends are matched by the order of their creation, since each is sent
to the one that the same call has made; the identifiers leave room for that
(`SharedCall.exists_matching`). -/
def ProperSharedRun (ρ : Renaming) (state : State) : List SharedCall → Prop
  | [] => True
  | shared :: calls =>
    ProperSharedCall ρ state shared ∧
      ProperSharedRun ρ (state.perform ⟨shared.now, shared.memoryId⟩ shared.call).2 calls

/-- Two backends go through a run alike: call by call their answers match, and the same numbers are
made known. The state is the one in memory. -/
inductive RunsAlike (ρ : Renaming) :
    State → List SharedCall → List Observation → List Observation → Prop
  | done (state : State) : RunsAlike ρ state [] [] []
  | call {state : State} {shared : SharedCall} {calls : List SharedCall}
      {log log' : List Observation}
      {answer : shared.call.Answer} {answer' : (shared.call.rename ρ).Answer}
      (inventory : Option Inventory) (hAnswers : AnswersMatch ρ state shared.call answer answer')
      (hRest : RunsAlike ρ (state.perform ⟨shared.now, shared.memoryId⟩ shared.call).2 calls
        log log') :
      RunsAlike ρ state (shared :: calls) (⟨shared.call, some answer, inventory⟩ :: log)
        (⟨shared.call.rename ρ, some answer', inventory⟩ :: log')

section Shared

variable {ρ : Renaming} {state : State}

theorem inRange_rename (hRange : InRange state) : InRange (state.rename ρ) := by
  intro record hRecord
  rw [State.rename, Table.values_rename, List.mem_map] at hRecord
  obtain ⟨kept, hKept, rfl⟩ := hRecord
  exact hRange kept hKept

/-- An identifier that no entity has in memory is sent to one that none has in the database. -/
theorem newIdUnused_rename {now : Instant} {id other : Id} {call : Call}
    (hMatches : ρ.Matches id other call) (hNew : NewIdUnused ⟨now, id⟩ state call) :
    NewIdUnused ⟨now, other⟩ (state.rename ρ) (call.rename ρ) := by
  cases call with
  | createPermission name description =>
      obtain rfl : ρ.apply .permission id = other := hMatches
      exact (permission?_rename id).trans (congrArg _ hNew)
  | createRole name =>
      obtain rfl : ρ.apply .role id = other := hMatches
      exact (role?_rename id).trans (congrArg _ hNew)
  | _ => trivial

/-- A run that is proper for both backends is proper by the identifiers of the database too. -/
theorem properRun_inDatabase {calls : List SharedCall} (hState : Coherent state)
    (hProper : ProperSharedRun ρ state calls) :
    ProperRun (state.rename ρ) (calls.map (SharedCall.inDatabase ρ)) := by
  induction calls generalizing state with
  | nil => trivial
  | cons shared calls ih =>
      obtain ⟨⟨hClock, hNew, hMatched, hClean, hRange⟩, hCalls⟩ := hProper
      obtain ⟨-, hNext⟩ := perform_rename hState shared.now hMatched
      have hRest := ih (hState.perform _ shared.call) hCalls
      rw [← hNext] at hRest
      refine ⟨⟨hClock, newIdUnused_rename hMatched hNew, hClean, ?_⟩, hRest⟩
      rw [hNext]
      exact inRange_rename hRange

/-- The store in memory goes through a run alike by its own identifiers and by those of the
database. -/
theorem runsAlike_rename {calls : List SharedCall} (hState : Coherent state)
    (hProper : ProperSharedRun ρ state calls) :
    RunsAlike ρ state calls (transcript (.memory state) (calls.map SharedCall.inMemory))
      (transcript (.memory (state.rename ρ)) (calls.map (SharedCall.inDatabase ρ))) := by
  induction calls generalizing state with
  | nil => exact .done state
  | cons shared calls ih =>
      obtain ⟨hCall, hCalls⟩ := hProper
      obtain ⟨hAnswers, hNext⟩ := perform_rename hState shared.now hCall.matched
      have hRest := ih (hState.perform _ shared.call) hCalls
      show RunsAlike ρ state (shared :: calls)
        (⟨shared.call, _, (state.perform _ shared.call).2.inventory⟩ :: _)
        (⟨shared.call.rename ρ, _,
            ((state.rename ρ).perform _ (shared.call.rename ρ)).2.inventory⟩ ::
          transcript (.memory ((state.rename ρ).perform _ (shared.call.rename ρ)).2) _)
      rw [hNext]
      exact .call _ hAnswers hRest

end Shared

/-- A store in memory that is empty and a store over a database without entities, whatever has been
made of its schema, each with identifiers of its own, go through every run of calls alike: call by
call their answers match, and the same numbers are made known. -/
theorem backends_are_interchangeable (migrations : List MigrationRow) (ρ : Renaming)
    (calls : List SharedCall) (hProper : ProperSharedRun ρ .empty calls) :
    RunsAlike ρ .empty calls (transcript (.memory .empty) (calls.map SharedCall.inMemory))
      (transcript (.relational ⟨.ofTables { Tables.empty with migrations } [], none⟩)
        (calls.map (SharedCall.inDatabase ρ))) := by
  rw [transcript_empty migrations (properRun_inDatabase .empty hProper)]
  exact runsAlike_rename .empty hProper

/-- A role is given a permission that is then deleted, and what fails on the way fails for both. -/
def cascade : List SharedCall :=
  [⟨⟨0⟩, "p", "1", .createPermission " read " none⟩,
    ⟨⟨1000⟩, "r", "2", .createRole "viewer"⟩,
    ⟨⟨2000⟩, "", "", .setRolePermissions "r" (.ofList ["p", "x"])⟩,
    ⟨⟨2000⟩, "", "", .setRolePermissions "r" (.ofList ["p"])⟩,
    ⟨⟨3000⟩, "", "", .deletePermission "p"⟩,
    ⟨⟨4000⟩, "", "", .replaceRolePermissions "r" 1 ∅⟩,
    ⟨⟨4000⟩, "", "", .listRoles⟩]

theorem backends_are_interchangeable_through_cascade :
    let ρ : Renaming := .ofPerms (Equiv.swap "p" "1") (Equiv.swap "r" "2")
    ProperSharedRun ρ .empty cascade ∧
      RunsAlike ρ .empty cascade (transcript (.memory .empty) (cascade.map SharedCall.inMemory))
        (transcript (.relational ⟨.ofTables .empty [], none⟩)
          (cascade.map (SharedCall.inDatabase ρ))) := by
  intro ρ
  have hProper : ProperSharedRun ρ .empty cascade := by
    refine ⟨⟨by decide, ?_, Equiv.swap_apply_left .., by decide +kernel, by decide +kernel⟩,
      ⟨by decide, ?_, Equiv.swap_apply_left .., by decide +kernel, by decide +kernel⟩,
      ⟨by decide, trivial, trivial, by decide +kernel, by decide +kernel⟩,
      ⟨by decide, trivial, trivial, by decide +kernel, by decide +kernel⟩,
      ⟨by decide, trivial, trivial, by decide +kernel, by decide +kernel⟩,
      ⟨by decide, trivial, trivial, by decide +kernel, by decide +kernel⟩,
      ⟨by decide, trivial, trivial, by decide +kernel, by decide +kernel⟩, trivial⟩
    · change State.permission? _ "p" = none
      decide +kernel
    · change State.role? _ "r" = none
      decide +kernel
  exact ⟨hProper, backends_are_interchangeable [] ρ cascade hProper⟩

/-- A role is to grant two permissions that have been deleted. Their identifiers are in one order in
memory and in the other in the database. -/
def crossed : List SharedCall :=
  [⟨⟨0⟩, "a", "b", .createPermission "read" none⟩,
    ⟨⟨1000⟩, "b", "a", .createPermission "write" none⟩,
    ⟨⟨2000⟩, "r", "r", .createRole "viewer"⟩,
    ⟨⟨3000⟩, "", "", .deletePermission "a"⟩,
    ⟨⟨3000⟩, "", "", .deletePermission "b"⟩,
    ⟨⟨4000⟩, "", "", .setRolePermissions "r" (.ofList ["a", "b"])⟩]

/-- Both backends name the same identifier as unknown, and it is that of the first permission in
memory and that of the second in the database. -/
theorem unknown_permissions_are_named_apart :
    let ρ : Renaming := .ofPerms (Equiv.swap "a" "b") (Equiv.refl Id)
    ProperSharedRun ρ .empty crossed ∧ ρ.apply .permission "a" = "b" ∧
      (transcript (.memory .empty) (crossed.map SharedCall.inMemory)).getLast?.bind
        Observation.error? = some (.missingPermission "a") ∧
      (transcript (.relational ⟨.ofTables .empty [], none⟩)
        (crossed.map (SharedCall.inDatabase ρ))).getLast?.bind
        Observation.error? = some (.missingPermission "a") := by
  intro ρ
  have hProper : ProperSharedRun ρ .empty crossed := by
    refine ⟨⟨by decide, ?_, Equiv.swap_apply_left .., by decide +kernel, by decide +kernel⟩,
      ⟨by decide, ?_, Equiv.swap_apply_right .., by decide +kernel, by decide +kernel⟩,
      ⟨by decide, ?_, rfl, by decide +kernel, by decide +kernel⟩,
      ⟨by decide, trivial, trivial, by decide +kernel, by decide +kernel⟩,
      ⟨by decide, trivial, trivial, by decide +kernel, by decide +kernel⟩,
      ⟨by decide, trivial, trivial, by decide +kernel, by decide +kernel⟩, trivial⟩
    · change State.permission? _ "a" = none
      decide +kernel
    · change State.permission? _ "b" = none
      decide +kernel
    · change State.role? _ "r" = none
      decide +kernel
  have hSame : transcript (.relational ⟨.ofTables .empty [], none⟩)
      (crossed.map (SharedCall.inDatabase ρ)) = _ :=
    transcript_empty [] (properRun_inDatabase .empty hProper)
  rw [hSame]
  exact ⟨hProper, Equiv.swap_apply_left .., by decide +kernel, by decide +kernel⟩

end Rolebook.Relational
