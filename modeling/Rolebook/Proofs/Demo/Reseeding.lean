import Rolebook.Proofs.Demo.Seeding
import Rolebook.Proofs.Service.Trials

/-!
# Seeding again

A service seeds its store whenever it starts. To do so again once this has succeeded changes nothing
and does not even ask for a change, and to do so again after any number of attempts that have failed
comes to what a single one comes to (`seeding_is_idempotent_and_resumable`).

The demonstration roles are not left to those who administer the store: one that is there is given
its set anew unless it has exactly this set (`seeding_keeps_role_iff`), so what was taken from it is
granted again (`seeding_regrants_revoked`).
-/

namespace Rolebook.Demo

open Relation (ReflTransGen)
open Rolebook.Memory
open Rolebook.Service (Session)

/-- A seeding, from which any calls may be kept, and which may have failed or been brought to an
end. -/
def Attempt (state after : State) : Prop :=
  ∃ trail ended?, Runs state seed.run trail ended? after

/-- A seeding that succeeds. -/
def Success (state : State) (trail : List Trial) (after : State) : Prop :=
  Runs state seed.run trail (some (.ok ())) after

/-- All that can be said of seeding a state once and again. -/
structure Reseedable (state : State) : Prop where
  /-- Whatever attempts there have been, the store can be seeded without a call being kept from
  it. -/
  possible : ∀ between, ReflTransGen Attempt state between →
    ∃ trail after, Undisturbed trail ∧ Success between trail after
  /-- A seeding fails only if a call is kept from the store. -/
  succeeds : ∀ between, ReflTransGen Attempt state between →
    ∀ trail ended? after, Runs between seed.run trail ended? after → Undisturbed trail →
      ended? = some (.ok ())
  /-- After a seeding that has succeeded, another one changes nothing, and it makes no call that
  asks for a change. -/
  idempotent : ∀ trail after, Success state trail after →
    ∀ trail' ended? after', Runs after seed.run trail' ended? after' →
      Reading trail' ∧ after' = after
  /-- A seeding that succeeds after any number of attempts comes to the same names, descriptions,
  sets and revisions as one that succeeds at once. -/
  resumable : ∀ between, ReflTransGen Attempt state between →
    ∀ trail after, Success between trail after → ∀ trail' after', Success state trail' after' →
      after.byName = after'.byName
  /-- These are the ones that the demonstration data say. -/
  outcome : ∀ trail after, Success state trail after → after.byName = seeded state.byName
  /-- Roles that do not have the name of a demonstration role are as they were, whatever the
  attempts have come to. -/
  keepsRoles : ∀ after, ReflTransGen Attempt state after →
    ∀ id role, state.getRole id = .ok role → (∀ names, (role.name, names) ∉ roles) →
      after.getRole id = .ok role
  /-- Permissions that were there have the identifiers, names and descriptions that they had. -/
  keepsPermissions : ∀ after, ReflTransGen Attempt state after →
    ∀ id record, state.permission? id = some record → after.permission? id = some record
  /-- What a service does to its store in memory when it seeds that is such an attempt, whatever is
  rehearsed. -/
  served : ∀ session : Session, session.backend.memory? = some state → session.IdsUnused state →
    ∃ trail after, session.seed.2.backend.memory? = some after ∧
      Runs state seed.run trail session.seed.1 after

section Attempts

variable {state after : State} {trail : List Trial}

theorem ledOn_of_runs {ended? : Option (Except Store.Error Unit)} (hState : Reachable state)
    (hRun : Runs state seed.run trail ended? after) :
    LedOn (fun _ => Settled) state trail ended? after :=
  leads_seed _ _ _ _ hState.coherent trivial hRun

theorem reachable_of_attempts (hAttempts : ReflTransGen Attempt state after)
    (hState : Reachable state) :
    Reachable after ∧ ReflTransGen Advance state after := by
  induction hAttempts with
  | refl => exact ⟨hState, .refl⟩
  | tail _ hAttempt ih =>
      obtain ⟨hBetween, hPath⟩ := ih
      obtain ⟨_, _, hRun⟩ := hAttempt
      exact ⟨hRun.reachable hBetween, hPath.trans (ledOn_of_runs hBetween hRun).path⟩

/-- The names, descriptions, sets and revisions after a success are the ones that seeding comes
to. -/
theorem Success.byName_eq (hSuccess : Success state trail after) (hState : Reachable state) :
    after.byName = seeded state.byName := by
  have hLed := ledOn_of_runs hState hSuccess
  calc
    after.byName = seeded after.byName :=
      ((hLed.good () rfl).seeded_byName (hSuccess.reachable hState).coherent).symm
    _ = seeded state.byName := seeded_byName_of_path hLed.path hState.coherent

end Attempts

/-- Seeding is idempotent and can be resumed, in every state that a store in memory can come to:
once it has succeeded, to seed again changes nothing; and after any number of attempts from which
calls were kept, it comes to the same as if it had succeeded at once, but for identifiers and
times. -/
theorem seeding_is_idempotent_and_resumable {state : State} (hState : Reachable state) :
    Reseedable state where
  possible between hAttempts := by
    obtain ⟨hBetween, -⟩ := reachable_of_attempts hAttempts hState
    obtain ⟨trail, result, after, hUndisturbed, hRun⟩ := exists_runs seed.run between
    obtain ⟨_, hOk⟩ := (ledOn_of_runs hBetween hRun).succeeds hUndisturbed
    obtain rfl := Option.some.inj hOk
    exact ⟨trail, after, hUndisturbed, hRun⟩
  succeeds between hAttempts trail ended? after hRun hUndisturbed := by
    obtain ⟨hBetween, -⟩ := reachable_of_attempts hAttempts hState
    obtain ⟨_, hOk⟩ := (ledOn_of_runs hBetween hRun).succeeds hUndisturbed
    exact hOk
  idempotent trail after hSuccess trail' ended? after' hRun := by
    have hAfter := hSuccess.reachable hState
    have hSettled := (ledOn_of_runs hState hSuccess).good () rfl
    have hAgain := ledOn_of_runs hAfter hRun
    exact ⟨hAgain.reading hSettled, hSettled.eq_of_path hAfter.coherent hAgain.path⟩
  resumable between hAttempts trail after hSuccess trail' after' hSuccess' := by
    obtain ⟨hBetween, hPath⟩ := reachable_of_attempts hAttempts hState
    calc
      after.byName = seeded between.byName := hSuccess.byName_eq hBetween
      _ = seeded state.byName := seeded_byName_of_path hPath hState.coherent
      _ = after'.byName := (hSuccess'.byName_eq hState).symm
  outcome trail after hSuccess := hSuccess.byName_eq hState
  keepsRoles after hAttempts id role hRole hOther := by
    obtain ⟨-, hPath⟩ := reachable_of_attempts hAttempts hState
    cases roleOutcome_of_path hPath hState.coherent hRole with
    | kept hKept => exact hKept
    | reset hDemo => exact absurd hDemo (hOther _)
  keepsPermissions after hAttempts :=
    keepsPermissions_of_path (reachable_of_attempts hAttempts hState).2
  served session hMemory hUnused := Session.runs hMemory hState.coherent hUnused seed.run

/-- A role with the name of a demonstration role, from which an administrator has taken its
permission. -/
def revoked : State :=
  let created :=
    (State.empty.perform ⟨⟨0⟩, "p"⟩ (.createPermission "read_articles" (some "Reading"))).2
  let named := (created.perform ⟨⟨1⟩, "r"⟩ (.createRole "Viewer")).2
  let granted := (named.perform ⟨⟨2⟩, ""⟩ (.setRolePermissions "r" (.ofList ["p"]))).2
  (granted.perform ⟨⟨3⟩, ""⟩ (.setRolePermissions "r" ∅)).2

theorem reachable_revoked : Reachable revoked :=
  (((Reachable.empty.perform
    ⟨⟨0⟩, "p"⟩ (.createPermission "read_articles" (some "Reading")) rfl).perform
    ⟨⟨1⟩, "r"⟩ (.createRole "Viewer") rfl).perform
    ⟨⟨2⟩, ""⟩ (.setRolePermissions "r" (.ofList ["p"])) trivial).perform
    ⟨⟨3⟩, ""⟩ (.setRolePermissions "r" ∅) trivial

theorem seeding_is_idempotent_and_resumable_of_revoked : Reachable revoked ∧ Reseedable revoked :=
  ⟨reachable_revoked, seeding_is_idempotent_and_resumable reachable_revoked⟩

/-- What a seeding does to a role that was there before. Whether or not it succeeds, the role is as
it was, or it is a demonstration role that did not have exactly the demonstration permissions it
should have, and it has these now and is one revision on. If the seeding succeeds, the role is as it
was if and only if it has not the name of a demonstration role or had exactly the permissions that
this should have. -/
theorem seeding_keeps_role_iff {state after : State} {trail : List Trial}
    {ended? : Option (Except Store.Error Unit)} (hState : Reachable state)
    (hRun : Runs state seed.run trail ended? after) {id : Id} {role : Role}
    (hRole : state.getRole id = .ok role) :
    RoleOutcome state after id role ∧
      (ended? = some (.ok ()) →
        (after.getRole id = .ok role ↔
          ∀ names, (role.name, names) ∈ roles → IdsOf state names role.permissionIds)) := by
  have hLed := ledOn_of_runs hState hRun
  have hOutcome := roleOutcome_of_path hLed.path hState.coherent hRole
  refine ⟨hOutcome, fun hSucceeds => ⟨fun hKept names hDemo => ?_, fun hSets => ?_⟩⟩
  · have hComplete := (hLed.good () hSucceeds).idsOf (hRun.reachable hState).coherent hKept hDemo
    -- the permissions that the role had before are none of those that the seeding has made
    exact hComplete.earlier (keepsPermissions_of_path hLed.path) fun _ =>
      hState.coherent.permission_of_shown hRole
  · cases hOutcome with
    | kept hKept => exact hKept
    | reset hDemo hDiffered => exact absurd (hSets _ hDemo) hDiffered

/-- The role from which the permission was taken is not kept. -/
theorem seeding_keeps_role_iff_of_revoked :
    ∃ trail after role, Reachable revoked ∧ Runs revoked seed.run trail (some (.ok ())) after ∧
      revoked.getRole "r" = .ok role ∧ RoleOutcome revoked after "r" role ∧
      after.getRole "r" ≠ .ok role := by
  obtain ⟨trail, result, after, hUndisturbed, hRun⟩ := exists_runs seed.run revoked
  obtain ⟨_, hOk⟩ := (ledOn_of_runs reachable_revoked hRun).succeeds hUndisturbed
  obtain rfl := Option.some.inj hOk
  have hRole : revoked.getRole "r" = .ok ⟨"r", "Viewer", ⟨1⟩, ∅, 2⟩ := rfl
  obtain ⟨hOutcome, hKept⟩ := seeding_keeps_role_iff reachable_revoked hRun hRole
  refine ⟨trail, after, _, reachable_revoked, hRun, hRole, hOutcome, fun hSame => ?_⟩
  have hSet : IdsOf revoked ["read_articles"] ∅ := (hKept rfl).1 hSame _ (by decide)
  exact absurd ((hSet.mem_iff "p").2 ⟨"read_articles", List.mem_cons_self, _, rfl, rfl⟩)
    List.not_mem_nil

/-- The service that starts again with this store. -/
def restarted : Session :=
  .start (.memory revoked) true ⟨4⟩

/-- When it seeds the store, the role is granted again the permission that was taken from it. -/
theorem seeding_regrants_revoked :
    Reachable revoked ∧ revoked.getRole "r" = .ok ⟨"r", "Viewer", ⟨1⟩, ∅, 2⟩ ∧
      restarted.seed.1 = some (.ok ()) ∧
      restarted.seed.2.backend.memory?.map (State.getRole · "r") =
        some (.ok ⟨"r", "Viewer", ⟨1⟩, .ofList ["p"], 3⟩) :=
  ⟨reachable_revoked, rfl, by decide +kernel, by decide +kernel⟩

end Rolebook.Demo
