import Mathlib.Data.Fintype.EquivFin
import Rolebook.Proofs.Memory.Run

/-!
# Scripts whose calls may fail to reach the store

A script runs by itself, and any of its calls may be kept from the store: an error stands in the
place of the answer, or the one who makes the call is brought to an end. `Runs` says which calls the
script makes then, whether each of them has reached the store, and what becomes of the store. A new
entity gets an identifier that is unused, so a run starts and ends among the states that a store can
come to (`Runs.reachable`), and any script can run undisturbed in any of them (`exists_runs`).
-/

namespace Rolebook.Memory

open Rolebook.Store (Call Error Script)

variable {α β : Type}

/-- A call that a script makes, and whether it reaches the store. -/
structure Trial where
  call : Call
  reached : Bool

/-- No call is kept from the store. -/
def Undisturbed (trail : List Trial) : Prop :=
  ∀ trial ∈ trail, trial.reached = true

/-- No call asks for a change. -/
def Reading (trail : List Trial) : Prop :=
  ∀ trial ∈ trail, readsOnly trial.call = true

theorem Undisturbed.append_iff {trail trail' : List Trial} :
    Undisturbed (trail ++ trail') ↔ Undisturbed trail ∧ Undisturbed trail' :=
  List.forall_mem_append

theorem Reading.append_iff {trail trail' : List Trial} :
    Reading (trail ++ trail') ↔ Reading trail ∧ Reading trail' :=
  List.forall_mem_append

/-- A run of a script by itself: the calls that it makes, its result if it comes to one, and the
state after it. -/
inductive Runs : State → Script α → List Trial → Option α → State → Prop
  | done {state : State} (result : α) : Runs state (.done result) [] (some result) state
  | reached {state after : State} {moment : Moment} {call : Call} {next : call.Answer → Script α}
      {trail : List Trial}
      {ended? : Option α} (hNew : NewIdUnused moment state call)
      (hRest : Runs (state.perform moment call).2 (next (state.perform moment call).1)
        trail ended? after) :
      Runs state (.ask call next) (⟨call, true⟩ :: trail) ended? after
  | failed {state after : State} {call : Call} {next : call.Answer → Script α} {trail : List Trial}
      {ended? : Option α}
      (error : Error) (hRest : Runs state (next (.error error)) trail ended? after) :
      Runs state (.ask call next) (⟨call, false⟩ :: trail) ended? after
  | stopped {state : State} (call : Call) (next : call.Answer → Script α) :
      Runs state (.ask call next) [⟨call, false⟩] none state

section Runs

variable {state after : State} {trail : List Trial}

/-- A script that is followed by another one runs first, and the other one runs if that comes to an
end. -/
theorem Runs.of_bind {script : Script α} {next : α → Script β} {ended? : Option β}
    (hRun : Runs state (script >>= next) trail ended? after) :
    (∃ earlier later result between, trail = earlier ++ later ∧
      Runs state script earlier (some result) between ∧
        Runs between (next result) later ended? after) ∨
      ended? = none ∧ Runs state script trail none after := by
  induction script generalizing state trail with
  | done result => exact .inl ⟨[], trail, result, state, rfl, .done result, hRun⟩
  | ask call rest ih =>
      cases hRun with
      | reached hNew hRest =>
          rcases ih _ hRest with ⟨earlier, later, result, between, rfl, hFirst, hNext⟩ |
            ⟨hNone, hFirst⟩
          · exact .inl ⟨⟨call, true⟩ :: earlier, later, result, between, rfl,
              .reached hNew hFirst, hNext⟩
          · exact .inr ⟨hNone, .reached hNew hFirst⟩
      | failed error hRest =>
          rcases ih _ hRest with ⟨earlier, later, result, between, rfl, hFirst, hNext⟩ |
            ⟨hNone, hFirst⟩
          · exact .inl ⟨⟨call, false⟩ :: earlier, later, result, between, rfl,
              .failed error hFirst, hNext⟩
          · exact .inr ⟨hNone, .failed error hFirst⟩
      | stopped => exact .inr ⟨rfl, .stopped call rest⟩

theorem Runs.reachable {script : Script α} {ended? : Option α}
    (hRun : Runs state script trail ended? after) (hState : Reachable state) : Reachable after := by
  induction hRun with
  | done result => exact hState
  | reached hNew hRest ih => exact ih (hState.perform _ _ hNew)
  | failed error hRest ih => exact ih hState
  | stopped call next => exact hState

/-- There are identifiers that no entity has. -/
theorem exists_unusedId (state : State) :
    ∃ id, state.permission? id = none ∧ state.role? id = none := by
  obtain ⟨id, hUnused⟩ := Infinite.exists_notMem_finset
    (state.permissions.entries.map Prod.fst ++ state.roles.entries.map Prod.fst).toFinset
  rw [List.mem_toFinset, List.mem_append, not_or] at hUnused
  exact ⟨id, Table.find?_eq_none_iff.2 hUnused.1, Table.find?_eq_none_iff.2 hUnused.2⟩

/-- A script can run undisturbed in every state. -/
theorem exists_runs (script : Script α) (state : State) :
    ∃ trail result after, Undisturbed trail ∧ Runs state script trail (some result) after := by
  induction script generalizing state with
  | done result => exact ⟨[], result, state, List.forall_mem_nil _, .done result⟩
  | ask call next ih =>
      obtain ⟨id, hPermission, hRole⟩ := exists_unusedId state
      have hNew : NewIdUnused ⟨⟨0⟩, id⟩ state call := by
        cases call <;> trivial
      obtain ⟨trail, result, after, hReached, hRest⟩ := ih _ (state.perform ⟨⟨0⟩, id⟩ call).2
      exact ⟨⟨call, true⟩ :: trail, result, after, List.forall_mem_cons.2 ⟨rfl, hReached⟩,
        .reached hNew hRest⟩

end Runs

end Rolebook.Memory
