import Rolebook.Proofs.Memory.Coherence

/-!
# Histories of a store in memory

A store answers one call after the other, whoever makes them, so what any number of clients do to it
at the same time is a list of events. An event keeps the state that its call met; the answer and the
next state follow from that.

`Prospect` is what a state and the events yet to come owe to the history that they are cut from:
identifiers in use are not given again, and the revisions do not run over. It holds at the start of
every history (`Prospect.start`) and goes on from each event to the next (`Prospect.next`).
-/

namespace Rolebook.Memory

open Rolebook.Store (Call)

/-- The identifier that a call gives to a new entity. -/
def newId? (moment : Moment) : (call : Call) → call.Answer → Option Id
  | .createPermission _ _, .ok _ => some moment.newId
  | .createRole _, .ok _ => some moment.newId
  | _, _ => none

/-- Whether a call writes the set of permissions of a role: by exchanging it, or by deleting a
permission in it. -/
def writesSetOf (role : Id) (state : State) : (call : Call) → call.Answer → Bool
  | .setRolePermissions id _, .ok _ => id == role
  | .replaceRolePermissions id _ _, .ok _ => id == role
  | .deletePermission id, .ok _ => decide (id ∈ state.permissionIdsOf role)
  | _, _ => false

/-- A call that a client makes to a store in a certain state. -/
structure Event where
  client : Nat
  moment : Moment
  call : Call
  before : State

namespace Event

variable (event : Event)

/-- What the call is answered. -/
def answer : event.call.Answer :=
  (event.before.perform event.moment event.call).1

/-- The state after the call. -/
def after : State :=
  (event.before.perform event.moment event.call).2

/-- The identifier that the call gives to a new entity. -/
def newId? : Option Id :=
  Memory.newId? event.moment event.call event.answer

/-- Whether the call writes the set of permissions of a role. -/
def writesSetOf (role : Id) : Bool :=
  Memory.writesSetOf role event.before event.call event.answer

theorem transition : Transition event.moment event.before event.call event.answer event.after :=
  transition_perform event.moment event.before event.call

end Event

/-- The events follow one on the other, and the first one on a state. -/
def History (state : State) : List Event → Prop
  | [] => True
  | event :: events => event.before = state ∧ History event.after events

/-- The history that calls of clients make, one after the other. -/
def historyOf (state : State) : List (Nat × Moment × Call) → List Event
  | [] => []
  | (client, moment, call) :: calls =>
    let event : Event := ⟨client, moment, call, state⟩
    event :: historyOf event.after calls

theorem history_historyOf (state : State) (calls : List (Nat × Moment × Call)) :
    History state (historyOf state calls) := by
  induction calls generalizing state with
  | nil => trivial
  | cons call calls ih => exact ⟨rfl, ih _⟩

/-- A history that begins in a coherent state meets coherent states only. -/
theorem History.coherent {state : State} {history : List Event} (hHistory : History state history)
    (hState : Coherent state) : ∀ event ∈ history, Coherent event.before := by
  induction history generalizing state with
  | nil => exact fun _ hEvent => absurd hEvent List.not_mem_nil
  | cons event history ih =>
      obtain ⟨rfl, hRest⟩ := hHistory
      exact List.forall_mem_cons.2 ⟨hState, ih hRest (hState.perform event.moment event.call)⟩

/-- The states of a history, from the one that it begins with to the one that it ends with. -/
def moments (state : State) (history : List Event) : List State :=
  state :: history.map Event.after

/-- No identifier is given to a new entity twice. -/
def FreshIds (history : List Event) : Prop :=
  (history.filterMap Event.newId?).Nodup

/-- How often the set of permissions of a role is written. -/
def writes (role : Id) (history : List Event) : Nat :=
  history.countP fun event => event.writesSetOf role

/-! ## What one call does to a role -/

variable {moment : Moment} {state state' : State} {call : Call} {answer : call.Answer} {id : Id}

@[simp] theorem writesSetOf_error (role : Id) (state : State) (call : Call) (error : Store.Error) :
    writesSetOf role state call (.error error) = false := by
  cases call <;> rfl

theorem writesSetOf_of_readsOnly (h : readsOnly call = true) :
    writesSetOf id state call answer = false := by
  cases call <;> simp_all [readsOnly, writesSetOf]

/-- A role that is not there comes into being by its creation only, at revision zero. -/
theorem Transition.role_of_absent (hStep : Transition moment state call answer state')
    (hAbsent : state.role? id = none) :
    state'.role? id = none ∨
      newId? moment call answer = some id ∧ ∃ record, state'.role? id = some record ∧
        record.revision = 0 := by
  cases hStep with
  | fails error => exact .inl hAbsent
  | reads _ hReads => exact .inl hAbsent
  | createPermission hKept hFree => exact .inl hAbsent
  | updatePermission hKept hFound hFree => exact .inl hAbsent
  | deletePermission hFound => exact .inl (by simp [hAbsent])
  | @createRole name kept hKept hFree =>
      by_cases hId : id = moment.newId
      · subst hId
        exact .inr ⟨rfl, RoleRecord.new moment kept, by simp [RoleRecord.new], rfl⟩
      · exact .inl (by simp [RoleRecord.new, hId, hAbsent])
  | updateRole hKept hFound hFree =>
      refine .inl ?_
      rw [State.role?_renameRole]
      split
      · next hId => simp [← hId, hAbsent]
      · exact hAbsent
  | deleteRole hFound => exact .inl (by simp [hAbsent])
  | setRolePermissions hFound hKnown | replaceRolePermissions hFound hKnown =>
      refine .inl ?_
      rw [State.role?_bumpRole]
      split
      · next hId => simp [← hId, hAbsent]
      · exact hAbsent

/-- A role that is there is deleted, or its set is written and it moves on to the next revision, or
it stays at its revision and keeps its set. -/
theorem Transition.role_of_present {record : RoleRecord}
    (hStep : Transition moment state call answer state') (hFound : state.role? id = some record)
    (hNew : newId? moment call answer ≠ some id) :
    state'.role? id = none ∨
      ∃ record', state'.role? id = some record' ∧
        (writesSetOf id state call answer = true ∧ record'.revision = record.revision + 1 ∨
          writesSetOf id state call answer = false ∧ record'.revision = record.revision ∧
            state'.permissionIdsOf id = state.permissionIdsOf id) := by
  cases hStep with
  | fails error => exact .inr ⟨record, hFound, .inr ⟨by simp, rfl, rfl⟩⟩
  | reads _ hReads => exact .inr ⟨record, hFound, .inr ⟨writesSetOf_of_readsOnly hReads, rfl, rfl⟩⟩
  | createPermission hKept hFree => exact .inr ⟨record, hFound, .inr ⟨rfl, rfl, rfl⟩⟩
  | updatePermission hKept hOther hFree => exact .inr ⟨record, hFound, .inr ⟨rfl, rfl, rfl⟩⟩
  | @deletePermission permission _ hOther =>
      -- the cascade moves exactly the roles that granted the permission
      by_cases hHolds : id ∈ state.holders permission
      · refine .inr ⟨record.bump, by simp [hHolds, hFound], .inl ⟨?_, rfl⟩⟩
        exact decide_eq_true (State.mem_permissionIdsOf.2 (State.mem_holders.1 hHolds))
      · have hSpared : permission ∉ state.permissionIdsOf id :=
          fun hMember => hHolds (State.mem_holders.2 (State.mem_permissionIdsOf.1 hMember))
        refine .inr ⟨record, by simp [hHolds, hFound], .inr ⟨decide_eq_false hSpared, rfl, ?_⟩⟩
        rw [State.permissionIdsOf_removePermission, OrderedSet.erase_of_not_mem hSpared]
  | createRole hKept hFree =>
      have hId : id ≠ moment.newId := fun h => hNew (congrArg some h.symm)
      exact .inr ⟨record, by simp [RoleRecord.new, hId, hFound], .inr ⟨rfl, rfl, rfl⟩⟩
  | @updateRole renamed _ kept _ hKept hOther hFree =>
      by_cases hId : id = renamed
      · subst hId
        exact .inr ⟨{ record with name := kept }, by simp [hFound], .inr ⟨rfl, rfl, rfl⟩⟩
      · exact .inr ⟨record, by simp [hId, hFound], .inr ⟨rfl, rfl, rfl⟩⟩
  | @deleteRole deleted _ hOther =>
      by_cases hId : id = deleted
      · exact .inl (by simp [hId])
      · exact .inr ⟨record, by simp [hId, hFound], .inr ⟨rfl, rfl, by simp [hId]⟩⟩
  | @setRolePermissions written permissions _ hOther hKnown
  | @replaceRolePermissions written permissions _ hOther hKnown =>
      by_cases hId : id = written
      · subst hId
        exact .inr ⟨record.bump, by simp [hFound], .inl ⟨by simp [writesSetOf], rfl⟩⟩
      · exact .inr ⟨record, by simp [hId, hFound],
          .inr ⟨by simp [writesSetOf, Ne.symm hId], rfl, by simp [hId]⟩⟩

/-! ## What is yet to come -/

theorem writes_cons (id : Id) (event : Event) (future : List Event) :
    writes id (event :: future) = writes id future + if event.writesSetOf id = true then 1 else 0 :=
  List.countP_cons

theorem FreshIds.tail {event : Event} {future : List Event} (hFresh : FreshIds (event :: future)) :
    FreshIds future := by
  unfold FreshIds at hFresh ⊢
  rw [List.filterMap_cons] at hFresh
  split at hFresh
  · exact hFresh
  · exact (List.nodup_cons.1 hFresh).2

theorem FreshIds.newId?_ne {event later : Event} {future : List Event}
    (hFresh : FreshIds (event :: future)) (hNew : event.newId? = some id)
    (hLater : later ∈ future) : later.newId? ≠ some id := by
  unfold FreshIds at hFresh
  rw [List.filterMap_cons, hNew] at hFresh
  intro hAgain
  exact (List.nodup_cons.1 hFresh).1 (List.mem_filterMap.2 ⟨later, hLater, hAgain⟩)

/-- What holds of a state and the events that follow on it. -/
structure Prospect (state : State) (future : List Event) : Prop where
  coherent : Coherent state
  history : History state future
  fresh : FreshIds future
  /-- The identifier of a role that is there is not given again. -/
  taken : ∀ id, state.role? id ≠ none → ∀ event ∈ future, event.newId? ≠ some id
  bounded : ∀ id, writes id future < UInt64.size
  /-- No revision will run over. -/
  revisions : ∀ id record, state.role? id = some record →
    record.revision.toNat + writes id future < UInt64.size

theorem Prospect.start {history : List Event} (hHistory : History .empty history)
    (hFresh : FreshIds history) (hBounded : ∀ id, writes id history < UInt64.size) :
    Prospect .empty history where
  coherent := .empty
  history := hHistory
  fresh := hFresh
  taken _ hFound := absurd rfl hFound
  bounded := hBounded
  revisions _ _ hFound := nomatch hFound

section Prospect

variable {event : Event} {future : List Event}

/-- A role that a call meets is gone after it, or it is at the next revision after a write of its
set, or nothing about its revision and its set is changed. -/
theorem Prospect.role_cases {record : RoleRecord} (h : Prospect state (event :: future))
    (hFound : state.role? id = some record) :
    event.after.role? id = none ∨
      ∃ record', event.after.role? id = some record' ∧
        (event.writesSetOf id = true ∧ record'.revision.toNat = record.revision.toNat + 1 ∨
          event.writesSetOf id = false ∧ record'.revision = record.revision ∧
            event.after.permissionIdsOf id = state.permissionIdsOf id) := by
  obtain ⟨rfl, -⟩ := h.history
  have hNew := h.taken id (hFound ▸ Option.some_ne_none record) event (List.mem_cons_self ..)
  rcases event.transition.role_of_present hFound hNew with hGone |
    ⟨record', hFound', hWritten | hKept⟩
  · exact .inl hGone
  · refine .inr ⟨record', hFound', .inl ⟨hWritten.1, ?_⟩⟩
    -- there is room for one more write, so the sum of the words is the sum of the numbers
    have hRoom := h.revisions id record hFound
    rw [writes_cons, if_pos (show event.writesSetOf id = true from hWritten.1)] at hRoom
    rw [hWritten.2, UInt64.toNat_add]
    exact Nat.mod_eq_of_lt (show record.revision.toNat + 1 < UInt64.size by omega)
  · exact .inr ⟨record', hFound', .inr hKept⟩

theorem Prospect.next (h : Prospect state (event :: future)) : Prospect event.after future where
  coherent := by
    obtain ⟨rfl, -⟩ := h.history
    exact h.coherent.perform event.moment event.call
  history := h.history.2
  fresh := h.fresh.tail
  taken id hFound' later hLater := by
    cases hFound : state.role? id with
    | some record =>
        exact h.taken id (hFound ▸ Option.some_ne_none record) later (List.mem_cons_of_mem _ hLater)
    | none =>
        obtain ⟨rfl, -⟩ := h.history
        -- a role that was not there before has got its identifier just now, and no one gets it
        -- again
        rcases event.transition.role_of_absent hFound with hAbsent | ⟨hNew, -⟩
        · exact absurd hAbsent hFound'
        · exact h.fresh.newId?_ne hNew hLater
  bounded id := by
    have hBound := h.bounded id
    rw [writes_cons] at hBound
    omega
  revisions id record' hFound' := by
    have hBound := h.bounded id
    rw [writes_cons] at hBound
    cases hFound : state.role? id with
    | some record =>
        have hRoom := h.revisions id record hFound
        rw [writes_cons] at hRoom
        rcases h.role_cases hFound with hGone | ⟨found, hAfter, hWritten | hKept⟩
        · exact absurd hGone (hFound' ▸ Option.some_ne_none record')
        · obtain rfl := Option.some.inj (hAfter.symm.trans hFound')
          rw [if_pos hWritten.1] at hRoom
          omega
        · obtain rfl := Option.some.inj (hAfter.symm.trans hFound')
          rw [hKept.2.1]
          omega
    | none =>
        obtain ⟨rfl, -⟩ := h.history
        rcases event.transition.role_of_absent hFound with hAbsent | ⟨-, record, hAfter, hZero⟩
        · exact absurd hAbsent (hFound' ▸ Option.some_ne_none record')
        · obtain rfl := Option.some.inj (hAfter.symm.trans hFound')
          rw [hZero]
          simpa using by omega

end Prospect

end Rolebook.Memory
