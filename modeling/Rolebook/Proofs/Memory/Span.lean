import Rolebook.Proofs.Memory.Refusal
import Rolebook.Proofs.Store.Conversation

/-!
# Spans of a history

What becomes of an entity from one event of a history to another: if it is there at first and not in
the end, it has been deleted in between (`History.deleted`), and if a role is there all the time,
its revision has moved on by the number of the writes in between (`History.role_moved`). A revision
is a word and may run over, so what follows from a revision that is still the same is left to those
who know that it has not.

The span of a client is the part of a history in which it is at work. Its own events there are a
conversation with the store (`Follows.converses`); all others are what it has to put up with.
-/

namespace Rolebook.Memory

open Rolebook.Store (Call Converses Exchange Script)

/-! ## Events as exchanges -/

/-- The call of an event and what it is answered. -/
def Event.exchange (event : Event) : Exchange :=
  ⟨event.call, event.answer⟩

theorem Event.of_exchange {event : Event} {call : Call} {answer : call.Answer}
    (hExchange : event.exchange = ⟨call, answer⟩) :
    event.call = call ∧ (event.before.perform event.moment call).1 = answer := by
  obtain ⟨client, moment, call', before⟩ := event
  cases hExchange
  exact ⟨rfl, rfl⟩

theorem Event.transition_of_exchange {event : Event} {call : Call} {answer : call.Answer}
    (hExchange : event.exchange = ⟨call, answer⟩) :
    Transition event.moment event.before call answer event.after := by
  obtain ⟨hCall, hAnswer⟩ := event.of_exchange hExchange
  have hStep := event.transition_of_call hCall
  rwa [hAnswer] at hStep

theorem Event.perform_of_error? {event : Event} {error : Store.Error}
    (hError : event.exchange.error? = some error) :
    (event.before.perform event.moment event.call).1 = .error error := by
  change Exchange.error? ⟨event.call, (event.before.perform event.moment event.call).1⟩ =
      some error at hError
  generalize (event.before.perform event.moment event.call).1 = answer at hError ⊢
  cases answer with
  | error other => exact congrArg Except.error (Option.some.inj hError)
  | ok value => cases hError

/-- The events of a script that is run within a history are a conversation with the store. -/
theorem Follows.converses {α : Type} {script : Script α} {events : List Event} {result : α}
    (hRun : Follows script events result) :
    Converses script (events.map Event.exchange) result := by
  induction script generalizing events with
  | done ended =>
      obtain ⟨rfl, rfl⟩ := hRun
      exact .done _
  | ask call next ih =>
      obtain ⟨event, later, rfl, rfl, hRest⟩ := follows_ask hRun
      exact .ask (ih _ hRest)

/-! ## What becomes of an entity -/

section Has

variable {state : State} {kind : EntityKind} {id other : Id}

theorem State.has_addPermission {record : PermissionRecord} :
    (state.addPermission record).Has kind id ↔
      state.Has kind id ∨ kind = .permission ∧ id = record.id := by
  cases kind <;> grind [State.Has, State.permission?_addPermission, State.role?_addPermission]

theorem State.has_describePermission {name : String} {description : Option String} :
    (state.describePermission other name description).Has kind id ↔ state.Has kind id := by
  cases kind <;>
    grind [State.Has, State.permission?_describePermission, State.role?_describePermission,
      Option.map_eq_none_iff]

theorem State.has_removePermission :
    (state.removePermission other).Has kind id ↔
      state.Has kind id ∧ ¬ (kind = .permission ∧ id = other) := by
  cases kind <;>
    grind [State.Has, State.permission?_removePermission, State.role?_removePermission,
      Option.map_eq_none_iff]

theorem State.has_addRole {record : RoleRecord} :
    (state.addRole record).Has kind id ↔ state.Has kind id ∨ kind = .role ∧ id = record.id := by
  cases kind <;> grind [State.Has, State.permission?_addRole, State.role?_addRole]

theorem State.has_renameRole {name : String} :
    (state.renameRole other name).Has kind id ↔ state.Has kind id := by
  cases kind <;>
    grind [State.Has, State.permission?_renameRole, State.role?_renameRole, Option.map_eq_none_iff]

theorem State.has_removeRole :
    (state.removeRole other).Has kind id ↔ state.Has kind id ∧ ¬ (kind = .role ∧ id = other) := by
  cases kind <;> grind [State.Has, State.permission?_removeRole, State.role?_removeRole]

/-- To give a role other permissions makes no entity come or go. -/
theorem State.has_rewrite {permissions : IdSet} :
    ((state.setGrants other permissions).bumpRole other).Has kind id ↔ state.Has kind id := by
  cases kind <;>
    grind [State.Has, State.permission?_bumpRole, State.role?_bumpRole, State.permission?_setGrants,
      State.role?_setGrants, Option.map_eq_none_iff]

/-- The deletion of an entity, which succeeds. -/
def deletionOf : EntityKind → Id → Exchange
  | .permission, id => ⟨.deletePermission id, .ok ()⟩
  | .role, id => ⟨.deleteRole id, .ok ()⟩

/-- Only its deletion makes an entity go. -/
theorem Transition.eq_deletionOf {moment : Moment} {state' : State} {call : Call}
    {answer : call.Answer} (hStep : Transition moment state call answer state')
    (hBefore : state.Has kind id) (hAfter : ¬ state'.Has kind id) :
    (⟨call, answer⟩ : Exchange) = deletionOf kind id := by
  cases hStep with
  | fails error | reads _ hReads => exact absurd hBefore hAfter
  | createPermission hKept hFree => exact absurd (State.has_addPermission.2 (.inl hBefore)) hAfter
  | updatePermission hKept hFound hFree =>
      exact absurd (State.has_describePermission.2 hBefore) hAfter
  | deletePermission hFound =>
      obtain ⟨rfl, rfl⟩ :=
        Classical.not_not.1 fun hOther => hAfter (State.has_removePermission.2 ⟨hBefore, hOther⟩)
      rfl
  | createRole hKept hFree => exact absurd (State.has_addRole.2 (.inl hBefore)) hAfter
  | updateRole hKept hFound hFree => exact absurd (State.has_renameRole.2 hBefore) hAfter
  | deleteRole hFound =>
      obtain ⟨rfl, rfl⟩ :=
        Classical.not_not.1 fun hOther => hAfter (State.has_removeRole.2 ⟨hBefore, hOther⟩)
      rfl
  | setRolePermissions hFound hKnown | replaceRolePermissions hFound hKnown =>
      exact absurd (State.has_rewrite.2 hBefore) hAfter

end Has

/-! ## From the beginning of a history to an event -/

/-- The state after events that follow on a state. -/
def endState (state : State) : List Event → State
  | [] => state
  | event :: events => endState event.after events

theorem History.append {state : State} {events later : List Event} (hHistory : History state events)
    (hLater : History (endState state events) later) : History state (events ++ later) := by
  induction events generalizing state with
  | nil => exact hLater
  | cons event events ih => exact ⟨hHistory.1, ih hHistory.2 hLater⟩

theorem History.coherent_endState {state : State} {events : List Event}
    (hHistory : History state events) (hState : Coherent state) :
    Coherent (endState state events) := by
  induction events generalizing state with
  | nil => exact hState
  | cons event events ih =>
      obtain ⟨rfl, hRest⟩ := hHistory
      exact ih hRest (hState.perform event.moment event.call)

theorem History.left_of_append {state : State} {events later : List Event}
    (hHistory : History state (events ++ later)) :
    History state events := by
  induction events generalizing state with
  | nil => trivial
  | cons event events ih => exact ⟨hHistory.1, ih hHistory.2⟩

section Between

variable {state : State} {between later : List Event} {event : Event} {kind : EntityKind} {id : Id}

theorem FreshIds.left_of_append (hFresh : FreshIds (between ++ later)) : FreshIds between := by
  rw [FreshIds, List.filterMap_append, List.nodup_append] at hFresh
  exact hFresh.1

/-- If something holds at first and not when an event is met, one of the events before it has put an
end to it. -/
theorem History.exists_turn (holds : State → Prop)
    (hHistory : History state (between ++ event :: later)) (hStart : holds state)
    (hEnd : ¬ holds event.before) : ∃ turn ∈ between, holds turn.before ∧ ¬ holds turn.after := by
  induction between generalizing state with
  | nil => exact absurd (hHistory.1 ▸ hStart) hEnd
  | cons first between ih =>
      obtain ⟨rfl, hRest⟩ := hHistory
      by_cases hFirst : holds first.after
      · obtain ⟨turn, hTurn, hTurns⟩ := ih hRest hFirst
        exact ⟨turn, List.mem_cons_of_mem _ hTurn, hTurns⟩
      · exact ⟨first, List.mem_cons_self .., hStart, hFirst⟩

/-- An entity that is there at first and not in the end has been deleted. -/
theorem History.deleted (hHistory : History state (between ++ event :: later))
    (hStart : state.Has kind id) (hEnd : ¬ event.before.Has kind id) :
    ∃ deletion ∈ between, deletion.exchange = deletionOf kind id := by
  obtain ⟨turn, hTurn, hHeld, hGone⟩ :=
    hHistory.exists_turn (fun state => state.Has kind id) hStart hEnd
  exact ⟨turn, hTurn, turn.transition.eq_deletionOf hHeld hGone⟩

/-- A role that is not there at first and is in the end has been given its identifier. -/
theorem History.given (hHistory : History state (between ++ event :: later))
    (hStart : state.role? id = none) (hEnd : event.before.role? id ≠ none) :
    ∃ creation ∈ between, creation.newId? = some id := by
  obtain ⟨turn, hTurn, hAbsent, hPresent⟩ :=
    hHistory.exists_turn (fun state => state.role? id = none) hStart hEnd
  rcases turn.transition.role_of_absent hAbsent with hStill | ⟨hNew, -⟩
  · exact absurd hStill hPresent
  · exact ⟨turn, hTurn, hNew⟩

/-- A role that is there has got its identifier, and this is not given again. -/
theorem FreshIds.never_again (hFresh : FreshIds (between ++ event :: later))
    (hHistory : History .empty (between ++ event :: later)) (hFound : event.before.Has .role id) :
    ∀ other ∈ event :: later, other.newId? ≠ some id := by
  intro other hOther hAgain
  obtain ⟨creation, hCreation, hNew⟩ := hHistory.given rfl hFound
  rw [FreshIds, List.filterMap_append, List.nodup_append] at hFresh
  exact hFresh.2.2 id (List.mem_filterMap.2 ⟨creation, hCreation, hNew⟩) id
    (List.mem_filterMap.2 ⟨other, hOther, hAgain⟩) rfl

/-- A role that is there all the time moves on by one revision for each write, and if there is none
it keeps its set. -/
theorem History.role_moved {record record' : RoleRecord}
    (hHistory : History state (between ++ event :: later)) (hStart : state.role? id = some record)
    (hEnd : event.before.role? id = some record')
    (hNever : ∀ other ∈ between, other.newId? ≠ some id) :
    record'.revision = record.revision + UInt64.ofNat (writes id between) ∧
      (writes id between = 0 → event.before.permissionIdsOf id = state.permissionIdsOf id) := by
  induction between generalizing state record with
  | nil =>
      obtain ⟨rfl, -⟩ := hHistory
      obtain rfl := Option.some.inj (hStart.symm.trans hEnd)
      exact ⟨(UInt64.add_zero _).symm, fun _ => rfl⟩
  | cons first between ih =>
      obtain ⟨rfl, hRest⟩ := hHistory
      rw [List.forall_mem_cons] at hNever
      rw [writes_cons]
      rcases first.transition.role_of_present hStart hNever.1 with hGone |
        ⟨next, hNext, hWritten | hKept⟩
      · -- a role that is gone would not be there in the end
        obtain ⟨creation, hCreation, hNew⟩ := hRest.given hGone (hEnd ▸ Option.some_ne_none record')
        exact absurd hNew (hNever.2 creation hCreation)
      · obtain ⟨hRevision, -⟩ := ih hRest hNext hNever.2
        rw [if_pos (show first.writesSetOf id = true from hWritten.1)]
        refine ⟨?_, nofun⟩
        rw [hRevision, hWritten.2, Nat.add_comm, UInt64.ofNat_add, UInt64.add_assoc]
        rfl
      · obtain ⟨hRevision, hSet⟩ := ih hRest hNext hNever.2
        rw [if_neg (by simp [show first.writesSetOf id = false from hKept.1]), Nat.add_zero]
        exact ⟨hRevision.trans (by rw [hKept.2.1]), fun hNone => (hSet hNone).trans hKept.2.2⟩

end Between

/-! ## The span of a client -/

/-- The part of a history from the first event of a client to its last one. -/
def spanOf (client : Nat) (history : List Event) : List Event :=
  let begun := history.dropWhile fun event => event.client != client
  (begun.reverse.dropWhile fun event => event.client != client).reverse

/-- The events of all clients but one. -/
def othersOf (client : Nat) (history : List Event) : List Event :=
  history.filter fun event => event.client != client

section Span

variable {client : Nat} {history events : List Event}

@[simp] theorem eventsOf_append (client : Nat) (events later : List Event) :
    eventsOf client (events ++ later) = eventsOf client events ++ eventsOf client later :=
  List.filter_append ..

@[simp] theorem othersOf_append (client : Nat) (events later : List Event) :
    othersOf client (events ++ later) = othersOf client events ++ othersOf client later :=
  List.filter_append ..

theorem eventsOf_cons_of_eq {event : Event} (hOwn : event.client = client) :
    eventsOf client (event :: events) = event :: eventsOf client events :=
  List.filter_cons_of_pos (by simp [hOwn])

theorem eventsOf_cons_of_ne {event : Event} (hOther : event.client ≠ client) :
    eventsOf client (event :: events) = eventsOf client events :=
  List.filter_cons_of_neg (by simp [hOther])

theorem othersOf_cons_of_eq {event : Event} (hOwn : event.client = client) :
    othersOf client (event :: events) = othersOf client events :=
  List.filter_cons_of_neg (by simp [hOwn])

theorem othersOf_cons_of_ne {event : Event} (hOther : event.client ≠ client) :
    othersOf client (event :: events) = event :: othersOf client events :=
  List.filter_cons_of_pos (by simp [hOther])

@[simp] theorem writes_append (id : Id) (events later : List Event) :
    writes id (events ++ later) = writes id events + writes id later :=
  List.countP_append

theorem eventsOf_eq_nil_iff :
    eventsOf client events = [] ↔ ∀ event ∈ events, event.client ≠ client := by
  simp [eventsOf]

/-- Before and after its span there is no event of the client. -/
theorem exists_around_spanOf (client : Nat) (history : List Event) :
    ∃ earlier later, history = earlier ++ spanOf client history ++ later ∧
      eventsOf client earlier = [] ∧ eventsOf client later = [] := by
  -- what is taken off at either end
  have hNone (events : List Event) :
      eventsOf client (events.takeWhile fun event => event.client != client) = [] := by
    rw [eventsOf_eq_nil_iff]
    intro event hEvent
    simpa using List.all_eq_true.1 List.all_takeWhile event hEvent
  let begun := history.dropWhile fun event => event.client != client
  refine ⟨history.takeWhile fun event => event.client != client,
    (begun.reverse.takeWhile fun event => event.client != client).reverse, ?_, hNone _, ?_⟩
  · have hBegun : spanOf client history ++
        (begun.reverse.takeWhile fun event => event.client != client).reverse = begun := by
      rw [spanOf, ← List.reverse_append, List.takeWhile_append_dropWhile, List.reverse_reverse]
    rw [List.append_assoc, hBegun, List.takeWhile_append_dropWhile]
  · rw [eventsOf, List.filter_reverse, List.reverse_eq_nil_iff]
    exact hNone _

@[simp] theorem eventsOf_spanOf (client : Nat) (history : List Event) :
    eventsOf client (spanOf client history) = eventsOf client history := by
  obtain ⟨earlier, later, hHistory, hEarlier, hLater⟩ := exists_around_spanOf client history
  have hOwn := congrArg (eventsOf client) hHistory
  rw [eventsOf_append, eventsOf_append, hEarlier, hLater, List.nil_append, List.append_nil] at hOwn
  exact hOwn.symm

/-- Events that begin and end with those of a client are its span, if it has none before. -/
theorem spanOf_append {past : List Event} {first last : Event} (hPast : eventsOf client past = [])
    (hFirst : events.head? = some first) (hFirstOwn : first.client = client)
    (hLast : events.getLast? = some last) (hLastOwn : last.client = client) :
    spanOf client (past ++ events) = events := by
  have hBegun : (past ++ events).dropWhile (fun event => event.client != client) = events := by
    rw [List.dropWhile_append_of_pos fun event hEvent =>
      by simpa using eventsOf_eq_nil_iff.1 hPast event hEvent]
    obtain ⟨rest, rfl⟩ := List.head?_eq_some_iff.1 hFirst
    exact List.dropWhile_cons_of_neg (by simp [hFirstOwn])
  obtain ⟨middle, hMiddle⟩ := List.getLast?_eq_some_iff.1 hLast
  rw [spanOf, hBegun, hMiddle, List.reverse_append, List.reverse_singleton, List.singleton_append,
    List.dropWhile_cons_of_neg (by simp [hLastOwn]), List.reverse_cons, List.reverse_reverse]

/-- The first of the exchanges of a client has an event, and what is in front of it is done by
others. -/
theorem eventsOf_exchange_cons {first : Exchange} {log : List Exchange}
    (hLog : (eventsOf client events).map Event.exchange = first :: log) :
    ∃ foreign event later, events = foreign ++ event :: later ∧
      eventsOf client events = event :: eventsOf client later ∧
      othersOf client events = foreign ++ othersOf client later ∧ event.exchange = first ∧
      (eventsOf client later).map Event.exchange = log := by
  obtain ⟨event, rest, hOwn, hExchange, hRest⟩ := List.map_eq_cons_iff.1 hLog
  obtain ⟨foreign, later, rfl, hForeign, hClient, hLater⟩ := List.filter_eq_cons_iff.1 hOwn
  refine ⟨foreign, event, later, rfl, hOwn.trans (congrArg _ hLater.symm), ?_, hExchange, ?_⟩
  · have hOthers : othersOf client foreign = foreign :=
      List.filter_eq_self.2 fun other hOther => by simpa using hForeign other hOther
    rw [othersOf_append, hOthers, othersOf_cons_of_eq (eq_of_beq hClient)]
  · rw [← hRest, ← hLater]
    rfl

/-- Two exchanges of a client have an event each. -/
theorem eventsOf_exchange_cons_cons {first second : Exchange} {log : List Exchange}
    (hLog : (eventsOf client events).map Event.exchange = first :: second :: log) :
    ∃ foreign event foreign' event' later,
      events = foreign ++ event :: (foreign' ++ event' :: later) ∧
      eventsOf client events = event :: event' :: eventsOf client later ∧
      othersOf client events = foreign ++ foreign' ++ othersOf client later ∧
      event.exchange = first ∧ event'.exchange = second ∧
      (eventsOf client later).map Event.exchange = log := by
  obtain ⟨foreign, event, rest, rfl, hOwn, hOthers, hExchange, hRest⟩ := eventsOf_exchange_cons hLog
  obtain ⟨foreign', event', later, rfl, hOwn', hOthers', hExchange', hLater⟩ :=
    eventsOf_exchange_cons hRest
  refine ⟨foreign, event, foreign', event', later, rfl, ?_, ?_, hExchange, hExchange', hLater⟩
  · rw [hOwn, hOwn']
  · rw [hOthers, hOthers', List.append_assoc]

end Span

end Rolebook.Memory
