import Rolebook.Proofs.Memory.Revision

/-!
# Runs of scripts within a history

While one client goes through a script, others may make any calls in between. What the client has to
do with are its own events of the history: `Follows` says that these are the calls of the script,
each made in whatever state the store was in by then, and that the script ends with a certain
result.
-/

namespace Rolebook.Memory

open Rolebook.Store (Call Script)

/-- The events of one client, in their order. -/
def eventsOf (client : Nat) (history : List Event) : List Event :=
  history.filter fun event => event.client == client

/-- The events are those of a script that goes on with each answer and ends with a result. -/
def Follows {α : Type} : Script α → List Event → α → Prop
  | .done ended, events, result => events = [] ∧ ended = result
  | .ask _ _, [], _ => False
  | .ask call next, event :: events, result =>
    event.call = call ∧ Follows (next (event.before.perform event.moment call).1) events result

instance Follows.decidable {α : Type} [DecidableEq α] :
    (script : Script α) → (events : List Event) → (result : α) →
      Decidable (Follows script events result)
  | .done ended, events, result =>
    decidable_of_iff (events.isEmpty = true ∧ ended = result) (by rw [List.isEmpty_iff]; rfl)
  | .ask _ _, [], _ => .isFalse id
  | .ask call next, event :: events, result =>
    have := Follows.decidable (next (event.before.perform event.moment call).1) events result
    inferInstanceAs (Decidable (event.call = call ∧ Follows _ events result))

variable {α β : Type} {script : Script α} {events : List Event}

/-- A script that makes a call has an event for it. -/
theorem follows_ask {call : Call} {next : call.Answer → Script α} {result : α}
    (hRun : Follows (.ask call next) events result) :
    ∃ event later, events = event :: later ∧ event.call = call ∧
      Follows (next (event.before.perform event.moment call).1) later result := by
  cases events with
  | nil => exact hRun.elim
  | cons event later => exact ⟨event, later, rfl, hRun⟩

/-- A script that is followed by another one has the first of the events to itself. -/
theorem follows_bind {next : α → Script β} {result : β} :
    Follows (script.bind next) events result ↔
      ∃ earlier later ended, events = earlier ++ later ∧ Follows script earlier ended ∧
        Follows (next ended) later result := by
  induction script generalizing events with
  | done ended =>
      constructor
      · intro hRun
        exact ⟨[], events, ended, rfl, ⟨rfl, rfl⟩, hRun⟩
      · rintro ⟨earlier, later, _, rfl, ⟨rfl, rfl⟩, hRun⟩
        exact hRun
  | ask call rest ih =>
      cases events with
      | nil =>
          refine iff_of_false id ?_
          rintro ⟨earlier, later, ended, hEvents, hRun, -⟩
          obtain ⟨rfl, -⟩ := List.append_eq_nil_iff.1 hEvents.symm
          exact hRun
      | cons event events =>
          constructor
          · rintro ⟨hCall, hRun⟩
            obtain ⟨earlier, later, ended, rfl, hFirst, hNext⟩ := (ih _).1 hRun
            exact ⟨event :: earlier, later, ended, rfl, ⟨hCall, hFirst⟩, hNext⟩
          · rintro ⟨earlier, later, ended, hEvents, hFirst, hNext⟩
            cases earlier with
            | nil => exact hFirst.elim
            | cons first earlier =>
                obtain ⟨rfl, rfl⟩ := List.cons.inj hEvents
                exact ⟨hFirst.1, (ih _).2 ⟨earlier, later, ended, rfl, hFirst.2, hNext⟩⟩

/-- A script whose result is only turned into another one has the events that it has without
that. -/
theorem follows_map {turn : α → β} {result : β} :
    Follows (do return turn (← script)) events result ↔ ∃ ended, Follows script events ended ∧
      turn ended = result := by
  constructor
  · intro hRun
    obtain ⟨earlier, later, ended, rfl, hFirst, rfl, hResult⟩ := follows_bind.1 hRun
    rw [List.append_nil]
    exact ⟨ended, hFirst, hResult⟩
  · rintro ⟨ended, hFirst, hResult⟩
    exact follows_bind.2 ⟨events, [], ended, (List.append_nil events).symm, hFirst, rfl, hResult⟩

/-! ## What is known of an event by its call -/

theorem Event.transition_of_call {event : Event} {call : Call} (hCall : event.call = call) :
    Transition event.moment event.before call
      (event.before.perform event.moment call).1 event.after := by
  subst hCall
  exact event.transition

/-- A role that is written at the revision expected is there at this revision, and its set is
exchanged. -/
theorem Transition.replaced {moment : Moment} {state state' : State} {id : Id} {expected : Revision}
    {permissions : IdSet} {shown : Role}
    (hStep : Transition moment state (.replaceRolePermissions id expected permissions)
      (.ok shown) state') :
    ∃ record, state.role? id = some record ∧ record.revision = expected ∧
      state' = (state.setGrants id permissions).bumpRole id := by
  cases hStep with
  | reads _ hReads => cases hReads
  | replaceRolePermissions hFound hKnown => exact ⟨_, hFound, rfl, rfl⟩

/-! ## Events that change nothing -/

/-- None of the events changes the store. -/
def Untouched (events : List Event) : Prop :=
  ∀ event ∈ events, event.after = event.before

theorem Transition.eq_of_readsOnly {moment : Moment} {state state' : State} {call : Call}
    {answer : call.Answer} (hStep : Transition moment state call answer state')
    (hReads : readsOnly call = true) : state' = state := by
  cases hStep <;> first | rfl | cases hReads

theorem Transition.eq_of_error {moment : Moment} {state state' : State} {call : Call}
    {error : Store.Error} (hStep : Transition moment state call (.error error) state') :
    state' = state := by
  cases hStep <;> rfl

theorem Untouched.append {later : List Event} (h : Untouched events) (h' : Untouched later) :
    Untouched (events ++ later) := by
  intro event hEvent
  rcases List.mem_append.1 hEvent with hEvent | hEvent
  · exact h event hEvent
  · exact h' event hEvent

theorem Untouched.nil : Untouched [] :=
  fun _ hEvent => absurd hEvent List.not_mem_nil

theorem Untouched.cons {event : Event} (hEvent : event.after = event.before)
    (h : Untouched events) :
    Untouched (event :: events) :=
  List.forall_mem_cons.2 ⟨hEvent, h⟩

/-! ## Roles that a run gets to see -/

/-- The role that a call is answered with when it reads one. -/
def shownRole? : (call : Call) → call.Answer → Option Role
  | .getRole _, answer => answer.toOption
  | .getRoleByName _, answer => answer.toOption.join
  | _, _ => none

/-- The role that an event shows to the one who reads it. -/
def Event.shownRole? (event : Event) : Option Role :=
  Memory.shownRole? event.call event.answer

theorem Event.shownRole?_of_call {event : Event} {call : Call} (hCall : event.call = call) :
    event.shownRole? = Memory.shownRole? call (event.before.perform event.moment call).1 := by
  subst hCall
  rfl

/-- The last of the events that shows a role. -/
def LastRead (events : List Event) (read : Event) (role : Role) : Prop :=
  read.shownRole? = some role ∧
    ∃ earlier later, events = earlier ++ read :: later ∧ ∀ event ∈ later, event.shownRole? = none

theorem LastRead.mem {read : Event} {role : Role} (h : LastRead events read role) :
    read ∈ events := by
  obtain ⟨-, earlier, later, rfl, -⟩ := h
  simp

theorem LastRead.append {read : Event} {role : Role} (h : LastRead events read role)
    {later : List Event} (hLater : ∀ event ∈ later, event.shownRole? = none) :
    LastRead (events ++ later) read role := by
  obtain ⟨hShown, earlier, between, rfl, hBetween⟩ := h
  refine ⟨hShown, earlier, between ++ later, by simp, fun event hEvent => ?_⟩
  rcases List.mem_append.1 hEvent with hEvent | hEvent
  · exact hBetween event hEvent
  · exact hLater event hEvent

theorem lastRead_of_getLast {read : Event} {role : Role} (hShown : read.shownRole? = some role)
    (events : List Event) :
    LastRead (events ++ [read]) read role :=
  ⟨hShown, events, [], rfl, fun _ hEvent => absurd hEvent List.not_mem_nil⟩

theorem Coherent.getRole_of_getRoleByName {state : State} (hState : Coherent state) {name : String}
    {role : Role} (hNamed : state.getRoleByName name = some role) :
    state.getRole role.id = .ok role := by
  obtain ⟨record, hRecord, rfl⟩ := Option.map_eq_some_iff.1 hNamed
  obtain ⟨id, hFound⟩ := Table.mem_values.1 (List.mem_of_find?_eq_some hRecord)
  obtain rfl : record.id = id := hState.roles.own_id id record hFound
  exact getRole_eq_ok_iff.2 ⟨record, hFound, rfl⟩

/-- A role that a call shows is there, and it is shown as it is in the state that the call meets. -/
theorem Coherent.getRole_of_shownRole? {state : State} (hState : Coherent state) {moment : Moment}
    {call : Call} {role : Role}
    (hShown : shownRole? call (state.perform moment call).1 = some role) :
    state.getRole role.id = .ok role := by
  cases call with
  | getRole id =>
      have hRead : (state.getRole id).toOption = some role := hShown
      cases hAnswer : state.getRole id with
      | error error => simp [hAnswer, Except.toOption] at hRead
      | ok shown =>
          obtain rfl : shown = role := by simpa [hAnswer, Except.toOption] using hRead
          obtain ⟨-, -, hId, -⟩ := hState.shown_role hAnswer
          rw [hId]
          exact hAnswer
  | getRoleByName name => exact hState.getRole_of_getRoleByName hShown
  -- no other call shows a role
  | _ => exact nomatch (show none = some role from hShown)

end Rolebook.Memory
