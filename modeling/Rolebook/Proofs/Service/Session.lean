import Rolebook.Proofs.Command.Meaning
import Rolebook.Proofs.Http.Confirm
import Rolebook.Service.Session

/-!
# Services with a store in memory

What a service does to a store in memory is a run of the script of the request, and a rehearsal
keeps some of its calls from the store (`Session.troubledRun`). So a request that is not confirmed
has changed nothing, whatever calls have failed and wherever its handling was brought to an end
(`request_changes_nothing_unless_confirmed`).

While nothing is rehearsed, a service runs its scripts as ones that have the store to themselves
(`Session.run_memory`), so a command comes to what it means (`Session.command_means`).
-/

namespace Rolebook

open Rolebook.Memory
open Rolebook.Store (Call Error Script)

/-! ## Calls -/

namespace Rehearsal

variable (inner : State) (durable : Bool) (faults : List (Fault Failure)) (moment : Moment)
  (call : Call)

/-- A call that meets no fault and no rival does what it does in the store. -/
theorem performUnharmed_of_no_rival :
    (⟨inner, durable, faults, none⟩ : Rehearsal).performUnharmed moment call =
      ((inner.perform moment call).1, ⟨(inner.perform moment call).2, durable, faults, none⟩) := by
  cases call <;> simp only [performUnharmed, letRivalAct]

theorem troubledCall_performDirectly :
    ∃ answer? inner' faults',
      (⟨inner, durable, faults, none⟩ : Rehearsal).performDirectly moment call =
        (answer?, ⟨inner', durable, faults', none⟩) ∧
          TroubledCall moment inner call answer? inner' := by
  unfold performDirectly
  -- no fault strikes, or an error stands in the place of the call, or the one who makes it is
  -- brought to an end
  rcases Fault.strike call.label faults with ⟨_ | error | _, faults'⟩
  · dsimp only
    rw [performUnharmed_of_no_rival]
    exact ⟨_, _, _, rfl, .answered (transition_perform ..)⟩
  · exact ⟨_, _, _, rfl, .answered (.fails error)⟩
  · exact ⟨_, _, _, rfl, .stopped⟩

theorem troubledCall_perform :
    ∃ answer? inner' faults',
      (⟨inner, durable, faults, none⟩ : Rehearsal).perform moment call =
        (answer?, ⟨inner', durable, faults', none⟩) ∧
          TroubledCall moment inner call answer? inner' := by
  cases call with
  | rolePermissionIds id =>
      -- the role is read in place of the call, and this changes nothing either
      obtain ⟨answer?, inner', faults', hPerform, hCall⟩ :=
        troubledCall_performDirectly inner durable faults moment (.getRole id)
      refine ⟨_, inner', faults', by rw [perform, hPerform], ?_⟩
      cases hCall with
      | stopped => exact .stopped
      | answered hStep =>
          obtain rfl := hStep.eq_of_readsOnly rfl
          exact .answered (.reads _ rfl)
  | _ => exact troubledCall_performDirectly ..

end Rehearsal

namespace Service

/-- The state of a store in memory, if that is what the service has and no rival changes it. -/
def Backend.memory? : Backend → Option State
  | .memory state => some state
  | .rehearsal ⟨inner, _, _, none⟩ => some inner
  | .rehearsal ⟨_, _, _, some _⟩ | .relational _ => none

theorem Backend.troubledCall_perform {backend : Backend} {state : State}
    (hState : backend.memory? = some state) (moment : Moment) (call : Call) :
    ∃ state', (backend.perform moment call).2.memory? = some state' ∧
      TroubledCall moment state call (backend.perform moment call).1 state' := by
  rcases backend with inner | ⟨inner, durable, faults, _ | rival⟩ | store
  · obtain rfl := Option.some.inj hState
    exact ⟨_, rfl, .answered (transition_perform ..)⟩
  · obtain rfl := Option.some.inj hState
    obtain ⟨answer?, inner', faults', hPerform, hCall⟩ :=
      Rehearsal.troubledCall_perform inner durable faults moment call
    rw [perform, hPerform]
    exact ⟨inner', rfl, hCall⟩
  · cases hState
  · cases hState

/-! ## Scripts -/

namespace Session

variable {α : Type} {session : Session} {state : State}

theorem run_ask (call : Call) (next : call.Answer → Script α) :
    session.run (.ask call next) =
      match session.perform call with
      | (some answer, session') => session'.run (next answer)
      | (none, session') => (none, session') := by
  unfold run
  rw [Program.run]
  simp only [bind, OptionT.bind, OptionT.mk, StateT.bind]
  rcases session.perform call with ⟨_ | answer, session'⟩
  · rfl
  · rfl

/-- A service runs a script on its store in memory, though some calls may be kept from that. -/
theorem troubledRun (hState : session.backend.memory? = some state) (script : Script α) :
    ∃ state', (session.run script).2.backend.memory? = some state' ∧
      TroubledRun state script (session.run script).1 state' := by
  induction script generalizing session state with
  | done result => exact ⟨state, hState, .done result⟩
  | ask call next ih =>
      obtain ⟨between, hBetween, hCall⟩ := Backend.troubledCall_perform hState session.moment call
      rw [run_ask, perform]
      generalize session.backend.perform session.moment call = outcome at hBetween hCall ⊢
      obtain ⟨answer?, backend⟩ := outcome
      cases hCall with
      | stopped => exact ⟨state, hBetween, .stopped call next⟩
      | @answered answer _ hStep =>
          have hNext :
              ({ session with backend, nextSerial := session.nextSerial + 1 } :
                Session).backend.memory? =
            some between := hBetween
          obtain ⟨after, hAfter, hRest⟩ := ih answer hNext
          exact ⟨after, hAfter, .ask hStep hRest⟩

/-- A store in memory that a service lets one script have to itself. Each call uses up an
identifier. -/
def alone (session : Session) (state : State) : Alone :=
  ⟨state, fun number => ⟨session.now, idOfSerial (session.nextSerial + number)⟩⟩

/-- With a plain store in memory, a script that a service runs has the store to itself, and it comes
to its end. -/
theorem run_memory (hState : session.backend = .memory state) (script : Script α) :
    (session.run script).1 = some ((session.alone state).run script).1 ∧
      (session.run script).2.backend = .memory ((session.alone state).run script).2.state := by
  induction script generalizing session state with
  | done result => exact ⟨rfl, hState⟩
  | ask call next ih =>
      have hPerform : session.perform call =
          (some (state.perform session.moment call).1,
            { session with
              backend := .memory (state.perform session.moment call).2
              nextSerial := session.nextSerial + 1 }) := by
        rw [perform, hState]
        rfl
      have hAlone : ((session.alone state).perform call).2 =
          ({ session with nextSerial := session.nextSerial + 1 } : Session).alone
            (state.perform session.moment call).2 := by
        simp only [alone, Alone.perform, Alone.moment, moment, Nat.add_zero,
          Nat.add_right_comm _ _ 1, ← Nat.add_assoc]
      rw [run_ask, hPerform, Alone.run_ask, hAlone]
      exact ih _ rfl

/-- A service that is given a command replies as the command means it, and so does its store
change. -/
theorem command_means (hBackend : session.backend = .memory state) (hState : Coherent state)
    (hNew : state.permission? session.moment.newId = none ∧ state.role? session.moment.newId = none)
    (text : String) :
    ∃ reply state', (session.command text).1 = some reply ∧
      (session.command text).2.backend = .memory state' ∧
      Command.Means session.moment state (Phrase.parse? text) reply state' := by
  obtain ⟨hEnd, hAfter⟩ := run_memory hBackend (Command.evaluate text)
  have hMeans := Command.run_evaluate hState (session.alone state).clock hNew text
  rw [Session.command]
  generalize session.run (Command.evaluate text) = ended at hEnd hAfter ⊢
  obtain ⟨_, session'⟩ := ended
  obtain rfl := hEnd
  exact ⟨_, _, rfl, hAfter, hMeans⟩

/-! ## Requests -/

/-- The response to a request is the one that its script ends with, if it ends. -/
theorem request_response (request : Http.Request) :
    (session.request request).1 =
      match (session.run (Http.handle session.profile request)).1 with
      | some handled => handled.response
      | none => Http.commandFailed.response := by
  unfold Session.request
  rcases session.run (Http.handle session.profile request) with
    ⟨_ | ⟨response, _ | reply⟩, session'⟩ <;> rfl

/-- A request does to the store what its script does. The counting of commands is kept apart from
the store. -/
theorem request_backend (request : Http.Request) :
    (session.request request).2.backend =
      (session.run (Http.handle session.profile request)).2.backend := by
  unfold Session.request
  rcases session.run (Http.handle session.profile request) with
    ⟨_ | ⟨response, _ | reply⟩, session'⟩ <;> rfl

end Session

open Rolebook.Http (Confirms pathOf statusField? writesLast_handle)

/-- A request to a service with a store in memory, by any method, with any path, header fields and
body, and whatever calls of its handling are made to fail or to bring that to an end, leaves
permissions, roles, grants and revisions as they are if the response does not report success, if the
request asks by GET or HEAD, or if it gives a command and the reply that the response carries is
none of success. -/
theorem request_changes_nothing_unless_confirmed {session : Session} {state : State}
    (hState : session.backend.memory? = some state) (request : Http.Request)
    (hQuiet :
      ¬ (200 ≤ (session.request request).1.status ∧
          (session.request request).1.status < 300) ∨
        request.method = "GET" ∨ request.method = "HEAD" ∨
        pathOf request.target = "/natural-language".toList ∧
          statusField? (session.request request).1 ≠ some "success") :
    (session.request request).2.backend.memory? = some state := by
  obtain ⟨after, hAfter, hRun⟩ := Session.troubledRun hState (Http.handle session.profile request)
  rw [Session.request_backend, hAfter]
  rcases (writesLast_handle session.profile request).unchanged_or_good hRun with rfl |
    ⟨handled, hEnd, hConfirms⟩
  · rfl
  · -- the response confirms a change, so it is none of those that are asked about
    have hResponse : (session.request request).1 = handled.response := by
      rw [Session.request_response, hEnd]
    rw [hResponse] at hQuiet
    rcases hQuiet with hFailed | hGet | hHead | ⟨hPath, hReply⟩
    · exact absurd hConfirms.succeeds hFailed
    · exact absurd hGet hConfirms.method.1
    · exact absurd hHead hConfirms.method.2
    · exact absurd (hConfirms.reply (by rw [hPath]; decide +kernel)) hReply

/-- A role and a permission that it does not grant. -/
def unassigned : State :=
  ((State.empty.perform ⟨⟨0⟩, "p"⟩ (.createPermission "read" none)).2.perform ⟨⟨1⟩, "r"⟩
    (.createRole "viewer")).2

/-- A service whose store fails when a command writes the set of a role, after it has read the role
and the permission. -/
def rehearsed : Session :=
  .start (.rehearsal ⟨unassigned, false,
    [⟨some "replace_role_permissions_checked", .error (.unexpected "down" []), 0, 1⟩],
    none⟩) true ⟨2⟩

/-- The role is to grant the permission. -/
def grantRequest : Http.Request :=
  ⟨"POST", "/natural-language", [],
    Text.toUtf8 "\x7b\"command\":\"give the role 'viewer' the permission 'read'\"\x7d"⟩

theorem request_changes_nothing_unless_confirmed_of_failed_grant :
    rehearsed.backend.memory? = some unassigned ∧
      (pathOf grantRequest.target = "/natural-language".toList ∧
        (rehearsed.request grantRequest).1.status = 200 ∧
        statusField? (rehearsed.request grantRequest).1 = some "failure") ∧
      (rehearsed.request grantRequest).2.backend.memory? = some unassigned := by
  have hPath : pathOf grantRequest.target = "/natural-language".toList := by decide +kernel
  have hReply : statusField? (rehearsed.request grantRequest).1 = some "failure" := by
    decide +kernel
  refine ⟨rfl, ⟨hPath, by decide +kernel, hReply⟩, ?_⟩
  exact request_changes_nothing_unless_confirmed rfl grantRequest
    (.inr (.inr (.inr ⟨hPath, by simp [hReply]⟩)))

end Service

end Rolebook
