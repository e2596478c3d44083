import Rolebook.Proofs.Command.Hindrance

/-!
# How much contention a change endures

Each attempt of a change is foiled by a write of others between the reading that it goes by and its
own write, and these stretches of time lie apart. So a change that reports a conflict has met at
least as many writes as it had attempts (`Attempts.conflict_writes`). No fewer will do, but as many
will: others who write the set of the role as it is before each attempt foil all of them, whatever
the change is (`exists_foiled`).
-/

namespace Rolebook.Command

open Rolebook.Memory
open Rolebook.Store (Call Exchange Script)

/-! ## Each conflict takes a write -/

/-- Attempts that end with a conflict have met a write of others each. -/
theorem Attempts.conflict_writes {change : Change} {permission : Id} {further : Nat} {shown : Role}
    {log : List Exchange} {error : Store.Error} {client : Nat} {state : State}
    {since events : List Event}
    (hAttempts : Attempts change permission further shown log (.error error))
    (hConflict : IsConflict error) (hLog : (eventsOf client events).map Event.exchange = log)
    (hShown : Shown shown state (since ++ events)) :
    further + 1 ≤ writes shown.id since + writes shown.id (othersOf client events) := by
  generalize hResult : Except.error error = result at hAttempts
  induction hAttempts generalizing since events state with
  | idle | written => cases hResult
  | refused hWanted hLast =>
      cases hResult
      -- a conflict ends only the last attempt
      obtain rfl := hLast hConflict
      obtain ⟨foreign, write, later, rfl, -, hOthers, hExchange, -⟩ := eventsOf_exchange_cons hLog
      rw [← List.append_assoc] at hShown
      obtain ⟨-, hWritten⟩ := hShown.writes_of_conflict hExchange hConflict
      rw [writes_append] at hWritten
      rw [hOthers, writes_append]
      omega
  | lost hWanted hEarlier =>
      cases hResult
      obtain ⟨foreign, write, foreign', read, later, rfl, -, -, -, hExchange, -⟩ :=
        eventsOf_exchange_cons_cons hLog
      -- a role that is read again may be missing, but that is no conflict
      obtain ⟨rfl, -⟩ := getRole_eq_error_iff.1 (read.of_exchange hExchange).2
      obtain ⟨expected, found, hError⟩ := hConflict
      cases hError
  | @again further shown wanted conflict log result reread hWanted hEarlier hRest ih =>
      subst hResult
      obtain ⟨foreign, write, foreign', read, later, rfl, -, hOthers, hExchange,
          hExchange', hLater⟩ :=
        eventsOf_exchange_cons_cons hLog
      obtain ⟨-, hWritten, hId, hShown'⟩ := hShown.again hExchange hEarlier hExchange'
      -- what is written after the role was read again foils the attempts that follow
      have hReread : Shown reread read.after ([] ++ later) := hShown'
      have hFollowing := ih hLater hReread rfl
      rw [hId] at hFollowing
      rw [writes_append] at hWritten
      rw [hOthers, writes_append, writes_append]
      simp only [writes, List.countP_nil] at hFollowing hWritten ⊢
      omega

/-! ## Replies that report a conflict -/

theorem Reply.text_eq_of_to_eq {intent : Phrase.Intent} {status : Status} {text text' : String}
    (hSame : Reply.to intent status text = Reply.to intent status text') : text = text' := by
  have hMessages : status.glyph ++ " " ++ text = status.glyph ++ " " ++ text' :=
    congrArg Reply.message hSame
  exact (String.append_right_inj _).1 hMessages

theorem Change.head?_failed (change : Change) (rest : String) :
    (change.wording.failed ++ rest).toList.head? = some 'F' := by
  cases change <;> simp [Change.wording, grantWording, revokeWording]

/-- A failure of the store is not told like an entity that is not found by its name. -/
theorem Change.failed_ne (change : Change) (error : Store.Error) (rest : String) :
    "Role '" ++ rest ≠ change.wording.failed ++ error.message ∧
      "Permission '" ++ rest ≠ change.wording.failed ++ error.message := by
  have hLetter := change.head?_failed error.message
  constructor <;>
  · intro hSame
    rw [← hSame] at hLetter
    simp at hLetter

theorem head?_message_of_notFound (what : String) :
    (Store.Error.notFound what).message.toList.head? = some 'n' := by
  change ("not found: " ++ what).toList.head? = some 'n'
  simp

theorem IsConflict.head?_message {error : Store.Error} (hConflict : IsConflict error) :
    error.message.toList.head? = some 'r' := by
  obtain ⟨expected, found, rfl⟩ := hConflict
  change ("revision mismatch: expected " ++ Store.revisionText expected ++ ", found " ++
    Store.revisionText found).toList.head? = some 'r'
  simp only [String.append_assoc]
  simp

/-- An error that attempts end with is an answer to one of their calls, none of which gives a
name. -/
theorem Attempts.exists_error {change : Change} {permission : Id} {further : Nat} {shown : Role}
    {log : List Exchange} {error : Store.Error}
    (hAttempts : Attempts change permission further shown log (.error error)) :
    ∃ exchange ∈ log, exchange.error? = some error ∧ nameGiven? exchange.call = none := by
  generalize hResult : Except.error error = result at hAttempts
  induction hAttempts with
  | idle | written => cases hResult
  | refused =>
      cases hResult
      exact ⟨_, List.mem_cons_self .., rfl, rfl⟩
  | lost =>
      cases hResult
      exact ⟨_, List.mem_cons_of_mem _ (List.mem_cons_self ..), rfl, rfl⟩
  | again _ _ _ _ ih =>
      obtain ⟨exchange, hMember, hError⟩ := ih hResult
      exact ⟨exchange, List.mem_cons_of_mem _ (List.mem_cons_of_mem _ hMember), hError⟩

/-- A store in memory fails for the want of an entity, or by a conflict, if it is given no name. -/
theorem notFound_or_conflict {state : State} {call : Call} {error : Store.Error}
    (hRefused : Refused state call error) (hNoName : nameGiven? call = none) :
    (∃ what, error = .notFound what) ∨ IsConflict error := by
  cases hRefused with
  | blankName hName | nameTaken _ hName => exact nomatch hNoName.symm.trans hName
  | missing | unknownPermission => exact .inl ⟨_, rfl⟩
  | stale => exact .inr ⟨_, _, rfl⟩

/-- If a run replies that there has been a conflict, it has found what it was to change, and its
attempts have ended so. -/
theorem conflict_of_reply {change : Change} {roleName permissionName : String} {own : List Event}
    {reply : Reply} {conflict : Store.Error} (hCoherent : ∀ event ∈ own, Coherent event.before)
    (hRun : Follows (changeByName change roleName permissionName) own reply)
    (hConflict : IsConflict conflict)
    (hReply : reply = change.replyTo roleName permissionName (.error conflict)) :
    ∃ shown found log error, own.map Event.exchange = lookUps roleName permissionName
      shown found ++ log ∧
      IsConflict error ∧ Attempts change found.id 2 shown log (.error error) := by
  have hLog := changeLog_of_converses hRun.converses
  generalize hOwn : own.map Event.exchange = log at hLog
  cases hLog with
  | roleFailed error =>
      -- a store in memory never fails to look up a name
      obtain ⟨event, -, -, hExchange, -⟩ := List.map_eq_cons_iff.1 hOwn
      cases (event.of_exchange hExchange).2
  | roleMissing =>
      have hText := Reply.text_eq_of_to_eq hReply
      rw [String.append_assoc, String.append_assoc] at hText
      exact absurd hText (change.failed_ne conflict _).1
  | permissionFailed shown error =>
      obtain ⟨-, _, -, -, hRest⟩ := List.map_eq_cons_iff.1 hOwn
      obtain ⟨event, -, -, hExchange, -⟩ := List.map_eq_cons_iff.1 hRest
      cases (event.of_exchange hExchange).2
  | permissionMissing shown =>
      have hText := Reply.text_eq_of_to_eq hReply
      rw [String.append_assoc, String.append_assoc] at hText
      exact absurd hText (change.failed_ne conflict _).2
  | @tried shown found log result hTried =>
      cases result with
      | ok changed => cases changed <;> exact nomatch congrArg Reply.status hReply
      | error error =>
          -- the texts are those of two errors, and the one that the attempts ended with is none but
          -- a conflict
          refine ⟨shown, found, log, error, rfl, ?_, hTried⟩
          have hText := (String.append_right_inj _).1 (Reply.text_eq_of_to_eq hReply)
          obtain ⟨exchange, hMember, hError, hNoName⟩ := hTried.exists_error
          obtain ⟨event, hEvent, rfl⟩ := List.mem_map.1 (hOwn ▸ List.mem_append_right _ hMember)
          have hRefused :=
            refused_of_perform (hCoherent event hEvent) (event.perform_of_error? hError)
          refine (notFound_or_conflict hRefused hNoName).resolve_left ?_
          rintro ⟨what, rfl⟩
          have hLetter := hConflict.head?_message
          rw [← hText, head?_message_of_notFound] at hLetter
          cases hLetter

/-! ## A rival -/

/-- A client writes the set of a role as it is. -/
def rewriting (client : Nat) (moment : Moment) (role : Id) (state : State) : Event :=
  ⟨client, moment, .setRolePermissions role (state.permissionIdsOf role), state⟩

/-- To write the set of a role as it is moves on its revision and does nothing else to it. -/
theorem rewriting_done {state : State} (hState : Coherent state) {role : Id} {record : RoleRecord}
    (hFound : state.role? role = some record) (client : Nat) (moment : Moment) :
    let rival := rewriting client moment role state
    rival.writesSetOf role = true ∧ rival.newId? = none ∧
      rival.after.role? role = some record.bump ∧
      rival.after.permissionIdsOf role = state.permissionIdsOf role := by
  have hKnown : ∀ permission ∈ state.permissionIdsOf role, state.permission? permission ≠ none :=
    fun permission hHeld => (hState.grants _ (State.mem_permissionIdsOf.1 hHeld)).2
  have hPerform : state.perform moment (.setRolePermissions role (state.permissionIdsOf role)) =
      (.ok
        (((state.setGrants role (state.permissionIdsOf role)).bumpRole role).showRole record.bump),
        (state.setGrants role (state.permissionIdsOf role)).bumpRole role) := by
    rw [State.perform, State.setRolePermissions, hFound]
    exact replaceGrants_of_known hFound hKnown
  refine ⟨?_, rfl, ?_, ?_⟩
  · simp [rewriting, Event.writesSetOf, Event.answer, hPerform, writesSetOf]
  · simp [rewriting, Event.after, hPerform, hFound]
  · simp [rewriting, Event.after, hPerform]

/-- The events are a run of a script, which ends as it does after a conflict and does not change
anything, and in which a role is written a number of times by others. The client has the last of
them. -/
structure Foils {α : Type} (client : Nat) (role : Id) (attempts : Nat) (script : Script α)
    (ends : Store.Error → α) (state : State) (events : List Event) : Prop where
  history : History state events
  run : ∃ conflict, IsConflict conflict ∧ Follows script (eventsOf client events) (ends conflict)
  untouched : Untouched (eventsOf client events)
  writes : writes role (othersOf client events) = attempts
  /-- No entity is made. -/
  no_ids : events.filterMap Event.newId? = []
  last_own : ∀ last ∈ events.getLast?, last.client = client

section Foils

variable {α : Type} {script : Script α} {ends : Store.Error → α} {client attempts : Nat} {role : Id}
  {state : State} {events : List Event}

theorem Foils.nil {conflict : Store.Error} (hConflict : IsConflict conflict) :
    Foils client role 0 (pure (ends conflict)) ends state [] where
  history := trivial
  run := ⟨conflict, hConflict, rfl, rfl⟩
  untouched := .nil
  writes := rfl
  no_ids := rfl
  last_own := nofun

/-- A call that changes nothing comes before a run that is foiled. -/
theorem Foils.cons_own (own : Event) {call : Call} {next : call.Answer → Script α}
    (h : Foils client role attempts (next (own.before.perform own.moment call).1) ends
      own.before events)
    (hOwn : own.client = client) (hCall : own.call = call) (hSame : own.after = own.before)
    (hNoId : own.newId? = none) (hScript : script = .ask call next) :
    Foils client role attempts script ends own.before (own :: events) where
  history := ⟨rfl, by rw [hSame]; exact h.history⟩
  run := by
    obtain ⟨conflict, hConflict, hRun⟩ := h.run
    rw [eventsOf_cons_of_eq hOwn, hScript]
    exact ⟨conflict, hConflict, hCall, hRun⟩
  untouched := by
    rw [eventsOf_cons_of_eq hOwn]
    exact h.untouched.cons hSame
  writes := by
    rw [othersOf_cons_of_eq hOwn]
    exact h.writes
  no_ids := by
    rw [List.filterMap_cons_none hNoId]
    exact h.no_ids
  last_own := by
    intro last hLast
    cases hRest : events.getLast? with
    | none =>
        obtain rfl : own = last := by simpa [List.getLast?_cons, hRest] using hLast
        exact hOwn
    | some last' =>
        obtain rfl : last' = last := by simpa [List.getLast?_cons, hRest] using hLast
        exact h.last_own last' hRest

/-- A write of the role by others comes before a run that is foiled. -/
theorem Foils.cons_rival {rival : Event}
    (h : Foils client role attempts script ends rival.after events) (hEvents : events ≠ [])
    (hOther : rival.client ≠ client) (hWrites : rival.writesSetOf role = true)
    (hNoId : rival.newId? = none) :
    Foils client role (attempts + 1) script ends rival.before (rival :: events) where
  history := ⟨rfl, h.history⟩
  run := by
    rw [eventsOf_cons_of_ne hOther]
    exact h.run
  untouched := by
    rw [eventsOf_cons_of_ne hOther]
    exact h.untouched
  writes := by
    rw [othersOf_cons_of_ne hOther, writes_cons, if_pos hWrites]
    exact congrArg (· + 1) h.writes
  no_ids := by
    rw [List.filterMap_cons_none hNoId]
    exact h.no_ids
  last_own := by
    rw [List.getLast?_cons_of_ne_nil hEvents]
    exact h.last_own

/-- A script that only turns the result into another one is foiled with the script that it takes it
from. -/
theorem Foils.bind {β : Type} {next : α → Script β} {turned : Store.Error → β}
    (h : Foils client role attempts script ends state events)
    (hNext : ∀ error, next (ends error) = pure (turned error)) :
    Foils client role attempts (script >>= next) turned state events where
  history := h.history
  run := by
    obtain ⟨conflict, hConflict, hRun⟩ := h.run
    refine ⟨conflict, hConflict,
      follows_bind.2 ⟨_, [], ends conflict, (List.append_nil _).symm, hRun, ?_⟩⟩
    rw [hNext]
    exact ⟨rfl, rfl⟩
  untouched := h.untouched
  writes := h.writes
  no_ids := h.no_ids
  last_own := h.last_own

end Foils

/-! ## Attempts that are foiled -/

/-- What follows on an attempt that ends with a conflict. -/
def afterConflict (role : Id) (conflict : Store.Error) :
    Option (Role → Script (Except Store.Error Bool)) → Script (Except Store.Error Bool)
  | none => pure (.error conflict)
  | some again => reread role again

theorem attemptChange_eq_ask {change : Change} {permission : Id} {shown : Role} {wanted : IdSet}
    (hWanted : change.wanted? permission shown.permissionIds = some wanted)
    (again? : Option (Role → Script (Except Store.Error Bool))) :
    ∃ next : (writeOf shown wanted).Answer → Script (Except Store.Error Bool),
      attemptChange change permission shown again? = .ask (writeOf shown wanted) next ∧
        ∀ expected found, next (.error (.revisionMismatch expected found)) =
          afterConflict shown.id (.revisionMismatch expected found) again? := by
  rw [attemptChange, hWanted]
  exact ⟨_, rfl, fun _ _ => by cases again? <;> rfl⟩

section Foiled

variable {change : Change} {permission role : Id} (client : Nat) {attempts : Nat} {state : State}
  {record : RoleRecord} {events : List Event}

/-- An attempt for which there is something to do fails if a rival writes the role before. -/
theorem exists_foiled_attempt (hState : Coherent state) (hFound : state.role? role = some record)
    (hNeeded : ¬ change.Idle permission (state.permissionIdsOf role)) (moment : Moment)
    {again? : Option (Role → Script (Except Store.Error Bool))}
    (hRest : ∀ conflict, IsConflict conflict →
      Foils client role attempts (afterConflict role conflict again?) .error
      (rewriting (client + 1) moment role state).after events) :
    ∃ events, Foils client role (attempts + 1)
      (attemptChange change permission (state.showRole record) again?) .error state
      events := by
  obtain rfl : record.id = role := hState.roles.own_id role record hFound
  obtain ⟨hWrites, hNoId, hFound', -⟩ := rewriting_done hState hFound (client + 1) moment
  have hState' : Coherent (rewriting (client + 1) moment record.id state).after :=
    hState.perform moment _
  obtain ⟨wanted, hWanted⟩ :
      ∃ wanted, change.wanted? permission (state.showRole record).permissionIds = some wanted :=
    Option.ne_none_iff_exists'.1 fun hNone => hNeeded (Change.idle_of_wanted? hNone)
  let write : Event :=
    ⟨client, moment, writeOf (state.showRole record) wanted,
      (rewriting (client + 1) moment record.id state).after⟩
  -- the write is made from the revision before that of the rival
  have hMoved : record.bump.revision ≠ (state.showRole record).revision := by
    change record.revision + 1 ≠ record.revision
    simp
  have hAnswer : (write.before.perform write.moment (writeOf (state.showRole record) wanted)).1 =
      .error (.revisionMismatch record.revision record.bump.revision) :=
    perform_of_refused hState' moment (.stale rfl hFound' hMoved)
  have hSame : write.after = write.before := by
    have hStep := write.transition_of_call rfl
    rw [hAnswer] at hStep
    exact hStep.eq_of_error
  obtain ⟨next, hScript, hNext⟩ := attemptChange_eq_ask hWanted again?
  have hFoiled : Foils client record.id attempts
      (attemptChange change permission (state.showRole record) again?) .error
      write.before (write :: events) := by
    refine Foils.cons_own write ?_ rfl rfl hSame rfl hScript
    rw [hAnswer, hNext]
    exact hRest _ ⟨_, _, rfl⟩
  exact ⟨_, hFoiled.cons_rival (List.cons_ne_nil _ _) (Nat.succ_ne_self client) hWrites hNoId⟩

/-- Whatever is to be changed of a role, any number of attempts is foiled by as many writes of a
rival. -/
theorem exists_foiled (hState : Coherent state) (hFound : state.role? role = some record)
    (hNeeded : ¬ change.Idle permission (state.permissionIdsOf role)) (moment : Moment)
    (further : Nat) :
    ∃ events, Foils client role (further + 1)
      (writeChange change permission further (state.showRole record)) .error state
      events := by
  induction further generalizing state record with
  | zero =>
      exact exists_foiled_attempt client hState hFound hNeeded moment fun conflict hConflict =>
        .nil hConflict
  | succ further ih =>
      obtain ⟨-, -, hFound', hSet⟩ := rewriting_done hState hFound (client + 1) moment
      have hState' : Coherent (rewriting (client + 1) moment role state).after :=
        hState.perform moment _
      obtain ⟨later, hLater⟩ := ih hState' hFound' (hSet ▸ hNeeded)
      -- the role is read again, as the rival has left it
      let read : Event :=
        ⟨client, moment, .getRole role, (rewriting (client + 1) moment role state).after⟩
      have hShown : (read.before.perform read.moment (.getRole role)).1 =
          .ok (read.before.showRole record.bump) :=
        getRole_eq_ok_iff.2 ⟨record.bump, hFound', rfl⟩
      have hSame : read.after = read.before := read.transition.eq_of_readsOnly rfl
      have hAgain : Foils client role (further + 1)
          (reread role (writeChange change permission further)) .error read.before
          (read :: later) := by
        refine Foils.cons_own read ?_ rfl rfl hSame rfl rfl
        rw [hShown]
        exact hLater
      exact exists_foiled_attempt client hState hFound hNeeded moment fun _ _ => hAgain

/-- A run that finds what it is to change, and for which there is something to do, can be foiled
from its first call on. -/
theorem exists_foiled_run (hState : Coherent state) {roleName permissionName : String}
    {shown : Role} {found : Permission} (hRole : state.getRoleByName roleName = some shown)
    (hPermission : state.getPermissionByName permissionName = some found)
    (hNeeded : ¬ change.Idle found.id shown.permissionIds) (moment : Moment) :
    ∃ first rest, first.client = client ∧
      Foils client shown.id maxWriteAttempts (changeByName change roleName permissionName)
        (fun conflict => change.replyTo roleName permissionName (.error conflict)) state
          (first :: rest) := by
  obtain ⟨record, hFound, -, rfl⟩ := hState.role_of_getRoleByName hRole
  obtain ⟨events, hFoils⟩ :=
    exists_foiled client hState hFound hNeeded moment (maxWriteAttempts - 1)
  let first : Event := ⟨client, moment, .getRoleByName roleName, state⟩
  let second : Event := ⟨client, moment, .getPermissionByName permissionName, state⟩
  have hRoleRead : (first.before.perform first.moment (.getRoleByName roleName)).1 =
      .ok (some (state.showRole record)) :=
    congrArg Except.ok hRole
  have hPermissionRead :
      (second.before.perform second.moment (.getPermissionByName permissionName)).1 =
        .ok (some found) :=
    congrArg Except.ok hPermission
  refine ⟨first, second :: events, rfl, Foils.cons_own first ?_ rfl rfl rfl rfl rfl⟩
  rw [hRoleRead]
  refine Foils.cons_own second ?_ rfl rfl rfl rfl rfl
  rw [hPermissionRead]
  exact hFoils.bind fun _ => rfl

end Foiled

/-! ## The bound -/

/-- A change by names does not report a conflict if others write the role less often, while it goes
on, than it makes attempts. That often is enough: in whatever history a change is asked for, if it
finds the role and the permission and has something to do, others can make it report a conflict by
just as many writes. It has changed nothing then. -/
theorem conflicts_take_a_write_for_each_attempt {text : String} {change : Change}
    {roleName permissionName : String}
    (hText : Phrase.parse? text = some (change.command roleName permissionName)) (client : Nat) :
    (∀ history reply, History .empty history → FreshIds history →
      Follows (evaluate text) (eventsOf client history) reply →
      (∀ role, ((eventsOf client history).map Event.exchange).head? =
          some ⟨.getRoleByName (Text.trim roleName), .ok (some role)⟩ →
        writes role.id (othersOf client (spanOf client history)) ≤ maxWriteAttempts - 1) →
      ∀ expected found,
        reply ≠ change.replyTo (Text.trim roleName) (Text.trim permissionName)
          (.error (.revisionMismatch expected found))) ∧
    (∀ past, History .empty past → FreshIds past → eventsOf client past = [] →
      ∀ role permission, (endState .empty past).getRoleByName (Text.trim roleName) = some role →
        (endState .empty past).getPermissionByName (Text.trim permissionName) = some permission →
        ¬ change.Idle permission.id role.permissionIds →
      ∃ future expected found, History .empty (past ++ future) ∧ FreshIds (past ++ future) ∧
        Follows (evaluate text) (eventsOf client (past ++ future))
          (change.replyTo (Text.trim roleName) (Text.trim permissionName)
            (.error (.revisionMismatch expected found))) ∧
        writes role.id (othersOf client (spanOf client (past ++ future))) = maxWriteAttempts ∧
        Untouched (eventsOf client (past ++ future))) := by
  rw [evaluate_of_change hText]
  constructor
  · intro history reply hHistory hFresh hRun hFew expected found hReply
    have hCoherent : ∀ event ∈ eventsOf client history, Coherent event.before :=
      fun event hEvent => hHistory.coherent .empty event (List.mem_filter.1 hEvent).1
    obtain ⟨shown, permission, log, error, hLog, hConflict, hAttempts⟩ :=
      conflict_of_reply hCoherent hRun ⟨expected, found, rfl⟩ hReply
    obtain ⟨since, events, h⟩ := exists_underway hHistory hFresh hLog
    obtain ⟨state, hShown⟩ := h.shown
    have hMany : maxWriteAttempts ≤
        writes shown.id since + writes shown.id (othersOf client events) :=
      hAttempts.conflict_writes hConflict h.log_eq hShown
    have hLimit := hFew shown (by rw [hLog]; rfl)
    have hSpan := h.writes_le
    have hPositive : 0 < maxWriteAttempts := by decide
    omega
  · intro past hPast hFresh hNone role permission hRole hPermission hNeeded
    obtain ⟨first, rest, hFirst, hFoils⟩ :=
      exists_foiled_run client (hPast.coherent_endState .empty) hRole hPermission hNeeded ⟨⟨0⟩, ""⟩
    obtain ⟨_, ⟨expected, found, rfl⟩, hRun⟩ := hFoils.run
    have hOwn : eventsOf client (past ++ first :: rest) = eventsOf client (first :: rest) := by
      rw [eventsOf_append, hNone, List.nil_append]
    have hLast := List.getLast?_eq_some_getLast (List.cons_ne_nil first rest)
    have hSpan : spanOf client (past ++ first :: rest) = first :: rest :=
      spanOf_append hNone rfl hFirst hLast (hFoils.last_own _ hLast)
    refine ⟨first :: rest, expected, found, hPast.append hFoils.history, ?_, ?_, ?_, ?_⟩
    · rw [FreshIds, List.filterMap_append, hFoils.no_ids, List.append_nil]
      exact hFresh
    · rw [hOwn]
      exact hRun
    · rw [hSpan]
      exact hFoils.writes
    · rw [hOwn]
      exact hFoils.untouched

/-- A role and a permission that it does not grant. -/
def founding : List (Nat × Moment × Call) :=
  [(0, ⟨⟨0⟩, "r"⟩, .createRole "editor"), (0, ⟨⟨1⟩, "p1"⟩, .createPermission "publish" none),
    (0, ⟨⟨2⟩, "p2"⟩, .createPermission "audit" none)]

/-- The role is to be given one permission while it is given the other one and that is taken again.
The third attempt is successful. -/
def crowded : List Event :=
  historyOf .empty (founding ++ [
    (1, ⟨⟨3⟩, ""⟩, .getRoleByName "editor"),
    (1, ⟨⟨4⟩, ""⟩, .getPermissionByName "publish"),
    (2, ⟨⟨5⟩, ""⟩, .setRolePermissions "r" (.ofList ["p2"])),
    (1, ⟨⟨6⟩, ""⟩, .replaceRolePermissions "r" 0 (.ofList ["p1"])),
    (1, ⟨⟨7⟩, ""⟩, .getRole "r"),
    (3, ⟨⟨8⟩, ""⟩, .setRolePermissions "r" ∅),
    (1, ⟨⟨9⟩, ""⟩, .replaceRolePermissions "r" 1 (.ofList ["p1", "p2"])),
    (1, ⟨⟨10⟩, ""⟩, .getRole "r"),
    (1, ⟨⟨11⟩, ""⟩, .replaceRolePermissions "r" 2 (.ofList ["p1"]))])

/-- Two writes of others are not enough for a conflict to be reported, but from the time of its
founding on the role could have been written three times. -/
theorem conflicts_take_a_write_for_each_attempt_of_crowded :
    Phrase.parse? lateText = some (Change.grant.command "editor" " publish") ∧
      writes "r" (othersOf 1 (spanOf 1 crowded)) = 2 ∧
      (∀ expected found, Reply.to .assignPermission .success
        "Assigned permission 'publish' to role 'editor'." ≠
        Change.grant.replyTo "editor" "publish" (.error (.revisionMismatch expected found))) ∧
      ∃ future expected found, History .empty (historyOf .empty founding ++ future) ∧
        Follows (evaluate lateText) (eventsOf 1 (historyOf .empty founding ++ future))
          (Change.grant.replyTo "editor" "publish" (.error (.revisionMismatch expected found))) ∧
        writes "r" (othersOf 1 (spanOf 1 (historyOf .empty founding ++ future))) =
          maxWriteAttempts := by
  have hText : Phrase.parse? lateText = some (Change.grant.command "editor" " publish") := by
    decide +kernel
  have hFew : writes "r" (othersOf 1 (spanOf 1 crowded)) = 2 := by decide +kernel
  have hRoleName : Text.trim "editor" = "editor" := by decide +kernel
  have hPermissionName : Text.trim " publish" = "publish" := by decide +kernel
  obtain ⟨hNone, hSome⟩ := conflicts_take_a_write_for_each_attempt hText 1
  rw [hRoleName, hPermissionName] at hNone hSome
  refine ⟨hText, hFew, ?_, ?_⟩
  · refine hNone crowded _ (history_historyOf ..) (by unfold FreshIds; decide +kernel)
      (by decide +kernel) ?_
    intro role hRole
    have hFirst : ((eventsOf 1 crowded).map Event.exchange).head? =
        some ⟨.getRoleByName "editor", .ok (some ⟨"r", "editor", ⟨0⟩, ∅, 0⟩)⟩ := rfl
    obtain rfl : _ = role := by
      have hSame := Option.some.inj (hFirst.symm.trans hRole)
      injection hSame with _ hSame
      exact Option.some.inj (Except.ok.inj hSame)
    exact Nat.le_of_eq hFew
  · obtain ⟨future, expected, found, hHistory, -, hRun, hWrites, -⟩ :=
      hSome (historyOf .empty founding) (history_historyOf ..) (by unfold FreshIds; decide +kernel)
        (by decide +kernel)
        ⟨"r", "editor", ⟨0⟩, ∅, 0⟩ ⟨"p1", "publish", none, ⟨1⟩, ∅⟩ rfl rfl List.not_mem_nil
    exact ⟨future, expected, found, hHistory, hRun, hWrites⟩

end Rolebook.Command
