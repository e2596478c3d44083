import Rolebook.Proofs.Command.Conversation
import Rolebook.Proofs.Command.Meaning
import Rolebook.Proofs.Memory.Permission
import Rolebook.Proofs.Memory.Span

/-!
# Why a change fails

A set of permissions is written back that was read a while ago, and anything may have happened to
the permissions in it meanwhile. At the revision that was read the set is still the same, though,
and all that is in it is there, so a missing permission can only be the one that is to be granted;
whatever else is gone is met as another revision, and the role is read again. With a role that is
deleted and attempts that are used up, these are the three ways in which a change can fail
(`Hindered`).

`Shown` is what a run knows from the moment when it reads the role. It is taken on from one attempt
to the next (`Shown.reread`), and `Shown.refused_cases` says why the write of an attempt is refused.
-/

namespace Rolebook.Command

open Rolebook.Memory
open Rolebook.Store (AtEach Call Exchange)

/-- A write meets a role at another revision than that from which it was made. -/
def MeetsOtherRevision (role : Id) (write : Event) : Prop :=
  ∃ expected wanted record, write.call = .replaceRolePermissions role expected wanted ∧
    write.before.role? role = some record ∧ record.revision ≠ expected

/-- What keeps a change from being made, and the error that this is reported by. The events are
those of the change itself, which has a number of attempts, and those of the time that it takes. -/
inductive Hindered (change : Change) (role permission : Id) (attempts : Nat)
    (own span : List Event) : Store.Error → Prop
  | roleDeleted {deletion : Event} (hDeletion : deletion ∈ span)
      (hDeletes : deletion.exchange = deletionOf .role role) :
      Hindered change role permission attempts own span (.missing .role)
  | permissionDeleted {deletion : Event} (hGrant : change = .grant) (hDeletion : deletion ∈ span)
      (hDeletes : deletion.exchange = deletionOf .permission permission) :
      Hindered change role permission attempts own span (.missingPermission permission)
  | contended {expected found : Revision}
      (hWrites : checkedWrites (own.map Event.exchange) = attempts)
      (hMoved : ∀ write ∈ own, isCheckedWrite write.call = true → MeetsOtherRevision role write) :
      Hindered change role permission attempts own span (.revisionMismatch expected found)

/-- Calls that write nothing are no attempts. -/
theorem Hindered.cons {change : Change} {role permission : Id} {attempts : Nat}
    {own span : List Event} {error : Store.Error}
    (h : Hindered change role permission attempts own span error) {event : Event}
    (hOther : isCheckedWrite event.call = false) :
    Hindered change role permission attempts (event :: own) span error := by
  cases h with
  | roleDeleted hDeletion hDeletes => exact .roleDeleted hDeletion hDeletes
  | permissionDeleted hGrant hDeletion hDeletes =>
      exact .permissionDeleted hGrant hDeletion hDeletes
  | contended hWrites hMoved =>
      refine .contended ?_ (List.forall_mem_cons.2 ⟨fun hWrite => ?_, hMoved⟩)
      · simpa [Event.exchange, hOther] using hWrites
      · rw [hOther] at hWrite
        cases hWrite

/-- A write that meets another revision is one attempt more. -/
theorem Hindered.cons_write {change : Change} {role permission : Id} {attempts : Nat}
    {own span : List Event} {error : Store.Error}
    (h : Hindered change role permission attempts own span error) {write : Event}
    (hWrite : isCheckedWrite write.call = true) (hMoved : MeetsOtherRevision role write) :
    Hindered change role permission (attempts + 1) (write :: own) span error := by
  cases h with
  | roleDeleted hDeletion hDeletes => exact .roleDeleted hDeletion hDeletes
  | permissionDeleted hGrant hDeletion hDeletes =>
      exact .permissionDeleted hGrant hDeletion hDeletes
  | contended hWrites hRest =>
      refine .contended ?_ (List.forall_mem_cons.2 ⟨fun _ => hMoved, hRest⟩)
      simpa [Event.exchange, hWrite] using hWrites

/-! ## From a reading of the role on -/

/-- A role has been shown in a state, and its identifier is not given again. -/
structure Shown (shown : Role) (state : State) (future : List Event) : Prop where
  coherent : Coherent state
  history : History state future
  as_shown : state.getRole shown.id = .ok shown
  never_again : ∀ event ∈ future, event.newId? ≠ some shown.id

theorem getRole_eq_error_iff {state : State} {id : Id} {error : Store.Error} :
    state.getRole id = .error error ↔ error = .missing .role ∧ ¬ state.Has .role id := by
  rw [not_has_role_iff, State.getRole]
  cases state.role? id with
  | none => simp [eq_comm]
  | some record => simp

section Shown

variable {change : Change} {permission : Id} {shown : Role} {wanted : IdSet} {error : Store.Error}
  {state : State} {between later : List Event} {event write : Event}

theorem Shown.has (h : Shown shown state later) : state.Has .role shown.id := by
  obtain ⟨record, hFound, -⟩ := getRole_eq_ok_iff.1 h.as_shown
  exact has_role hFound

/-- A role that is looked up by its name is there from then on. -/
theorem Shown.of_lookUp {past : List Event} {name : String}
    (hHistory : History .empty (past ++ event :: later))
    (hFresh : FreshIds (past ++ event :: later))
    (hExchange : event.exchange = ⟨.getRoleByName name, .ok (some shown)⟩) :
    Shown shown event.after later := by
  have hState : Coherent event.before := hHistory.coherent .empty event (by simp)
  have hSame : event.after = event.before :=
    (event.transition_of_exchange hExchange).eq_of_readsOnly rfl
  have hRole : event.before.getRole shown.id = .ok shown :=
    hState.getRole_of_getRoleByName (Except.ok.inj (event.of_exchange hExchange).2)
  obtain ⟨record, hFound, -⟩ := getRole_eq_ok_iff.1 hRole
  have hNever := hFresh.never_again hHistory (has_role hFound)
  obtain ⟨_, -, hAfter⟩ := hHistory.of_append
  refine ⟨?_, hAfter, ?_, fun other hOther => hNever other (List.mem_cons_of_mem _ hOther)⟩
  · rw [hSame]
    exact hState
  · rw [hSame]
    exact hRole

/-- A permission that is looked up by its name is there. -/
theorem has_permission_of_lookUp {name : String} {found : Permission}
    (hState : Coherent event.before)
    (hExchange : event.exchange = ⟨.getPermissionByName name, .ok (some found)⟩) :
    event.after.Has .permission found.id := by
  obtain ⟨record, hFound, -⟩ :=
    hState.permission_of_getPermissionByName (Except.ok.inj (event.of_exchange hExchange).2)
  rw [(event.transition_of_exchange hExchange).eq_of_readsOnly rfl]
  exact has_permission hFound

theorem Shown.coherent_before (h : Shown shown state (between ++ event :: later)) :
    Coherent event.before :=
  h.history.coherent h.coherent event (by simp)

/-- A role that is there later has moved on by the writes since it was shown, and if there are none
its set is the one shown. -/
theorem Shown.moved (h : Shown shown state (between ++ event :: later)) {record : RoleRecord}
    (hFound : event.before.role? shown.id = some record) :
    record.revision = shown.revision + UInt64.ofNat (writes shown.id between) ∧
      (writes shown.id between = 0 →
        event.before.permissionIdsOf shown.id = shown.permissionIds) := by
  obtain ⟨record', hFound', -, hRevision, hSet⟩ := h.coherent.shown_role h.as_shown
  rw [hRevision, hSet]
  exact h.history.role_moved hFound' hFound fun other hOther =>
    h.never_again other (List.mem_append_left _ hOther)

/-- A role that is shown again is the same one. -/
theorem Shown.reread {reread : Role} (h : Shown shown state (between ++ event :: later))
    (hExchange : event.exchange = ⟨.getRole shown.id, .ok reread⟩) :
    reread.id = shown.id ∧ Shown reread event.after later := by
  obtain ⟨-, hShown⟩ := event.of_exchange hExchange
  obtain ⟨-, -, hId, -⟩ := h.coherent_before.shown_role hShown
  obtain ⟨_, hHistory⟩ := h.history.of_append
  have hSame : event.after = event.before :=
    (event.transition_of_exchange hExchange).eq_of_readsOnly rfl
  refine ⟨hId, ?_, hHistory.2, ?_, ?_⟩
  · rw [hSame]
    exact h.coherent_before
  · rw [hSame, hId]
    exact hShown
  · rw [hId]
    exact fun other hOther => h.never_again other (by simp [hOther])

/-- A write is refused because the role is gone, or is at another revision, or because a permission
in the set is missing. -/
theorem refused_write_cases (hState : Coherent write.before)
    (hExchange : write.exchange = ⟨writeOf shown wanted, .error error⟩) :
    (error = .missing .role ∧ ¬ write.before.Has .role shown.id) ∨
      ∃ record, write.before.role? shown.id = some record ∧
        (error = .revisionMismatch shown.revision record.revision ∧
          record.revision ≠ shown.revision ∨
          ∃ other ∈ wanted, error = .missingPermission other ∧
            write.before.permission? other = none ∧
            record.revision = shown.revision) := by
  obtain ⟨-, hAnswer⟩ := write.of_exchange hExchange
  cases refused_of_perform hState hAnswer with
  | blankName hName | nameTaken _ hName => cases hName
  | missing hGiven hTarget hAbsent =>
      cases hTarget
      exact .inl ⟨rfl, hAbsent⟩
  | stale hCall hFound hMoved =>
      cases hCall
      exact .inr ⟨_, hFound, .inl ⟨rfl, hMoved⟩⟩
  | unknownPermission hFound hRevision hGiven hAbsent hLeast =>
      obtain ⟨record, hRole, hSame⟩ := hRevision
      exact .inr ⟨record, hRole, .inr ⟨_, hGiven, rfl, hAbsent, hSame⟩⟩

/-- A conflict is due to a write since the role was shown. -/
theorem Shown.writes_of_conflict (h : Shown shown state (between ++ write :: later))
    (hExchange : write.exchange = ⟨writeOf shown wanted, .error error⟩)
    (hConflict : IsConflict error) :
    MeetsOtherRevision shown.id write ∧ writes shown.id between ≠ 0 := by
  obtain ⟨expected, found, rfl⟩ := hConflict
  rcases refused_write_cases h.coherent_before hExchange with
    ⟨hError, -⟩ | ⟨record, hFound, ⟨-, hMoved⟩ | ⟨other, -, hError, -⟩⟩
  · cases hError
  · refine ⟨⟨_, _, record, (write.of_exchange hExchange).1, hFound, hMoved⟩, fun hNone => hMoved ?_⟩
    rw [(h.moved hFound).1, hNone]
    exact UInt64.add_zero _
  · cases hError

/-- What is known when the role is read again after a conflict. -/
theorem Shown.again {since foreign foreign' : List Event} {read : Event} {reread : Role}
    (h : Shown shown state (since ++ (foreign ++ write :: (foreign' ++ read :: later))))
    (hExchange : write.exchange = ⟨writeOf shown wanted, .error error⟩)
    (hConflict : IsConflict error) (hExchange' : read.exchange = ⟨.getRole shown.id, .ok reread⟩) :
    MeetsOtherRevision shown.id write ∧ writes shown.id (since ++ foreign) ≠ 0 ∧
      reread.id = shown.id ∧ Shown reread read.after later := by
  have hWrite : Shown shown state ((since ++ foreign) ++ write :: (foreign' ++ read :: later)) := by
    simpa using h
  have hRead : Shown shown state ((since ++ foreign ++ write :: foreign') ++ read :: later) := by
    simpa using h
  obtain ⟨hMoved, hWritten⟩ := hWrite.writes_of_conflict hExchange hConflict
  exact ⟨hMoved, hWritten, hRead.reread hExchange'⟩

/-- The write of a set that was made from the role as it was shown is refused because the role is
gone, or is at another revision, or because the permission that is to be granted is gone. -/
theorem Shown.refused_cases (h : Shown shown state (between ++ write :: later))
    (hBounded : writes shown.id between < UInt64.size)
    (hWanted : change.wanted? permission shown.permissionIds = some wanted)
    (hExchange : write.exchange = ⟨writeOf shown wanted, .error error⟩) :
    (error = .missing .role ∧ ¬ write.before.Has .role shown.id) ∨
      (∃ found, error = .revisionMismatch shown.revision found ∧
        MeetsOtherRevision shown.id write) ∨
      (change = .grant ∧ error = .missingPermission permission ∧
        ¬ write.before.Has .permission permission) := by
  have hState := h.coherent_before
  rcases refused_write_cases hState hExchange with hGone |
    ⟨record, hFound, ⟨rfl, hMoved⟩ | ⟨other, hOther, rfl, hAbsent, hSame⟩⟩
  · exact .inl hGone
  · exact .inr (.inl ⟨_, rfl, _, _, record, (write.of_exchange hExchange).1, hFound, hMoved⟩)
  · obtain ⟨hRevision, hSet⟩ := h.moved hFound
    -- at the revision that was shown, nothing has been written since
    have hNone : writes shown.id between = 0 := by
      rw [hSame, eq_comm, UInt64.add_eq_left] at hRevision
      have hZero := congrArg UInt64.toNat hRevision
      rwa [UInt64.toNat_ofNat', Nat.mod_eq_of_lt hBounded] at hZero
    -- so what was in the set is in it still, and it is there
    have hNotHeld : other ∉ shown.permissionIds := by
      rw [← hSet hNone]
      exact fun hHeld => (hState.grants _ (State.mem_permissionIdsOf.1 hHeld)).2 hAbsent
    have hMakes := Change.makes_of_wanted? hWanted
    obtain rfl := (Change.mem_of_makes hMakes hOther).resolve_right hNotHeld
    cases change with
    | grant => exact .inr (.inr ⟨rfl, rfl, not_has_permission_iff.2 hAbsent⟩)
    | revoke => exact absurd hMakes.1 hNotHeld

end Shown

/-! ## Attempts -/

/-- Wherever an entity is not there when an event is met, it has been deleted within a span. -/
def Accounts (span : List Event) (kind : EntityKind) (id : Id) (events : List Event) : Prop :=
  ∀ event ∈ events, ¬ event.before.Has kind id →
    ∃ deletion ∈ span, deletion.exchange = deletionOf kind id

theorem accounts_of_has {state : State} {span events : List Event} {kind : EntityKind} {id : Id}
    (hHistory : History state events) (hHas : state.Has kind id)
    (hSpan : ∀ event ∈ events, event ∈ span) :
    Accounts span kind id events := by
  intro event hEvent hGone
  obtain ⟨between, later, rfl⟩ := List.append_of_mem hEvent
  obtain ⟨deletion, hDeletion, hDeletes⟩ := hHistory.deleted hHas hGone
  exact ⟨deletion, hSpan deletion (List.mem_append_left _ hDeletion), hDeletes⟩

/-- Attempts that fail are hindered, within a span in which the role and the permission were there
at first. The role may have been read some time before the first of the events. -/
theorem Attempts.hindered {change : Change} {permission : Id} {further : Nat} {shown : Role}
    {log : List Exchange} {error : Store.Error} {client : Nat} {state : State}
    {since events span : List Event}
    (hAttempts : Attempts change permission further shown log (.error error))
    (hLog : (eventsOf client events).map Event.exchange = log)
    (hShown : Shown shown state (since ++ events)) (hRole : Accounts span .role shown.id events)
    (hPermission : Accounts span .permission permission events)
    (hBounded : writes shown.id (since ++ events) < UInt64.size) :
    Hindered change shown.id permission (further + 1) (eventsOf client events) span error := by
  generalize hResult : Except.error error = result at hAttempts
  induction hAttempts generalizing since events state with
  | idle | written => cases hResult
  | refused hWanted hLast =>
      cases hResult
      -- the last call of the run, so none of its events come after it
      obtain ⟨foreign, write, later, rfl, hOwn, -, hExchange, hNone⟩ := eventsOf_exchange_cons hLog
      rw [List.map_eq_nil_iff] at hNone
      rw [← List.append_assoc] at hShown hBounded
      rw [writes_append] at hBounded
      rw [hOwn, hNone]
      have hWrite : write ∈ foreign ++ write :: later := by simp
      rcases hShown.refused_cases (by omega) hWanted hExchange with
        ⟨rfl, hGone⟩ | ⟨found, rfl, hMoved⟩ | ⟨hGrant, rfl, hGone⟩
      · obtain ⟨deletion, hDeletion, hDeletes⟩ := hRole write hWrite hGone
        exact .roleDeleted hDeletion hDeletes
      · obtain rfl := hLast ⟨_, _, rfl⟩
        exact .contended (by simp [hExchange]) (List.forall_mem_singleton.2 fun _ => hMoved)
      · obtain ⟨deletion, hDeletion, hDeletes⟩ := hPermission write hWrite hGone
        exact .permissionDeleted hGrant hDeletion hDeletes
  | lost hWanted hConflict =>
      cases hResult
      obtain ⟨foreign, write, foreign', read, later, rfl, -, -, -, hExchange, -⟩ :=
        eventsOf_exchange_cons_cons hLog
      obtain ⟨rfl, hGone⟩ := getRole_eq_error_iff.1 (read.of_exchange hExchange).2
      obtain ⟨deletion, hDeletion, hDeletes⟩ := hRole read (by simp) hGone
      exact .roleDeleted hDeletion hDeletes
  | @again further shown wanted conflict log result reread hWanted hConflict hRest ih =>
      subst hResult
      obtain ⟨foreign, write, foreign', read, later, rfl, hOwn, -, hExchange, hExchange', hLater⟩ :=
        eventsOf_exchange_cons_cons hLog
      obtain ⟨hMoved, -, hId, hShown'⟩ := hShown.again hExchange hConflict hExchange'
      have hBounded' : writes reread.id later < UInt64.size := by
        simp only [writes_append, writes_cons] at hBounded
        rw [hId]
        omega
      -- the attempts that are left go by the role as it was read again
      have hLaterMem : ∀ event ∈ later, event ∈
          foreign ++ write :: (foreign' ++ read :: later) := by simp +contextual
      have hReread : Shown reread read.after ([] ++ later) := hShown'
      have hEnd :=
        ih hLater hReread (hId ▸ fun event hEvent => hRole event (hLaterMem event hEvent))
        (fun event hEvent => hPermission event (hLaterMem event hEvent)) hBounded' rfl
      rw [hId] at hEnd
      rw [hOwn]
      have hReads : isCheckedWrite read.call = false := by
        rw [(read.of_exchange hExchange').1, isCheckedWrite_getRole]
      have hWrites : isCheckedWrite write.call = true := by
        rw [(write.of_exchange hExchange).1, isCheckedWrite_writeOf]
      exact (hEnd.cons hReads).cons_write hWrites hMoved

/-! ## Runs that find what they are to change -/

/-- Events of a history in which a client goes on after it has looked up a role and a permission,
and those since it has looked up the role. -/
structure Underway (client : Nat) (history : List Event) (role : Role) (permission : Permission)
    (log : List Exchange) (since events : List Event) : Prop where
  log_eq : (eventsOf client events).map Event.exchange = log
  span : since ++ events <:+ spanOf client history
  own : ∃ first second, eventsOf client history = first :: second :: eventsOf client events ∧
    isCheckedWrite first.call = false ∧ isCheckedWrite second.call = false
  shown : ∃ state, Shown role state (since ++ events)
  role_gone : Accounts (spanOf client history) .role role.id events
  permission_gone : Accounts (spanOf client history) .permission permission.id events
  writes_le : writes role.id since + writes role.id (othersOf client events) ≤
    writes role.id (othersOf client (spanOf client history))

/-- After look-ups that find what they are for, the role and the permission are there until they are
deleted. -/
theorem exists_underway {client : Nat} {history : List Event} (hHistory : History .empty history)
    (hFresh : FreshIds history) {roleName permissionName : String} {role : Role}
    {permission : Permission} {log : List Exchange}
    (hLog : (eventsOf client history).map Event.exchange =
      lookUps roleName permissionName role permission ++ log) :
    ∃ since events, Underway client history role permission log since events := by
  obtain ⟨earlier, rest, hSplit, -, -⟩ := exists_around_spanOf client history
  rw [← eventsOf_spanOf] at hLog
  obtain ⟨foreign, first, foreign', second, events, hSpan, hOwn, hOthers, hFirst,
      hSecond, hEvents⟩ :=
    eventsOf_exchange_cons_cons hLog
  rw [eventsOf_spanOf] at hOwn
  -- the history up to the end of the span, as the look-ups meet it
  have hTimeline : history = ((earlier ++ foreign) ++ first :: (foreign' ++ second :: events)) ++
      rest := by
    rw [hSplit, hSpan]
    simp
  have hMet := (hTimeline ▸ hHistory).left_of_append
  have hShown : Shown role first.after (foreign' ++ second :: events) :=
    .of_lookUp hMet (hTimeline ▸ hFresh).left_of_append hFirst
  have hPermission := has_permission_of_lookUp hShown.coherent_before hSecond
  obtain ⟨_, -, hAfterSecond⟩ := hShown.history.of_append
  -- the look-up of the permission belongs to what has happened since that of the role
  rw [List.append_cons] at hShown
  have hWithin : ∀ event ∈ foreign' ++ [second] ++ events, event ∈ spanOf client history := by
    rw [hSpan]
    simp +contextual
  refine ⟨foreign' ++ [second], events, ?_⟩
  exact
    { log_eq := hEvents
      span := ⟨foreign ++ [first], by simp [hSpan]⟩
      own := ⟨first, second, hOwn, by rw [(first.of_exchange hFirst).1]; rfl,
        by rw [(second.of_exchange hSecond).1]; rfl⟩
      shown := ⟨first.after, hShown⟩
      role_gone := fun event hEvent =>
        accounts_of_has hShown.history hShown.has hWithin event (List.mem_append_right _ hEvent)
      permission_gone := accounts_of_has hAfterSecond hPermission fun event hEvent =>
        hWithin event (List.mem_append_right _ hEvent)
      writes_le := by
        have hNone : second.writesSetOf role.id = false :=
          writesSetOf_of_readsOnly (by rw [(second.of_exchange hSecond).1]; rfl)
        simp only [hOthers, writes_append, writes_cons, hNone]
        simp [writes] }

/-! ## Failures -/

/-- That a role is missing is not told like that of a permission. -/
theorem missing_role_ne (permission : Id) :
    Store.Error.missing .role ≠ .missing .permission ∧
      Store.Error.missing .role ≠ .missingPermission permission := by
  refine ⟨by decide, fun hSame => ?_⟩
  have hTold : EntityKind.role.noun = EntityKind.permission.noun ++ " " ++ permission :=
    Store.Error.notFound.inj hSame
  have hLetters := congrArg (fun told => told.toList.head?) hTold
  simp [EntityKind.noun] at hLetters

/-- There is no error of a change that fails for the want of a permission but that of the one to be
granted. -/
theorem Hindered.eq_missingPermission {change : Change} {role permission : Id} {attempts : Nat}
    {own span : List Event} {error : Store.Error}
    (h : Hindered change role permission attempts own span error)
    (hMissing : error = .missing .permission ∨ ∃ other, error = .missingPermission other) :
    change = .grant ∧ error = .missingPermission permission := by
  cases h with
  | roleDeleted =>
      rcases hMissing with hError | ⟨other, hError⟩
      · exact absurd hError (missing_role_ne "").1
      · exact absurd hError (missing_role_ne other).2
  | permissionDeleted hGrant => exact ⟨hGrant, rfl⟩
  | contended => rcases hMissing with hError | ⟨other, hError⟩ <;> cases hError

/-- While a command goes on that is to give a role a permission or to take one, others may do
anything. If the command has found both by their names and fails, the role has been deleted
meanwhile, or the permission that was to be given has been and is named by the error, or each of the
three attempts to write has met another revision than that of the role as it was read last. That a
permission is missing is never an error of a command that takes one, nor is it ever any other
permission than the one that was to be given. -/
theorem failed_change_is_hindered {history : List Event} (hHistory : History .empty history)
    (hFresh : FreshIds history) {client : Nat} {text : String} {change : Change}
    {roleName permissionName : String} {reply : Reply}
    (hText : Phrase.parse? text = some (change.command roleName permissionName))
    (hRun : Follows (evaluate text) (eventsOf client history) reply) {role : Role}
    {permission : Permission}
    (hFound : lookUps (Text.trim roleName) (Text.trim permissionName) role permission <+:
      (eventsOf client history).map Event.exchange)
    (hBounded : writes role.id (spanOf client history) < UInt64.size)
    (hFailed : reply.status = .failure) :
    ∃ error, reply = change.replyTo (Text.trim roleName) (Text.trim permissionName) (.error error) ∧
      Hindered change role.id permission.id maxWriteAttempts (eventsOf client history)
        (spanOf client history) error ∧
      (AtEach ((eventsOf client history).map Event.exchange) fun earlier exchange _ =>
        WritesLastRole change permission.id earlier exchange) ∧
      (error = .missing .permission ∨ (∃ other, error = .missingPermission other) →
        change = .grant ∧ error = .missingPermission permission.id) := by
  rw [evaluate_of_change hText] at hRun
  obtain ⟨log, hLog⟩ := hFound
  obtain ⟨result, hAttempts, rfl⟩ := (hLog ▸ changeLog_of_converses hRun.converses).tried_of_found
  obtain ⟨since, events, h⟩ := exists_underway hHistory hFresh hLog.symm
  obtain ⟨first, second, hOwn, hFirst, hSecond⟩ := h.own
  obtain ⟨state, hShown⟩ := h.shown
  cases result with
  | ok changed => cases changed <;> cases hFailed
  | error error =>
      have hBounded' : writes role.id (since ++ events) < UInt64.size :=
        Nat.lt_of_le_of_lt (h.span.sublist.countP_le) hBounded
      have hHindered := hAttempts.hindered h.log_eq hShown h.role_gone h.permission_gone hBounded'
      have hAll := (hHindered.cons hSecond).cons hFirst
      rw [← hOwn] at hAll
      refine ⟨error, rfl, hAll, ?_, hAll.eq_missingPermission⟩
      rw [← hLog]
      exact hAttempts.writesLastRole_after_lookUps _ _

/-- A role is to be given a permission. Another permission that it grants is deleted meanwhile,
which takes one attempt, and then the permission that it was to be given is. -/
def bereft : List Event :=
  historyOf .empty [
    (0, ⟨⟨0⟩, "r"⟩, .createRole "editor"),
    (0, ⟨⟨1⟩, "p1"⟩, .createPermission "publish" none),
    (0, ⟨⟨2⟩, "p2"⟩, .createPermission "audit" none),
    (0, ⟨⟨3⟩, ""⟩, .setRolePermissions "r" (.ofList ["p2"])),
    (1, ⟨⟨4⟩, ""⟩, .getRoleByName "editor"),
    (1, ⟨⟨5⟩, ""⟩, .getPermissionByName "publish"),
    (2, ⟨⟨6⟩, ""⟩, .deletePermission "p2"),
    (1, ⟨⟨7⟩, ""⟩, .replaceRolePermissions "r" 1 (.ofList ["p1", "p2"])),
    (1, ⟨⟨8⟩, ""⟩, .getRole "r"),
    (2, ⟨⟨9⟩, ""⟩, .deletePermission "p1"),
    (1, ⟨⟨10⟩, ""⟩, .replaceRolePermissions "r" 2 (.ofList ["p1"])),
    (0, ⟨⟨11⟩, ""⟩, .deleteRole "r")]

/-- What the run ends with. -/
def bereftReply : Reply :=
  .to .assignPermission .failure "Failed to assign permission: not found: permission p1"

theorem failed_change_is_hindered_of_bereft :
    History .empty bereft ∧ FreshIds bereft ∧
      Phrase.parse? lateText = some (Change.grant.command "editor" " publish") ∧
      Follows (evaluate lateText) (eventsOf 1 bereft) bereftReply ∧
      writes "r" (spanOf 1 bereft) = 1 ∧
      checkedWrites ((eventsOf 1 bereft).map Event.exchange) = 2 ∧
      ∃ error, bereftReply = Change.grant.replyTo "editor" "publish" (.error error) ∧
        Hindered .grant "r" "p1" maxWriteAttempts (eventsOf 1 bereft) (spanOf 1 bereft) error ∧
        (AtEach ((eventsOf 1 bereft).map Event.exchange) fun earlier exchange _ =>
          WritesLastRole .grant "p1" earlier exchange) ∧
        (error = .missing .permission ∨ (∃ other, error = .missingPermission other) →
          Change.grant = .grant ∧ error = .missingPermission "p1") := by
  have hHistory : History .empty bereft := history_historyOf ..
  have hFresh : FreshIds bereft := by unfold FreshIds; decide +kernel
  have hText : Phrase.parse? lateText = some (Change.grant.command "editor" " publish") := by
    decide +kernel
  have hRun : Follows (evaluate lateText) (eventsOf 1 bereft) bereftReply := by decide +kernel
  have hWrites : writes "r" (spanOf 1 bereft) = 1 := by decide +kernel
  have hRole : Text.trim "editor" = "editor" := by decide +kernel
  have hPermission : Text.trim " publish" = "publish" := by decide +kernel
  have hFound : lookUps "editor" "publish" ⟨"r", "editor", ⟨0⟩, .ofList ["p2"], 1⟩
      ⟨"p1", "publish", none, ⟨1⟩, ∅⟩ <+:
      (eventsOf 1 bereft).map Event.exchange :=
        ⟨((eventsOf 1 bereft).map Event.exchange).drop 2, rfl⟩
  refine ⟨hHistory, hFresh, hText, hRun, hWrites, by decide +kernel, ?_⟩
  rw [← hRole, ← hPermission] at hFound ⊢
  exact failed_change_is_hindered hHistory hFresh hText hRun hFound (by rw [hWrites]; decide) rfl

end Rolebook.Command
