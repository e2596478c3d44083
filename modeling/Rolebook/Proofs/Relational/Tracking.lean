import Mathlib.Data.Fintype.Basic
import Rolebook.Proofs.Relational.Locking

/-!
# Revisions of roles

Whether revisions tell the sets of permissions of a role apart when sessions run at the same time.
They do unless a grant is committed between the two statements that find the roles that grant a
permission and that remove it: a role that gets the permission in between loses it and keeps its
revision.
-/

namespace Rolebook.Relational

open Rolebook.Store (Error Call Inventory)

/-! ## Answers -/

section Answers

variable {newId : Id} {late : GrantRow → Prop} {phase next : Phase} {server server' : Server}
  {locks : List Lock} {now : Instant}

/-- A session comes to a phase, and what it has committed keeps to its locks. -/
structure Reaches (newId : Id) (late : GrantRow → Prop) (server : Server) (next : Phase)
    (server' : Server) (locks : List Lock) :
    Prop where
  advance : Advance newId late server.committed server'.committed
  guarded : Guarded locks server.committed server'.committed
  holds : next.Holds late server'.committed (if server'.transaction.isSome then locks else [])
    server'.transaction

theorem Reaches.of_same (hSound : server.committed.IsSound)
    (hCommitted : server'.committed = server.committed)
    (hHolds : next.Holds late server.committed (if server'.transaction.isSome then locks else [])
      server'.transaction) :
    Reaches newId late server next server' locks where
  advance := .of_same hSound (by rw [hCommitted]) (by rw [hCommitted])
  guarded := by
    rw [hCommitted]
    exact ⟨fun _ hChanged => absurd .rfl hChanged, fun _ hGrant hNew => absurd hGrant hNew⟩
  holds := hCommitted ▸ hHolds

theorem Phase.Holds.of_none {committed : Tables} (hHolds : phase.Holds late committed locks none) :
    phase = .idle ∨ phase = .failing := by
  cases hHolds with
  | idle => exact .inl rfl
  | failing => exact .inr rfl

theorem Phase.Holds.of_idle {committed : Tables} {transaction : Option Tables}
    (hHolds : Phase.Holds late committed locks .idle transaction) : transaction = none := by
  cases hHolds
  rfl

/-- A statement is done, in a transaction or outside of any, or it is refused. -/
theorem Phase.Holds.reaches_execute {statement : Statement} (hSound : server.committed.IsSound)
    (hHolds : phase.Holds late server.committed locks server.transaction)
    (hNext : Phase.Next newId phase (.execute statement)
      (server.answerUnharmed now (.execute statement)).1 next) :
    Reaches newId late server next (server.answerUnharmed now (.execute statement)).2
      ((Request.execute statement).locks server.visible
        (server.answerUnharmed now (.execute statement)).2.visible ++ locks) := by
  obtain ⟨committed, transaction, connected, faults⟩ := server
  cases hDone :
    statement.execute now (Server.visible ⟨committed, transaction, connected, faults⟩) with
  | error error =>
      rw [Server.answerUnharmed, hDone] at hNext ⊢
      refine .of_same hSound rfl ?_
      cases hNext with
      | plain =>
          obtain rfl := hHolds.of_idle
          exact .idle
      | refuse => exact .failing
  | ok done =>
      obtain ⟨value, tables⟩ := done
      rw [Server.answerUnharmed, hDone] at hNext ⊢
      cases transaction with
      | some seen => exact .of_same hSound rfl (hHolds.execute hSound hNext hDone)
      | none =>
          rcases hHolds.of_none with rfl | rfl
          · cases hNext with
            | plain hPlain =>
                refine ⟨.of_plain hSound hPlain hDone,
                  ⟨fun row hChanged => owns_of_changed hChanged, ?_⟩, .idle⟩
                exact fun grant hGrant hNew => absurd (grants_of_plain hPlain hDone hGrant) hNew
          · cases hNext

/-- An answer brings a session on from phase to phase. -/
theorem Phase.Holds.reaches_answer {request : Request} (hSound : server.committed.IsSound)
    (hHolds : phase.Holds late server.committed locks server.transaction)
    (hNext : Phase.Next newId phase request (server.answerUnharmed now request).1 next) :
    Reaches newId late server next (server.answerUnharmed now request).2
      (request.locks server.visible (server.answerUnharmed now request).2.visible ++ locks) := by
  cases request with
  | connect => cases hNext
  | execute statement => exact hHolds.reaches_execute hSound hNext
  | beginTransaction =>
      cases hNext with
      | begin => exact .of_same hSound rfl (.opened (.refl _ _))
  | rollback =>
      cases hNext with
      | rollback => exact .of_same hSound rfl .idle
  | commit =>
      obtain ⟨committed, transaction, connected, faults⟩ := server
      cases hNext with
      | commit hComplete =>
          cases transaction with
          | none =>
              rcases hHolds.of_none with rfl | rfl
              · exact hComplete.elim
              · exact hComplete.elim
          | some tables =>
              obtain ⟨hAdvance, hGuarded⟩ := hHolds.commit hSound hComplete
              exact ⟨hAdvance, hGuarded, .idle⟩

/-- A request that fails changes nothing, and the session has to roll its transaction back if it has
one. -/
theorem Phase.Holds.reaches_fail {request : Request} {error : DatabaseError}
    (hSound : server.committed.IsSound)
    (hHolds : phase.Holds late server.committed locks server.transaction)
    (hNext : Phase.Next newId phase request (.error error) next) :
    Reaches newId late server next (server.afterFault request) locks := by
  obtain ⟨committed, transaction, connected, faults⟩ := server
  cases hNext with
  | plain | notBegun =>
      obtain rfl := hHolds.of_idle
      exact .of_same hSound rfl .idle
  | refuse | notCommitted => exact .of_same hSound rfl .failing
  | rollback => exact .of_same hSound rfl .idle

end Answers

/-! ## Steps of sessions -/

/-- A session keeps to the protocol, and what its phase says is the case. -/
def Session.IsOrderly (session : Session) (late : GrantRow → Prop) (committed : Tables) : Prop :=
  ∃ phase, Follows session.newId (fun _ phase => phase = .idle) phase session.rest ∧
    phase.Holds late committed session.locks session.transaction

/-- A session is about to remove a permission, and has already found the roles that grant it. -/
def Session.Removes (session : Session) (permission : Id) : Prop :=
  ∃ rest, session.rest = .ask (.execute (.deletePermission permission)) rest

/-- The constraints on roles hold, no two sessions have locks that are in each other's way, and all
sessions keep to the protocol, where each has its own late grants. -/
structure System.IsSound {ι : Type} (late : ι → GrantRow → Prop) (system : System ι) : Prop where
  committed : system.committed.IsSound
  apart : ∀ i j, j ≠ i → ∀ lock ∈ (system.session i).locks, ∀ held ∈ (system.session j).locks,
    ¬ lock.conflicts held
  orderly : ∀ i, (system.session i).IsOrderly (late i) system.committed

section Steps

variable {ι : Type} [DecidableEq ι] {late late' : ι → GrantRow → Prop} {system system' : System ι}
  {i : ι}

/-- All that a step can do. -/
theorem System.Step.cases (hSound : system.IsSound late) (hStep : system.Step i system') :
    ∃ rest server locks next, system' = system.proceed i rest server locks ∧ system.IsFree i locks ∧
      Follows (system.session i).newId (fun _ phase => phase = .idle) next rest ∧
        Reaches (system.session i).newId (late i) (system.server i) next server locks := by
  obtain ⟨phase, hFollows, hHolds⟩ := hSound.orderly i
  cases hStep with
  | answer now hNext hFree =>
      rw [hNext] at hFollows
      obtain ⟨next, hPhase, hRest⟩ := hFollows ((system.server i).answerUnharmed now _).1
      refine ⟨_, _, _, next, rfl, ?_, hRest, hHolds.reaches_answer hSound.committed hPhase⟩
      intro j hOther lock hLock
      rcases List.mem_append.1 hLock with hTaken | hHeld
      · exact hFree j hOther lock hTaken
      · exact hSound.apart i j hOther lock hHeld
  | fail error hNext =>
      rw [hNext] at hFollows
      obtain ⟨next, hPhase, hRest⟩ := hFollows (.error error)
      exact ⟨_, _, _, next, rfl, fun j hOther => hSound.apart i j hOther, hRest,
        hHolds.reaches_fail hSound.committed hPhase⟩

/-- Whatever a step commits moves on the roles whose grants it changes, unless these are late. -/
theorem System.Step.advance (hSound : system.IsSound late) (hStep : system.Step i system') :
    Advance (system.session i).newId (late i) system.committed system'.committed := by
  obtain ⟨rest, server, locks, next, rfl, -, -, hReaches⟩ := hStep.cases hSound
  exact hReaches.advance

section Proceed

variable {rest : Dialogue (Except Error ((system.session i).call.Value × Option Inventory))}
  {server : Server} {locks : List Lock}

theorem System.session_proceed_self : (system.proceed i rest server locks).session i =
    { system.session i with
      rest
      transaction := server.transaction
      locks := if server.transaction.isSome then locks else [] } :=
  if_pos rfl

theorem System.session_proceed_other {j : ι} (hOther : j ≠ i) :
    (system.proceed i rest server locks).session j =
    { system.session j with
      transaction := (system.session j).transaction.map fun tables =>
        tables.refresh system.committed server.committed } :=
  if_neg hOther

theorem System.locks_proceed_self {lock : Lock}
    (hLock : lock ∈ ((system.proceed i rest server locks).session i).locks) :
    lock ∈ locks := by
  rw [session_proceed_self] at hLock
  dsimp only at hLock
  split at hLock
  · exact hLock
  · exact absurd hLock List.not_mem_nil

theorem Lock.conflicts.symm {lock held : Lock} (hConflict : lock.conflicts held) :
    held.conflicts lock :=
  ⟨hConflict.1.symm, fun ⟨hHeld, hLock⟩ => hConflict.2 ⟨hLock, hHeld⟩⟩

/-- A session that has waited for the others has no lock that is in their way. -/
theorem System.apart_proceed
    (hApart : ∀ i j, j ≠ i → ∀ lock ∈ (system.session i).locks, ∀ held ∈ (system.session j).locks,
      ¬ lock.conflicts held)
    (hFree : system.IsFree i locks) (j k : ι) (hOther : k ≠ j) :
    ∀ lock ∈ ((system.proceed i rest server locks).session j).locks,
      ∀ held ∈ ((system.proceed i rest server locks).session k).locks, ¬ lock.conflicts held := by
  intro lock hLock held hHeld hConflict
  by_cases hJ : j = i
  · subst hJ
    rw [session_proceed_other hOther] at hHeld
    exact hFree k hOther lock (locks_proceed_self hLock) held hHeld hConflict
  · rw [session_proceed_other hJ] at hLock
    by_cases hK : k = i
    · subst hK
      exact hFree j hJ held (locks_proceed_self hHeld) lock hLock hConflict.symm
    · rw [session_proceed_other hK] at hHeld
      exact hApart j k hOther lock hLock held hHeld hConflict

end Proceed

theorem System.Step.newId (hSound : system.IsSound late) (hStep : system.Step i system') (j : ι) :
    (system'.session j).newId = (system.session j).newId := by
  obtain ⟨rest, server, locks, next, rfl, -⟩ := hStep.cases hSound
  by_cases hThis : j = i
  · rw [hThis, session_proceed_self]
  · rw [session_proceed_other hThis]

theorem System.Step.isSound (hSound : system.IsSound late) (hStep : system.Step i system')
    (hLate : ∀ j grant, late j grant → late' j grant)
    (hNew : ∀ grant ∈ system'.committed.grants, grant ∉ system.committed.grants →
      ∀ j, (system.session j).Removes grant.permission → late' j grant) :
    system'.IsSound late' := by
  obtain ⟨rest, server, locks, next, rfl, hFree, hFollows, hReaches⟩ := hStep.cases hSound
  refine ⟨hReaches.advance.sound, apart_proceed hSound.apart hFree, fun j => ?_⟩
  by_cases hThis : j = i
  · subst hThis
    rw [session_proceed_self]
    exact ⟨next, hFollows, hReaches.holds.mono (hLate j)⟩
  · rw [session_proceed_other hThis]
    obtain ⟨phase, hFollows', hHolds⟩ := hSound.orderly j
    refine ⟨phase, hFollows', hHolds.refresh ?_ (hLate j) fun grant hGrant hOld =>
      ⟨?_, fun hOwns => ?_⟩⟩
    · -- a row that has changed is locked by the one session and so not by the other
      intro role hOwns row hId
      by_contra hChanged
      have hOwned : Owns locks row.id := hReaches.guarded.owned row fun hSame => hChanged hSame.symm
      exact hFree j hThis _ hOwned _ hOwns ⟨congrArg RowKey.role hId,
        fun ⟨hShared, _⟩ => Bool.false_ne_true hShared⟩
    · rintro rfl
      exact hNew grant hGrant hOld j hFollows'.next_of_bumped
    · -- a permission that has been removed is locked, so that nothing new refers to it
      have hRefers := hReaches.guarded.referred grant hGrant hOld
      exact hFree j hThis _ hRefers _ hOwns ⟨rfl, fun ⟨_, hShared⟩ => Bool.false_ne_true hShared⟩

end Steps

/-! ## Runs -/

/-- All constraints on roles hold, and no session has sent anything yet. -/
structure System.IsFresh {ι : Type} (system : System ι) : Prop where
  committed : system.committed.IsSound
  fresh : ∀ i, ∃ newId call, system.session i = .start newId call

theorem System.IsFresh.isSound {ι : Type} {system : System ι} {late : ι → GrantRow → Prop}
    (hFresh : system.IsFresh) :
    system.IsSound late where
  committed := hFresh.committed
  apart := by
    intro i j _ lock hLock
    obtain ⟨newId, call, hStart⟩ := hFresh.fresh i
    rw [hStart] at hLock
    exact absurd hLock List.not_mem_nil
  orderly := by
    intro i
    obtain ⟨newId, call, hStart⟩ := hFresh.fresh i
    rw [hStart]
    exact ⟨.idle, follows_dialogue newId call, .idle⟩

/-- A grant was committed when a session had found the roles that grant its permission, and had not
yet removed it. -/
def IsLate {ι : Type} (steps : List (System ι × System ι)) (i : ι) (grant : GrantRow) : Prop :=
  ∃ step ∈ steps, grant ∈ step.2.committed.grants ∧ grant ∉ step.1.committed.grants ∧
    (step.1.session i).Removes grant.permission

theorem IsLate.mono {ι : Type} {steps steps' : List (System ι × System ι)} (hSteps : steps ⊆ steps')
    {i : ι} {grant : GrantRow} (hLate : IsLate steps i grant) : IsLate steps' i grant := by
  obtain ⟨step, hStep, hCommitted⟩ := hLate
  exact ⟨step, hSteps hStep, hCommitted⟩

section Runs

variable {ι : Type} [DecidableEq ι] {start system later : System ι}
  {steps steps' : List (System ι × System ι)}

/-- Steps of any sessions, the last one first. -/
inductive System.Run (start : System ι) : List (System ι × System ι) → System ι → Prop
  | nil : Run start [] start
  | cons {steps : List (System ι × System ι)} {system next : System ι} {i : ι}
    (hRun : Run start steps system)
    (hStep : system.Step i next) : Run start ((system, next) :: steps) next

theorem System.Run.append (hRun : start.Run steps system) (hLater : system.Run steps' later) :
    start.Run (steps' ++ steps) later := by
  induction hLater with
  | nil => exact hRun
  | cons _ hStep ih => exact .cons ih hStep

theorem System.Run.isSound (hFresh : start.IsFresh) (hRun : start.Run steps system) :
    system.IsSound (IsLate steps) := by
  induction hRun with
  | nil => exact hFresh.isSound
  | cons _ hStep ih =>
      refine hStep.isSound ih (fun j grant hLate => hLate.mono (List.subset_cons_self _ _)) ?_
      exact fun grant hGrant hOld j hRemoves => ⟨_, List.mem_cons_self, hGrant, hOld, hRemoves⟩

theorem toInt_add_one {revision : Int64} (hLast : revision ≠ Int64.maxValue) :
    (revision + 1).toInt = revision.toInt + 1 := by
  have hOne : (1 : Int64).toInt = 1 := rfl
  have hMax : Int64.maxValue.toInt = 9223372036854775807 := rfl
  have hLess : revision.toInt ≠ 9223372036854775807 :=
    fun hMost => hLast (Int64.toInt.inj (hMost.trans hMax.symm))
  have hLower := revision.le_toInt
  have hUpper := revision.toInt_le
  rw [Int64.toInt_add, hOne, Int.bmod_eq_of_le] <;> omega

/-- From one revision of a role on, the role has its set of permissions as long as it has the
revision. -/
theorem System.Run.sets (hFresh : start.IsFresh) (hRun : start.Run steps system)
    (hLater : system.Run steps' later) (hTimely : ∀ i grant, ¬ IsLate (steps' ++ steps) i grant)
    {row : RoleRow} (hRow : row ∈ system.committed.roles)
    (hOld : ∀ i, (system.session i).newId ≠ row.id) :
    (∀ i, (later.session i).newId ≠ row.id) ∧ ∀ row' ∈ later.committed.roles, row'.id = row.id →
      row.revision.toInt < row'.revision.toInt ∨ row'.revision = row.revision ∧
        ∀ permission, ⟨row.id, permission⟩ ∈ later.committed.grants ↔
          ⟨row.id, permission⟩ ∈ system.committed.grants := by
  induction hLater with
  | nil =>
      refine ⟨hOld, fun row' hRow' hId => .inr ⟨?_, fun _ => .rfl⟩⟩
      rw [(hRun.isSound hFresh).committed.unique row hRow row' hRow' hId]
  | @cons steps' between last i hBetween hStep ih =>
      have hBefore : ∀ i grant, ¬ IsLate (steps' ++ steps) i grant :=
        fun i grant hLate => hTimely i grant (hLate.mono (List.subset_cons_self _ _))
      obtain ⟨hOld', hSets⟩ := ih hBefore
      have hSound := (hRun.append hBetween).isSound hFresh
      have hAdvance := hStep.advance hSound
      refine ⟨fun j => by rw [hStep.newId hSound]; exact hOld' j, fun row'' hRow'' hId => ?_⟩
      rcases hAdvance.origin row'' hRow'' with hNew | ⟨row', hRow', hSame⟩
      · exact absurd (hNew.symm.trans hId) (hOld' i)
      · have hId' : row'.id = row.id := hSame.trans hId
        rcases hAdvance.tracked row' hRow' row'' hRow'' hSame.symm with
          ⟨hLast, hNext⟩ | ⟨hKept, hSet'⟩
        · rw [hNext, toInt_add_one hLast]
          rcases hSets row' hRow' hId' with hMoved | ⟨hRevision, -⟩
          · exact .inl (by omega)
          · rw [hRevision]
            exact .inl (by omega)
        · rw [hKept]
          refine (hSets row' hRow' hId').imp_right fun ⟨hRevision, hSet⟩ =>
            ⟨hRevision, fun permission => ?_⟩
          rw [← hSet permission, ← hId']
          exact hSet' permission (hBefore i _)

/-- Each step that changes the grants of a role moves the role on to its next revision, but for
grants that were committed when the session of the step had found the roles that grant their
permission and had not yet removed it. As long as there are no such late grants, a role has no two
sets of permissions under one revision. -/
theorem revisions_track_all_but_late_grants (hFresh : start.IsFresh)
    (hRun : start.Run steps system) :
    (∀ i next, system.Step i next → TracksAllBut (IsLate steps i) system.committed next.committed) ∧
      ∀ steps' later, system.Run steps' later → (∀ i grant, ¬ IsLate (steps' ++ steps) i grant) →
        ∀ row ∈ system.committed.roles, ∀ row' ∈ later.committed.roles, row'.id = row.id →
          (∀ i, (system.session i).newId ≠ row.id) → row'.revision = row.revision →
            ∀ permission, ⟨row.id, permission⟩ ∈ later.committed.grants ↔
              ⟨row.id, permission⟩ ∈ system.committed.grants := by
  refine ⟨fun i next hStep => (hStep.advance (hRun.isSound hFresh)).tracked, ?_⟩
  intro steps' later hLater hTimely row hRow row' hRow' hId hOld hRevision
  rcases (hRun.sets hFresh hLater hTimely hRow hOld).2 row' hRow' hId with hMoved | ⟨-, hSet⟩
  · rw [hRevision] at hMoved
    exact absurd hMoved (Int.lt_irrefl _)
  · exact hSet

end Runs

/-! ## Schedules -/

section Playing

variable {ι : Type} [DecidableEq ι]

/-- The system after the next request of a session was answered. -/
def System.advance (system : System ι) (i : ι) (now : Instant) : System ι :=
  match (system.session i).rest with
  | .done _ => system
  | .ask request rest =>
    system.proceed i (rest ((system.server i).answerUnharmed now request).1)
      ((system.server i).answerUnharmed now request).2
      (system.wanted i now request ++ (system.session i).locks)

/-- The system after sessions have got answers in this order. -/
def System.play (system : System ι) (now : Instant) (schedule : List ι) : System ι :=
  schedule.foldl (fun system i => system.advance i now) system

end Playing

/-- Whether a session has sent all of its requests. -/
def Session.IsDone (session : Session) : Prop :=
  ∃ result, session.rest = .done result

/-- A database with one session. -/
def System.alone (committed : Tables) (session : Session) : System Unit :=
  ⟨committed, fun _ => session⟩

/-- A session that has the database to itself gets the answers that a server gives. -/
theorem System.play_alone (committed : Tables) (session : Session) (now : Instant) :
    ∃ answers, ((System.alone committed session).play now (List.replicate answers ())).committed =
        (Server.run ⟨committed, session.transaction, true, []⟩ now session.rest).2.committed ∧
      (((System.alone committed session).play now (List.replicate answers ())).session
        ()).IsDone := by
  obtain ⟨newId, call, rest, transaction, locks⟩ := session
  induction rest generalizing committed transaction locks with
  | done result => exact ⟨0, rfl, result, rfl⟩
  | ask request rest ih =>
      generalize hAnswer : Server.answerUnharmed ⟨committed, transaction, true, []⟩ now request =
        answered
      have hCalm : answered.2.Calm := hAnswer ▸ Server.Calm.answerUnharmed ⟨rfl, rfl⟩ request
      obtain ⟨answer, committed', transaction', connected, faults⟩ := answered
      obtain ⟨rfl, rfl⟩ := hCalm
      have hRun : Server.run ⟨committed, transaction, true, []⟩ now (.ask request rest) =
          Server.run ⟨committed', transaction', true, []⟩ now (rest answer) := by
        have hSame : Server.answer ⟨committed, transaction, true, []⟩ now request =
            (answer, ⟨committed', transaction', true, []⟩) :=
          (Server.answer_of_calm ⟨rfl, rfl⟩ request).trans hAnswer
        show Server.run (Server.answer ⟨committed, transaction, true, []⟩ now request).2 now
          (rest (Server.answer ⟨committed, transaction, true, []⟩ now request).1) = _
        rw [hSame]
      have hFirst :
          (System.alone committed
            ⟨newId, call, .ask request rest, transaction, locks⟩).advance () now =
          System.alone committed' ⟨newId, call, rest answer, transaction',
            if transaction'.isSome then
              (System.alone committed
                ⟨newId, call, .ask request rest, transaction, locks⟩).wanted () now request ++ locks
            else
              []⟩ := by
        show (System.alone committed
            ⟨newId, call, .ask request rest, transaction, locks⟩).proceed ()
          (rest (Server.answerUnharmed ⟨committed, transaction, true, []⟩ now request).1)
          (Server.answerUnharmed ⟨committed, transaction, true, []⟩ now request).2 _ = _
        rw [hAnswer]
        rfl
      obtain ⟨answers, hCommitted, hDone⟩ := ih answer committed' transaction' _
      refine ⟨answers + 1, ?_⟩
      rw [List.replicate_succ, System.play, List.foldl_cons, hFirst]
      exact ⟨hCommitted.trans (congrArg (fun run => run.2.committed) hRun.symm), hDone⟩

section Schedules

variable {ι : Type} [DecidableEq ι] [Fintype ι]

instance (system : System ι) (i : ι) (locks : List Lock) : Decidable (system.IsFree i locks) :=
  inferInstanceAs (Decidable (∀ j, j ≠ i → _))

/-- Whether a session has a next request, and no other session has locks in its way. -/
def System.canAdvance (system : System ι) (i : ι) (now : Instant) : Bool :=
  match (system.session i).rest with
  | .done _ => false
  | .ask request _ => decide (system.IsFree i (system.wanted i now request))

/-- Whether sessions can get answers in this order. -/
def System.canPlay (now : Instant) : System ι → List ι → Bool
  | _, [] => true
  | system, i :: schedule => system.canAdvance i now && canPlay now (system.advance i now) schedule

theorem System.step_advance {system : System ι} {i : ι} {now : Instant}
    (hCan : system.canAdvance i now) :
    system.Step i (system.advance i now) := by
  unfold canAdvance at hCan
  unfold advance
  split at hCan
  · cases hCan
  · next request rest hNext =>
      exact .answer now hNext (of_decide_eq_true hCan)

theorem System.run_play {now : Instant} {schedule : List ι} {system : System ι}
    (hCan : system.canPlay now schedule) :
    ∃ steps, system.Run steps (system.play now schedule) := by
  induction schedule generalizing system with
  | nil => exact ⟨[], .nil⟩
  | cons i schedule ih =>
      rw [canPlay, Bool.and_eq_true] at hCan
      obtain ⟨steps, hRun⟩ := ih hCan.2
      have hFirst : system.Run [(system, system.advance i now)] (system.advance i now) :=
        .cons .nil (step_advance hCan.1)
      exact ⟨_, hFirst.append hRun⟩

end Schedules

/-! ## A late grant -/

/-- One session that removes a permission, and one that gives it to a role. -/
def rivals : System Bool where
  committed := ⟨[⟨"p", "read", none, ⟨0⟩⟩], [⟨"r", "editor", 0, ⟨0⟩⟩], [], []⟩
  session remover :=
    if remover then .start "a" (.deletePermission "p")
    else .start "b" (.setRolePermissions "r" (.ofList ["p"]))

theorem isFresh_rivals : rivals.IsFresh where
  committed := ⟨by decide, by decide⟩
  fresh
    | true => ⟨_, _, rfl⟩
    | false => ⟨_, _, rfl⟩

/-- The rivals when the roles that lose the permission have been found, it was given to a role that
was not among them, and it is removed. -/
def lateGrant : System Bool :=
  rivals.play ⟨0⟩ ([true, true] ++ List.replicate 7 false ++ [true])

theorem run_lateGrant : ∃ steps, rivals.Run steps lateGrant :=
  System.run_play (by decide +kernel)

theorem revisions_track_all_but_late_grants_of_rivals :
    ∃ steps, rivals.IsFresh ∧ rivals.Run steps lateGrant ∧
      (∀ i next, lateGrant.Step i next →
        TracksAllBut (IsLate steps i) lateGrant.committed next.committed) ∧
        ∀ steps' later, lateGrant.Run steps' later →
          (∀ i grant, ¬ IsLate (steps' ++ steps) i grant) →
          ∀ row ∈ lateGrant.committed.roles, ∀ row' ∈ later.committed.roles, row'.id = row.id →
            (∀ i, (lateGrant.session i).newId ≠ row.id) → row'.revision = row.revision →
              ∀ permission,
                ⟨row.id, permission⟩ ∈ later.committed.grants ↔
                  ⟨row.id, permission⟩ ∈ lateGrant.committed.grants := by
  obtain ⟨steps, hRun⟩ := run_lateGrant
  exact ⟨steps, isFresh_rivals, hRun, revisions_track_all_but_late_grants isFresh_rivals hRun⟩

theorem lateGrant_tables :
    lateGrant.committed.roles = [⟨"r", "editor", 1, ⟨0⟩⟩] ∧
      lateGrant.committed.grants = [⟨"r", "p"⟩] ∧
      (lateGrant.advance true ⟨0⟩).committed.roles = [⟨"r", "editor", 1, ⟨0⟩⟩] ∧
      (lateGrant.advance true ⟨0⟩).committed.grants = [] := by
  decide +kernel

/-- A role may have a set with a permission and a set without it under the same revision. -/
theorem late_grant_is_not_tracked :
    rivals.IsFresh ∧ (∃ steps, rivals.Run steps lateGrant) ∧
      lateGrant.Step true (lateGrant.advance true ⟨0⟩) ∧
      ¬ TracksAllBut (fun _ => False) lateGrant.committed
        (lateGrant.advance true ⟨0⟩).committed := by
  refine ⟨isFresh_rivals, run_lateGrant, System.step_advance (by decide +kernel), fun hTracks => ?_⟩
  obtain ⟨hRoles, hGrants, hRoles', hGrants'⟩ := lateGrant_tables
  have hRow : (⟨"r", "editor", 1, ⟨0⟩⟩ : RoleRow) ∈ lateGrant.committed.roles :=
    hRoles ▸ List.mem_singleton_self _
  have hRow' : (⟨"r", "editor", 1, ⟨0⟩⟩ : RoleRow) ∈ (lateGrant.advance true ⟨0⟩).committed.roles :=
    hRoles' ▸ List.mem_singleton_self _
  rcases hTracks _ hRow _ hRow' rfl with ⟨-, hNext⟩ | ⟨-, hSet⟩
  · exact absurd hNext (by decide)
  · have hKept := (hSet "p" not_false).2 (hGrants ▸ List.mem_singleton_self _)
    rw [hGrants'] at hKept
    exact absurd hKept List.not_mem_nil

end Rolebook.Relational
