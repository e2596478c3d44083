import Rolebook.Proofs.Relational.Dialogue

/-!
# Servers that failures are planned for

What planned failures can do to a dialogue. Each request is answered as it is if nothing goes wrong,
or a failure of the plan is its answer and the tables stay as they are (`answer_cases`). From this
it is derived what they can do to an attempt, by one rule for each way in which attempts are built:
whether it has come to its end undisturbed (`Steady`), and what it has made of the tables
(`KeepsTables`, `Settles`, `Ensures`).
-/

namespace Rolebook.Relational

open Rolebook.Store (Error)

variable {α β : Type}

/-! ## Plans -/

/-- What is left of a plan has no failure that the plan does not have. -/
def Remaining (left plan : List (Fault DatabaseError)) : Prop :=
  ∀ fault ∈ left, ∃ planned ∈ plan, planned.target = fault.target ∧ planned.failure = fault.failure

theorem Remaining.refl (plan : List (Fault DatabaseError)) : Remaining plan plan :=
  fun fault hFault => ⟨fault, hFault, rfl, rfl⟩

theorem Remaining.trans {left between plan : List (Fault DatabaseError)}
    (hLeft : Remaining left between) (hBetween : Remaining between plan) : Remaining left plan := by
  intro fault hFault
  obtain ⟨middle, hMiddle, hTarget, hFailure⟩ := hLeft fault hFault
  obtain ⟨planned, hPlanned, hTarget', hFailure'⟩ := hBetween middle hMiddle
  exact ⟨planned, hPlanned, hTarget'.trans hTarget, hFailure'.trans hFailure⟩

theorem Remaining.cons {left plan : List (Fault DatabaseError)} (hLeft : Remaining left plan)
    {fault planned : Fault DatabaseError} (hTarget : planned.target = fault.target)
    (hFailure : planned.failure = fault.failure) :
    Remaining (fault :: left) (planned :: plan) := by
  intro other hOther
  rcases List.mem_cons.1 hOther with rfl | hOther
  · exact ⟨planned, List.mem_cons_self, hTarget, hFailure⟩
  · obtain ⟨found, hFound, hSame⟩ := hLeft other hOther
    exact ⟨found, List.mem_cons_of_mem _ hFound, hSame⟩

theorem remaining_strike (label : String) (plan : List (Fault DatabaseError)) :
    Remaining (Fault.strike label plan).2 plan := by
  induction plan with
  | nil => exact .refl []
  | cons fault plan ih =>
      unfold Fault.strike
      split
      · exact (Remaining.refl plan).cons rfl rfl
      · refine ih.cons ?_ ?_ <;> split <;> rfl

/-- A failure that strikes is planned for requests with this label, or for all. -/
theorem planned_of_strike {label : String} {plan : List (Fault DatabaseError)}
    {failure : DatabaseError} (hStrikes : (Fault.strike label plan).1 = some failure) :
    ∃ planned ∈ plan, planned.failure = failure ∧
      (planned.target = none ∨ planned.target = some label) := by
  induction plan with
  | nil => cases hStrikes
  | cons fault plan ih =>
      unfold Fault.strike at hStrikes
      split at hStrikes
      · next hConcerned =>
          refine ⟨fault, List.mem_cons_self, Option.some.inj hStrikes, ?_⟩
          simp only [Fault.concerns, Bool.and_eq_true, Bool.or_eq_true, Option.isNone_iff_eq_none,
            beq_iff_eq] at hConcerned
          exact hConcerned.1.2
      · obtain ⟨planned, hPlanned, hSame⟩ := ih hStrikes
        exact ⟨planned, List.mem_cons_of_mem _ hPlanned, hSame⟩

/-! ## Requests -/

namespace Server

/-- The server as it is if nothing goes wrong from now on. -/
def calmed (server : Server) : Server :=
  { server with connected := true, faults := [] }

theorem calm_calmed (server : Server) : server.calmed.Calm :=
  ⟨rfl, rfl⟩

theorem Calm.calmed {server : Server} (hCalm : server.Calm) : server.calmed = server := by
  obtain ⟨committed, transaction, connected, faults⟩ := server
  obtain ⟨rfl, rfl⟩ := hCalm
  rfl

theorem answer_calmed (server : Server) (now : Instant) (request : Request) :
    server.calmed.answer now request = server.calmed.answerUnharmed now request :=
  answer_of_calm server.calm_calmed request

/-- A plan changes nothing as long as no failure strikes. -/
theorem answerUnharmed_eq {server : Server} (hConnected : server.connected = true) (now : Instant)
    (request : Request) (plan : List (Fault DatabaseError)) :
    { server with faults := plan }.answerUnharmed now request =
      ((server.calmed.answer now request).1,
        { (server.calmed.answer now request).2 with faults := plan }) := by
  obtain ⟨committed, transaction, connected, faults⟩ := server
  obtain rfl : connected = true := hConnected
  rw [answer_calmed]
  cases request with
  | connect | beginTransaction | commit | rollback => rfl
  | execute statement =>
      simp only [answerUnharmed, calmed, visible]
      cases statement.execute now (transaction.getD committed) with
      | error error => rfl
      | ok done => cases transaction <;> rfl

/-- What has become of a server when a failure has struck a request. Without a connection, the
failure may be one that was planned for connecting. -/
structure Struck (server : Server) (request : Request) (failure : DatabaseError)
    (server' : Server) : Prop where
  planned : ∃ planned ∈ server.faults, planned.failure = failure ∧
    (server.connected = true → planned.target = none ∨ planned.target = some request.label)
  remaining : Remaining server'.faults server.faults
  committed : server'.committed = server.committed
  transaction : request ≠ .rollback → server'.transaction = server.transaction
  connected : request ≠ .rollback → server.connected = true → server'.connected = true
  rolledBack : request = .rollback → server.connected = true → server'.transaction = none

theorem answerConnected_cases (server : Server) (now : Instant) (request : Request)
    (hUsable : server.connected = true ∨ request = .connect) :
    (∃ left, Remaining left server.faults ∧
        server.answerConnected now request =
          ((server.calmed.answer now request).1,
            { (server.calmed.answer now request).2 with faults := left })) ∨
      ∃ failure server', server.answerConnected now request = (.error failure, server') ∧
        server.Struck request failure server' := by
  have hRemaining := remaining_strike request.label server.faults
  unfold answerConnected
  cases hStrike : Fault.strike request.label server.faults with
  | mk failure? left =>
      rw [hStrike] at hRemaining
      cases failure? with
      | none =>
          refine .inl ⟨left, hRemaining, ?_⟩
          rcases hUsable with hConnected | rfl
          · exact answerUnharmed_eq hConnected now request left
          · rfl
      | some failure =>
          obtain ⟨planned, hPlanned, hFailure, hTarget⟩ :=
            planned_of_strike (congrArg Prod.fst hStrike)
          refine .inr ⟨failure, _, rfl, ⟨planned, hPlanned, hFailure, fun _ => hTarget⟩,
            ?_, ?_, ?_, ?_, ?_⟩
          all_goals cases request <;> simp_all [afterFault]

/-- A request is answered as it is if nothing goes wrong, or a failure strikes. -/
theorem answer_cases (server : Server) (now : Instant) (request : Request) :
    (∃ left, Remaining left server.faults ∧
        server.answer now request =
          ((server.calmed.answer now request).1,
            { (server.calmed.answer now request).2 with faults := left })) ∨
      ∃ failure server', server.answer now request = (.error failure, server') ∧
        server.Struck request failure server' := by
  unfold answer
  by_cases hUsable : (server.connected || decide (request = .connect)) = true
  · rw [if_pos hUsable]
    exact answerConnected_cases server now request (by simpa using hUsable)
  · rw [if_neg hUsable]
    have hLost : server.connected ≠ true :=
      fun hConnected => hUsable (by rw [hConnected, Bool.true_or])
    rcases answerConnected_cases server now .connect (.inr rfl) with
      ⟨left, hLeft, hConnect⟩ | ⟨failure, server', hConnect, hStruck⟩
    · -- the connection is replaced, and the request is sent over the new one
      have hReplaced : server.answerConnected now .connect =
          (.ok (), { server with connected := true, faults := left }) :=
        hConnect
      rw [hReplaced]
      rcases answerConnected_cases { server with connected := true, faults := left } now
        request (.inl rfl) with
        ⟨left', hLeft', hAnswer⟩ | ⟨failure, server', hAnswer, hStruck⟩
      · exact .inl ⟨left', hLeft'.trans hLeft, hAnswer⟩
      · obtain ⟨fault, hFault, hFailure, -⟩ := hStruck.planned
        obtain ⟨planned, hPlanned, -, hSame⟩ := hLeft fault hFault
        exact .inr ⟨failure, server', hAnswer,
          ⟨planned, hPlanned, hSame.trans hFailure, fun hConnected => absurd hConnected hLost⟩,
          hStruck.remaining.trans hLeft, hStruck.committed, hStruck.transaction,
          fun _ hConnected => absurd hConnected hLost,
          fun _ hConnected => absurd hConnected hLost⟩
    · rw [hConnect]
      obtain ⟨planned, hPlanned, hFailure, -⟩ := hStruck.planned
      exact .inr ⟨failure, server', rfl,
        ⟨planned, hPlanned, hFailure, fun hConnected => absurd hConnected hLost⟩,
        hStruck.remaining, hStruck.committed, fun _ => hStruck.transaction (by simp),
        fun _ hConnected => absurd hConnected hLost,
        fun _ hConnected => absurd hConnected hLost⟩

/-- A statement is done, the database refuses it, or a failure strikes. -/
theorem answer_execute_cases (server : Server) (now : Instant) (statement : Statement) :
    (∃ value tables left, statement.execute now server.visible = .ok (value, tables) ∧
        server.answer now (.execute statement) =
          (.ok value, { server.withVisible tables with connected := true, faults := left })) ∨
      (∃ error left, server.answer now (.execute statement) =
        (.error error, { server with connected := true, faults := left })) ∨
      ∃ failure server', server.answer now (.execute statement) = (.error failure, server') ∧
        server.Struck (.execute statement) failure server' := by
  rcases server.answer_cases now (.execute statement) with ⟨left, -, hAnswer⟩ | hStruck
  · rw [answer_calmed, answerUnharmed] at hAnswer
    cases hDone : statement.execute now server.visible with
    | ok done =>
        obtain ⟨value, tables⟩ := done
        refine .inl ⟨value, tables, left, rfl, ?_⟩
        rw [hAnswer, show statement.execute now server.calmed.visible =
          .ok (value, tables) from hDone]
        unfold withVisible calmed
        cases server.transaction <;> rfl
    | error error =>
        refine .inr (.inl ⟨error, left, ?_⟩)
        rw [hAnswer, show statement.execute now server.calmed.visible = .error error from hDone]
        rfl
  · exact .inr (.inr hStruck)

end Server

/-! ## Attempts that are disturbed or not -/

/-- An attempt on a server comes to what it comes to if nothing goes wrong. -/
structure Undisturbed (server : Server) (now : Instant) (attempt : Attempt α) : Prop where
  outcome : (server.attempt now attempt).1 = (server.calmed.attempt now attempt).1
  after : (server.attempt now attempt).2.calmed = (server.calmed.attempt now attempt).2
  remaining : Remaining (server.attempt now attempt).2.faults server.faults
  /-- An attempt that has succeeded leaves a connection that can be used, unless no request was
  sent. -/
  connected : (∃ a, (server.attempt now attempt).1 = .ok a) →
    (server.attempt now attempt).2.connected = true ∨ (server.attempt now attempt).2 = server

/-- An attempt has failed because of a failure of the plan, for which it may be blamed in this
way. -/
def Disturbed (blame : Option String → DatabaseError → Error → Prop) (server : Server)
    (now : Instant) (attempt : Attempt α) : Prop :=
  ∃ error, (server.attempt now attempt).1 = .error error ∧
    (server.connected = true →
      ∃ planned ∈ server.faults, blame planned.target planned.failure error)

/-- Nothing but failures of the plan can keep an attempt from what it comes to if nothing goes
wrong. -/
def Steady (blame : Option String → DatabaseError → Error → Prop) (attempt : Attempt α) : Prop :=
  ∀ (server : Server) (now : Instant), Undisturbed server now attempt ∨
    Disturbed blame server now attempt

section Steady

variable {blame : Option String → DatabaseError → Error → Prop}

theorem Steady.pure (a : α) : Steady blame (pure a) :=
  fun server _ => .inl ⟨rfl, rfl, .refl server.faults, fun _ => .inr rfl⟩

theorem Steady.throw (error : Error) : Steady blame (throw error : Attempt α) :=
  fun server _ => .inl ⟨rfl, rfl, .refl server.faults, fun _ => .inr rfl⟩

theorem Steady.keepName (kind : EntityKind) (name : String) : Steady blame (keepName kind name) :=
  fun server _ => .inl ⟨rfl, rfl, .refl server.faults, fun _ => .inr rfl⟩

theorem Steady.asking (request : Request) {report : DatabaseError → Error}
    (hBlame : ∀ target failure, target = none ∨ target = some request.label →
      blame target failure (report failure)) :
    Steady blame (asking request report) := by
  intro server now
  have hCalm : (server.calmed.answer now request).2.Calm := by
    rw [Server.answer_calmed]
    exact server.calm_calmed.answerUnharmed request
  rcases server.answer_cases now request with ⟨left, hLeft, hAnswer⟩ |
    ⟨failure, server', hAnswer, hStruck⟩
  · left
    constructor <;> simp only [Server.attempt_asking, hAnswer]
    · exact hCalm.calmed
    · exact hLeft
    · exact fun _ => .inl hCalm.1
  · obtain ⟨planned, hPlanned, rfl, hTarget⟩ := hStruck.planned
    refine .inr ⟨report planned.failure, ?_,
      fun hConnected => ⟨planned, hPlanned, hBlame _ _ (hTarget hConnected)⟩⟩
    rw [Server.attempt_asking, hAnswer]
    rfl

theorem Steady.bind {first : Attempt α} {next : α → Attempt β} (hFirst : Steady blame first)
    (hNext : ∀ a, Steady blame (next a)) : Steady blame (first >>= next) := by
  intro server now
  rcases hFirst server now with hFirst | ⟨error, hError, hBlamed⟩
  · have hCalm : server.calmed.attempt now first =
        ((server.attempt now first).1, (server.attempt now first).2.calmed) :=
      Prod.ext hFirst.outcome.symm hFirst.after.symm
    obtain ⟨-, -, hLeft, hConnection⟩ := hFirst
    cases hResult : server.attempt now first with
    | mk outcome between =>
        rw [hResult] at hCalm hLeft hConnection
        cases outcome with
        | error error =>
            have hFailed : server.attempt now (first >>= next) = (.error error, between) :=
              Server.attempt_bind_error hResult
            have hFailed' : server.calmed.attempt now (first >>= next) =
                (.error error, between.calmed) :=
              Server.attempt_bind_error hCalm
            left
            constructor <;> rw [hFailed]
            · rw [hFailed']
            · rw [hFailed']
            · exact hLeft
            · rintro ⟨_, hOk⟩
              cases hOk
        | ok a =>
            have hGoesOn : server.attempt now (first >>= next) = between.attempt now (next a) :=
              Server.attempt_bind_ok hResult
            have hGoesOn' : server.calmed.attempt now (first >>= next) =
                between.calmed.attempt now (next a) :=
              Server.attempt_bind_ok hCalm
            rcases hNext a between now with hNext | ⟨error, hError, hBlamed⟩
            · left
              constructor <;> rw [hGoesOn]
              · rw [hGoesOn', hNext.outcome]
              · rw [hGoesOn', hNext.after]
              · exact hNext.remaining.trans hLeft
              · intro hOk
                rcases hNext.connected hOk with hConnected | hSame
                · exact .inl hConnected
                · rw [hSame]
                  exact hConnection ⟨a, rfl⟩
            · refine .inr ⟨error, by rw [hGoesOn, hError], fun hConnected => ?_⟩
              have hBetween : between.connected = true := by
                rcases hConnection ⟨a, rfl⟩ with hUsed | rfl
                · exact hUsed
                · exact hConnected
              obtain ⟨fault, hFault, hBlame⟩ := hBlamed hBetween
              obtain ⟨planned, hPlanned, hTarget, hFailure⟩ := hLeft fault hFault
              exact ⟨planned, hPlanned, by rwa [hTarget, hFailure]⟩
  · have hFailed : server.attempt now (first >>= next) =
        (.error error, (server.attempt now first).2) :=
      Server.attempt_bind_error (Prod.ext hError rfl)
    exact .inr ⟨error, congrArg Prod.fst hFailed, hBlamed⟩

end Steady

/-! ## What attempts make of the tables -/

/-- An attempt keeps a condition on the server, and the committed tables. -/
def KeepsTables (condition : Server → Prop) (attempt : Attempt α) : Prop :=
  ∀ (server : Server) (now : Instant), condition server →
    condition (server.attempt now attempt).2 ∧
      (server.attempt now attempt).2.committed = server.committed

/-- No transaction is open. -/
def Server.Idle (server : Server) : Prop :=
  server.transaction = none

theorem Server.Idle.visible {server : Server} (hIdle : server.Idle) :
    server.visible = server.committed := by
  rw [Server.visible, show server.transaction = none from hIdle]
  rfl

/-- A transaction is open on a connection that can be used. -/
def Server.Busy (server : Server) : Prop :=
  server.connected = true ∧ server.transaction ≠ none

/-- Outside of transactions, an attempt that fails keeps the committed tables. -/
def Settles (attempt : Attempt α) : Prop :=
  ∀ (server : Server) (now : Instant), server.Idle →
    (server.attempt now attempt).2.Idle ∧
      ∀ error, (server.attempt now attempt).1 = .error error →
        (server.attempt now attempt).2.committed = server.committed

section KeepsTables

variable {condition : Server → Prop}

theorem KeepsTables.pure (a : α) : KeepsTables condition (pure a) :=
  fun _ _ hCondition => ⟨hCondition, rfl⟩

theorem KeepsTables.throw (error : Error) : KeepsTables condition (throw error : Attempt α) :=
  fun _ _ hCondition => ⟨hCondition, rfl⟩

theorem KeepsTables.keepName (kind : EntityKind) (name : String) :
    KeepsTables condition (keepName kind name) :=
  fun _ _ hCondition => ⟨hCondition, rfl⟩

theorem KeepsTables.bind {first : Attempt α} {next : α → Attempt β}
    (hFirst : KeepsTables condition first) (hNext : ∀ a, KeepsTables condition (next a)) :
    KeepsTables condition (first >>= next) := by
  intro server now hCondition
  obtain ⟨hBetween, hSame⟩ := hFirst server now hCondition
  cases hResult : server.attempt now first with
  | mk outcome between =>
      rw [hResult] at hBetween hSame
      cases outcome with
      | error error =>
          rw [Server.attempt_bind_error hResult]
          exact ⟨hBetween, hSame⟩
      | ok a =>
          rw [Server.attempt_bind_ok hResult]
          obtain ⟨hAfter, hSame'⟩ := hNext a between now hBetween
          exact ⟨hAfter, hSame'.trans hSame⟩

theorem KeepsTables.settles {attempt : Attempt α} (hKeeps : KeepsTables Server.Idle attempt) :
    Settles attempt :=
  fun server now hIdle => ⟨(hKeeps server now hIdle).1, fun _ _ => (hKeeps server now hIdle).2⟩

end KeepsTables

section Statement

variable {statement : Statement} {report : DatabaseError → Error}

/-- A statement in a transaction works on the tables of the transaction. -/
theorem keepsTables_busy : KeepsTables Server.Busy (asking (.execute statement) report) := by
  rintro server now ⟨hConnected, hOpen⟩
  obtain ⟨open', hOpen'⟩ := Option.ne_none_iff_exists'.1 hOpen
  rcases server.answer_execute_cases now statement with
    ⟨value, tables, left, -, hAnswer⟩ | ⟨error, left, hAnswer⟩ | ⟨failure,
      server', hAnswer, hStruck⟩
  all_goals simp only [Server.attempt_asking, hAnswer, Server.Busy, Server.withVisible, hOpen']
  · exact ⟨⟨trivial, Option.some_ne_none _⟩, trivial⟩
  · exact ⟨⟨trivial, Option.some_ne_none _⟩, trivial⟩
  · have hSame := hStruck.transaction (by simp)
    exact ⟨⟨hStruck.connected (by simp) hConnected, hSame ▸ hOpen⟩, hStruck.committed⟩

/-- A statement that only reads changes no tables. -/
theorem keepsTables_idle
    (hReads : ∀ now tables value tables', statement.execute now tables = .ok (value, tables') →
      tables' = tables) :
    KeepsTables Server.Idle (asking (.execute statement) report) := by
  intro server now hIdle
  rcases server.answer_execute_cases now statement with
    ⟨value, tables, left, hDone, hAnswer⟩ | ⟨error, left, hAnswer⟩ | ⟨failure,
      server', hAnswer, hStruck⟩
  all_goals simp only [Server.Idle] at hIdle ⊢
  all_goals simp only [Server.attempt_asking, hAnswer, Server.withVisible, hIdle]
  · have hSame := hReads now server.visible value tables hDone
    exact ⟨trivial, by rw [hSame, Server.visible, hIdle]; rfl⟩
  · exact ⟨trivial, trivial⟩
  · have hSame := hStruck.transaction (by simp)
    exact ⟨hSame.trans hIdle, hStruck.committed⟩

theorem settles_statement : Settles (asking (.execute statement) report) := by
  intro server now hIdle
  rcases server.answer_execute_cases now statement with
    ⟨value, tables, left, -, hAnswer⟩ | ⟨error, left, hAnswer⟩ | ⟨failure,
      server', hAnswer, hStruck⟩
  all_goals simp only [Server.Idle] at hIdle ⊢
  all_goals simp only [Server.attempt_asking, hAnswer, Server.withVisible, hIdle]
  · refine ⟨trivial, ?_⟩
    rintro _ ⟨⟩
  · exact ⟨trivial, fun _ _ => trivial⟩
  · have hSame := hStruck.transaction (by simp)
    exact ⟨hSame.trans hIdle, fun _ _ => hStruck.committed⟩

end Statement

/-- If an attempt succeeds on tables that meet a condition, then its result and the tables after it
meet another one. -/
def Ensures (before : Tables → Prop) (attempt : Attempt α) (after : α → Tables → Prop) : Prop :=
  ∀ (server : Server) (now : Instant) (a : α) (server' : Server), before server.visible →
    server.attempt now attempt = (.ok a, server') → after a server'.visible

section Ensures

variable {before : Tables → Prop}

theorem Ensures.pure (a : α) : Ensures before (pure a) fun _ => before := by
  intro server now a server' hBefore hRun
  cases hRun
  exact hBefore

theorem Ensures.throw {after : α → Tables → Prop} (error : Error) :
    Ensures before (throw error : Attempt α) after := by
  intro server now a server' hBefore hRun
  cases hRun

theorem Ensures.bind {between : α → Tables → Prop} {after : β → Tables → Prop} {first : Attempt α}
    {next : α → Attempt β} (hFirst : Ensures before first between)
    (hNext : ∀ a, Ensures (between a) (next a) after) :
    Ensures before (first >>= next) after := by
  intro server now b server' hBefore hRun
  cases hResult : server.attempt now first with
  | mk outcome middle =>
      cases outcome with
      | error error =>
          rw [Server.attempt_bind_error hResult] at hRun
          cases hRun
      | ok a =>
          rw [Server.attempt_bind_ok hResult] at hRun
          exact hNext a middle now b server' (hFirst server now a middle hBefore hResult) hRun

theorem Ensures.asking {statement : Statement} {report : DatabaseError → Error}
    {after : statement.Value → Tables → Prop}
    (hStatement : ∀ now tables value tables', before tables →
      statement.execute now tables = .ok (value, tables') →
      after value tables') : Ensures before (asking (.execute statement) report) after := by
  intro server now value server' hBefore hRun
  rcases server.answer_execute_cases now statement with
    ⟨value', tables, left, hDone, hAnswer⟩ | ⟨error, left, hAnswer⟩ | ⟨failure, server', hAnswer, -⟩
  all_goals rw [Server.attempt_asking, hAnswer] at hRun
  · cases hRun
    have hVisible :
        Server.visible { server.withVisible tables with connected := true, faults := left } =
          tables :=
      server.visible_withVisible tables
    rw [hVisible]
    exact hStatement now server.visible value tables hBefore hDone
  · cases hRun
  · cases hRun

end Ensures

/-! ## Transactions -/

section Transaction

variable {body : Attempt α}

/-- A rollback over a connection that can be used ends the transaction, whether or not a failure
strikes it. -/
theorem Server.Busy.rollback {server : Server} (hBusy : server.Busy) (now : Instant) :
    (server.answer now .rollback).2.Idle ∧
      (server.answer now .rollback).2.committed = server.committed ∧
      (server.answer now .rollback).2.calmed = (server.calmed.answer now .rollback).2 ∧
        Remaining (server.answer now .rollback).2.faults server.faults := by
  obtain ⟨hConnected, -⟩ := hBusy
  rcases server.answer_cases now .rollback with ⟨left, hLeft, hAnswer⟩ |
    ⟨failure, server', hAnswer, hStruck⟩
  all_goals rw [hAnswer, Server.answer_calmed]
  · exact ⟨rfl, rfl, rfl, hLeft⟩
  · have hIdle : server'.transaction = none := hStruck.rolledBack rfl hConnected
    refine ⟨hIdle, hStruck.committed, ?_, hStruck.remaining⟩
    rw [Server.calmed, hIdle, hStruck.committed]
    rfl

/-- A transaction fails before it is committed and has changed nothing but its own tables, or these
are the tables then. -/
theorem committing_cases (hBody : KeepsTables Server.Busy body) {server : Server}
    (hBusy : server.Busy) (now : Instant) :
    (∃ error server', server.attempt now (Server.committing body) = (.error error, server') ∧
        server'.Busy ∧ server'.committed = server.committed) ∨
      ∃ result between server', server.attempt now body = (.ok result, between) ∧
        server.attempt now (Server.committing body) = (.ok result, server') ∧ server'.Idle ∧
        server'.committed = between.visible := by
  obtain ⟨hBetween, hSame⟩ := hBody server now hBusy
  rw [Server.attempt_committing]
  cases hResult : server.attempt now body with
  | mk outcome between =>
      rw [hResult] at hBetween hSame
      cases outcome with
      | error error => exact .inl ⟨error, between, rfl, hBetween, hSame⟩
      | ok result =>
          dsimp only
          rcases between.answer_cases now .commit with ⟨left, -, hAnswer⟩ |
            ⟨failure, server', hAnswer, hStruck⟩
          · rw [hAnswer, Server.answer_calmed]
            exact .inr ⟨result, between, _, rfl, rfl, rfl, rfl⟩
          · rw [hAnswer]
            have hOpen : server'.transaction = between.transaction := hStruck.transaction (by simp)
            have hBusy' : server'.Busy :=
              ⟨hStruck.connected (by simp) hBetween.1, hOpen ▸ hBetween.2⟩
            exact .inl ⟨failure.toError, server', rfl, hBusy', hStruck.committed.trans hSame⟩

/-- The server when a transaction has begun, with a plan of which something is left. -/
def Server.begun (server : Server) (left : List (Fault DatabaseError)) : Server :=
  { server with transaction := some server.committed, connected := true, faults := left }

theorem Server.busy_begun (server : Server) (left : List (Fault DatabaseError)) :
    (server.begun left).Busy :=
  ⟨rfl, Option.some_ne_none _⟩

/-- A transaction cannot be begun because of a failure, or its body comes next. -/
theorem begin_cases (server : Server) (now : Instant) (body : Attempt α) :
    (∃ left, Remaining left server.faults ∧
        server.attempt now (inTransaction body) =
          match (server.begun left).attempt now (Server.committing body) with
          | (.ok result, server) => (.ok result, server)
          | (.error error, server) => (.error error, (server.answer now .rollback).2)) ∨
      ∃ failure server',
        server.attempt now (inTransaction body) = (.error failure.toError, server') ∧
          server.Struck .beginTransaction failure server' := by
  rw [Server.attempt_inTransaction]
  rcases server.answer_cases now .beginTransaction with ⟨left, hLeft, hAnswer⟩ |
    ⟨failure, server', hAnswer, hStruck⟩
  · rw [hAnswer, Server.answer_calmed]
    exact .inl ⟨left, hLeft, rfl⟩
  · rw [hAnswer]
    exact .inr ⟨failure, server', rfl, hStruck⟩

theorem settles_inTransaction (hBody : KeepsTables Server.Busy body) :
    Settles (inTransaction body) := by
  intro server now hIdle
  rcases begin_cases server now body with ⟨left, -, hRun⟩ | ⟨failure, server', hRun, hStruck⟩
  · rcases committing_cases hBody (server.busy_begun left) now with
      ⟨error, server', hCommitting, hBusy, hSame⟩ | ⟨result, -, server', -, hCommitting, hEnded, -⟩
    · obtain ⟨hEnded, hSame', -⟩ := hBusy.rollback now
      rw [hRun, hCommitting]
      exact ⟨hEnded, fun _ _ => hSame'.trans hSame⟩
    · rw [hRun, hCommitting]
      refine ⟨hEnded, ?_⟩
      rintro _ ⟨⟩
  · rw [hRun]
    exact ⟨(hStruck.transaction (by simp)).trans hIdle, fun _ _ => hStruck.committed⟩

/-- A transaction that is committed has made of the tables what its body makes of them. -/
theorem ensures_inTransaction {before : Tables → Prop} {after : α → Tables → Prop}
    (hEnsures : Ensures before body after) (hBody : KeepsTables Server.Busy body)
    {server server' : Server} (hIdle : server.Idle) (hBefore : before server.visible)
    {now : Instant} {a : α} (hRun : server.attempt now (inTransaction body) = (.ok a, server')) :
    after a server'.visible := by
  rcases begin_cases server now body with ⟨left, -, hBegun⟩ | ⟨failure, server', hBegun, -⟩
  · rw [hBegun] at hRun
    rcases committing_cases hBody (server.busy_begun left) now with
      ⟨error, server', hEnd, -, -⟩ | ⟨result, between, server', hResult, hEnd, hIdle', hSame⟩
    all_goals rw [hEnd] at hRun
    · cases hRun
    · cases hRun
      rw [hIdle'.visible, hSame]
      rw [hIdle.visible] at hBefore
      exact hEnsures (server.begun left) now _ between hBefore hResult
  · rw [hBegun] at hRun
    cases hRun

/-- Failures of the plan, whichever they are, are all that keeps a transaction from what it comes to
if nothing goes wrong. -/
theorem steady_inTransaction (hSteady : Steady (fun _ _ _ => True) body)
    (hBody : KeepsTables Server.Busy body) :
    Steady (fun _ _ _ => True) (inTransaction body) := by
  have hCommit : Steady (fun _ _ _ => True) (send .commit) := .asking .commit fun _ _ _ => trivial
  have hCommitting : Steady (fun _ _ _ => True) (Server.committing body) :=
    hSteady.bind fun result => hCommit.bind fun _ => .pure result
  intro server now
  have hCalm : server.calmed.attempt now (inTransaction body) =
      match (server.calmed.begun []).attempt now (Server.committing body) with
      | (.ok result, server) => (.ok result, server)
      | (.error error, server) => (.error error, (server.answer now .rollback).2) :=
    Server.attempt_inTransaction body
  rcases begin_cases server now body with ⟨left, hLeft, hRun⟩ | ⟨failure, server', hRun, hStruck⟩
  · rcases hCommitting (server.begun left) now with hUndisturbed | ⟨error, hFails, hBlamed⟩
    · obtain ⟨hOutcome, hAfter, hLeft', hConnection⟩ := hUndisturbed
      have hCalm' : (server.calmed.begun []).attempt now (Server.committing body) =
          (((server.begun left).attempt now (Server.committing body)).1,
            ((server.begun left).attempt now (Server.committing body)).2.calmed) :=
        Prod.ext hOutcome.symm hAfter.symm
      rcases committing_cases hBody (server.busy_begun left) now with
        ⟨error, server', hEnd, hBusy, -⟩ | ⟨result, -, server', -, hEnd, -, -⟩
      · rw [hEnd] at hRun hCalm' hLeft'
        rw [hCalm'] at hCalm
        obtain ⟨-, -, hSame, hLeft''⟩ := hBusy.rollback now
        left
        constructor <;> rw [hRun]
        · rw [hCalm]
        · rw [hCalm, hSame]
        · exact (hLeft''.trans hLeft').trans hLeft
        · rintro ⟨_, ⟨⟩⟩
      · rw [hEnd] at hRun hCalm' hLeft' hConnection
        rw [hCalm'] at hCalm
        left
        constructor <;> rw [hRun]
        · rw [hCalm]
        · rw [hCalm]
        · exact hLeft'.trans hLeft
        · intro _
          rcases hConnection ⟨result, rfl⟩ with hConnected | hSame
          · exact .inl hConnected
          · exact .inl (hSame ▸ (server.busy_begun left).1)
    · obtain ⟨fault, hFault, -⟩ := hBlamed (server.busy_begun left).1
      obtain ⟨planned, hPlanned, -⟩ := hLeft fault hFault
      refine .inr ⟨error, ?_, fun _ => ⟨planned, hPlanned, trivial⟩⟩
      have hEnd : (server.begun left).attempt now (Server.committing body) = (.error error, _) :=
        Prod.ext hFails rfl
      rw [hRun, hEnd]
  · obtain ⟨planned, hPlanned, -⟩ := hStruck.planned
    exact .inr ⟨failure.toError, congrArg Prod.fst hRun, fun _ => ⟨planned, hPlanned, trivial⟩⟩

end Transaction

end Rolebook.Relational
