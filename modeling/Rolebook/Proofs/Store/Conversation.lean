import Rolebook.Store.Call

/-!
# Conversations with a store

What a script asks a store for and what it is answered, one exchange after the other. Nothing is
assumed of the store here: its answers need not fit each other, and it may answer any call with any
error (`Behaviour`). A script comes to its end with every store, since it is a tree without infinite
branches (`Behaviour.converse`), and whatever can be said of its conversation is said of all logs
that it can have (`Converses`).
-/

namespace Rolebook.Store

/-- A call and the answer to it. -/
structure Exchange where
  call : Call
  answer : call.Answer

/-- The error that a call fails by. -/
def Exchange.error? : Exchange → Option Error
  | ⟨_, .error error⟩ => some error
  | ⟨_, .ok _⟩ => none

/-- What a store answers to a call, given all that it has been asked and has answered before. -/
abbrev Behaviour : Type :=
  List Exchange → (call : Call) → call.Answer

/-- The log of a script that goes on with each answer of a store, after the exchanges that there
have been, and the result that it ends with. -/
def Behaviour.converse {α : Type} (store : Behaviour) : List Exchange → Script α → List Exchange × α
  | _, .done result => ([], result)
  | earlier, .ask call next =>
    let exchange : Exchange := ⟨call, store earlier call⟩
    let (later, result) := store.converse (earlier ++ [exchange]) (next exchange.answer)
    (exchange :: later, result)

/-- A script can have this log and end with this result. -/
inductive Converses {α : Type} : Script α → List Exchange → α → Prop
  | done (result : α) : Converses (.done result) [] result
  | ask {call : Call} {next : call.Answer → Script α} {answer : call.Answer}
      {log : List Exchange} {result : α}
      (hRest : Converses (next answer) log result) :
      Converses (.ask call next) (⟨call, answer⟩ :: log) result

theorem converses_converse {α : Type} (store : Behaviour) (earlier : List Exchange)
    (script : Script α) :
    Converses script (store.converse earlier script).1 (store.converse earlier script).2 := by
  induction script generalizing earlier with
  | done result => exact .done result
  | ask call next ih => exact .ask (ih _ _)

/-- A script that is followed by another one has the first of the exchanges to itself. -/
theorem Converses.of_bind {α β : Type} {script : Script α} {next : α → Script β}
    {log : List Exchange} {result : β} (hRun : Converses (script >>= next) log result) :
    ∃ first later ended, log = first ++ later ∧ Converses script first ended ∧
      Converses (next ended) later result := by
  induction script generalizing log with
  | done ended => exact ⟨[], log, ended, rfl, .done ended, hRun⟩
  | ask call rest ih =>
      cases hRun with
      | @ask _ _ answer _ _ hRest =>
          obtain ⟨first, later, ended, rfl, hFirst, hLater⟩ := ih answer hRest
          exact ⟨⟨call, answer⟩ :: first, later, ended, rfl, .ask hFirst, hLater⟩

/-! ## Logs -/

/-- Something holds at each exchange of a log, with those before it and those after it. -/
def AtEach (log : List Exchange) (holds : List Exchange → Exchange → List Exchange → Prop) : Prop :=
  ∀ earlier exchange later, log = earlier ++ exchange :: later → holds earlier exchange later

section AtEach

variable {log : List Exchange} {exchange : Exchange}
  {holds holds' : List Exchange → Exchange → List Exchange → Prop}

theorem atEach_nil : AtEach [] holds :=
  fun _ _ _ hLog => absurd hLog (by simp)

theorem atEach_cons :
    AtEach (exchange :: log) holds ↔
      holds [] exchange log ∧ AtEach log fun earlier => holds (exchange :: earlier) := by
  constructor
  · intro hEach
    exact ⟨hEach [] exchange log rfl, fun earlier other later hLog =>
      hEach (exchange :: earlier) other later (congrArg (exchange :: ·) hLog)⟩
  · rintro ⟨hFirst, hRest⟩ earlier other later hLog
    cases earlier with
    | nil =>
        obtain ⟨rfl, rfl⟩ := List.cons.inj hLog
        exact hFirst
    | cons first earlier =>
        obtain ⟨rfl, rfl⟩ := List.cons.inj hLog
        exact hRest earlier other later rfl

theorem AtEach.mono (hEach : AtEach log holds)
    (hHolds : ∀ earlier exchange later, holds earlier exchange later →
      holds' earlier exchange later) :
    AtEach log holds' :=
  fun earlier exchange later hLog => hHolds _ _ _ (hEach earlier exchange later hLog)

end AtEach

/-- The role that a call returns. -/
def Exchange.role? : Exchange → Option Role
  | ⟨.getRoleByName _, .ok role?⟩ => role?
  | ⟨.getRole _, .ok role⟩ | ⟨.createRole _, .ok role⟩ | ⟨.updateRole _ _, .ok role⟩ =>
    some (role : Role)
  | ⟨.setRolePermissions _ _, .ok role⟩ | ⟨.replaceRolePermissions _ _ _, .ok role⟩ =>
    some (role : Role)
  | _ => none

/-- The role that was returned last. -/
def lastRole? (log : List Exchange) : Option Role :=
  (log.filterMap Exchange.role?).getLast?

theorem lastRole?_append_of_some {exchange : Exchange} {role : Role}
    (hRole : exchange.role? = some role) (log : List Exchange) :
    lastRole? (log ++ [exchange]) = some role := by
  simp [lastRole?, hRole]

end Rolebook.Store
