import Rolebook.Proofs.Memory.Run

/-!
# Scripts in trouble

A call can be kept from the store: it is answered with an error that the store knows nothing of, or
the script is brought to an end where it stands. A script that makes no more calls once it has
written (`WritesLast`) has changed nothing then, and it cannot end as if it had failed after it has
changed something.
-/

namespace Rolebook.Memory

open Rolebook.Store (Call Error Script)

variable {α β : Type}

/-- A call that may be kept from the store: the answer to it, if the script goes on, and the state
after it. The error that is put in the place of a call is one of the ways in which a call can
fail. -/
inductive TroubledCall (moment : Moment) (state : State) (call : Call) :
    Option call.Answer → State → Prop
  | stopped : TroubledCall moment state call none state
  | answered {answer : call.Answer} {state' : State}
      (hStep : Transition moment state call answer state') :
      TroubledCall moment state call (some answer) state'

/-- A run of a script by itself in which any calls may be kept from the store, with its result if it
comes to one. -/
inductive TroubledRun : State → Script α → Option α → State → Prop
  | done {state : State} (result : α) : TroubledRun state (.done result) (some result) state
  | stopped {state : State} (call : Call) (next : call.Answer → Script α) :
      TroubledRun state (.ask call next) none state
  | ask {state between after : State} {moment : Moment} {call : Call}
      {next : call.Answer → Script α}
      {answer : call.Answer} {ended? : Option α}
      (hStep : Transition moment state call answer between)
      (hRest : TroubledRun between (next answer) ended? after) :
      TroubledRun state (.ask call next) ended? after

/-- A script makes no more calls after a write that succeeds, but ends with a result that is
good. -/
def WritesLast (good : α → Prop) : Script α → Prop
  | .done _ => True
  | .ask call next =>
    (∀ error, WritesLast good (next (.error error))) ∧
      ∀ value, (readsOnly call = true ∧ WritesLast good (next (.ok value))) ∨
        ∃ result, next (.ok value) = .done result ∧ good result

/-- Such a script changes nothing, whatever calls are kept from the store, unless it ends with a
good result. -/
theorem WritesLast.unchanged_or_good {good : α → Prop} {state after : State} {script : Script α}
    {ended? : Option α} (hScript : WritesLast good script)
    (hRun : TroubledRun state script ended? after) :
    after = state ∨ ∃ result, ended? = some result ∧ good result := by
  induction hRun with
  | done result => exact .inl rfl
  | stopped call next => exact .inl rfl
  | @ask state between after moment call next answer ended? hStep hRest ih =>
      cases answer with
      | error error =>
          obtain rfl := hStep.eq_of_error
          exact ih (hScript.1 error)
      | ok value =>
          rcases hScript.2 value with ⟨hReads, hNext⟩ | ⟨result, hEnd, hGood⟩
          · obtain rfl := hStep.eq_of_readsOnly hReads
            exact ih hNext
          · rw [hEnd] at hRest
            cases hRest
            exact .inr ⟨result, rfl, hGood⟩

/-! ## How such scripts are built -/

section Building

variable {good : α → Prop} {good' : β → Prop}

theorem WritesLast.pure (result : α) : WritesLast good (pure result : Script α) :=
  trivial

/-- A script goes on after a reading, whatever the answer to it is. -/
theorem WritesLast.ask_reading {call : Call} {next : call.Answer → Script α}
    (hReads : readsOnly call = true) (hNext : ∀ answer, WritesLast good (next answer)) :
    WritesLast good (.ask call next) :=
  ⟨fun error => hNext (.error error), fun value => .inl ⟨hReads, hNext (.ok value)⟩⟩

/-- A script goes on after a call that fails, and it ends well after one that succeeds. -/
theorem WritesLast.ask_last {call : Call} {next : call.Answer → Script α}
    (hFails : ∀ error, WritesLast good (next (.error error)))
    (hEnds : ∀ value, ∃ result, next (.ok value) = .done result ∧ good result) :
    WritesLast good (.ask call next) :=
  ⟨hFails, fun value => .inr (hEnds value)⟩

/-- What comes after a script that writes last may make calls of its own, unless the script has
ended well. -/
theorem WritesLast.bind {script : Script α} {next : α → Script β} (hScript : WritesLast good script)
    (hNext : ∀ result, WritesLast good' (next result))
    (hGood : ∀ result, good result → ∃ result', next result = .done result' ∧ good' result') :
    WritesLast good' (script >>= next) := by
  induction script with
  | done result => exact hNext result
  | ask call rest ih =>
      refine ⟨fun error => ih _ (hScript.1 error), fun value => ?_⟩
      rcases hScript.2 value with ⟨hReads, hRest⟩ | ⟨result, hEnd, hResult⟩
      · exact .inl ⟨hReads, ih _ hRest⟩
      · obtain ⟨result', hDone, hResult'⟩ := hGood result hResult
        refine .inr ⟨result', ?_, hResult'⟩
        change (rest (.ok value)).bind next = .done result'
        rw [hEnd]
        exact hDone

theorem WritesLast.map {script : Script α} {turn : α → β} (hScript : WritesLast good script)
    (hGood : ∀ result, good result → good' (turn result)) :
    WritesLast good' (do return turn (← script)) :=
  hScript.bind (fun _ => .pure _) fun result hResult => ⟨turn result, rfl, hGood result hResult⟩

end Building

end Rolebook.Memory
