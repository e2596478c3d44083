/-!
# Programs of calls

A program asks an outside for one thing after the other and goes on with the answers. What the
outside does is left open, so one program can be run against any outside.
-/

namespace Rolebook

/-- A program that makes calls, each with answers of its own type, and ends with a result. -/
inductive Program {Call : Type} (Answer : Call → Type) (α : Type) : Type
  /-- The program has ended. -/
  | done (result : α)
  /-- The program makes a call and goes on with the answer. -/
  | ask (call : Call) (next : Answer call → Program Answer α)

namespace Program

variable {Call : Type} {Answer : Call → Type} {α β : Type}

/-- One program and then another, which gets the result of the first. -/
def bind : Program Answer α → (α → Program Answer β) → Program Answer β
  | .done result, next => next result
  | .ask call rest, next => .ask call fun answer => (rest answer).bind next

instance : Monad (Program Answer) where
  pure := .done
  bind := bind

/-- The program that makes one call. -/
def perform (call : Call) : Program Answer (Answer call) :=
  .ask call .done

/-- Runs a program against an outside that answers every call. -/
def run {m : Type → Type} [Monad m] (answer : (call : Call) → m (Answer call)) :
    Program Answer α → m α
  | .done result => pure result
  | .ask call next => do (next (← answer call)).run answer

end Program

end Rolebook
