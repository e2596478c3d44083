import Rolebook.Proofs.Memory.Reordering
import Rolebook.Proofs.Memory.Span
import Rolebook.Proofs.Memory.Trials
import Rolebook.Proofs.Service.Session

/-!
# Services whose calls may fail to reach the store

The identifiers that a service gives out differ (`idOfSerial_injective`). So if none of those to
come is in use, each script that the service runs on a store in memory is one that runs by itself
with unused identifiers, and what is rehearsed decides which calls are kept from the store
(`Session.runs`).
-/

namespace Rolebook

/-! ## Identifiers -/

namespace Text

/-- A number by its hexadecimal digits. -/
def hexValue (digits : List Char) : Nat :=
  ofDigits 16 (digits.map fun digit => (digitValue? 16 digit).getD 0)

theorem digitValue?_digitChar {digit : Nat} (hDigit : digit < 16) :
    digitValue? 16 (digitChar digit) = some digit :=
  (by decide +kernel : ∀ digit < 16, digitValue? 16 (digitChar digit) = some digit) digit hDigit

/-- Behind the digits of a number, further digits are read from it on. -/
theorem foldl_toDigitsAux {fuel value : Nat} (hFuel : value < fuel) (digits : List Char) :
    ((toDigitsAux 16 fuel value digits).map fun digit => (digitValue? 16 digit).getD 0).foldl
        (fun value digit => value * 16 + digit) 0 =
      (digits.map fun digit => (digitValue? 16 digit).getD 0).foldl
        (fun value digit => value * 16 + digit) value := by
  induction fuel generalizing value digits with
  | zero => omega
  | succ fuel ih =>
      have hLast : (digitValue? 16 (digitChar (value % 16))).getD 0 = value % 16 := by
        rw [digitValue?_digitChar (by omega), Option.getD_some]
      rw [toDigitsAux]
      split
      · next hSmall =>
          rw [List.map_cons, List.foldl_cons, hLast, Nat.mod_eq_of_lt hSmall,
            Nat.zero_mul, Nat.zero_add]
      · rw [ih (by omega), List.map_cons, List.foldl_cons, hLast, Nat.div_add_mod']

theorem hexValue_toPaddedDigits (width value : Nat) :
    hexValue (toPaddedDigits 16 width value) = value := by
  have hZero : (digitValue? 16 '0').getD 0 = 0 := by decide +kernel
  have hZeros : ∀ count,
      ((List.replicate count '0').map fun digit => (digitValue? 16 digit).getD 0).foldl
      (fun value digit => value * 16 + digit) 0 = 0 := by
    intro count
    induction count with
    | zero => rfl
    | succ count ih => rwa [List.replicate_succ, List.map_cons, List.foldl_cons, hZero]
  have hDigits := foldl_toDigitsAux (Nat.lt_succ_self value) []
  rwa [hexValue, ofDigits, toPaddedDigits, List.map_append, List.foldl_append, hZeros]

end Text

namespace Service

open Rolebook.Memory
open Rolebook.Store (Call Error Script)

theorem idOfSerial_injective {serial serial' : Nat}
    (hSame : idOfSerial serial = idOfSerial serial') : serial = serial' := by
  unfold idOfSerial at hSame
  have hDigits := String.ofList_injective ((String.append_right_inj _).1 hSame)
  calc
    serial = Text.hexValue (Text.toPaddedDigits 16 12 serial) :=
      (Text.hexValue_toPaddedDigits 12 serial).symm
    _ = Text.hexValue (Text.toPaddedDigits 16 12 serial') := congrArg Text.hexValue hDigits
    _ = serial' := Text.hexValue_toPaddedDigits 12 serial'

end Service

/-! ## Calls -/

namespace Memory

open Rolebook.Store (Call Error)

/-- A call has reached the store, or an error stands in its place, or the one who makes it has been
brought to an end. -/
inductive TrialOf (moment : Moment) (state : State) (call : Call) :
    Option call.Answer → State → Prop
  | reached :
      TrialOf moment state call (some (state.perform moment call).1) (state.perform moment call).2
  | failed (error : Error) : TrialOf moment state call (some (.error error)) state
  | stopped : TrialOf moment state call none state

theorem TrialOf.of_rolePermissionIds {moment : Moment} {state : State} {id : Id}
    {answer : Except Error IdSet} (hAnswer : answer = state.rolePermissionIds id) :
    TrialOf moment state (.rolePermissionIds id) (some answer) state := by
  subst hAnswer
  exact .reached

/-- A call makes no entity but one with the identifier that it is given. -/
theorem has_of_has_perform {moment : Moment} {state : State} {call : Call} {kind : EntityKind}
    {id : Id} (hAfter : (state.perform moment call).2.Has kind id) :
    state.Has kind id ∨ id = moment.newId := by
  have hStep := transition_perform moment state call
  generalize (state.perform moment call).1 = answer, (state.perform moment call).2 =
    state' at hStep hAfter
  cases hStep with
  | fails error | reads _ hReads => exact .inl hAfter
  | createPermission hKept hFree => exact (State.has_addPermission.1 hAfter).imp_right And.right
  | updatePermission hKept hFound hFree => exact .inl (State.has_describePermission.1 hAfter)
  | deletePermission hFound => exact .inl (State.has_removePermission.1 hAfter).1
  | createRole hKept hFree => exact (State.has_addRole.1 hAfter).imp_right And.right
  | updateRole hKept hFound hFree => exact .inl (State.has_renameRole.1 hAfter)
  | deleteRole hFound => exact .inl (State.has_removeRole.1 hAfter).1
  | setRolePermissions hFound hKnown | replaceRolePermissions hFound hKnown =>
      exact .inl (State.has_rewrite.1 hAfter)

end Memory

open Rolebook.Memory
open Rolebook.Store (Call Error Script)

namespace Rehearsal

variable (inner : State) (durable : Bool) (faults : List (Fault Failure)) (moment : Moment)
  (call : Call)

theorem trialOf_performDirectly :
    ∃ answer? inner' faults',
      (⟨inner, durable, faults, none⟩ : Rehearsal).performDirectly moment call =
        (answer?, ⟨inner', durable, faults', none⟩) ∧ TrialOf moment inner call answer? inner' := by
  unfold performDirectly
  rcases Fault.strike call.label faults with ⟨_ | error | _, faults'⟩
  · dsimp only
    rw [performUnharmed_of_no_rival]
    exact ⟨_, _, _, rfl, .reached⟩
  · exact ⟨_, _, _, rfl, .failed error⟩
  · exact ⟨_, _, _, rfl, .stopped⟩

theorem trialOf_perform (hInner : Coherent inner) :
    ∃ answer? inner' faults',
      (⟨inner, durable, faults, none⟩ : Rehearsal).perform moment call =
        (answer?, ⟨inner', durable, faults', none⟩) ∧ TrialOf moment inner call answer? inner' := by
  cases call with
  | rolePermissionIds id =>
      -- to read the role in place of the call comes to the same
      obtain ⟨answer?, inner', faults', hPerform, hTrial⟩ :=
        trialOf_performDirectly inner durable faults moment (.getRole id)
      refine ⟨_, inner', faults', by rw [perform, hPerform], ?_⟩
      cases hTrial with
      | reached => exact .of_rolePermissionIds (hInner.rolePermissionIds_eq id).symm
      | failed error => exact .failed error
      | stopped => exact .stopped
  | _ => exact trialOf_performDirectly ..

end Rehearsal

namespace Service

theorem Backend.trialOf_perform {backend : Backend} {state : State}
    (hMemory : backend.memory? = some state) (hState : Coherent state) (moment : Moment)
    (call : Call) :
    ∃ state', (backend.perform moment call).2.memory? = some state' ∧
      TrialOf moment state call (backend.perform moment call).1 state' := by
  rcases backend with inner | ⟨inner, durable, faults, _ | rival⟩ | store
  · obtain rfl := Option.some.inj hMemory
    exact ⟨_, rfl, .reached⟩
  · obtain rfl := Option.some.inj hMemory
    obtain ⟨answer?, inner', faults', hPerform, hTrial⟩ :=
      Rehearsal.trialOf_perform inner durable faults moment call hState
    rw [perform, hPerform]
    exact ⟨inner', rfl, hTrial⟩
  · cases hMemory
  · cases hMemory

/-! ## Scripts -/

namespace Session

/-- No entity has an identifier that the service will give out. -/
def IdsUnused (session : Session) (state : State) : Prop :=
  ∀ serial, session.nextSerial ≤ serial → ∀ kind, ¬ state.Has kind (idOfSerial serial)

variable {α : Type} {session : Session} {state : State}

theorem IdsUnused.newIdUnused (hUnused : session.IdsUnused state) (call : Call) :
    NewIdUnused session.moment state call := by
  have hNone := hUnused session.nextSerial (Nat.le_refl _)
  cases call with
  | createPermission name description => exact not_has_permission_iff.1 (hNone .permission)
  | createRole name => exact not_has_role_iff.1 (hNone .role)
  | _ => trivial

/-- What a service runs on its store in memory is a run of the script by itself. -/
theorem runs (hMemory : session.backend.memory? = some state) (hState : Coherent state)
    (hUnused : session.IdsUnused state) (script : Script α) :
    ∃ trail after, (session.run script).2.backend.memory? = some after ∧
      Runs state script trail (session.run script).1 after := by
  induction script generalizing session state with
  | done result => exact ⟨[], state, hMemory, .done result⟩
  | ask call next ih =>
      obtain ⟨between, hBetween, hTrial⟩ :=
        Backend.trialOf_perform hMemory hState session.moment call
      rw [run_ask, perform]
      generalize session.backend.perform session.moment call = outcome at hBetween hTrial ⊢
      obtain ⟨answer?, backend⟩ := outcome
      let later : Session := { session with backend, nextSerial := session.nextSerial + 1 }
      have hLater : later.backend.memory? = some between := hBetween
      cases hTrial with
      | stopped => exact ⟨_, state, hBetween, .stopped call next⟩
      | failed error =>
          have hUnused' : later.IdsUnused state :=
            fun serial hSerial => hUnused serial (Nat.le_of_succ_le hSerial)
          obtain ⟨trail, after, hAfter, hRest⟩ := ih (.error error) hLater hState hUnused'
          exact ⟨_, after, hAfter, .failed error hRest⟩
      | reached =>
          have hUnused' : later.IdsUnused (state.perform session.moment call).2 := by
            intro serial hSerial kind hHas
            rcases has_of_has_perform hHas with hBefore | hNew
            · exact hUnused serial (Nat.le_of_succ_le hSerial) kind hBefore
            · exact absurd (idOfSerial_injective hNew) (Nat.ne_of_gt hSerial)
          obtain ⟨trail, after, hAfter, hRest⟩ :=
            ih _ hLater (hState.perform session.moment call) hUnused'
          exact ⟨_, after, hAfter, .reached (hUnused.newIdUnused call) hRest⟩

end Session

end Service

end Rolebook
