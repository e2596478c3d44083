import Rolebook.Proofs.Memory.Alone
import Rolebook.Proofs.Memory.Run

/-!
# Permissions within a history

A permission gets its name and its description when it is created and whenever it is changed. No
other call makes a difference to them (`History.same_permission`).
-/

namespace Rolebook.Memory

open Rolebook.Store (Call)

/-- Whether a call gives a permission a name and a description: it is a change of the permission, or
its creation. -/
def describes (id : Id) (moment : Moment) : (call : Call) → call.Answer → Bool
  | .createPermission _ _, .ok _ => moment.newId == id
  | .updatePermission other _ _, .ok _ => other == id
  | _, _ => false

variable {id : Id} {moment : Moment} {state state' : State} {call : Call} {answer : call.Answer}

/-- A permission that is written is there before, and afterwards it has the name and the description
that were given. -/
theorem Transition.updated {name : String} {description : Option String} {shown : Permission}
    (hStep : Transition moment state (.updatePermission id name description) (.ok shown) state') :
    ∃ record, state.permission? id = some record ∧
      state'.permission? id = some { record with name := Text.trim name, description } := by
  cases hStep with
  | reads _ hReads => cases hReads
  | @updatePermission _ _ kept _ record hKept hFound hFree =>
      obtain rfl := kept_eq_trim hKept
      exact ⟨record, hFound, by simp [hFound]⟩

/-- A call that does not describe a permission leaves it as it is, or deletes it. -/
theorem Transition.permission_of_not_describes (hStep : Transition moment state call answer state')
    (hOther : describes id moment call answer = false) :
    state'.permission? id = state.permission? id ∨ state'.permission? id = none := by
  cases hStep with
  | fails error => exact .inl rfl
  | reads _ hReads => exact .inl rfl
  | @createPermission name kept description hKept hFree =>
      have hId : id ≠ moment.newId := by
        rintro rfl
        simp [describes] at hOther
      exact .inl (by simp [PermissionRecord.new, hId])
  | @updatePermission other _ _ _ _ hKept hFound hFree =>
      have hId : id ≠ other := by
        rintro rfl
        simp [describes] at hOther
      exact .inl (by simp [hId])
  | @deletePermission other _ hFound =>
      by_cases hId : id = other
      · exact .inr (by simp [hId])
      · exact .inl (by simp [hId])
  | createRole hKept hFree => exact .inl (by simp)
  | updateRole hKept hFound hFree => exact .inl (by simp)
  | deleteRole hFound => exact .inl (by simp)
  | setRolePermissions hFound hKnown | replaceRolePermissions hFound hKnown => exact .inl (by simp)

/-- As long as no call describes a permission, it is as it was in the beginning, or gone. -/
theorem History.permission_of_not_describes {between : List Event} {event : Event}
    {later : List Event} (hHistory : History state (between ++ event :: later))
    (hOther : ∀ event ∈ between, describes id event.moment event.call event.answer = false) :
    event.before.permission? id = state.permission? id ∨ event.before.permission? id = none := by
  induction between generalizing state with
  | nil => exact .inl (by rw [hHistory.1])
  | cons first between ih =>
      obtain ⟨rfl, hRest⟩ := hHistory
      rw [List.forall_mem_cons] at hOther
      -- what is gone is not brought back, since that would take a call that describes it
      rcases ih hRest hOther.2 with hSame | hGone
      · rw [hSame]
        exact first.transition.permission_of_not_describes hOther.1
      · exact .inr hGone

theorem History.of_append {earlier later : List Event}
    (hHistory : History state (earlier ++ later)) :
    ∃ state', History state' later := by
  induction earlier generalizing state with
  | nil => exact ⟨state, hHistory⟩
  | cons event earlier ih => exact ih hHistory.2

/-- A permission that is there at two moments is the same one at both, if no call between them
describes it. -/
theorem History.same_permission {earlier between later : List Event} {read write : Event}
    {old current : PermissionRecord}
    (hHistory : History state (earlier ++ read :: between ++ write :: later))
    (hReads : readsOnly read.call = true) (hOld : read.before.permission? id = some old)
    (hCurrent : write.before.permission? id = some current)
    (hOther : ∀ event ∈ between, describes id event.moment event.call event.answer = false) :
    current = old := by
  rw [List.append_assoc] at hHistory
  obtain ⟨_, rfl, hBetween⟩ := hHistory.of_append
  rcases hBetween.permission_of_not_describes hOther with hSame | hGone
  · rw [read.transition.eq_of_readsOnly hReads, hOld, hCurrent] at hSame
    exact Option.some.inj hSame
  · rw [hCurrent] at hGone
    cases hGone

/-! ## Two calls of one client -/

/-- Two events of one client stand in the history in this order. -/
theorem eventsOf_eq_pair {client : Nat} {history : List Event} {read write : Event}
    (hOwn : eventsOf client history = [read, write]) :
    ∃ earlier between later, history = earlier ++ read :: between ++ write :: later := by
  obtain ⟨earlier, rest, rfl, -, -, hRest⟩ := List.filter_eq_cons_iff.1 hOwn
  obtain ⟨between, later, rfl, -⟩ := List.filter_eq_cons_iff.1 hRest
  exact ⟨earlier, between, later, by simp⟩

end Rolebook.Memory
