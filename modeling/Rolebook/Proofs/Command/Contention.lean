import Rolebook.Command.Evaluate
import Rolebook.Proofs.Memory.Run

/-!
# Commands that contend for a role

A command reads a role, makes up its new set of permissions and writes that set as a whole. What it
has read may be out of date by then, since any number of others may have written in between. The
write is let through only at the revision that was read, and at one revision a role has one set
(`Prospect.same_sets`), so the set that is written over is the one that was read, and no change that
others made gets lost.

`Ended` says how a run comes to its end, by all the events of the run; it is found by induction on
the attempts that are left, with what the run has done so far in front (`writeChange_ended`).
-/

namespace Rolebook.Command

open Rolebook.Memory
open Rolebook.Store (Call Script)

/-! ## Changes of a set -/

/-- The command that asks for a change. -/
def Change.command (change : Change) (role permission : String) : Phrase.Command :=
  match change with
  | .grant => .assignPermission role permission
  | .revoke => .removePermission role permission

/-- A set has no need of a change. -/
def Change.Idle (change : Change) (permission : Id) (set : IdSet) : Prop :=
  match change with
  | .grant => permission ∈ set
  | .revoke => permission ∉ set

/-- A set becomes another one by a change, which makes a difference. -/
def Change.Makes (change : Change) (permission : Id) (set changed : IdSet) : Prop :=
  match change with
  | .grant => permission ∉ set ∧ ∀ other, other ∈ changed ↔ other = permission ∨ other ∈ set
  | .revoke => permission ∈ set ∧ ∀ other, other ∈ changed ↔ other ∈ set ∧ other ≠ permission

theorem Change.idle_of_wanted? {change : Change} {permission : Id} {set : IdSet}
    (h : change.wanted? permission set = none) : change.Idle permission set := by
  cases change with
  | grant =>
      by_cases hMember : permission ∈ set
      · exact hMember
      · simp [Change.wanted?, hMember] at h
  | revoke =>
      by_cases hMember : permission ∈ set
      · simp [Change.wanted?, hMember] at h
      · exact hMember

theorem Change.makes_of_wanted? {change : Change} {permission : Id} {set changed : IdSet}
    (h : change.wanted? permission set = some changed) : change.Makes permission set changed := by
  cases change with
  | grant =>
      by_cases hMember : permission ∈ set
      · simp [Change.wanted?, hMember] at h
      · obtain rfl : set.insert permission = changed := by simpa [Change.wanted?, hMember] using h
        exact ⟨hMember, fun other => OrderedSet.mem_insert⟩
  | revoke =>
      by_cases hMember : permission ∈ set
      · obtain rfl : set.erase permission = changed := by simpa [Change.wanted?, hMember] using h
        exact ⟨hMember, fun other => OrderedSet.mem_erase⟩
      · simp [Change.wanted?, hMember] at h

theorem evaluate_of_change {text : String} {change : Change} {role permission : String}
    (hText : Phrase.parse? text = some (change.command role permission)) :
    evaluate text = changeByName change (Text.trim role) (Text.trim permission) := by
  unfold evaluate
  rw [hText]
  cases change <;> rfl

/-! ## Runs -/

/-- How a run that is to make a change has ended, by all its events. -/
inductive Ended (change : Change) (role permission : Id) (own : List Event) :
    Except Store.Error Bool → Prop
  | written {earlier : List Event} {write read : Event} {shown : Role}
      {record : RoleRecord} {wanted : IdSet}
      (hOwn : own = earlier ++ [write]) (hUntouched : Untouched earlier)
      (hRead : LastRead earlier read shown) (hRole : shown.id = role)
      (hWanted : change.wanted? permission shown.permissionIds = some wanted)
      (hFound : write.before.role? role = some record)
      (hRevision : record.revision = shown.revision)
      (hAfter : write.after = (write.before.setGrants role wanted).bumpRole role) :
      Ended change role permission own (.ok true)
  | idle {read : Event} {shown : Role} (hUntouched : Untouched own)
      (hRead : LastRead own read shown)
      (hRole : shown.id = role) (hIdle : change.wanted? permission shown.permissionIds = none) :
      Ended change role permission own (.ok false)
  | failed (error : Store.Error) (hUntouched : Untouched own) :
      Ended change role permission own (.error error)

section Runs

variable {change : Change} {role permission : Id} {prior events : List Event} {read : Event}
  {shown : Role} {result : Except Store.Error Bool}

/-- A script brings every run to its end, whatever the run has done before as long as it has not
changed anything, when the script is given the role that the run has read last. -/
def Finishes (change : Change) (role permission : Id)
    (script : Role → Script (Except Store.Error Bool)) : Prop :=
  ∀ {prior events : List Event} {read : Event} {shown : Role} {result : Except Store.Error Bool},
    (∀ event ∈ events, Coherent event.before) → Untouched prior →
      LastRead prior read shown → shown.id = role →
      Follows (script shown) events result → Ended change role permission (prior ++ events) result

/-- A role that is read again is the one that was read before, so the run is brought to its end with
it. -/
theorem reread_ended {again : Role → Script (Except Store.Error Bool)}
    (hAgain : Finishes change role permission again)
    (hCoherent : ∀ event ∈ events, Coherent event.before) (hPrior : Untouched prior)
    (hRun : Follows (reread role again) events result) :
    Ended change role permission (prior ++ events) result := by
  obtain ⟨reread, later, rfl, hCall, hRest⟩ := follows_ask hRun
  rw [List.forall_mem_cons] at hCoherent
  rw [List.append_cons]
  have hShown := reread.shownRole?_of_call hCall
  have hPrior' : Untouched (prior ++ [reread]) :=
    hPrior.append (.cons ((reread.transition_of_call hCall).eq_of_readsOnly rfl) .nil)
  have hAnswer : (reread.before.perform reread.moment (.getRole role)).1 =
      reread.before.getRole role := rfl
  rw [hAnswer] at hRest hShown
  cases hFound : reread.before.getRole role with
  | error error =>
      rw [hFound] at hRest
      obtain ⟨rfl, rfl⟩ := hRest
      rw [List.append_nil]
      exact .failed error hPrior'
  | ok shown =>
      rw [hFound] at hRest hShown
      obtain ⟨-, -, hRole, -⟩ := hCoherent.1.shown_role hFound
      -- from here on this is the role that the run has read last
      exact hAgain hCoherent.2 hPrior' (lastRead_of_getLast hShown prior) hRole hRest

/-- An attempt brings a run to its end, or it changes nothing and the role is read again. -/
theorem finishes_attemptChange {again? : Option (Role → Script (Except Store.Error Bool))}
    (hAgain : ∀ again ∈ again?, Finishes change role permission again) :
    Finishes change role permission fun shown => attemptChange change permission shown again? := by
  intro prior events read shown result hCoherent hPrior hRead hRole hRun
  dsimp only [attemptChange] at hRun
  cases hWanted : change.wanted? permission shown.permissionIds with
  | none =>
      rw [hWanted] at hRun
      obtain ⟨rfl, rfl⟩ := hRun
      rw [List.append_nil]
      exact .idle hPrior hRead hRole hWanted
  | some wanted =>
      rw [hWanted] at hRun
      obtain ⟨write, later, rfl, hCall, hRest⟩ := follows_ask hRun
      have hStep := write.transition_of_call hCall
      generalize (write.before.perform write.moment
        (.replaceRolePermissions shown.id shown.revision wanted)).1 = answer at hStep hRest
      subst hRole
      cases answer with
      | ok written =>
          obtain ⟨rfl, rfl⟩ := hRest
          obtain ⟨record, hFound, hRevision, hAfter⟩ := hStep.replaced
          exact .written rfl hPrior hRead rfl hWanted hFound hRevision hAfter
      | error error =>
          have hRefused : Untouched (prior ++ [write]) :=
            hPrior.append (.cons hStep.eq_of_error .nil)
          rw [List.append_cons]
          -- only a revision that has moved on, with attempts left, makes the run read again
          split at hRest
          · next hAnswer => cases hAnswer
          · exact reread_ended (hAgain _ rfl) (List.forall_mem_cons.1 hCoherent).2 hRefused hRest
          · obtain ⟨rfl, rfl⟩ := hRest
            rw [List.append_nil]
            exact .failed _ hRefused

theorem finishes_writeChange (attempts : Nat) :
    Finishes change role permission (writeChange change permission attempts) := by
  induction attempts with
  | zero => exact finishes_attemptChange (by simp)
  | succ attempts ih =>
      refine finishes_attemptChange fun again hAgain => ?_
      obtain rfl := Option.some.inj hAgain
      exact ih

end Runs

/-- A run has looked up a role and a permission by their names. -/
structure Found (own : List Event) (roleName permissionName : String) (role permission : Id) :
    Prop where
  role : ∃ event ∈ own, ∃ shown, event.before.getRoleByName roleName = some shown ∧ shown.id = role
  permission : ∃ event ∈ own, ∃ shown, event.before.getPermissionByName permissionName = some
    shown ∧ shown.id = permission

/-- The status of the reply to a run that has ended. -/
def endStatus : Except Store.Error Bool → Status
  | .ok true => .success
  | .ok false => .info
  | .error _ => .failure

/-- A run that looks for what it is to change finds both and comes to its end with them, or it fails
without a write. -/
theorem changeByName_ended {change : Change} {roleName permissionName : String} {own : List Event}
    {reply : Reply} (hCoherent : ∀ event ∈ own, Coherent event.before)
    (hRun : Follows (changeByName change roleName permissionName) own reply) :
    reply.status = .failure ∧ Untouched own ∨
      ∃ role permission result, Found own roleName permissionName role permission ∧
        Ended change role permission own result ∧ reply.status = endStatus result := by
  dsimp only [changeByName] at hRun
  obtain ⟨first, later, rfl, hFirst, hRest⟩ := follows_ask hRun
  have hShown := first.shownRole?_of_call hFirst
  have hUntouched : Untouched [first] :=
    .cons ((first.transition_of_call hFirst).eq_of_readsOnly rfl) .nil
  have hAnswer : (first.before.perform first.moment (.getRoleByName roleName)).1 =
      .ok (first.before.getRoleByName roleName) := rfl
  rw [hAnswer] at hRest hShown
  cases hRole : first.before.getRoleByName roleName with
  | none =>
      rw [hRole] at hRest
      obtain ⟨rfl, rfl⟩ := hRest
      exact .inl ⟨rfl, hUntouched⟩
  | some role =>
      rw [hRole] at hRest hShown
      obtain ⟨second, later, rfl, hSecond, hRest⟩ := follows_ask hRest
      have hNothing := second.shownRole?_of_call hSecond
      have hUntouched' : Untouched [first, second] :=
        hUntouched.append (.cons ((second.transition_of_call hSecond).eq_of_readsOnly rfl) .nil)
      have hAnswer' :
          (second.before.perform second.moment (.getPermissionByName permissionName)).1 =
          .ok (second.before.getPermissionByName permissionName) := rfl
      rw [hAnswer'] at hRest
      cases hPermission : second.before.getPermissionByName permissionName with
      | none =>
          rw [hPermission] at hRest
          obtain ⟨rfl, rfl⟩ := hRest
          exact .inl ⟨rfl, hUntouched'⟩
      | some permission =>
          rw [hPermission] at hRest
          obtain ⟨events, later, result, rfl, hWrite, hReply⟩ := follows_bind.1 hRest
          -- the permission was looked up after the role, but that shows no role
          have hRead : LastRead [first, second] first role :=
            (lastRead_of_getLast hShown []).append (List.forall_mem_singleton.2 hNothing)
          have hEnded :=
            finishes_writeChange _ (fun event hEvent => hCoherent event (by simp [hEvent]))
            hUntouched' hRead rfl hWrite
          have hEnd : later = [] ∧ reply.status = endStatus result := by
            rcases result with error | _ | _ <;> obtain ⟨rfl, rfl⟩ := hReply <;> exact ⟨rfl, rfl⟩
          obtain ⟨rfl, hStatus⟩ := hEnd
          refine .inr ⟨role.id, permission.id, result, ?_, ?_, hStatus⟩
          · exact ⟨⟨first, by simp, role, hRole, rfl⟩,
              ⟨second, by simp, permission, hPermission, rfl⟩⟩
          · rw [List.append_nil]
            exact hEnded

/-! ## Nothing is lost -/

/-- Any number of clients may use a store at the same time, and one of them runs a command that asks
for a change. If the command succeeds, its last call has made this change, and nothing else, to the
set that the role had at that very moment, and no other call of the command has changed anything. If
it reports that there was nothing to do, that was so when it last read the role. Unless it succeeds
it has changed nothing. -/
theorem changes_are_made_to_the_current_set {history : List Event}
    (hHistory : History .empty history) (hFresh : FreshIds history)
    (hBounded : ∀ id, writes id history < UInt64.size) {client : Nat} {text : String}
    {change : Change} {roleName permissionName : String} {reply : Reply}
    (hText : Phrase.parse? text = some (change.command roleName permissionName))
    (hRun : Follows (evaluate text) (eventsOf client history) reply) :
    (reply.status = .failure ∧ Untouched (eventsOf client history)) ∨
    ∃ role permission, Found (eventsOf client history) (Text.trim roleName)
      (Text.trim permissionName) role permission ∧
      ((reply.status = .success ∧
          ∃ earlier write, eventsOf client history = earlier ++ [write] ∧ Untouched earlier ∧
            change.Makes permission (write.before.permissionIdsOf role)
              (write.after.permissionIdsOf role) ∧
            ∀ other, other ≠ role →
              write.after.permissionIdsOf other = write.before.permissionIdsOf other) ∨
        (reply.status = .info ∧ Untouched (eventsOf client history) ∧
          ∃ read shown, LastRead (eventsOf client history) read shown ∧
            read.before.getRole role = .ok shown ∧
            change.Idle permission shown.permissionIds)) := by
  have hStart := Prospect.start hHistory hFresh hBounded
  have hMoment : ∀ event ∈ eventsOf client history, event.before ∈ moments .empty history :=
    fun event hEvent => (hStart.of_event (List.mem_filter.1 hEvent).1).1
  have hCoherent : ∀ event ∈ eventsOf client history, Coherent event.before :=
    fun event hEvent => hStart.coherent_of_moment (hMoment event hEvent)
  rw [evaluate_of_change hText] at hRun
  generalize eventsOf client history = own at *
  rcases changeByName_ended hCoherent hRun with hFailed |
    ⟨role, permission, result, hFound, hEnded, hStatus⟩
  · exact .inl hFailed
  · cases hEnded with
    | failed error hUntouched => exact .inl ⟨hStatus, hUntouched⟩
    | @idle read shown hUntouched hRead hRole hIdle =>
        have hShown := (hCoherent read hRead.mem).getRole_of_shownRole? hRead.1
        refine .inr ⟨role, permission, hFound,
          .inr ⟨hStatus, hUntouched, read, shown, hRead, ?_, ?_⟩⟩
        · exact hRole ▸ hShown
        · exact Change.idle_of_wanted? hIdle
    | @written earlier write read shown record wanted hOwn hUntouched hRead hRole hWanted hPresent
        hRevision hAfter =>
        refine .inr ⟨role, permission, hFound,
          .inl ⟨hStatus, earlier, write, hOwn, hUntouched, ?_, ?_⟩⟩
        · -- the role was read and written at one revision, so it had one set at both moments
          have hReadOwn : read ∈ own := by
            rw [hOwn]
            exact List.mem_append_left _ hRead.mem
          have hWriteOwn : write ∈ own := by
            rw [hOwn]
            exact List.mem_append_right _ (List.mem_singleton_self _)
          have hShown := (hCoherent read hReadOwn).getRole_of_shownRole? hRead.1
          rw [hRole] at hShown
          have hSame := hStart.set_of_shown (hMoment read hReadOwn) (hMoment write hWriteOwn) hShown
            hPresent hRevision
          rw [hAfter, State.permissionIdsOf_bumpRole, State.permissionIdsOf_setGrants,
            if_pos rfl, ← hSame]
          exact Change.makes_of_wanted? hWanted
        · intro other hOther
          rw [hAfter, State.permissionIdsOf_bumpRole,
            State.permissionIdsOf_setGrants, if_neg hOther]

/-- One client gives a permission to a role while another one gives it a different permission. The
first to write wins, and the other reads the role again and adds to what it finds. -/
def rivals : List Event :=
  historyOf .empty [
    (0, ⟨⟨0⟩, "r"⟩, .createRole "editor"),
    (0, ⟨⟨1⟩, "p1"⟩, .createPermission "publish" none),
    (0, ⟨⟨2⟩, "p2"⟩, .createPermission "audit" none),
    (1, ⟨⟨3⟩, ""⟩, .getRoleByName "editor"),
    (2, ⟨⟨4⟩, ""⟩, .getRoleByName "editor"),
    (1, ⟨⟨5⟩, ""⟩, .getPermissionByName "publish"),
    (2, ⟨⟨6⟩, ""⟩, .getPermissionByName "audit"),
    (2, ⟨⟨7⟩, ""⟩, .replaceRolePermissions "r" 0 (.ofList ["p2"])),
    (1, ⟨⟨8⟩, ""⟩, .replaceRolePermissions "r" 0 (.ofList ["p1"])),
    (1, ⟨⟨9⟩, ""⟩, .getRole "r"),
    (1, ⟨⟨10⟩, ""⟩, .replaceRolePermissions "r" 1 (.ofList ["p1", "p2"]))]

/-- The text of the one who writes second. -/
def lateText : String :=
  "give the role \"editor\" the permission \" publish\""

theorem changes_are_made_to_the_current_set_of_rivals :
    History .empty rivals ∧ FreshIds rivals ∧ (∀ id, writes id rivals < UInt64.size) ∧
      Phrase.parse? lateText = some (Change.grant.command "editor" " publish") ∧
      Follows (evaluate lateText) (eventsOf 1 rivals)
        (.to .assignPermission .success "Assigned permission 'publish' to role 'editor'.") ∧
      ∃ role permission, Found (eventsOf 1 rivals) "editor" "publish" role permission ∧
        ∃ earlier write, eventsOf 1 rivals = earlier ++ [write] ∧ Untouched earlier ∧
          Change.grant.Makes permission (write.before.permissionIdsOf role)
            (write.after.permissionIdsOf role) := by
  have hHistory : History .empty rivals := history_historyOf ..
  have hFresh : FreshIds rivals := by unfold FreshIds; decide +kernel
  have hBounded : ∀ id, writes id rivals < UInt64.size := fun id =>
    Nat.lt_of_le_of_lt List.countP_le_length (by decide +kernel)
  have hText : Phrase.parse? lateText =
      some (Change.grant.command "editor" " publish") := by decide +kernel
  have hRun : Follows (evaluate lateText) (eventsOf 1 rivals)
      (.to .assignPermission .success "Assigned permission 'publish' to role 'editor'.") := by
        decide +kernel
  refine ⟨hHistory, hFresh, hBounded, hText, hRun, ?_⟩
  have hEnd :=
    @changes_are_made_to_the_current_set rivals hHistory hFresh hBounded 1 lateText .grant "editor"
      " publish" _ hText hRun
  rw [show Text.trim "editor" = "editor" by decide +kernel, show Text.trim " publish" =
    "publish" by decide +kernel] at hEnd
  generalize eventsOf 1 rivals = own at hEnd ⊢
  rcases hEnd with
    ⟨hStatus, -⟩ | ⟨role, permission, hFound,
      ⟨-, earlier, write, hOwn, hUntouched, hMakes, -⟩ | ⟨hStatus, -⟩⟩
  · cases hStatus
  · exact ⟨role, permission, hFound, earlier, write, hOwn, hUntouched, hMakes⟩
  · cases hStatus

end Rolebook.Command
