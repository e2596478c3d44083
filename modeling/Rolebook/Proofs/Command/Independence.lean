import Rolebook.Proofs.Command.Meaning

/-!
# Commands that leave each other alone

Two commands are to change whether a role grants a permission, and they are not both about the same
role and the same permission. Then they can be given in either order
(`independent_commands_commute`). Each of them writes the whole set of its role, which may be the
role of the other one as well, but what it comes to is one pair and one step of a revision, and such
changes of two pairs commute (`Change.apply_comm`). Nor does a command find anything else when the
other one was given before it (`ChangeMeans.framed`), so it means the same once more.
-/

namespace Rolebook.Command

open Rolebook.Memory

/-! ## Changes of two pairs -/

section Changes

variable {change other : Change} {grant grant' : Grant} {state : State}

/-- Changes of two pairs commute, also those of two pairs of one role, whose revision both of them
take further. -/
theorem Change.apply_comm (hApart : grant ≠ grant') :
    change.apply grant (other.apply grant' state) =
      other.apply grant' (change.apply grant state) := by
  have hGrants : (change.apply grant (other.apply grant' state)).grants =
      (other.apply grant' (change.apply grant state)).grants := by
    apply OrderedSet.ext
    intro pair
    simp only [Change.mem_apply]
    by_cases hPair : pair = grant
    · simp [hPair, hApart]
    · simp [hPair]
  have hRoles : (change.apply grant (other.apply grant' state)).roles =
      (other.apply grant' (change.apply grant state)).roles :=
    Table.update_comm state.roles grant'.role grant.role fun record =>
      { record with revision := record.revision + 1 }
  exact State.mk.injEq .. |>.mpr ⟨rfl, hRoles, hGrants, rfl⟩

/-- Whether there is a need of a change is not altered by a change of another pair. -/
theorem Change.idle_apply_iff {role permission : Id}
    (hApart : (⟨role, permission⟩ : Grant) ≠ grant) :
    change.Idle permission ((other.apply grant state).permissionIdsOf role) ↔
      change.Idle permission (state.permissionIdsOf role) := by
  have hMember : permission ∈ (other.apply grant state).permissionIdsOf role ↔
      permission ∈ state.permissionIdsOf role := by
    rw [State.mem_permissionIdsOf, State.mem_permissionIdsOf, Change.mem_apply, if_neg hApart]
  cases change with
  | grant => exact hMember
  | revoke => exact not_congr hMember

end Changes

/-! ## Changes by names -/

section Meanings

variable {change change' : Change} {roleName permissionName roleName' permissionName' : String}
  {state : State} {reply reply' : Reply} {pair? pair?' : Option Grant}

/-- What is named is the role and the permission of a pair. -/
def Names (roleName permissionName : String) (state : State) (grant : Grant) : Prop :=
  Named RoleRecord.name state.roles roleName grant.role ∧
    Named PermissionRecord.name state.permissions permissionName grant.permission

/-- Other names are those of another pair. -/
theorem Names.apart {grant grant' : Grant} (h : Names roleName permissionName state grant)
    (h' : Names roleName' permissionName' state grant')
    (hApart : (roleName, permissionName) ≠ (roleName', permissionName')) :
    grant ≠ grant' := by
  rintro rfl
  exact hApart (Prod.ext (h.1.name_eq h'.1) (h.2.name_eq h'.2))

/-- A change by names changes no pair but the one that is named. -/
theorem ChangeMeans.names {grant : Grant}
    (h : ChangeMeans change roleName permissionName state reply (some grant)) :
    Names roleName permissionName state grant := by
  cases h with
  | made hRole hPermission hNeeded => exact ⟨hRole, hPermission⟩

/-- A change by names means the same after a change of a pair that is not the one that is named. -/
theorem ChangeMeans.framed {grant : Grant}
    (h : ChangeMeans change roleName permissionName state reply pair?) (other : Change)
    (hApart : ∀ named, Names roleName permissionName state named → named ≠ grant) :
    ChangeMeans change roleName permissionName (other.apply grant state) reply pair? := by
  cases h with
  | roleMissing hRole => exact .roleMissing fun id hNamed => hRole id (Change.named_apply.1 hNamed)
  | permissionMissing hRole hPermission =>
      exact .permissionMissing (Change.named_apply.2 hRole) hPermission
  | idle hRole hPermission hIdle =>
      have hOther := hApart ⟨_, _⟩ ⟨hRole, hPermission⟩
      exact .idle (Change.named_apply.2 hRole) hPermission ((Change.idle_apply_iff hOther).2 hIdle)
  | made hRole hPermission hNeeded =>
      have hOther := hApart ⟨_, _⟩ ⟨hRole, hPermission⟩
      exact .made (Change.named_apply.2 hRole) hPermission
        fun hIdle => hNeeded ((Change.idle_apply_iff hOther).1 hIdle)

/-- A change by names means the same after a change by other names. -/
theorem ChangeMeans.after (h : ChangeMeans change roleName permissionName state reply pair?)
    (h' : ChangeMeans change' roleName' permissionName' state reply' pair?')
    (hApart : (roleName, permissionName) ≠ (roleName', permissionName')) :
    ChangeMeans change roleName permissionName (change'.applyTo pair?' state) reply pair? := by
  cases pair?' with
  | none => exact h
  | some grant' => exact h.framed change' fun named hNamed => hNamed.apart h'.names hApart

/-- Two changes by other names end in one state, whichever is made first. -/
theorem ChangeMeans.applyTo_comm
    (h : ChangeMeans change roleName permissionName state reply pair?)
    (h' : ChangeMeans change' roleName' permissionName' state reply' pair?')
    (hApart : (roleName, permissionName) ≠ (roleName', permissionName')) :
    change.applyTo pair? (change'.applyTo pair?' state) =
      change'.applyTo pair?' (change.applyTo pair? state) := by
  cases pair? with
  | none => rfl
  | some grant =>
      cases pair?' with
      | none => rfl
      | some grant' => exact Change.apply_comm (h.names.apart h'.names hApart)

end Meanings

/-- A text that is to change whether a role grants a permission comes to what the change means. -/
theorem run_evaluate_of_change {alone : Alone} (hState : Coherent alone.state) {text : String}
    {change : Change} {role permission : String}
    (hText : Phrase.parse? text = some (change.command role permission)) :
    ∃ pair?, ChangeMeans change (Text.trim role) (Text.trim permission) alone.state
        (alone.run (evaluate text)).1 pair? ∧
      (alone.run (evaluate text)).2.state = change.applyTo pair? alone.state := by
  rw [evaluate_of_change hText]
  exact run_changeByName hState alone.clock change _ _

/-- In a state in which it is known what a text means, it comes to this. -/
theorem run_evaluate_of_means {alone : Alone} (hState : Coherent alone.state) {text : String}
    {change : Change} {role permission : String}
    (hText : Phrase.parse? text = some (change.command role permission)) {reply : Reply}
    {pair? : Option Grant}
    (hMeans : ChangeMeans change (Text.trim role) (Text.trim permission) alone.state reply pair?) :
    (alone.run (evaluate text)).1 = reply ∧
      (alone.run (evaluate text)).2.state = change.applyTo pair? alone.state := by
  obtain ⟨pair?', hMeans', hAfter⟩ := run_evaluate_of_change hState hText
  obtain ⟨hReply, rfl⟩ := hMeans'.unique hState hMeans
  exact ⟨hReply, hAfter⟩

/-- Two texts that are each to give a permission to a role or to take one from it, and that do not
name the same role together with the same permission, are answered alike in either order, and in
both orders the store ends in the same state, with all its revisions. Nothing is said of whether the
roles and the permissions are there, or of whether there is anything to change. -/
theorem independent_commands_commute {state : State} (hState : Reachable state)
    (clock : Nat → Moment) {text text' : String} {change change' : Change}
    {role permission role' permission' : String}
    (hText : Phrase.parse? text = some (change.command role permission))
    (hText' : Phrase.parse? text' = some (change'.command role' permission'))
    (hApart : (Text.trim role, Text.trim permission) ≠ (Text.trim role', Text.trim permission')) :
    let first := Alone.run ⟨state, clock⟩ (evaluate text)
    let second := first.2.run (evaluate text')
    let first' := Alone.run ⟨state, clock⟩ (evaluate text')
    let second' := first'.2.run (evaluate text)
    second.2.state = second'.2.state ∧ first.1 = second'.1 ∧ second.1 = first'.1 := by
  intro first second first' second'
  have hStart : Coherent (⟨state, clock⟩ : Alone).state := hState.coherent
  have hFirst : Coherent first.2.state := Alone.coherent_run hStart _
  have hFirst' : Coherent first'.2.state := Alone.coherent_run hStart _
  obtain ⟨pair?, hMeans, hAfter⟩ := run_evaluate_of_change hStart hText
  obtain ⟨pair?', hMeans', hAfter'⟩ := run_evaluate_of_change hStart hText'
  -- what each text means in the first state it means after the other one as well
  obtain ⟨hReply, hEnd⟩ :=
    run_evaluate_of_means hFirst hText' (hAfter ▸ hMeans'.after hMeans hApart.symm)
  obtain ⟨hReply', hEnd'⟩ :=
    run_evaluate_of_means hFirst' hText (hAfter' ▸ hMeans.after hMeans' hApart)
  refine ⟨?_, hReply'.symm, hReply⟩
  calc second.2.state
      = change'.applyTo pair?' (change.applyTo pair? state) := by rw [hEnd, hAfter]
    _ = change.applyTo pair? (change'.applyTo pair?' state) :=
        (hMeans.applyTo_comm hMeans' hApart).symm
    _ = second'.2.state := by rw [hEnd', hAfter']

/-- The role loses the permission that it has. -/
def revokeText : String :=
  "remove permission 'read' from role 'viewer'"

/-- Both texts are about one role. It is written twice in either order, and ends at the same
revision with the same set. -/
theorem independent_commands_commute_of_one_role :
    Reachable readers ∧ Phrase.parse? grantText = some (Change.grant.command "viewer" " write ") ∧
      Phrase.parse? revokeText = some (Change.revoke.command "viewer" "read") ∧
      (Text.trim "viewer", Text.trim " write ") ≠ (Text.trim "viewer", Text.trim "read") ∧
      let first := Alone.run ⟨readers, fun _ => ⟨⟨9⟩, "new"⟩⟩ (evaluate grantText)
      let second := first.2.run (evaluate revokeText)
      let first' := Alone.run ⟨readers, fun _ => ⟨⟨9⟩, "new"⟩⟩ (evaluate revokeText)
      let second' := first'.2.run (evaluate grantText)
      (second.2.state = second'.2.state ∧ first.1 = second'.1 ∧ second.1 = first'.1) ∧
        first.1.status = .success ∧ second.1.status = .success ∧
        second.2.state.grants.toList = [⟨"r", "p2"⟩] ∧
        second.2.state.role? "r" = some ⟨"r", "viewer", ⟨2⟩, 3⟩ := by
  have hGrant : Phrase.parse? grantText = some (Change.grant.command "viewer" " write ") := by
    decide +kernel
  have hRevoke : Phrase.parse? revokeText = some (Change.revoke.command "viewer" "read") := by
    decide +kernel
  have hApart : (Text.trim "viewer", Text.trim " write ") ≠
      (Text.trim "viewer", Text.trim "read") := by decide +kernel
  exact ⟨reachable_readers, hGrant, hRevoke, hApart,
    independent_commands_commute reachable_readers (fun _ => ⟨⟨9⟩, "new"⟩) hGrant hRevoke hApart,
    by decide +kernel, by decide +kernel, by decide +kernel, by decide +kernel⟩

end Rolebook.Command
