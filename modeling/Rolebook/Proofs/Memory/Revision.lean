import Rolebook.Proofs.Memory.History

/-!
# Revisions of a role

The revision of a role counts the writes of its set of permissions: each of them, the cascade of a
deleted permission included, takes it one further, and nothing else moves it. A role that is gone
does not come back under its identifier, so over a whole history its revision never falls, and where
it stands still the set stands still.

`Prospect.later` is the comparison of a state with all that come after it, by induction on the
events between them.
-/

namespace Rolebook.Memory

variable {state : State} {event : Event} {future : List Event} {id : Id}
  {record record' : RoleRecord}

theorem moments_cons (state : State) (event : Event) (future : List Event) :
    moments state (event :: future) = state :: moments event.after future :=
  rfl

/-- A role that is gone stays gone, if its identifier is not given again. -/
theorem absent_later (hHistory : History state future) (hAbsent : state.role? id = none)
    (hNever : ∀ event ∈ future, event.newId? ≠ some id) :
    ∀ later ∈ moments state future, later.role? id = none := by
  induction future generalizing state with
  | nil =>
      intro later hLater
      obtain rfl := List.mem_singleton.1 hLater
      exact hAbsent
  | cons event future ih =>
      obtain ⟨rfl, hFuture⟩ := hHistory
      have hAfter : event.after.role? id = none := by
        rcases event.transition.role_of_absent hAbsent with hNone | ⟨hNew, -⟩
        · exact hNone
        · exact absurd hNew (hNever event (List.mem_cons_self ..))
      intro later hLater
      rw [moments_cons, List.mem_cons] at hLater
      rcases hLater with rfl | hLater
      · exact hAbsent
      · exact ih hFuture hAfter (fun other hOther => hNever other (List.mem_cons_of_mem _ hOther))
          later hLater

/-- From a state on, the revision of a role does not fall, and its set is the same where its
revision is. -/
theorem Prospect.later (h : Prospect state future) (hFound : state.role? id = some record)
    {later : State} (hLater : later ∈ moments state future)
    (hFound' : later.role? id = some record') :
    record.revision.toNat ≤ record'.revision.toNat ∧
      (record.revision = record'.revision →
        state.permissionIdsOf id = later.permissionIdsOf id) := by
  have hPresent : later.role? id ≠ none := hFound' ▸ Option.some_ne_none record'
  induction future generalizing state record with
  | nil =>
      obtain rfl := List.mem_singleton.1 hLater
      obtain rfl := Option.some.inj (hFound.symm.trans hFound')
      exact ⟨Nat.le_refl _, fun _ => rfl⟩
  | cons event future ih =>
      rw [moments_cons, List.mem_cons] at hLater
      rcases hLater with rfl | hLater
      · obtain rfl := Option.some.inj (hFound.symm.trans hFound')
        exact ⟨Nat.le_refl _, fun _ => rfl⟩
      · rcases h.role_cases hFound with hGone | ⟨next, hNext, hWritten | hKept⟩
        · have hNever := h.taken id (hFound ▸ Option.some_ne_none record)
          have hAbsent := absent_later h.next.history hGone
            (fun other hOther => hNever other (List.mem_cons_of_mem _ hOther)) later hLater
          exact absurd hAbsent hPresent
        · obtain ⟨hLe, -⟩ := ih h.next hNext hLater
          -- after a write the revision is past the one it had, and it does not come back
          refine ⟨by omega, fun hSame => ?_⟩
          have hValues := congrArg UInt64.toNat hSame
          omega
        · obtain ⟨hLe, hSet⟩ := ih h.next hNext hLater
          rw [hKept.2.1, hKept.2.2] at *
          exact ⟨hLe, hSet⟩

theorem Prospect.coherent_of_moment (h : Prospect state future) {later : State}
    (hLater : later ∈ moments state future) : Coherent later := by
  induction future generalizing state with
  | nil =>
      obtain rfl := List.mem_singleton.1 hLater
      exact h.coherent
  | cons event future ih =>
      rw [moments_cons, List.mem_cons] at hLater
      rcases hLater with rfl | hLater
      · exact h.coherent
      · exact ih h.next hLater

theorem Prospect.of_event (h : Prospect state future) (hEvent : event ∈ future) :
    event.before ∈ moments state future ∧ ∃ rest, Prospect event.before (event :: rest) := by
  induction future generalizing state with
  | nil => exact absurd hEvent List.not_mem_nil
  | cons first future ih =>
      rw [moments_cons]
      rcases List.mem_cons.1 hEvent with rfl | hEvent
      · obtain ⟨rfl, -⟩ := h.history
        exact ⟨List.mem_cons_self .., future, h⟩
      · obtain ⟨hMoment, hRest⟩ := ih h.next hEvent
        exact ⟨List.mem_cons_of_mem _ hMoment, hRest⟩

/-- Any earlier state of a history compares with any later one. -/
theorem Prospect.pairwise (h : Prospect state future) :
    (moments state future).Pairwise fun earlier later =>
      ∀ id record record', earlier.role? id = some record → later.role? id = some record' →
        record.revision.toNat ≤ record'.revision.toNat ∧
          (record.revision = record'.revision →
            earlier.permissionIdsOf id = later.permissionIdsOf id) := by
  induction future generalizing state with
  | nil => exact List.pairwise_singleton ..
  | cons event future ih =>
      rw [moments_cons]
      refine List.pairwise_cons.2
        ⟨fun later hLater id record record' hFound hFound' => ?_, ih h.next⟩
      exact h.later hFound (moments_cons .. ▸ List.mem_cons_of_mem _ hLater) hFound'

/-- A role has the same set in two states if it has the same revision there. -/
def SameSets (s t : State) : Prop :=
  ∀ id record record', s.role? id = some record → t.role? id = some record' →
    record.revision = record'.revision →
    s.permissionIdsOf id = t.permissionIdsOf id

theorem SameSets.refl (s : State) : SameSets s s :=
  fun _ _ _ _ _ _ => rfl

theorem SameSets.symm {s t : State} (h : SameSets s t) : SameSets t s :=
  fun id record record' hFound hFound' hSame => (h id record' record hFound' hFound hSame.symm).symm

theorem Prospect.same_sets (h : Prospect state future) {s t : State} (hs : s ∈ moments state future)
    (ht : t ∈ moments state future) : SameSets s t := by
  have hForward : (moments state future).Pairwise SameSets :=
    h.pairwise.imp fun hLater id record record' hFound hFound' =>
      (hLater id record record' hFound hFound').2
  exact List.Pairwise.forall_of_forall_of_flip (fun s _ => .refl s) hForward
    (hForward.imp SameSets.symm) hs ht

/-! ## As it is shown -/

/-- What is shown of a role in a coherent state. -/
theorem Coherent.shown_role {shown : Role} (hState : Coherent state)
    (hShown : state.getRole id = .ok shown) :
    ∃ record, state.role? id = some record ∧ shown.id = id ∧ shown.revision = record.revision ∧
      shown.permissionIds = state.permissionIdsOf id := by
  obtain ⟨record, hFound, rfl⟩ := getRole_eq_ok_iff.1 hShown
  have hId := hState.roles.own_id id record hFound
  exact ⟨record, hFound, hId, rfl, congrArg state.permissionIdsOf hId⟩

/-- A role that is shown in one state and is there in another one at the revision that was shown has
the set that was shown. -/
theorem Prospect.set_of_shown (h : Prospect state future) {s t : State}
    (hs : s ∈ moments state future) (ht : t ∈ moments state future) {shown : Role}
    (hShown : s.getRole id = .ok shown) (hFound : t.role? id = some record)
    (hRevision : record.revision = shown.revision) :
    shown.permissionIds = t.permissionIdsOf id := by
  obtain ⟨record', hFound', -, hRevision', hSet⟩ := (h.coherent_of_moment hs).shown_role hShown
  rw [hSet]
  exact h.same_sets hs ht id record' record hFound' hFound (hRevision'.symm.trans hRevision.symm)

/-- In every history of a store in memory, the revision of a role never falls. It grows by one in
exactly those calls that write the set of the role, and no other call moves it. So whenever a role
is shown at the same revision, it is shown with the same set of permissions. -/
theorem revision_counts_writes {history : List Event} (hHistory : History .empty history)
    (hFresh : FreshIds history) (hBounded : ∀ id, writes id history < UInt64.size) :
    ((moments .empty history).Pairwise fun earlier later =>
      ∀ id role role', earlier.getRole id = .ok role → later.getRole id = .ok role' →
        role.revision ≤ role'.revision) ∧
    (∀ event ∈ history, ∀ id role role', event.before.getRole id = .ok role →
      event.after.getRole id = .ok role' →
      (role'.revision.toNat = role.revision.toNat + 1 ↔ event.writesSetOf id = true) ∧
        (event.writesSetOf id = false → role'.revision = role.revision)) ∧
    (∀ s ∈ moments .empty history, ∀ t ∈ moments .empty history, ∀ id role role',
      s.getRole id = .ok role → t.getRole id = .ok role' → role.revision = role'.revision →
        role.permissionIds = role'.permissionIds) := by
  have hStart := Prospect.start hHistory hFresh hBounded
  refine ⟨?_, ?_, ?_⟩
  · refine hStart.pairwise.imp_of_mem fun {s t} hs ht hLater id role role' hShown hShown' => ?_
    obtain ⟨record, hFound, -, hRevision, -⟩ := (hStart.coherent_of_moment hs).shown_role hShown
    obtain ⟨record', hFound', -, hRevision', -⟩ := (hStart.coherent_of_moment ht).shown_role hShown'
    rw [hRevision, hRevision', UInt64.le_iff_toNat_le]
    exact (hLater id record record' hFound hFound').1
  · intro event hEvent id role role' hShown hShown'
    obtain ⟨-, rest, hProspect⟩ := hStart.of_event hEvent
    obtain ⟨record, hFound, -, hRevision, -⟩ := hProspect.coherent.shown_role hShown
    obtain ⟨record', hFound', -, hRevision', -⟩ := hProspect.next.coherent.shown_role hShown'
    rw [hRevision, hRevision']
    rcases hProspect.role_cases hFound with hGone | ⟨after, hAfter, hWritten | hKept⟩
    · exact absurd hGone (hFound' ▸ Option.some_ne_none record')
    · obtain rfl := Option.some.inj (hAfter.symm.trans hFound')
      simp [hWritten]
    · obtain rfl := Option.some.inj (hAfter.symm.trans hFound')
      simp [hKept]
  · intro s hs t ht id role role' hShown hShown' hSame
    obtain ⟨record', hFound', -, hRevision', hSet'⟩ :=
      (hStart.coherent_of_moment ht).shown_role hShown'
    rw [hSet']
    exact hStart.set_of_shown hs ht hShown hFound' (hRevision'.symm.trans hSame.symm)

/-- A role is given two permissions and renamed, one of the two is deleted, and an attempt to give
back that one fails. -/
def cascade : List Event :=
  historyOf .empty [
    (1, ⟨⟨0⟩, "p1"⟩, .createPermission "read" none),
    (1, ⟨⟨1⟩, "p2"⟩, .createPermission "write" none),
    (2, ⟨⟨2⟩, "r"⟩, .createRole "viewer"),
    (2, ⟨⟨3⟩, ""⟩, .setRolePermissions "r" (.ofList ["p1", "p2"])),
    (1, ⟨⟨4⟩, ""⟩, .updateRole "r" "reader"),
    (2, ⟨⟨5⟩, ""⟩, .deletePermission "p2"),
    (1, ⟨⟨6⟩, ""⟩, .replaceRolePermissions "r" 2 (.ofList ["p1", "p2"]))]

theorem revision_counts_writes_of_cascade :
    History .empty cascade ∧ FreshIds cascade ∧ (∀ id, writes id cascade < UInt64.size) ∧
      writes "r" cascade = 2 ∧
      ∀ s ∈ moments .empty cascade, ∀ t ∈ moments .empty cascade, ∀ id role role',
        s.getRole id = .ok role → t.getRole id = .ok role' → role.revision = role'.revision →
          role.permissionIds = role'.permissionIds := by
  have hHistory : History .empty cascade := history_historyOf ..
  have hFresh : FreshIds cascade := by unfold FreshIds; decide +kernel
  have hBounded : ∀ id, writes id cascade < UInt64.size := fun id =>
    Nat.lt_of_le_of_lt List.countP_le_length (by decide +kernel)
  exact ⟨hHistory, hFresh, hBounded, by decide +kernel,
    (revision_counts_writes hHistory hFresh hBounded).2.2⟩

end Rolebook.Memory
