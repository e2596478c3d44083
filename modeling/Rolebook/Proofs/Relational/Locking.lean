import Mathlib.Tactic.ByContra
import Mathlib.Tactic.Tauto
import Rolebook.Proofs.Relational.Protocol

/-!
# Transactions under locks

What an open transaction has done so far, by how far its session has got: which roles it has moved
on, under locks that keep others from them, and which grants it may have changed. A statement of the
transaction brings this on, and what other sessions commit in the meantime leaves it as it is.
-/

namespace Rolebook.Relational

open Rolebook.Store (Error)

/-! ## Rows -/

section Rows

variable {α : Type} [DecidableEq α] {before after rows : List α} {row : α}

theorem mem_refreshed :
    row ∈ refreshed before after rows ↔
      row ∈ rows ∧ (row ∈ after ∨ row ∉ before) ∨ row ∈ after ∧ row ∉ before := by
  simp [refreshed]

/-- A row on which nothing was done is in the rows if it is in those that were committed. -/
theorem mem_refreshed_of_same (hSame : row ∈ rows ↔ row ∈ before) :
    row ∈ refreshed before after rows ↔ row ∈ after := by
  rw [mem_refreshed, hSame]
  tauto

/-- A row on which others have done nothing stays as it is. -/
theorem mem_refreshed_of_kept (hKept : row ∈ before ↔ row ∈ after) :
    row ∈ refreshed before after rows ↔ row ∈ rows := by
  rw [mem_refreshed, hKept]
  tauto

theorem mem_differing : row ∈ differing before after ↔ ¬ (row ∈ before ↔ row ∈ after) := by
  simp only [differing, List.mem_append, List.mem_filter, decide_eq_true_eq]
  tauto

end Rows

/-! ## What a transaction has done -/

/-- The constraints of the schema as far as they concern roles. -/
structure Tables.IsSound (tables : Tables) : Prop where
  unique : ∀ row ∈ tables.roles, ∀ other ∈ tables.roles, other.id = row.id → other = row
  granted : ∀ grant ∈ tables.grants, ∃ row ∈ tables.roles, row.id = grant.role

theorem Tables.IsSound.same_revision {tables : Tables} {row other : RoleRow}
    (hSound : tables.IsSound) (hRow : row ∈ tables.roles) (hOther : other ∈ tables.roles)
    (hId : other.id = row.id) : other.revision = row.revision := by
  rw [hSound.unique row hRow other hOther hId]

/-- A session has a role to itself. -/
def Owns (locks : List Lock) (role : Id) : Prop :=
  ⟨.role role, false⟩ ∈ locks

/-- A session has a permission to itself. -/
def OwnsPermission (locks : List Lock) (permission : Id) : Prop :=
  ⟨.permission permission, false⟩ ∈ locks

/-- A session has locked a permission because something refers to it. -/
def Refers (locks : List Lock) (permission : Id) : Prop :=
  ⟨.permission permission, true⟩ ∈ locks

/-- Nothing has happened to the row of a role. -/
def SameRole (role : Id) (before after : Tables) : Prop :=
  ∀ row : RoleRow, row.id = role → (row ∈ after.roles ↔ row ∈ before.roles)

/-- A role has been moved on to its next revision. -/
def MovedOn (role : Id) (before after : Tables) : Prop :=
  ∃ row ∈ before.roles, row.id = role ∧ row.revision ≠ Int64.maxValue ∧
    ∀ other : RoleRow, other.id = role → (other ∈ after.roles ↔ other = row.next)

/-- Nothing was done to the committed tables but that roles were moved on, under locks, and that
grants were touched. -/
structure Differs (moved : Id → Prop) (touched : GrantRow → Prop) (committed tables : Tables)
    (locks : List Lock) : Prop where
  kept : ∀ role, ¬ moved role → SameRole role committed tables
  owned : ∀ role, moved role → Owns locks role
  movedOn : ∀ role, moved role → MovedOn role committed tables
  grants : ∀ grant, ¬ touched grant → (grant ∈ tables.grants ↔ grant ∈ committed.grants)
  referred : ∀ grant ∈ tables.grants, grant ∉ committed.grants → Refers locks grant.permission

/-- A transaction that has begun has done nothing. -/
theorem Differs.refl (committed : Tables) (locks : List Lock) :
    Differs (fun _ => False) (fun _ => False) committed committed locks where
  kept := fun _ _ _ _ => .rfl
  owned := fun _ hNever => hNever.elim
  movedOn := fun _ hNever => hNever.elim
  grants := fun _ _ => .rfl
  referred := fun _ hGrant hNew => absurd hGrant hNew

/-- What is the case in a phase: what was done to the committed tables, and under which locks. Late
grants are those that others have committed behind the statement that finds the roles that grant a
permission. -/
inductive Phase.Holds (late : GrantRow → Prop) (committed : Tables) (locks : List Lock) :
    Phase → Option Tables → Prop
  | idle : Holds late committed locks .idle none
  | opened {tables : Tables}
      (hDiffers : Differs (fun _ => False) (fun _ => False) committed tables locks) :
    Holds late committed locks .opened (some tables)
  | locked {role : Id} {tables : Tables}
    (hDiffers : Differs (fun _ => False) (fun _ => False) committed tables locks)
    (hOwns : Owns locks role) (hThere : ∃ row ∈ committed.roles, row.id = role) :
    Holds late committed locks (.locked role) (some tables)
  | rewriting {role : Id} {tables : Tables}
    (hDiffers : Differs (fun _ => False) (fun grant => grant.role = role) committed tables locks)
    (hOwns : Owns locks role) (hThere : ∃ row ∈ committed.roles, row.id = role) :
    Holds late committed locks (.rewriting role) (some tables)
  | rewritten {role : Id} {tables : Tables}
    (hDiffers : Differs (fun other => other = role) (fun grant => grant.role = role)
      committed tables locks) :
    Holds late committed locks (.rewritten role) (some tables)
  | bumped {permission : Id} {moved : Id → Prop} {tables : Tables}
    (hDiffers : Differs moved (fun _ => False) committed tables locks)
    (hMoved : ∀ grant ∈ committed.grants, grant.permission = permission →
      moved grant.role ∨ late grant) :
    Holds late committed locks (.bumped permission) (some tables)
  | deleted {permission : Id} {moved : Id → Prop} {tables : Tables}
    (hDiffers : Differs moved (fun grant => grant.permission = permission) committed tables locks)
    (hMoved : ∀ grant ∈ committed.grants, grant.permission = permission →
      moved grant.role ∨ late grant)
    (hOwns : OwnsPermission locks permission)
    (hGone : ∀ grant ∈ tables.grants, grant.permission ≠ permission) :
    Holds late committed locks (.deleted permission) (some tables)
  | failing {transaction : Option Tables} : Holds late committed locks .failing transaction

/-! ## What others commit in the meantime -/

section Interference

variable {before after tables : Tables} {locks : List Lock} {moved : Id → Prop}
  {touched : GrantRow → Prop}

theorem Differs.refresh (hDiffers : Differs moved touched before tables locks)
    (hSpared : ∀ role, Owns locks role → SameRole role before after) :
    Differs moved touched after (tables.refresh before after) locks where
  kept := fun role hKept row hId => mem_refreshed_of_same (hDiffers.kept role hKept row hId)
  owned := hDiffers.owned
  movedOn := by
    intro role hMoved
    have hSame := hSpared role (hDiffers.owned role hMoved)
    obtain ⟨row, hRow, hId, hLast, hOnly⟩ := hDiffers.movedOn role hMoved
    refine ⟨row, (hSame row hId).2 hRow, hId, hLast, fun other hOther => ?_⟩
    rw [← hOnly other hOther]
    exact mem_refreshed_of_kept (hSame other hOther).symm
  grants := fun grant hUntouched => mem_refreshed_of_same (hDiffers.grants grant hUntouched)
  referred := by
    intro grant hGrant hNew
    rcases mem_refreshed.1 hGrant with ⟨hThere, hStays⟩ | ⟨hThere, -⟩
    · exact hDiffers.referred grant hThere (hStays.resolve_left hNew)
    · exact absurd hThere hNew

/-- A session is not disturbed by others that keep off its roles and its permissions. -/
theorem Phase.Holds.refresh {late late' : GrantRow → Prop} {phase : Phase}
    {transaction : Option Tables} (hHolds : phase.Holds late before locks transaction)
    (hSpared : ∀ role, Owns locks role → SameRole role before after)
    (hLate : ∀ grant, late grant → late' grant)
    (hNew : ∀ grant ∈ after.grants, grant ∉ before.grants →
      (phase = .bumped grant.permission → late' grant) ∧ ¬ OwnsPermission locks grant.permission) :
    phase.Holds late' after locks (transaction.map fun tables => tables.refresh before after) := by
  have hThere : ∀ role, Owns locks role → (∃ row ∈ before.roles, row.id = role) →
      ∃ row ∈ after.roles, row.id = role := by
    rintro role hOwns ⟨row, hRow, hId⟩
    exact ⟨row, (hSpared role hOwns row hId).2 hRow, hId⟩
  cases hHolds with
  | idle => exact .idle
  | opened hDiffers => exact .opened (hDiffers.refresh hSpared)
  | locked hDiffers hOwns hRole =>
      exact .locked (hDiffers.refresh hSpared) hOwns (hThere _ hOwns hRole)
  | rewriting hDiffers hOwns hRole =>
      exact .rewriting (hDiffers.refresh hSpared) hOwns (hThere _ hOwns hRole)
  | rewritten hDiffers => exact .rewritten (hDiffers.refresh hSpared)
  | @bumped permission moved tables hDiffers hMoved =>
      refine .bumped (hDiffers.refresh hSpared) fun grant hGrant hId => ?_
      by_cases hOld : grant ∈ before.grants
      · exact (hMoved grant hOld hId).imp_right (hLate grant)
      · exact .inr ((hNew grant hGrant hOld).1 (hId ▸ rfl))
  | @deleted permission moved tables hDiffers hMoved hOwns hGone =>
      -- a grant of the permission would refer to the row that this session has removed
      have hOld : ∀ grant ∈ after.grants, grant.permission = permission →
          grant ∈ before.grants := by
        rintro grant hGrant rfl
        by_contra hOther
        exact (hNew grant hGrant hOther).2 hOwns
      refine .deleted (hDiffers.refresh hSpared) (fun grant hGrant hId => ?_) hOwns
        fun grant hGrant hId => ?_
      · exact (hMoved grant (hOld grant hGrant hId) hId).imp_right (hLate grant)
      · rcases mem_refreshed.1 hGrant with ⟨hThere, -⟩ | ⟨hThere, hOther⟩
        · exact hGone grant hThere hId
        · exact hOther (hOld grant hThere hId)
  | failing => exact .failing

theorem Phase.Holds.mono {late late' : GrantRow → Prop} {phase : Phase}
    {transaction : Option Tables} (hHolds : phase.Holds late before locks transaction)
    (hLate : ∀ grant, late grant → late' grant) :
    phase.Holds late' before locks transaction := by
  cases hHolds with
  | idle => exact .idle
  | opened hDiffers => exact .opened hDiffers
  | locked hDiffers hOwns hThere => exact .locked hDiffers hOwns hThere
  | rewriting hDiffers hOwns hThere => exact .rewriting hDiffers hOwns hThere
  | rewritten hDiffers => exact .rewritten hDiffers
  | bumped hDiffers hMoved =>
      exact .bumped hDiffers fun grant hGrant hId =>
        (hMoved grant hGrant hId).imp_right (hLate grant)
  | deleted hDiffers hMoved hOwns hGone =>
      exact .deleted hDiffers
        (fun grant hGrant hId => (hMoved grant hGrant hId).imp_right (hLate grant)) hOwns hGone
  | failing => exact .failing

end Interference

/-! ## Statements of transactions -/

section Statements

variable {late : GrantRow → Prop} {committed tables tables' : Tables} {locks : List Lock}
  {now : Instant} {role permission : Id}

/-- Locks on all roles that a statement changes are taken. -/
theorem owns_of_changed {statement : Statement} {row : RoleRow}
    (hChanged : ¬ (row ∈ tables.roles ↔ row ∈ tables'.roles)) :
    Owns ((Request.execute statement).locks tables tables' ++ locks) row.id := by
  have hRow : RowKey.role row.id ∈ tables.changes tables' :=
    List.mem_append_left _
      (List.mem_append_right _ (List.mem_map.2 ⟨row, mem_differing.2 hChanged, rfl⟩))
  exact List.mem_append_left _ (List.mem_append_left _ (List.mem_map.2 ⟨_, hRow, rfl⟩))

/-- A permission that a statement removes is locked. -/
theorem ownsPermission_of_removed {statement : Statement} {row : PermissionRow}
    (hRow : row ∈ tables.permissions) (hGone : row ∉ tables'.permissions) :
    OwnsPermission ((Request.execute statement).locks tables tables' ++ locks) row.id := by
  have hChanged : RowKey.permission row.id ∈ tables.changes tables' := by
    refine List.mem_append_left _
      (List.mem_append_left _ (List.mem_map.2 ⟨row, mem_differing.2 fun hSame => ?_, rfl⟩))
    exact hGone (hSame.1 hRow)
  exact List.mem_append_left _ (List.mem_append_left _ (List.mem_map.2 ⟨_, hChanged, rfl⟩))

theorem Differs.append {moved : Id → Prop} {touched : GrantRow → Prop}
    (hDiffers : Differs moved touched committed tables locks) (taken : List Lock) :
    Differs moved touched committed tables (taken ++ locks) where
  kept := hDiffers.kept
  owned := fun role hMoved => List.mem_append_right taken (hDiffers.owned role hMoved)
  movedOn := hDiffers.movedOn
  grants := hDiffers.grants
  referred :=
    fun grant hGrant hNew => List.mem_append_right taken (hDiffers.referred grant hGrant hNew)

theorem next_ne_self (row : RoleRow) : row.next ≠ row := by
  intro hSame
  have hRevision : row.revision + 1 = row.revision := congrArg RoleRow.revision hSame
  simp at hRevision

/-- Roles that pass a test are moved on, under the locks that this takes. -/
theorem Differs.bump {touched : GrantRow → Prop} {test : RoleRow → Bool} {value : Unit}
    {taken : List Lock} (hSound : committed.IsSound)
    (hDiffers : Differs (fun _ => False) touched committed tables locks)
    (hBump : tables.bump test = .ok (value, tables'))
    (hLocks : ∀ row : RoleRow, ¬ (row ∈ tables.roles ↔ row ∈ tables'.roles) →
      Owns (taken ++ locks) row.id) :
    Differs (fun role => ∃ row ∈ committed.roles, row.id = role ∧ test row) touched committed
      tables' (taken ++ locks) := by
  obtain ⟨hRange, rfl⟩ := bump_eq_ok hBump
  have hRoles : ∀ row : RoleRow, row ∈ tables.roles ↔ row ∈ committed.roles :=
    fun row => hDiffers.kept row.id not_false row rfl
  have hImage : ∀ row : RoleRow, (if test row then row.next else row).id = row.id := by
    intro row
    split <;> rfl
  have hMovedOn : ∀ row ∈ committed.roles, test row → ∀ other : RoleRow, other.id = row.id →
      ((other ∈ tables.roles.map fun row => if test row then row.next else row) ↔
        other = row.next) := by
    intro row hRow hTest other hOther
    rw [List.mem_map]
    constructor
    · rintro ⟨origin, hOrigin, rfl⟩
      obtain rfl := hSound.unique row hRow origin ((hRoles origin).1 hOrigin)
        ((hImage origin).symm.trans hOther)
      exact if_pos hTest
    · rintro rfl
      exact ⟨row, (hRoles row).2 hRow, if_pos hTest⟩
  constructor
  · intro role hKept row hId
    refine Iff.trans ?_ (hRoles row)
    have hFails : ∀ origin ∈ tables.roles, origin.id = role → ¬ test origin = true := by
      intro origin hOrigin hSame hTest
      exact hKept ⟨origin, (hRoles origin).1 hOrigin, hSame, hTest⟩
    rw [List.mem_map]
    constructor
    · rintro ⟨origin, hOrigin, rfl⟩
      rw [if_neg (hFails origin hOrigin ((hImage origin).symm.trans hId))]
      exact hOrigin
    · intro hRow
      exact ⟨row, hRow, if_neg (hFails row hRow hId)⟩
  · rintro _ ⟨row, hRow, rfl, hTest⟩
    refine hLocks row fun hSame => next_ne_self row ?_
    exact ((hMovedOn row hRow hTest row rfl).1 (hSame.1 ((hRoles row).2 hRow))).symm
  · rintro _ ⟨row, hRow, rfl, hTest⟩
    exact ⟨row, hRow, rfl, hRange row ((hRoles row).2 hRow) hTest, hMovedOn row hRow hTest⟩
  · exact hDiffers.grants
  · exact (hDiffers.append taken).referred

theorem Differs.same_roles {touched : GrantRow → Prop}
    (hDiffers : Differs (fun _ => False) touched committed tables locks) (row : RoleRow) :
    row ∈ tables.roles ↔ row ∈ committed.roles :=
  hDiffers.kept row.id not_false row rfl

theorem Differs.congr {moved moved' : Id → Prop} {touched : GrantRow → Prop}
    (hDiffers : Differs moved touched committed tables locks)
    (hMoved : ∀ role, moved role ↔ moved' role) :
    Differs moved' touched committed tables locks := by
  obtain rfl : moved = moved' := funext fun role => propext (hMoved role)
  exact hDiffers

/-- Only grants are changed, where new ones refer to permissions that are locked. -/
theorem Differs.regrant {moved : Id → Prop} {touched touched' : GrantRow → Prop} {taken : List Lock}
    (hDiffers : Differs moved touched committed tables locks)
    (hTouched : ∀ grant, touched grant → touched' grant) (hRoles : tables'.roles = tables.roles)
    (hGrants : ∀ grant, ¬ touched' grant → (grant ∈ tables'.grants ↔ grant ∈ tables.grants))
    (hRefers : ∀ grant ∈ tables'.grants, grant ∉ tables.grants → Refers taken grant.permission) :
    Differs moved touched' committed tables' (taken ++ locks) := by
  refine ⟨?_, (hDiffers.append taken).owned, ?_, fun grant hKept => ?_, fun grant hGrant hNew => ?_⟩
  · intro role hKept row
    rw [hRoles]
    exact hDiffers.kept role hKept row
  · intro role hMoved
    have hMovedOn := hDiffers.movedOn role hMoved
    unfold MovedOn at hMovedOn ⊢
    rwa [hRoles]
  · exact (hGrants grant hKept).trans
      (hDiffers.grants grant fun hTouches => hKept (hTouched grant hTouches))
  · by_cases hOld : grant ∈ tables.grants
    · exact (hDiffers.append taken).referred grant hOld hNew
    · exact List.mem_append_left locks (hRefers grant hGrant hOld)

/-- Only grants are removed. -/
theorem Differs.ungrant {moved : Id → Prop} {touched touched' : GrantRow → Prop} {taken : List Lock}
    {keeps : GrantRow → Bool} (hDiffers : Differs moved touched committed tables locks)
    (hTouched : ∀ grant, touched grant → touched' grant) (hRoles : tables'.roles = tables.roles)
    (hGrants : tables'.grants = tables.grants.filter keeps)
    (hKeeps : ∀ grant, ¬ touched' grant → keeps grant) :
    Differs moved touched' committed tables' (taken ++ locks) := by
  refine hDiffers.regrant hTouched hRoles (fun grant hKept => ?_) fun grant hGrant hNew => ?_
  · rw [hGrants, List.mem_filter]
    exact and_iff_left (hKeeps grant hKept)
  · rw [hGrants, List.mem_filter] at hGrant
    exact absurd hGrant.1 hNew

/-- A permission that is removed is there before and not afterwards. -/
theorem deletePermission_eq_of_touched {touched : Nat}
    (hDone : tables.deletePermission permission = (touched, tables')) (hTouched : touched ≠ 0) :
    (∃ row ∈ tables.permissions, row.id = permission ∧ row ∉ tables'.permissions) ∧
      tables'.roles = tables.roles ∧
      tables'.grants = tables.grants.filter fun grant => grant.permission != permission := by
  simp only [Tables.deletePermission, List.partition_eq_filter_filter] at hDone
  split at hDone
  · cases hDone
    exact absurd rfl hTouched
  · next hSome =>
      cases hDone
      obtain ⟨row, hRow, hId⟩ := List.mem_map.1 (touched_of_filter hSome).2
      refine ⟨⟨row, hRow, hId, fun hThere => ?_⟩, rfl, rfl⟩
      have hOther := (List.mem_filter.1 hThere).2
      simp [hId] at hOther

/-- A statement that is done in a transaction brings it on from phase to phase. -/
theorem Phase.Holds.execute {newId : Id} {phase next : Phase} {statement : Statement}
    {value : statement.Value} (hSound : committed.IsSound)
    (hHolds : phase.Holds late committed locks (some tables))
    (hNext : Phase.Next newId phase (.execute statement) (.ok value) next)
    (hDone : statement.execute now tables = .ok (value, tables')) :
    next.Holds late committed ((Request.execute statement).locks tables tables' ++ locks)
      (some tables') := by
  replace hDone := (clean_of_execute hDone).2
  cases hNext with
  | plain => cases hHolds
  | @lock role revision =>
      obtain ⟨hFound, rfl⟩ := Prod.mk.inj (Except.ok.inj hDone)
      obtain ⟨row, hRow, -⟩ := Option.map_eq_some_iff.1 hFound
      have hThere : row ∈ tables.roles := List.mem_of_find?_eq_some hRow
      have hId := List.find?_some hRow
      cases hHolds with
      | opened hDiffers =>
          refine .locked (hDiffers.append _) ?_
            ⟨row, (hDiffers.same_roles row).1 hThere, eq_of_beq hId⟩
          refine List.mem_append_left _ (List.mem_append_right _ ?_)
          rw [Statement.extraLocks, if_pos (List.any_eq_true.2 ⟨row, hThere, hId⟩)]
          exact List.mem_singleton_self _
  | lockNothing => exact .failing
  | look =>
      cases hDone
      cases hHolds with
      | locked hDiffers hOwns hThere =>
          exact .locked (hDiffers.append _) (List.mem_append_right _ hOwns) hThere
  | @clear role =>
      have hTables : tables' =
          { tables with grants := tables.grants.filter fun grant => grant.role != role } :=
        (Prod.mk.inj (Except.ok.inj hDone)).2.symm
      have hRoles : tables'.roles = tables.roles := by rw [hTables]
      have hGrants : tables'.grants = tables.grants.filter fun grant => grant.role != role := by
        rw [hTables]
      cases hHolds with
      | locked hDiffers hOwns hThere =>
          refine .rewriting
            (hDiffers.ungrant (fun _ hNever => hNever.elim) hRoles hGrants fun grant hOther => ?_)
            (List.mem_append_right _ hOwns) hThere
          exact bne_iff_ne.2 hOther
  | @fill role permissions =>
      have hTables := insertGrants_eq_ok hDone
      have hRoles : tables'.roles = tables.roles := by rw [hTables]
      have hAdded : ∀ grant : GrantRow, grant ∈ tables'.grants ↔
          grant ∈ tables.grants ∨ ∃ permission ∈ permissions, ⟨role, permission⟩ = grant := by
        intro grant
        rw [hTables, List.mem_append, List.mem_map]
      cases hHolds with
      | rewriting hDiffers hOwns hThere =>
          refine .rewriting (hDiffers.regrant (fun _ hSame => hSame) hRoles (fun grant hOther => ?_)
            fun grant hGrant hNew => ?_)
            (List.mem_append_right _ hOwns) hThere
          · rw [hAdded]
            refine or_iff_left ?_
            rintro ⟨permission, -, rfl⟩
            exact hOther rfl
          · obtain ⟨permission, hPermission, rfl⟩ := ((hAdded grant).1 hGrant).resolve_left hNew
            refine List.mem_append_right _ (List.mem_flatMap.2 ⟨permission, hPermission, ?_⟩)
            exact List.mem_cons_of_mem _ (List.mem_singleton_self _)
  | @bumpRole role =>
      cases hHolds with
      | rewriting hDiffers hOwns hThere =>
          refine .rewritten
            ((hDiffers.bump hSound hDone fun row hChanged => owns_of_changed hChanged).congr
              fun other => ?_)
          constructor
          · rintro ⟨row, -, rfl, hId⟩
            exact eq_of_beq hId
          · rintro rfl
            obtain ⟨row, hRow, hId⟩ := hThere
            exact ⟨row, hRow, hId, beq_iff_eq.2 hId⟩
  | @bumpHolders permission done =>
      cases hHolds with
      | opened hDiffers =>
          refine .bumped
            (hDiffers.bump hSound hDone fun row hChanged => owns_of_changed hChanged) ?_
          rintro grant hGrant rfl
          obtain ⟨row, hRow, hId⟩ := hSound.granted grant hGrant
          refine .inl ⟨row, hRow, hId, List.contains_iff_mem.2 ?_⟩
          rw [hId]
          exact (hDiffers.grants grant not_false).2 hGrant
  | @delete permission touched hTouched =>
      obtain ⟨⟨row, hRow, hId, hRemoved⟩, hRoles, hGrants⟩ :=
        deletePermission_eq_of_touched (Except.ok.inj hDone) hTouched
      cases hHolds with
      | bumped hDiffers hMoved =>
          refine .deleted (hDiffers.ungrant (fun _ hNever => hNever.elim) hRoles hGrants
            fun grant hOther => ?_) hMoved
            (hId ▸ ownsPermission_of_removed hRow hRemoved) fun grant hGrant => ?_
          · exact bne_iff_ne.2 hOther
          · rw [hGrants, List.mem_filter] at hGrant
            exact bne_iff_ne.1 hGrant.2
  | deleteNothing => exact .failing

end Statements

/-! ## What is committed -/

/-- Every role of which other grants than late ones have changed has been moved on to its next
revision. -/
def TracksAllBut (late : GrantRow → Prop) (before after : Tables) : Prop :=
  ∀ row ∈ before.roles, ∀ row' ∈ after.roles, row'.id = row.id →
    row.revision ≠ Int64.maxValue ∧ row'.revision = row.revision + 1 ∨
      row'.revision = row.revision ∧ ∀ permission, ¬ late ⟨row.id, permission⟩ →
        (⟨row.id, permission⟩ ∈ after.grants ↔ ⟨row.id, permission⟩ ∈ before.grants)

/-- What a session commits: tables with all constraints, in which roles have been moved on, and are
new only under one identifier. -/
structure Advance (newId : Id) (late : GrantRow → Prop) (before after : Tables) : Prop where
  sound : after.IsSound
  tracked : TracksAllBut late before after
  origin : ∀ row ∈ after.roles, row.id = newId ∨ ∃ other ∈ before.roles, other.id = row.id

/-- What a session has committed under its locks: those on the roles that it has changed, and on the
permissions to which new grants refer. -/
structure Guarded (locks : List Lock) (before after : Tables) : Prop where
  owned : ∀ row : RoleRow, ¬ (row ∈ before.roles ↔ row ∈ after.roles) → Owns locks row.id
  referred : ∀ grant ∈ after.grants, grant ∉ before.grants → Refers locks grant.permission

section Commit

variable {committed tables : Tables} {locks : List Lock} {newId : Id} {late : GrantRow → Prop}

section Differs

variable {moved : Id → Prop} {touched : GrantRow → Prop}

/-- A row of the transaction is one that was committed, or the next one of such a row. -/
theorem Differs.origin (hDiffers : Differs moved touched committed tables locks) {row : RoleRow}
    (hRow : row ∈ tables.roles) :
    (¬ moved row.id ∧ row ∈ committed.roles) ∨
      moved row.id ∧ ∃ other ∈ committed.roles, other.id = row.id ∧
        other.revision ≠ Int64.maxValue ∧ row = other.next := by
  by_cases hMoves : moved row.id
  · obtain ⟨other, hOther, hId, hLast, hOnly⟩ := hDiffers.movedOn row.id hMoves
    exact .inr ⟨hMoves, other, hOther, hId, hLast, (hOnly row rfl).1 hRow⟩
  · exact .inl ⟨hMoves, (hDiffers.kept row.id hMoves row rfl).1 hRow⟩

/-- No role is removed. -/
theorem Differs.exists_role (hDiffers : Differs moved touched committed tables locks)
    {row : RoleRow} (hRow : row ∈ committed.roles) : ∃ other ∈ tables.roles, other.id = row.id := by
  by_cases hMoves : moved row.id
  · obtain ⟨other, hOther, hId, hLast, hOnly⟩ := hDiffers.movedOn row.id hMoves
    exact ⟨other.next, (hOnly other.next hId).2 rfl, hId⟩
  · exact ⟨row, (hDiffers.kept row.id hMoves row rfl).2 hRow, rfl⟩

theorem Differs.isSound (hSound : committed.IsSound)
    (hDiffers : Differs moved touched committed tables locks)
    (hNew : ∀ grant ∈ tables.grants, grant ∉ committed.grants → moved grant.role) :
    tables.IsSound where
  unique := by
    intro row hRow other hOther hId
    rcases hDiffers.origin hRow with ⟨hKept, hRow⟩ | ⟨hMoves, row', hRow', hId', -, rfl⟩
    · rcases hDiffers.origin hOther with ⟨-, hOther⟩ | ⟨hMoves, -⟩
      · exact hSound.unique row hRow other hOther hId
      · exact absurd (hId ▸ hMoves) hKept
    · rcases hDiffers.origin hOther with ⟨hKept, -⟩ | ⟨-, other', hOther', hId'', -, rfl⟩
      · exact absurd (hId.symm ▸ hMoves) hKept
      · rw [hSound.unique row' hRow' other' hOther' hId]
  granted := by
    intro grant hGrant
    have hThere : ∃ row ∈ committed.roles, row.id = grant.role := by
      by_cases hOld : grant ∈ committed.grants
      · exact hSound.granted grant hOld
      · obtain ⟨row, hRow, hId, -⟩ := hDiffers.movedOn grant.role (hNew grant hGrant hOld)
        exact ⟨row, hRow, hId⟩
    obtain ⟨row, hRow, hId⟩ := hThere
    obtain ⟨other, hOther, hId'⟩ := hDiffers.exists_role hRow
    exact ⟨other, hOther, hId'.trans hId⟩

theorem Differs.tracksAllBut (hSound : committed.IsSound)
    (hDiffers : Differs moved touched committed tables locks)
    (hMoved : ∀ grant, ¬ (grant ∈ tables.grants ↔ grant ∈ committed.grants) →
      moved grant.role ∨ late grant) :
    TracksAllBut late committed tables := by
  intro row hRow row' hRow' hId
  rcases hDiffers.origin hRow' with ⟨hKept, hRow'⟩ | ⟨-, other, hOther, hId', hLast, rfl⟩
  · refine .inr ⟨hSound.same_revision hRow hRow' hId, fun permission hTimely => ?_⟩
    by_contra hChanged
    exact hKept (hId ▸ (hMoved _ hChanged).resolve_right hTimely)
  · obtain rfl := hSound.unique row hRow other hOther (hId'.trans hId)
    exact .inl ⟨hLast, rfl⟩

theorem Differs.guarded (hDiffers : Differs moved touched committed tables locks) :
    Guarded locks committed tables where
  owned := by
    intro row hChanged
    by_contra hFree
    have hKept : ¬ moved row.id := fun hMoves => hFree (hDiffers.owned row.id hMoves)
    exact hChanged (hDiffers.kept row.id hKept row rfl).symm
  referred := hDiffers.referred

/-- A role that has grants was moved on if any of them was changed. -/
theorem Differs.advance (hSound : committed.IsSound)
    (hDiffers : Differs moved touched committed tables locks)
    (hMoved : ∀ grant, ¬ (grant ∈ tables.grants ↔ grant ∈ committed.grants) →
      moved grant.role ∨ late grant)
    (hNew : ∀ grant ∈ tables.grants, grant ∉ committed.grants → moved grant.role) :
    Advance newId late committed tables := by
  refine ⟨hDiffers.isSound hSound hNew, hDiffers.tracksAllBut hSound hMoved, fun row hRow => ?_⟩
  rcases hDiffers.origin hRow with ⟨-, hRow⟩ | ⟨-, other, hOther, hId, -⟩
  · exact .inr ⟨row, hRow, rfl⟩
  · exact .inr ⟨other, hOther, hId⟩

end Differs

/-- A transaction that may be committed has moved on all the roles of which it changes grants,
unless these are late. -/
theorem Phase.Holds.commit {phase : Phase} (hSound : committed.IsSound)
    (hHolds : phase.Holds late committed locks (some tables)) (hComplete : phase.IsComplete) :
    Advance newId late committed tables ∧ Guarded locks committed tables := by
  cases hHolds with
  | opened | locked | rewriting | bumped | failing => exact hComplete.elim
  | @rewritten role _ hDiffers =>
      have hMoved : ∀ grant, ¬ (grant ∈ tables.grants ↔ grant ∈ committed.grants) →
          grant.role = role := by
        intro grant hChanged
        by_contra hOther
        exact hChanged (hDiffers.grants grant hOther)
      refine ⟨hDiffers.advance hSound (fun grant hChanged => .inl (hMoved grant hChanged)) ?_,
        hDiffers.guarded⟩
      exact fun grant hThere hNew => hMoved grant fun hSame => hNew (hSame.1 hThere)
  | @deleted permission moved _ hDiffers hMoved hOwns hGone =>
      have hSame : ∀ grant ∈ tables.grants, grant ∈ committed.grants := fun grant hThere =>
        (hDiffers.grants grant (hGone grant hThere)).1 hThere
      refine ⟨hDiffers.advance hSound (fun grant hChanged => ?_) fun grant hThere hNew => ?_,
        hDiffers.guarded⟩
      · by_cases hId : grant.permission = permission
        · refine hMoved grant ?_ hId
          by_contra hOther
          exact hChanged ⟨hSame grant, fun hIn => absurd hIn hOther⟩
        · exact absurd (hDiffers.grants grant hId) hChanged
      · exact absurd (hSame grant hThere) hNew

end Commit

/-! ## Statements outside of transactions -/

section Plain

variable {newId : Id} {late : GrantRow → Prop} {tables tables' : Tables}

theorem Advance.of_same (hSound : tables.IsSound) (hRoles : tables'.roles = tables.roles)
    (hGrants : tables'.grants = tables.grants) : Advance newId late tables tables' where
  sound := ⟨hRoles ▸ hSound.unique, hRoles ▸ hGrants ▸ hSound.granted⟩
  tracked := by
    intro row hRow row' hRow' hId
    rw [hRoles] at hRow'
    rw [hGrants]
    exact .inr ⟨hSound.same_revision hRow hRow' hId, fun _ _ => .rfl⟩
  origin := fun row hRow => .inr ⟨row, hRoles ▸ hRow, rfl⟩

theorem Advance.of_insertRole {now createdAt : Instant} {id : Id} {name : String}
    (hSound : tables.IsSound) (hDone : tables.insertRole now id name = .ok (createdAt, tables')) :
    Advance id late tables tables' := by
  obtain ⟨hNew, rfl⟩ := insertRole_eq_ok hDone
  refine ⟨⟨?_, ?_⟩, ?_, ?_⟩
  · intro row hRow other hOther hId
    rcases List.mem_append.1 hRow with hRow | hRow
    · rcases List.mem_append.1 hOther with hOther | hOther
      · exact hSound.unique row hRow other hOther hId
      · obtain rfl := List.mem_singleton.1 hOther
        exact absurd hId.symm (hNew row hRow)
    · obtain rfl := List.mem_singleton.1 hRow
      rcases List.mem_append.1 hOther with hOther | hOther
      · exact absurd hId (hNew other hOther)
      · exact List.mem_singleton.1 hOther
  · intro grant hGrant
    obtain ⟨row, hRow, hId⟩ := hSound.granted grant hGrant
    exact ⟨row, List.mem_append_left _ hRow, hId⟩
  · intro row hRow row' hRow' hId
    rcases List.mem_append.1 hRow' with hRow' | hRow'
    · exact .inr ⟨hSound.same_revision hRow hRow' hId, fun _ _ => .rfl⟩
    · obtain rfl := List.mem_singleton.1 hRow'
      exact absurd hId.symm (hNew row hRow)
  · intro row hRow
    rcases List.mem_append.1 hRow with hRow | hRow
    · exact .inr ⟨row, hRow, rfl⟩
    · obtain rfl := List.mem_singleton.1 hRow
      exact .inl rfl

/-- Roles that keep their identifiers and revisions. -/
theorem Advance.of_change (hSound : tables.IsSound) {change : RoleRow → RoleRow}
    (hId : ∀ row, (change row).id = row.id)
    (hRevision : ∀ row, (change row).revision = row.revision)
    (hRoles : tables'.roles = tables.roles.map change) (hGrants : tables'.grants = tables.grants) :
    Advance newId late tables tables' := by
  refine ⟨⟨?_, ?_⟩, ?_, ?_⟩
  · intro row hRow other hOther hSame
    rw [hRoles] at hRow hOther
    obtain ⟨origin, hOrigin, rfl⟩ := List.mem_map.1 hRow
    obtain ⟨origin', hOrigin', rfl⟩ := List.mem_map.1 hOther
    rw [hId, hId] at hSame
    rw [hSound.unique origin hOrigin origin' hOrigin' hSame]
  · intro grant hGrant
    obtain ⟨row, hRow, hSame⟩ := hSound.granted grant (hGrants ▸ hGrant)
    exact ⟨change row, hRoles ▸ List.mem_map_of_mem hRow, (hId row).trans hSame⟩
  · intro row hRow row' hRow' hSame
    rw [hRoles] at hRow'
    obtain ⟨origin, hOrigin, rfl⟩ := List.mem_map.1 hRow'
    obtain rfl := hSound.unique row hRow origin hOrigin ((hId origin).symm.trans hSame)
    rw [hGrants]
    exact .inr ⟨hRevision origin, fun _ _ => .rfl⟩
  · intro row hRow
    rw [hRoles] at hRow
    obtain ⟨origin, hOrigin, rfl⟩ := List.mem_map.1 hRow
    exact .inr ⟨origin, hOrigin, (hId origin).symm⟩

theorem Advance.of_deleteRole (hSound : tables.IsSound) (id : Id) :
    Advance newId late tables (tables.deleteRole id).2 := by
  unfold Tables.deleteRole
  simp only [List.partition_eq_filter_filter]
  split
  · exact .of_same hSound rfl rfl
  · have hRole : ∀ {row : RoleRow}, row ∈ tables.roles.filter (not ∘ fun row => row.id == id) ↔
        row ∈ tables.roles ∧ row.id ≠ id := by
      intro row
      simp
    have hGrant : ∀ {grant : GrantRow},
        grant ∈ tables.grants.filter (fun grant => grant.role != id) ↔
        grant ∈ tables.grants ∧ grant.role ≠ id := by
      intro grant
      simp
    refine ⟨⟨?_, ?_⟩, ?_, ?_⟩
    · exact fun row hRow other hOther hId => hSound.unique row (hRole.1 hRow).1 other
        (hRole.1 hOther).1 hId
    · intro grant hThere
      obtain ⟨row, hRow, hId⟩ := hSound.granted grant (hGrant.1 hThere).1
      exact ⟨row, hRole.2 ⟨hRow, hId ▸ (hGrant.1 hThere).2⟩, hId⟩
    · intro row hRow row' hRow' hId
      have hOther : row.id ≠ id := hId ▸ (hRole.1 hRow').2
      refine .inr ⟨hSound.same_revision hRow (hRole.1 hRow').1 hId, fun permission _ => ?_⟩
      exact hGrant.trans (and_iff_left hOther)
    · exact fun row hRow => .inr ⟨row, (hRole.1 hRow).1, rfl⟩

theorem grants_deleteRole_subset (tables : Tables) (id : Id) :
    (tables.deleteRole id).2.grants ⊆ tables.grants := by
  simp only [Tables.deleteRole]
  split
  · exact List.Subset.refl _
  · exact List.filter_sublist.subset

/-- Outside of transactions, no statement adds grants. -/
theorem grants_of_plain {statement : Statement} {now : Instant} {value : statement.Value}
    (hPlain : statement.IsPlain newId)
    (hDone : statement.execute now tables = .ok (value, tables')) :
    tables'.grants ⊆ tables.grants := by
  replace hDone := (clean_of_execute hDone).2
  cases statement with
  | insertPermission =>
      obtain rfl := insertPermission_eq_ok hDone
      exact List.Subset.refl _
  | updatePermission =>
      rcases updatePermission_eq_ok hDone with rfl | ⟨-, -, rfl⟩
      · exact List.Subset.refl _
      · exact List.Subset.refl _
  | insertRole =>
      obtain ⟨-, rfl⟩ := insertRole_eq_ok hDone
      exact List.Subset.refl _
  | updateRole =>
      rcases updateRole_eq_ok hDone with rfl | ⟨-, -, rfl⟩
      · exact List.Subset.refl _
      · exact List.Subset.refl _
  | deleteRole id =>
      have hTables : (tables.deleteRole id).2 = tables' := (Prod.mk.inj (Except.ok.inj hDone)).2
      exact hTables ▸ grants_deleteRole_subset tables id
  | bumpHolders | deletePermission | deleteGrants | insertGrants | bumpRole => exact hPlain.elim
  | _ =>
      cases hDone
      exact List.Subset.refl _

/-- Outside of transactions, no statement changes the grants of a role that stays. -/
theorem Advance.of_plain {statement : Statement} {now : Instant} {value : statement.Value}
    (hSound : tables.IsSound) (hPlain : statement.IsPlain newId)
    (hDone : statement.execute now tables = .ok (value, tables')) :
    Advance newId late tables tables' := by
  replace hDone := (clean_of_execute hDone).2
  cases statement with
  | insertPermission id name description =>
      obtain rfl := insertPermission_eq_ok hDone
      exact .of_same hSound rfl rfl
  | updatePermission id name description =>
      rcases updatePermission_eq_ok hDone with rfl | ⟨-, -, rfl⟩
      · exact .of_same hSound rfl rfl
      · exact .of_same hSound rfl rfl
  | insertRole id name =>
      obtain rfl : id = newId := hPlain
      exact .of_insertRole hSound hDone
  | updateRole id name =>
      rcases updateRole_eq_ok hDone with rfl | ⟨-, -, rfl⟩
      · exact .of_same hSound rfl rfl
      · refine .of_change hSound (fun row => ?_) (fun row => ?_) rfl rfl
        · split <;> rfl
        · split <;> rfl
  | deleteRole id =>
      obtain rfl := (Prod.mk.inj (Except.ok.inj hDone)).2
      exact .of_deleteRole hSound id
  | bumpHolders | deletePermission | deleteGrants | insertGrants | bumpRole => exact hPlain.elim
  | _ =>
      cases hDone
      exact .of_same hSound rfl rfl

end Plain

end Rolebook.Relational
