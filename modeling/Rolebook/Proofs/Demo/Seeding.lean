import Rolebook.Proofs.Demo.Advance
import Rolebook.Proofs.Memory.Trials

/-!
# Seeding

The script that seeds a store is gone through part by part, each with what it needs and what it has
come to when it succeeds (`Leads`): whatever calls are kept from the store, a part leads on by
advances only, and it asks for no change where the demonstration data are complete. So do all parts
together (`leads_seed`), from any state to one with complete data.
-/

namespace Rolebook.Demo

open Relation (ReflTransGen)
open Rolebook.Memory
open Rolebook.Store (Call Error Script call)

variable {α β : Type}

/-! ## Parts of the script -/

/-- What a run of a part of the script has come to, with its result if it is done. -/
structure LedOn (good : α → State → Prop) (state : State) (trail : List Trial)
    (ended? : Option (Except Error α)) (after : State) : Prop where
  path : ReflTransGen Advance state after
  reading : Settled state → Reading trail
  succeeds : Undisturbed trail → ∃ result, ended? = some (.ok result)
  good : ∀ result, ended? = some (.ok result) → good result after

/-- A part of the script leads on from each state in which something holds, whatever calls are kept
from the store. -/
def Leads (before : State → Prop) (script : ExceptT Error Script α) (good : α → State → Prop) :
    Prop :=
  ∀ state trail ended? after, Coherent state → before state →
    Runs state script.run trail ended? after →
    LedOn good state trail ended? after

section LedOn

variable {good : α → State → Prop} {good' : β → State → Prop} {state after : State}
  {trail : List Trial}

theorem LedOn.imp {good' : α → State → Prop} {ended? : Option (Except Error α)}
    (hLed : LedOn good state trail ended? after)
    (hGood : ∀ result, good result after → good' result after) :
    LedOn good' state trail ended? after :=
  { hLed with good := fun result hEnd => hGood result (hLed.good result hEnd) }

/-- Nothing follows a part that has not succeeded, so all of the script has come to what this part
has come to. -/
theorem LedOn.of_failed {ended? : Option (Except Error α)} {ended?' : Option (Except Error β)}
    (hLed : LedOn good state trail ended? after) (hFailed : ∀ result, ended? ≠ some (.ok result))
    (hFailed' : ∀ result, ended?' ≠ some (.ok result)) : LedOn good' state trail ended?' after where
  path := hLed.path
  reading := hLed.reading
  succeeds hUndisturbed := by
    obtain ⟨result, hOk⟩ := hLed.succeeds hUndisturbed
    exact absurd hOk (hFailed result)
  good result hEnd := absurd hEnd (hFailed' result)

end LedOn

/-- What holds in a state holds after an advance. -/
def Stable (holds : State → Prop) : Prop :=
  ∀ state after, Coherent state → Advance state after → holds state → holds after

theorem Stable.of_path {holds : State → Prop} (hStable : Stable holds) {state after : State}
    (hState : Coherent state) (hPath : ReflTransGen Advance state after) (hHolds : holds state) :
    holds after := by
  induction hPath with
  | refl => exact hHolds
  | tail hEarlier hAdvance ih => exact hStable _ _ (coherent_of_path hEarlier hState) hAdvance ih

section Rules

variable {before : State → Prop} {good : α → State → Prop} {good' : β → State → Prop}

theorem Leads.pure {result : α}
    (hGood : ∀ state, Coherent state → before state → good result state) :
    Leads before (pure result) good := by
  intro state trail ended? after hState hBefore hRun
  cases hRun
  exact ⟨.refl, fun _ => List.forall_mem_nil _, fun _ => ⟨result, rfl⟩,
    fun _ hEnd => Except.ok.inj (Option.some.inj hEnd) ▸ hGood state hState hBefore⟩

theorem Leads.bind {script : ExceptT Error Script α} {next : α → ExceptT Error Script β}
    (hScript : Leads before script good)
    (hNext : ∀ result, Leads (good result) (next result) good') :
    Leads before (script >>= next) good' := by
  intro state trail ended? after hState hBefore hRun
  rw [ExceptT.run_bind] at hRun
  rcases hRun.of_bind with ⟨earlier, later, result, between, rfl, hFirst, hRest⟩ | ⟨rfl, hFirst⟩
  · have hEarlier := hScript _ _ _ _ hState hBefore hFirst
    have hBetween := coherent_of_path hEarlier.path hState
    cases result with
    | error error =>
        -- what comes after a failure is left out
        cases hRest
        rw [List.append_nil]
        exact hEarlier.of_failed (fun _ hEnd => nomatch hEnd) fun _ hEnd => nomatch hEnd
    | ok result =>
        have hLater := hNext result _ _ _ _ hBetween (hEarlier.good result rfl) hRest
        refine ⟨hEarlier.path.trans hLater.path, fun hSettled => ?_,
          fun hUndisturbed => ?_, hLater.good⟩
        · have hSame := hSettled.eq_of_path hState hEarlier.path
          exact Reading.append_iff.2 ⟨hEarlier.reading hSettled, hLater.reading (hSame ▸ hSettled)⟩
        · exact hLater.succeeds (Undisturbed.append_iff.1 hUndisturbed).2
  · exact (hScript _ _ _ _ hState hBefore hFirst).of_failed (fun _ hEnd => nomatch hEnd)
      fun _ hEnd => nomatch hEnd

/-- A call leads on if it succeeds and only reads, or is an advance. -/
theorem Leads.call {c : Call} {good : c.Value → State → Prop}
    (hPerform : ∀ state moment, Coherent state → before state → NewIdUnused moment state c →
      ∃ value after, state.perform moment c = (.ok value, after) ∧ good value after ∧
        (readsOnly c = true ∧ after = state ∨ Advance state after)) :
    Leads before (call c) good := by
  intro state trail ended? after hState hBefore hRun
  -- where the data are complete there is no advance, and so the call only reads, whether or not it
  -- is made
  have hReads : Settled state → readsOnly c = true := by
    intro hSettled
    obtain ⟨id, hPermission, hRole⟩ := exists_unusedId state
    have hNew : NewIdUnused ⟨⟨0⟩, id⟩ state c := by
      cases c <;> trivial
    obtain ⟨_, _, -, -, ⟨hReads, -⟩ | hAdvance⟩ := hPerform state ⟨⟨0⟩, id⟩ hState hBefore hNew
    · exact hReads
    · exact absurd hAdvance (hSettled.not_advance hState)
  have hReading : ∀ reached, Settled state → Reading [⟨c, reached⟩] := fun _ hSettled =>
    List.forall_mem_singleton.2 (hReads hSettled)
  have hKept : ∀ ended? : Option (Except Error c.Value), (∀ result, ended? ≠ some (.ok result)) →
      LedOn good state [⟨c, false⟩] ended? state := fun ended? hFailed =>
    { path := .refl
      reading := hReading false
      succeeds := fun hUndisturbed => absurd (hUndisturbed _ List.mem_cons_self) Bool.false_ne_true
      good := fun result hEnd => absurd hEnd (hFailed result) }
  cases hRun with
  | @reached _ _ moment _ _ trail _ hNew hRest =>
      obtain ⟨value, between, hDone, hGood, hStep⟩ := hPerform state moment hState hBefore hNew
      rw [hDone] at hRest
      cases hRest
      refine ⟨?_, hReading true, fun _ => ⟨value, rfl⟩,
        fun _ hEnd => Except.ok.inj (Option.some.inj hEnd) ▸ hGood⟩
      rcases hStep with ⟨-, rfl⟩ | hAdvance
      · exact .refl
      · exact .single hAdvance
  | failed error hRest =>
      cases hRest
      exact hKept _ fun _ hEnd => nomatch hEnd
  | stopped => exact hKept _ fun _ hEnd => nomatch hEnd

/-- A reading succeeds, and all that held holds. -/
theorem Leads.reading {c : Call} {read : State → c.Value} (hReads : readsOnly c = true)
    (hPerform : ∀ (state : State) (moment : Moment), state.perform moment c =
      (.ok (read state), state)) :
    Leads before (Store.call c) fun value state => before state ∧ read state = value :=
  .call fun state moment _ hBefore _ =>
    ⟨read state, state, hPerform state moment, ⟨hBefore, rfl⟩, .inl ⟨hReads, rfl⟩⟩

/-- What held before a part of the script holds behind it if no advance ends it. -/
theorem Leads.keeping {script : ExceptT Error Script α} {held : State → Prop}
    (hScript : Leads before script good) (hStable : Stable held)
    (hHeld : ∀ state, before state → held state) :
    Leads before script fun result state => good result state ∧ held state := by
  intro state trail ended? after hState hBefore hRun
  have hLed := hScript _ _ _ _ hState hBefore hRun
  exact hLed.imp fun result hGood => ⟨hGood, hStable.of_path hState hLed.path (hHeld state hBefore)⟩

theorem Leads.imp {script : ExceptT Error Script α} {before' : State → Prop}
    {good' : α → State → Prop} (hScript : Leads before script good)
    (hBefore : ∀ state, before' state → before state)
    (hGood : ∀ result state, Coherent state → good result state → good' result state) :
    Leads before' script good' := by
  intro state trail ended? after hState hBefore' hRun
  have hLed := hScript _ _ _ _ hState (hBefore state hBefore') hRun
  exact hLed.imp fun result => hGood result after (coherent_of_path hLed.path hState)

/-- A loop in which each round comes to something that no advance ends comes to all of this. -/
theorem Leads.forM {entries : List β} {body : β → ExceptT Error Script Unit}
    {reached : β → State → Prop} (hBefore : Stable before)
    (hStable : ∀ entry ∈ entries, Stable (reached entry))
    (hBody : ∀ entry ∈ entries, Leads before (body entry) fun _ => reached entry) :
    Leads before (entries.forM body) fun _ state => ∀ entry ∈ entries, reached entry state := by
  induction entries with
  | nil => exact .pure fun _ _ _ => List.forall_mem_nil _
  | cons entry entries ih =>
      rw [List.forall_mem_cons] at hStable hBody
      refine (hBody.1.keeping hBefore fun _ => id).bind fun _ => ?_
      have hRest : Leads (fun state => reached entry state ∧ before state) (entries.forM body)
          fun _ state => ∀ other ∈ entries, reached other state :=
        (ih hStable.2 hBody.2).imp (fun _ => And.right) fun _ _ _ => id
      exact (hRest.keeping hStable.1 fun _ => And.left).imp (fun _ => id) fun _ _ _ hBoth =>
        List.forall_mem_cons.2 ⟨hBoth.2, hBoth.1⟩

end Rules

/-! ## What no advance ends -/

theorem stable_hasPermission (name : String) : Stable (HasPermission name) := by
  rintro state after - hAdvance ⟨id, hNamed⟩
  exact ⟨id, hAdvance.keepsPermissions.named hNamed⟩

theorem stable_hasPermissions : Stable HasPermissions :=
  fun state after hState hAdvance hAll entry hEntry =>
    stable_hasPermission entry.1 state after hState hAdvance (hAll entry hEntry)

/-- A role that has the set that it should have keeps it. -/
theorem stable_hasRole {name : String} {names : List String} (hDemo : (name, names) ∈ roles) :
    Stable (HasRole name names) := by
  rintro state after hState hAdvance ⟨id, role, hShown, rfl, hSet⟩
  rcases hAdvance.role_cases hState hShown with hKept |
    ⟨names', wanted, hDemo', hWanted, hDiffers, -⟩
  · exact ⟨id, role, hKept, rfl, hSet.later hAdvance.keepsPermissions (hAdvance.coherent hState)⟩
  · obtain rfl := names_unique hDemo hDemo'
    exact absurd (hSet.unique hWanted) hDiffers

/-! ## The parts -/

/-- The role is the one that is shown under a name. -/
def Shows (name : String) (role : Role) (state : State) : Prop :=
  state.getRole role.id = .ok role ∧ role.name = name

theorem shown_of_createRole {state after : State} {moment : Moment} {name : String} {shown : Role}
    (hDone : state.createRole moment name = (.ok shown, after)) :
    shown = after.showRole (.new moment (Text.trim name)) := by
  have hStep := transition_perform moment state (.createRole name)
  rw [show state.perform moment (.createRole name) = (.ok shown, after) from hDone] at hStep
  cases hStep with
  | reads _ hReads => cases hReads
  | createRole hKept hFree =>
      rw [kept_eq_trim hKept]
      rfl

theorem leads_seedPermission {name description : String}
    (hDemo : (name, description) ∈ permissions) :
    Leads (fun _ => True) (seedPermission name description) fun _ => HasPermission name := by
  refine Leads.bind (.reading rfl fun _ _ => rfl) fun found? => ?_
  cases found? with
  | some permission =>
      exact .pure fun state hState hFound => ⟨_, hState.permission_of_getPermissionByName hFound.2⟩
  | none =>
      suffices hCreates : Leads (fun state => True ∧ state.getPermissionByName name = none)
          (call (.createPermission name (some description))) fun _ => HasPermission name from
        hCreates.bind fun _ => .pure fun _ _ => id
      refine .call fun state moment hState hFound hNew => ?_
      obtain ⟨hName, hTrim⟩ := kept_of_mem_permissions hDemo
      have hFree := getPermissionByName_eq_none_iff.1 hFound.2
      obtain ⟨shown, hDone⟩ :=
        createPermission_done moment (some description) (hTrim.symm ▸ hName) (hTrim.symm ▸ hFree)
      rw [hTrim] at hDone
      have hNamed :
          HasPermission name (state.addPermission (.new moment name (some description))) :=
        ⟨moment.newId, _, State.permission?_addPermission.trans (if_pos rfl), rfl⟩
      exact ⟨shown, _, hDone, hNamed, .inr (.permission moment hDemo hFree hNew)⟩

theorem leads_seedRole {before : State → Prop} (hBefore : Stable before) {name : String}
    {names : List String} (hDemo : (name, names) ∈ roles) :
    Leads before (seedRole name) fun role state => Shows name role state ∧ before state := by
  refine Leads.bind (.reading rfl fun _ _ => rfl) fun found? => ?_
  cases found? with
  | some role =>
      refine .pure fun state hState hFound => ⟨?_, hFound.1⟩
      obtain ⟨record, hRecord, rfl, rfl⟩ := hState.role_of_getRoleByName hFound.2
      exact ⟨getRole_eq_ok_iff.2 ⟨record, hRecord, rfl⟩, rfl⟩
  | none =>
      refine Leads.keeping (.call fun state moment hState hFound hNew => ?_)
        hBefore fun _ => And.left
      obtain ⟨hName, hTrim⟩ := kept_of_mem_roles hDemo
      have hFree := getRoleByName_eq_none_iff.1 hFound.2
      obtain ⟨shown, hDone⟩ := createRole_done moment (hTrim.symm ▸ hName) (hTrim.symm ▸ hFree)
      obtain rfl := shown_of_createRole hDone
      rw [hTrim] at hDone
      have hShown : (state.addRole (.new moment name)).getRole moment.newId =
          .ok ((state.addRole (.new moment name)).showRole (.new moment name)) :=
        getRole_eq_ok_iff.2 ⟨.new moment name, State.role?_addRole.trans (if_pos rfl), rfl⟩
      exact ⟨_, _, hDone, ⟨hShown, rfl⟩, .inr (.role moment hDemo hFree hNew)⟩

/-- A set is one that is given and the permissions with these names. -/
def Collected (ids : IdSet) (names : List String) (wanted : IdSet) (state : State) : Prop :=
  ∀ id, id ∈ wanted ↔ id ∈ ids ∨ ∃ name ∈ names,
    Named PermissionRecord.name state.permissions name id

/-- The identifiers are collected without a change. -/
theorem leads_collectPermissions {before : State → Prop} (ids : IdSet) (names : List String) :
    Leads before (collectPermissions ids names) fun wanted state => before state ∧
      Collected ids names wanted state := by
  induction names generalizing before ids with
  | nil => exact .pure fun state _ hBefore => ⟨hBefore, fun id => by simp⟩
  | cons name names ih =>
      refine Leads.bind (.reading rfl fun _ _ => rfl) fun found? => ?_
      cases found? with
      | some permission =>
          refine (ih (ids.insert permission.id)).imp (fun _ => id)
            fun wanted state hState hBoth => ?_
          obtain ⟨⟨hBefore, hFound⟩, hWanted⟩ := hBoth
          have hNamed := hState.permission_of_getPermissionByName hFound
          refine ⟨hBefore, fun id => ?_⟩
          have hHead : Named PermissionRecord.name state.permissions name id ↔ id = permission.id :=
            ⟨fun hId => hState.permissions.named_unique hId hNamed, fun hId => hId ▸ hNamed⟩
          rw [hWanted, OrderedSet.mem_insert, List.exists_mem_cons_iff, hHead,
            or_left_comm, or_assoc]
      | none =>
          refine (ih ids).imp (fun _ => id) fun wanted state _ hBoth => ?_
          obtain ⟨⟨hBefore, hAbsent⟩, hWanted⟩ := hBoth
          refine ⟨hBefore, fun id => ?_⟩
          rw [hWanted, List.exists_mem_cons_iff,
            or_iff_right (getPermissionByName_eq_none_iff.1 hAbsent id)]

/-- Where all demonstration permissions are there, the whole set of a role is collected. -/
theorem Collected.idsOf {name : String} {names : List String} {wanted : IdSet} {state : State}
    (hCollected : Collected ∅ names wanted state) (hDemo : (name, names) ∈ roles)
    (hPermissions : HasPermissions state) :
    IdsOf state names wanted where
  mem_iff id := (hCollected id).trans (or_iff_right List.not_mem_nil)
  present permission hPermission := by
    obtain ⟨entry, hEntry, rfl⟩ :=
      List.mem_map.1 (mem_permissions_of_mem_roles hDemo permission hPermission)
    exact hPermissions entry hEntry

theorem leads_seedGrants {name : String} {names : List String} (hDemo : (name, names) ∈ roles) :
    Leads HasPermissions (seedGrants name names) fun _ => HasRole name names := by
  refine (leads_seedRole stable_hasPermissions hDemo).bind fun role => ?_
  refine (leads_collectPermissions ∅ names).bind fun wanted => ?_
  split
  · next hDiffers =>
      refine Leads.bind (.call fun state moment hState hHere _ => ?_) fun _ => .pure fun _ _ => id
      obtain ⟨⟨⟨hShown, rfl⟩, hPermissions⟩, hCollected⟩ := hHere
      obtain ⟨record, hFound, rfl⟩ := getRole_eq_ok_iff.1 hShown
      have hWanted := hCollected.idsOf hDemo hPermissions
      have hAdvance := Advance.grants hDemo hFound hWanted hDiffers
      have hReset : ((state.setGrants record.id wanted).bumpRole record.id).getRole record.id =
          .ok (withSet wanted (state.showRole record)) :=
        (hState.setReplaced wanted hFound).role.2.trans
          (congrArg (Except.map (withSet wanted)) hShown)
      exact ⟨_, _, setRolePermissions_of_known hFound fun _ => hWanted.known,
        ⟨record.id, _, hReset, rfl,
          hWanted.later hAdvance.keepsPermissions (hAdvance.coherent hState)⟩, .inr hAdvance⟩
  · next hSame =>
      refine .pure fun state _ hHere => ?_
      obtain ⟨⟨⟨hShown, rfl⟩, hPermissions⟩, hCollected⟩ := hHere
      exact ⟨role.id, role, hShown, rfl,
        (of_not_not hSame).symm ▸ hCollected.idsOf hDemo hPermissions⟩

/-- Seeding leads from any state to one with complete data. -/
theorem leads_seed : Leads (fun _ => True) seed fun _ => Settled := by
  have hPermissions :
      Leads (fun _ => True) (permissions.forM fun entry => seedPermission entry.1 entry.2)
      fun _ => HasPermissions :=
    .forM (fun _ _ _ _ => id) (fun entry _ => stable_hasPermission entry.1) fun _ =>
      leads_seedPermission
  have hRoles : Leads HasPermissions (roles.forM fun entry => seedGrants entry.1 entry.2)
      fun _ state => ∀ entry ∈ roles, HasRole entry.1 entry.2 state :=
    .forM stable_hasPermissions (fun _ => stable_hasRole) fun _ => leads_seedGrants
  refine hPermissions.bind fun _ =>
    (hRoles.keeping stable_hasPermissions fun _ => id).imp (fun _ => id) ?_
  rintro _ state - ⟨hRoles, hPermissions⟩
  exact ⟨hPermissions, hRoles⟩

end Rolebook.Demo
