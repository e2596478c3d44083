import Rolebook.Http.Handler
import Rolebook.Proofs.Memory.Permission

/-!
# Changes of a permission by requests

A request that changes a permission reads it first, fills in what the request does not mention and
writes name and description back together. Nothing tells the store which permission was read, so
what others have written in between is written over.

`patch_keeps_unmentioned_iff_unchanged` says exactly when this does harm: what the request does not
mention is left with the value that was read, which is the value at the moment of the write only if
no one has given it another one since. `patch_undoes_concurrent_patch` is a run in which someone
has.
-/

namespace Rolebook.Http

open Rolebook.Memory
open Rolebook.Store (Call Error Script)

/-- A request asks for a change to the permission with an identifier. -/
structure Patches (request : Request) (id : Id) (patch : PermissionPatch) : Prop where
  method : request.method = "PATCH"
  path : ∃ raw, Route.ofPath? (pathOf request.target) = some (.permission raw) ∧
    Text.percentDecode? raw = some id
  body : permissionPatch.ofRequest request = .ok patch

/-- What a change has made of a permission that was read at one moment and written at another. -/
structure Patched (id : Id) (patch : PermissionPatch) (read write : Event)
    (old current new : PermissionRecord) : Prop where
  reads : read.before.permission? id = some old
  meets : write.before.permission? id = some current
  leaves : write.after.permission? id = some new
  name : new.name = Text.trim (patch.name.getD old.name)
  description : new.description = patch.description.apply old.description

/-! ## The two calls -/

section Calls

variable {request : Request} {id : Id} {patch : PermissionPatch} {events : List Event}

/-- A request that asks for a change is handled by the script that makes it. -/
theorem Patches.handle_eq (h : Patches request id patch) (profile : Profile) :
    handle profile request =
      do return (← withoutReply (patchPermission id patch)).forMethod "PATCH" := by
  obtain ⟨raw, hRoute, hId⟩ := h.path
  rw [handle, hRoute]
  simp [h.method, Route.methods, handleRoute, withId, hId, withBody, h.body]

theorem follows_withoutReply {script : Script Response} {handled : Handled} :
    Follows (withoutReply script) events handled ↔
      ∃ response, Follows script events response ∧ .ofResponse response = handled :=
  follows_map

theorem Patches.follows_iff (h : Patches request id patch) {profile : Profile} {handled : Handled} :
    Follows (handle profile request) events handled ↔
      ∃ response, Follows (patchPermission id patch) events response ∧
        .ofResponse response = handled := by
  rw [h.handle_eq, follows_map, ← follows_withoutReply]
  constructor
  · rintro ⟨ended, hRun, rfl⟩
    exact hRun
  · intro hRun
    exact ⟨handled, hRun, rfl⟩

/-- A request whose permission is found and can be written gets it back as it was written. -/
theorem Patches.follows_of_written (h : Patches request id patch) (profile : Profile)
    {read write : Event} (shown written : Permission) (hRead : read.call = .getPermission id)
    (hShown : read.before.getPermission id = .ok shown)
    (hWrite : write.call =
      .updatePermission id (patch.name.getD shown.name) (patch.description.apply shown.description))
    (hWritten : (write.before.updatePermission id (patch.name.getD shown.name)
      (patch.description.apply shown.description)).1 = .ok written) :
    Follows (handle profile request) [read, write]
      (.ofResponse (.ofJson 200 (jsonOfPermission written))) := by
  have hFirst : (read.before.perform read.moment (.getPermission id)).1 = .ok shown := hShown
  have hSecond :
      (write.before.perform write.moment (.updatePermission id (patch.name.getD shown.name)
    (patch.description.apply shown.description))).1 = .ok written := hWritten
  refine h.follows_iff.2 ⟨_, ⟨hRead, ?_⟩, rfl⟩
  rw [hFirst]
  refine ⟨hWrite, ?_⟩
  rw [hSecond]
  exact ⟨rfl, rfl⟩

/-- No error of the store makes a response that reports success. -/
theorem status_ofError (noun action : String) (error : Error) :
    400 ≤ (Problem.ofError noun action error).response.status := by
  cases error <;>
    simp [Problem.ofError, Problem.response, Response.ofJson, Problem.validation, Problem.internal]

theorem status_ofError_ne {noun action : String} {error : Error} :
    (Problem.ofError noun action error).response.status ≠ 200 :=
  Nat.ne_of_gt (Nat.lt_of_lt_of_le (by decide) (status_ofError noun action error))

/-- A run that ends well has read the permission and then written it. -/
theorem follows_patchPermission {response : Response}
    (hRun : Follows (patchPermission id patch) events response) (hSuccess : response.status = 200) :
    ∃ read write shown written, events = [read, write] ∧ read.before.getPermission id = .ok shown ∧
      Transition write.moment write.before
        (.updatePermission id (patch.name.getD shown.name)
          (patch.description.apply shown.description)) (.ok written)
        write.after := by
  obtain ⟨read, later, rfl, hRead, hRest⟩ := follows_ask hRun
  have hAnswer : (read.before.perform read.moment (.getPermission id)).1 =
      read.before.getPermission id := rfl
  rw [hAnswer] at hRest
  cases hShown : read.before.getPermission id with
  | error error =>
      -- the error is answered at once, and no such answer reports success
      rw [hShown] at hRest
      obtain ⟨-, rfl⟩ := hRest
      exact absurd hSuccess status_ofError_ne
  | ok shown =>
      rw [hShown] at hRest
      obtain ⟨write, later, rfl, hWrite, hEnd⟩ := follows_ask hRest
      have hStep := write.transition_of_call hWrite
      generalize
        (write.before.perform write.moment (.updatePermission id (patch.name.getD shown.name)
        (patch.description.apply shown.description))).1 = answer at hStep hEnd
      cases answer with
      | error error =>
          obtain ⟨-, rfl⟩ := hEnd
          exact absurd hSuccess status_ofError_ne
      | ok written =>
          obtain ⟨rfl, rfl⟩ := hEnd
          exact ⟨read, write, shown, written, rfl, hShown, hStep⟩

/-- A run that ends well has changed the permission by what it has read of it. -/
theorem patched_of_follows {response : Response}
    (hRun : Follows (patchPermission id patch) events response) (hSuccess : response.status = 200) :
    ∃ read write old current new, events = [read, write] ∧
      Patched id patch read write old current new := by
  obtain ⟨read, write, shown, written, rfl, hShown, hStep⟩ := follows_patchPermission hRun hSuccess
  obtain ⟨old, hOld, rfl⟩ := getPermission_eq_ok_iff.1 hShown
  obtain ⟨current, hCurrent, hNew⟩ := hStep.updated
  exact ⟨read, write, old, current, _, rfl, hOld, hCurrent, hNew, rfl, rfl⟩

end Calls

/-! ## What becomes of the rest -/

/-- Any number of clients may use a store at the same time, and one of them asks for a change to a
permission. If the request succeeds then it has read the permission and written it. What it does not
mention is left with the value that it has at the moment of the write if and only if this is the
value that was read. It is, if no one has described the permission between the two calls. -/
theorem patch_keeps_unmentioned_iff_unchanged {history : List Event}
    (hHistory : History .empty history) {client : Nat} {profile : Profile} {request : Request}
    {id : Id} {patch : PermissionPatch} {handled : Handled} (hPatch : Patches request id patch)
    (hRun : Follows (handle profile request) (eventsOf client history) handled)
    (hSuccess : handled.response.status = 200) :
    ∃ earlier read between write later old current new,
      history = earlier ++ read :: between ++ write :: later ∧
      eventsOf client history = [read, write] ∧
      Patched id patch read write old current new ∧
      (patch.description = .keep →
        (new.description = current.description ↔ current.description = old.description)) ∧
      (patch.name = none → (new.name = current.name ↔ current.name = old.name)) ∧
      ((∀ event ∈ between, describes id event.moment event.call event.answer = false) →
        current = old) := by
  obtain ⟨response, hScript, rfl⟩ := hPatch.follows_iff.1 hRun
  obtain ⟨read, write, old, current, new, hOwn, hPatched⟩ := patched_of_follows hScript hSuccess
  obtain ⟨earlier, between, later, rfl⟩ := eventsOf_eq_pair hOwn
  have hRead : readsOnly read.call = true := by
    rw [hOwn] at hScript
    rw [hScript.1]
    rfl
  -- names in the store have no blanks at their ends, so to write one back does not change it
  have hOldName : Text.trim old.name = old.name := by
    have hCoherent := hHistory.coherent .empty read (by simp)
    exact (hCoherent.permissions.name_kept id old hPatched.reads).2
  refine ⟨earlier, read, between, write, later, old, current, new, rfl, hOwn, hPatched, ?_, ?_, ?_⟩
  · intro hKeep
    rw [hPatched.description, hKeep]
    exact eq_comm
  · intro hNone
    rw [hPatched.name, hNone, Option.getD_none, hOldName]
    exact eq_comm
  · exact hHistory.same_permission hRead hPatched.reads hPatched.meets

/-! ## Two changes at the same time -/

/-- A request for a change to the permission p. -/
def requestFor (body : String) : Request :=
  ⟨"PATCH", "/v1/permissions/p", [("content-type", Text.toUtf8 "application/json")],
    Text.toUtf8 body⟩

/-- The permission is to have another name. -/
def renameRequest : Request := requestFor "\x7b\"name\":\"view\"\x7d"

/-- The permission is to have another description. -/
def describeRequest : Request := requestFor "\x7b\"description\":\"new\"\x7d"

theorem ok_of_toOption {ε α : Type} {result : Except ε α} {value : α}
    (h : result.toOption = some value) :
    result = .ok value := by
  cases result with
  | error error => cases h
  | ok found => exact congrArg Except.ok (Option.some.inj h)

theorem patches_rename : Patches renameRequest "p" ⟨some "view", .keep⟩ where
  method := rfl
  path := ⟨"p", by decide +kernel, by decide +kernel⟩
  body := ok_of_toOption (by decide +kernel)

theorem patches_describe : Patches describeRequest "p" ⟨none, .replace (some "new")⟩ where
  method := rfl
  path := ⟨"p", by decide +kernel, by decide +kernel⟩
  body := ok_of_toOption (by decide +kernel)

/-- One client gives the permission another name while a second one gives it another description.
Both have read it before either of them writes it. -/
def duel : List Event :=
  historyOf .empty [
    (0, ⟨⟨0⟩, "p"⟩, .createPermission "read" (some "old")),
    (1, ⟨⟨1⟩, ""⟩, .getPermission "p"),
    (2, ⟨⟨2⟩, ""⟩, .getPermission "p"),
    (2, ⟨⟨3⟩, ""⟩, .updatePermission "p" "read" (some "new")),
    (1, ⟨⟨4⟩, ""⟩, .updatePermission "p" "view" (some "old"))]

/-- What a service with a store in memory says of itself. -/
def memoryProfile : Profile :=
  ⟨"memory", false, true, .empty⟩

theorem follows_rename :
    Follows (handle memoryProfile renameRequest) (eventsOf 1 duel)
      (.ofResponse (.ofJson 200 (jsonOfPermission ⟨"p", "view", some "old", ⟨0⟩, ∅⟩))) :=
  patches_rename.follows_of_written _ ⟨"p", "read", some "old", ⟨0⟩, ∅⟩ _ rfl rfl rfl rfl

theorem follows_describe :
    Follows (handle memoryProfile describeRequest) (eventsOf 2 duel)
      (.ofResponse (.ofJson 200 (jsonOfPermission ⟨"p", "read", some "new", ⟨0⟩, ∅⟩))) :=
  patches_describe.follows_of_written _ ⟨"p", "read", some "old", ⟨0⟩, ∅⟩ _ rfl rfl rfl rfl

theorem patch_keeps_unmentioned_iff_unchanged_of_duel :
    History .empty duel ∧ Patches renameRequest "p" ⟨some "view", .keep⟩ ∧
      ∃ handled, Follows (handle memoryProfile renameRequest) (eventsOf 1 duel) handled ∧
        handled.response.status = 200 ∧
        ∃ read write old current new, eventsOf 1 duel = [read, write] ∧
          Patched "p" ⟨some "view", .keep⟩ read write old current new ∧
          (new.description = current.description ↔ current.description = old.description) := by
  have hHistory : History .empty duel := history_historyOf ..
  obtain ⟨_, read, _, write, _, old, current, new, -, hOwn, hPatched, hDescription, -⟩ :=
    @patch_keeps_unmentioned_iff_unchanged duel hHistory 1 memoryProfile renameRequest _
      _ _ patches_rename
      follows_rename rfl
  exact ⟨hHistory, patches_rename, _, follows_rename, rfl, read, write, old, current,
    new, hOwn, hPatched,
    hDescription rfl⟩

/-- Both requests of the duel succeed, but the description that the second client has given is gone:
the first client, whose request does not mention the description, has met it at its write and has
put the one that it had read in its place. -/
theorem patch_undoes_concurrent_patch :
    History .empty duel ∧
      (Patches renameRequest "p" ⟨some "view", .keep⟩ ∧
        ∃ handled, Follows (handle memoryProfile renameRequest) (eventsOf 1 duel) handled ∧
          handled.response.status = 200) ∧
      (Patches describeRequest "p" ⟨none, .replace (some "new")⟩ ∧
        ∃ handled, Follows (handle memoryProfile describeRequest) (eventsOf 2 duel) handled ∧
          handled.response.status = 200) ∧
      ∃ read write, eventsOf 1 duel = [read, write] ∧
        write.before.permission? "p" = some ⟨"p", "read", some "new", ⟨0⟩⟩ ∧
        write.after.permission? "p" = some ⟨"p", "view", some "old", ⟨0⟩⟩ :=
  ⟨history_historyOf .., ⟨patches_rename, _, follows_rename, rfl⟩,
    ⟨patches_describe, _, follows_describe, rfl⟩,
    _, _, rfl, by decide +kernel, by decide +kernel⟩

end Rolebook.Http
