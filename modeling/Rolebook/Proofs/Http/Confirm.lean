import Rolebook.Http.Handler
import Rolebook.Proofs.Memory.Trouble

/-!
# Responses that confirm a change

Whatever changes the store is the last call of the script that makes it, and the response to it
confirms the change: it reports success, to a request that does not only ask, and if the request
gives a command then the reply to that reports success as well (`writesLast_handle`).
-/

namespace Rolebook.Command

open Rolebook.Memory
open Rolebook.Store (Script)

/-! ## Commands -/

/-- A script that says whether there was something to change writes last, and says so if it has
written. -/
abbrev ChangesLast (script : Script (Except Store.Error Bool)) : Prop :=
  WritesLast (· = .ok true) script

/-- A script that replies to a command writes last, and reports success if it has written. -/
abbrev RepliesLast (script : Script Reply) : Prop :=
  WritesLast (fun reply => reply.status = .success) script

theorem writesLast_reread {role : Id} {goOn : Role → Script (Except Store.Error Bool)}
    (hGoOn : ∀ shown, ChangesLast (goOn shown)) : ChangesLast (reread role goOn) := by
  refine .ask_reading rfl fun answer => ?_
  cases answer with
  | error error => exact .pure _
  | ok shown => exact hGoOn shown

theorem writesLast_attemptChange {change : Change} {permission : Id} {shown : Role}
    {again? : Option (Role → Script (Except Store.Error Bool))}
    (hAgain : ∀ again ∈ again?, ∀ shown, ChangesLast (again shown)) :
    ChangesLast (attemptChange change permission shown again?) := by
  rw [attemptChange]
  cases change.wanted? permission shown.permissionIds with
  | none => exact .pure _
  | some wanted =>
      refine .ask_last (fun error => ?_) fun written => ⟨.ok true, rfl, rfl⟩
      -- the write has failed, and perhaps the role is read again for the next attempt
      split
      · exact .pure _
      · exact writesLast_reread (hAgain _ rfl)
      · exact .pure _

theorem writesLast_writeChange {change : Change} {permission : Id} (attempts : Nat) (shown : Role) :
    ChangesLast (writeChange change permission attempts shown) := by
  induction attempts generalizing shown with
  | zero => exact writesLast_attemptChange (by simp)
  | succ attempts ih =>
      refine writesLast_attemptChange fun again hAgain => ?_
      obtain rfl := Option.some.inj hAgain
      exact ih

theorem writesLast_changeByName (change : Change) (roleName permissionName : String) :
    RepliesLast (changeByName change roleName permissionName) := by
  rw [changeByName]
  refine .ask_reading rfl fun role? => ?_
  rcases role? with error | _ | role
  · exact .pure _
  · exact .pure _
  · refine .ask_reading rfl fun permission? => ?_
    rcases permission? with error | _ | permission
    · exact .pure _
    · exact .pure _
    · refine (writesLast_writeChange _ role).bind ?_ ?_
      · -- whatever the change has come to, there is only the reply left
        rintro (error | _ | _) <;> exact .pure _
      · rintro _ rfl
        exact ⟨_, rfl, rfl⟩

theorem writesLast_createPermission (name : String) (description : Option String) :
    RepliesLast (createPermission name description) := by
  refine .ask_last (fun error => ?_) fun (permission : Permission) => ?_
  · cases error <;> exact .pure _
  · cases hDescription : permission.description with
    | none => exact ⟨_, by simp only [hDescription]; rfl, rfl⟩
    | some description => exact ⟨_, by simp only [hDescription]; rfl, rfl⟩

theorem writesLast_createRole (name : String) : RepliesLast (createRole name) := by
  refine .ask_last (fun error => ?_) fun role => ⟨_, rfl, rfl⟩
  cases error <;> exact .pure _

/-- The command of a text writes last, and the reply to it reports success if it has written. -/
theorem writesLast_evaluate (text : String) : RepliesLast (evaluate text) := by
  unfold evaluate
  cases Phrase.parse? text with
  | none => exact .pure _
  | some command =>
      cases command with
      | createPermission name description => exact writesLast_createPermission _ description
      | createRole name => exact writesLast_createRole _
      | assignPermission role permission => exact writesLast_changeByName .grant _ _
      | removePermission role permission => exact writesLast_changeByName .revoke _ _

end Rolebook.Command

namespace Rolebook.Http

open Rolebook.Memory
open Rolebook.Store (Call Error Script)

/-! ## Requests -/

/-- A response reports success. -/
def Response.Succeeds (response : Response) : Prop :=
  200 ≤ response.status ∧ response.status < 300

@[simp] theorem succeeds_ofJson {status : Nat} {value : Json} :
    (Response.ofJson status value).Succeeds ↔ 200 ≤ status ∧ status < 300 :=
  .rfl

@[simp] theorem succeeds_ofStatus {status : Nat} :
    (Response.ofStatus status).Succeeds ↔ 200 ≤ status ∧ status < 300 :=
  .rfl

/-- The status of the reply to a command that a response carries. -/
def statusField? (response : Response) : Option String :=
  match response.content with
  | .json value => (value.get? "status").bind Json.text?
  | _ => none

/-- A response from which the one who makes a request can tell that it has changed something. -/
structure Confirms (request : Request) (response : Response) : Prop where
  method : request.method ≠ "GET" ∧ request.method ≠ "HEAD"
  succeeds : response.Succeeds
  reply : Route.ofPath? (pathOf request.target) = some .command →
    statusField? response = some Command.Status.success.label

section Scripts

variable {good : Response → Prop}

theorem writesLast_respondTo {call : Call} {succeeded : call.Value → Response}
    {failed : Error → Problem} (hGood : ∀ value, good (succeeded value)) :
    WritesLast good (respondTo call succeeded failed) :=
  .ask_last (fun _ => .pure _) fun value => ⟨_, rfl, hGood value⟩

theorem writesLast_respondTo_of_readsOnly {call : Call} {succeeded : call.Value → Response}
    {failed : Error → Problem} (hReads : readsOnly call = true) :
    WritesLast good (respondTo call succeeded failed) := by
  refine .ask_reading hReads fun answer => ?_
  cases answer <;> exact .pure _

theorem writesLast_withId {parameter raw : String} {next : Id → Script Response}
    (hNext : ∀ id, WritesLast good (next id)) : WritesLast good (withId parameter raw next) := by
  unfold withId
  split
  · exact hNext _
  · exact .pure _

theorem writesLast_withBody {α : Type} {format : BodyFormat α} {request : Request}
    {next : α → Script Response} (hNext : ∀ body, WritesLast good (next body)) :
    WritesLast good (withBody format request next) := by
  unfold withBody
  split
  · exact hNext _
  · exact .pure _

theorem writesLast_withoutReply {script : Script Response} (hScript : WritesLast good script) :
    WritesLast (fun handled => good handled.response) (withoutReply script) :=
  hScript.map fun _ hGood => hGood

/-- The permission is read before it is written, so there are two calls that may fail. -/
theorem writesLast_patchPermission (id : Id) (patch : PermissionPatch)
    (hGood : ∀ permission, good (.ofJson 200 (jsonOfPermission permission))) :
    WritesLast good (patchPermission id patch) := by
  refine .ask_reading rfl fun answer => ?_
  cases answer with
  | error error => exact .pure _
  | ok shown => exact writesLast_respondTo hGood

end Scripts

/-- The reply to a command is told in the response that carries it. -/
theorem statusField?_replyResponse (reply : Command.Reply) :
    statusField? (replyResponse reply) = some reply.status.label :=
  rfl

section Routes

variable {request : Request} {route : Route}

/-- Where no command is given, a response to a request that does not only ask confirms a change by
reporting success. -/
theorem Confirms.of_succeeds {response : Response}
    (hRoute : Route.ofPath? (pathOf request.target) = some route) (hOther : route ≠ .command)
    (hMethod : request.method ≠ "GET" ∧ request.method ≠ "HEAD") (hSucceeds : response.Succeeds) :
    Confirms request response where
  method := hMethod
  succeeds := hSucceeds
  reply hCommand := absurd (Option.some.inj (hRoute.symm.trans hCommand)) hOther

theorem writesLast_postCommand (hMethod : request.method ≠ "GET" ∧ request.method ≠ "HEAD")
    (profile : Profile) :
    WritesLast (fun handled => Confirms request handled.response)
      (postCommand profile request) := by
  unfold postCommand
  split
  · exact .pure _
  · split
    · exact .pure _
    · refine (Command.writesLast_evaluate _).map fun reply hReply =>
        ⟨hMethod, by simp [replyResponse], fun _ => ?_⟩
      rw [statusField?_replyResponse, hReply]

/-- Each route writes last, by any method that it takes. -/
theorem writesLast_handleRoute (profile : Profile)
    (hRoute : Route.ofPath? (pathOf request.target) = some route)
    (hAllowed : request.method ∈ route.methods) :
    WritesLast (fun handled => Confirms request handled.response)
      (handleRoute profile request route) := by
  cases route with
  | systemInfo | description | page => exact writesLast_withoutReply (.pure _)
  | systemHealth => exact writesLast_withoutReply (writesLast_respondTo_of_readsOnly rfl)
  | command =>
      have hMethod : request.method = "POST" := by simpa [Route.methods] using hAllowed
      exact writesLast_postCommand (by simp [hMethod]) profile
  | permissions =>
      refine writesLast_withoutReply ?_
      split
      · next hMethod =>
          exact writesLast_withBody fun draft => writesLast_respondTo fun _ =>
            .of_succeeds hRoute (by simp) (by simp [hMethod]) (by simp)
      · exact writesLast_respondTo_of_readsOnly rfl
  | permission raw =>
      refine writesLast_withoutReply (writesLast_withId fun id => ?_)
      split
      · next hMethod =>
          exact writesLast_withBody fun patch => writesLast_patchPermission id patch fun _ =>
            .of_succeeds hRoute (by simp) (by simp [hMethod]) (by simp)
      · split
        · next hMethod =>
            exact writesLast_respondTo fun _ =>
              .of_succeeds hRoute (by simp) (by simp [hMethod]) (by simp)
        · exact writesLast_respondTo_of_readsOnly rfl
  | roles =>
      refine writesLast_withoutReply ?_
      split
      · next hMethod =>
          exact writesLast_withBody fun name => writesLast_respondTo fun _ =>
            .of_succeeds hRoute (by simp) (by simp [hMethod]) (by simp)
      · exact writesLast_respondTo_of_readsOnly rfl
  | role raw =>
      refine writesLast_withoutReply (writesLast_withId fun id => ?_)
      split
      · next hMethod =>
          exact writesLast_withBody fun name => writesLast_respondTo fun _ =>
            .of_succeeds hRoute (by simp) (by simp [hMethod]) (by simp)
      · split
        · next hMethod =>
            exact writesLast_respondTo fun _ =>
              .of_succeeds hRoute (by simp) (by simp [hMethod]) (by simp)
        · exact writesLast_respondTo_of_readsOnly rfl
  | rolePermissions raw =>
      have hMethod : request.method = "PUT" := by simpa [Route.methods] using hAllowed
      exact writesLast_withoutReply
        (writesLast_withId fun id => writesLast_withBody fun permissions =>
        writesLast_respondTo fun _ => .of_succeeds hRoute (by simp) (by simp [hMethod]) (by simp))

/-- The response that is sent back to one who does not ask for the head only. -/
theorem Confirms.forMethod {handled : Handled} (h : Confirms request handled.response) :
    Confirms request (handled.forMethod request.method).response := by
  rwa [Handled.forMethod, if_neg h.method.2]

/-- The script of every request writes last, and if it has written then the response confirms it. -/
theorem writesLast_handle (profile : Profile) (request : Request) :
    WritesLast (fun handled => Confirms request handled.response) (handle profile request) := by
  unfold handle
  cases hRoute : Route.ofPath? (pathOf request.target) with
  | none => exact .pure _
  | some route =>
      dsimp only
      split
      · next hAllowed =>
          have hRouted := writesLast_handleRoute profile hRoute (List.contains_iff_mem.1 hAllowed)
          exact hRouted.map fun handled hConfirms => hConfirms.forMethod
      · exact .pure _

end Routes

end Rolebook.Http
