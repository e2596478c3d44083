import Rolebook.Proofs.Http.Patch
import Rolebook.Proofs.Store.Conversation

/-!
# What is not told about errors

A store may fail in ways that nobody has foreseen, and what it says then is not for those who make
requests. The handling of a request for permissions, roles or the system ends with the first such
failure, and with one response to all of them (`Conceals`): that something went wrong inside, and in
which step. So two stores that differ in nothing but the texts of such errors, and in the causes
behind them, cannot be told apart by the responses (`unexpected_errors_are_not_told`).

One who asks for the head of a response is told its status and nothing else (`head_tells_no_code`).
-/

namespace Rolebook.Store

variable {α β : Type}

/-! ## Errors of a kind -/

/-- Two stores answer alike, but where one of them answers with an error of a kind, the other may
answer with another one. -/
def Behaviour.AlikeButFor (hidden : Error → Prop) (store store' : Behaviour) : Prop :=
  ∀ earlier call, store earlier call = store' earlier call ∨
    ∃ error error', hidden error ∧ hidden error' ∧ store earlier call = .error error ∧
      store' earlier call = .error error'

/-- An error of a kind is met in a conversation. -/
def Meets (hidden : Error → Prop) (log : List Exchange) : Prop :=
  ∃ exchange ∈ log, ∃ error, exchange.error? = some error ∧ hidden error

/-- Whatever a script asks for, the errors of a kind bring it to an end at once, and with a result
that is one for all of them. -/
def Conceals (hidden : Error → Prop) (told : α → Prop) : Script α → Prop
  | .done _ => True
  | .ask _ next =>
    (∃ result, told result ∧ ∀ error, hidden error → next (.error error) = .done result) ∧
      ∀ answer, Conceals hidden told (next answer)

section Conceals

variable {hidden : Error → Prop} {told : α → Prop} {told' : β → Prop}

/-- Stores that differ in the errors of the kind only bring a script to the same result. -/
theorem Conceals.same {script : Script α} (hScript : Conceals hidden told script)
    {store store' : Behaviour} (hStores : store.AlikeButFor hidden store')
    (earlier : List Exchange) :
    (store.converse earlier script).2 = (store'.converse earlier script).2 := by
  induction script generalizing earlier with
  | done result => rfl
  | ask call next ih =>
      obtain ⟨⟨ended, -, hEnds⟩, hNext⟩ := hScript
      rcases hStores earlier call with hAnswer | ⟨error, error', hError, hError', hAnswer, hAnswer'⟩
      · simp only [Behaviour.converse, ← hAnswer]
        exact ih _ (hNext _) _
      · -- from here on the logs differ, but both conversations are over
        simp only [Behaviour.converse, hAnswer, hAnswer', hEnds error hError, hEnds error' hError']

/-- A script that meets an error of the kind ends as it does for these errors. -/
theorem Conceals.told_of_meets {script : Script α} (hScript : Conceals hidden told script)
    {log : List Exchange} {result : α} (hRun : Converses script log result)
    (hMeets : Meets hidden log) : told result := by
  induction hRun with
  | done result => exact absurd hMeets (by simp [Meets])
  | @ask call next answer log result hRest ih =>
      obtain ⟨⟨ended, hTold, hEnds⟩, hNext⟩ := hScript
      obtain ⟨exchange, hExchange, error, hAnswer, hError⟩ := hMeets
      rcases List.mem_cons.1 hExchange with rfl | hLater
      · cases answer with
        | ok value => cases hAnswer
        | error other =>
            obtain rfl := Option.some.inj hAnswer
            rw [hEnds other hError] at hRest
            cases hRest
            exact hTold
      · exact ih (hNext answer) ⟨exchange, hLater, error, hAnswer, hError⟩

theorem Conceals.pure (result : α) : Conceals hidden told (pure result : Script α) :=
  trivial

/-- What is made of the results of a script is made of the one that stands for the errors as
well. -/
theorem Conceals.map {script : Script α} (hScript : Conceals hidden told script) {turn : α → β}
    (hTold : ∀ result, told result → told' (turn result)) :
    Conceals hidden told' (do return turn (← script)) := by
  induction script with
  | done result => exact trivial
  | ask call next ih =>
      obtain ⟨⟨ended, hEnded, hEnds⟩, hNext⟩ := hScript
      refine ⟨⟨turn ended, hTold ended hEnded, fun error hHidden => ?_⟩,
        fun answer => ih answer (hNext answer)⟩
      change (next (.error error)).bind _ = .done (turn ended)
      rw [hEnds error hHidden]
      rfl

end Conceals

end Rolebook.Store

namespace Rolebook.Http

open Rolebook.Store

/-! ## Scripts of requests -/

/-- Errors that nobody has foreseen. -/
def IsUnexpected (error : Error) : Prop :=
  ∃ message causes, error = .unexpected message causes

/-- A response says that something went wrong inside, and no more. -/
def TellsInternal (response : Response) : Prop :=
  ∃ text, response = (Problem.internal text).response

/-- A request that gives no command has come to such a response. -/
def EndsInternal (handled : Handled) : Prop :=
  ∃ text, handled = .ofResponse (Problem.internal text).response

section Scripts

variable {hidden : Error → Prop}

theorem conceals_respondTo {call : Call} {succeeded : call.Value → Response}
    {failed : Error → Problem} {text : String}
    (hFailed : ∀ error, hidden error → failed error = .internal text) :
    Conceals hidden TellsInternal (respondTo call succeeded failed) := by
  refine ⟨⟨(Problem.internal text).response, ⟨text, rfl⟩, fun error hHidden => ?_⟩,
    fun answer => ?_⟩
  · simp only [hFailed error hHidden]
    rfl
  · cases answer <;> exact trivial

/-- Of an error that nobody has foreseen only the step is told in which it was met. -/
theorem ofError_of_isUnexpected {noun action : String} {error : Error}
    (hError : IsUnexpected error) :
    Problem.ofError noun action error = .internal ("failed to " ++ action) := by
  obtain ⟨message, causes, rfl⟩ := hError
  rfl

theorem conceals_withId {parameter raw : String} {next : Id → Script Response}
    (hNext : ∀ id, Conceals hidden TellsInternal (next id)) :
    Conceals hidden TellsInternal (withId parameter raw next) := by
  unfold withId
  split
  · exact hNext _
  · exact .pure _

theorem conceals_withBody {α : Type} {format : BodyFormat α} {request : Request}
    {next : α → Script Response} (hNext : ∀ body, Conceals hidden TellsInternal (next body)) :
    Conceals hidden TellsInternal (withBody format request next) := by
  unfold withBody
  split
  · exact hNext _
  · exact .pure _

/-- Both the reading and the write of a permission that is to be changed may fail. -/
theorem conceals_patchPermission (id : Id) (patch : PermissionPatch) :
    Conceals IsUnexpected TellsInternal (patchPermission id patch) := by
  refine ⟨⟨(Problem.internal ("failed to " ++ "fetch permission")).response, ⟨_, rfl⟩,
    fun error hError => ?_⟩,
    fun answer => ?_⟩
  · simp only [ofError_of_isUnexpected hError]
    rfl
  · cases answer with
    | error error => exact trivial
    | ok shown => exact conceals_respondTo fun error => ofError_of_isUnexpected

theorem conceals_withoutReply {script : Script Response}
    (hScript : Conceals hidden TellsInternal script) :
    Conceals hidden EndsInternal (withoutReply script) := by
  refine hScript.map fun response hTold => ?_
  obtain ⟨text, rfl⟩ := hTold
  exact ⟨text, rfl⟩

end Scripts

/-! ## Routes -/

/-- A response to a request by a method that says that something went wrong inside. -/
def ReportsInternal (method : String) (handled : Handled) : Prop :=
  ∃ text, handled = (Handled.ofResponse (Problem.internal text).response).forMethod method

section Routes

variable {profile : Profile} {request : Request} {route : Route}

theorem conceals_handleRoute (hRoute : route ≠ .command) :
    Conceals IsUnexpected EndsInternal (handleRoute profile request route) := by
  have hRespond {call : Call} {succeeded : call.Value → Response} {noun action : String} :
      Conceals IsUnexpected TellsInternal (respondTo call succeeded (.ofError noun action)) :=
    conceals_respondTo fun error => ofError_of_isUnexpected
  cases route with
  | systemInfo | description | page => exact conceals_withoutReply (.pure _)
  | systemHealth => exact conceals_withoutReply (conceals_respondTo fun _ _ => rfl)
  | command => exact absurd rfl hRoute
  | permissions =>
      refine conceals_withoutReply ?_
      split
      · exact conceals_withBody fun draft => hRespond
      · exact conceals_respondTo fun _ _ => rfl
  | permission raw =>
      refine conceals_withoutReply (conceals_withId fun id => ?_)
      split
      · exact conceals_withBody fun patch => conceals_patchPermission id patch
      · split <;> exact hRespond
  | roles =>
      refine conceals_withoutReply ?_
      split
      · exact conceals_withBody fun name => hRespond
      · exact conceals_respondTo fun _ _ => rfl
  | role raw =>
      refine conceals_withoutReply (conceals_withId fun id => ?_)
      split
      · exact conceals_withBody fun name => hRespond
      · split <;> exact hRespond
  | rolePermissions raw =>
      exact conceals_withoutReply
        (conceals_withId fun id => conceals_withBody fun permissions => hRespond)

/-- Where entities are listed, or the store is asked whether it works, no error at all is told. -/
theorem conceals_handleRoute_of_listing
    (hRoute : route = .systemHealth ∨ route = .permissions ∨ route = .roles)
    (hMethod : request.method ≠ "POST") :
    Conceals (fun _ => True) EndsInternal (handleRoute profile request route) := by
  rcases hRoute with rfl | rfl | rfl
  · exact conceals_withoutReply (conceals_respondTo fun _ _ => rfl)
  · rw [handleRoute, if_neg hMethod]
    exact conceals_withoutReply (conceals_respondTo fun _ _ => rfl)
  · rw [handleRoute, if_neg hMethod]
    exact conceals_withoutReply (conceals_respondTo fun _ _ => rfl)

/-- What is concealed by the route of a request is concealed by its handling. -/
theorem conceals_handle {hidden : Error → Prop}
    (hRoute : ∀ route, Route.ofPath? (pathOf request.target) = some route →
      Conceals hidden EndsInternal (handleRoute profile request route)) :
    Conceals hidden (ReportsInternal request.method) (handle profile request) := by
  unfold handle
  cases hFound : Route.ofPath? (pathOf request.target) with
  | none => exact .pure _
  | some route =>
      dsimp only
      split
      · refine (hRoute route hFound).map fun handled hTold => ?_
        obtain ⟨text, rfl⟩ := hTold
        exact ⟨text, rfl⟩
      · exact .pure _

/-- There is one path that takes commands. -/
theorem eq_of_ofPath?_eq_command {path : List Char} (hRoute : Route.ofPath? path = some .command) :
    path = "/natural-language".toList := by
  unfold Route.ofPath? at hRoute
  split at hRoute
  · cases hRoute
  split at hRoute
  · cases hRoute
  split at hRoute
  · assumption
  split at hRoute
  · cases hRoute
  split at hRoute
  · cases hRoute
  split at hRoute
  · cases hRoute
  split at hRoute
  · cases hRoute
  · -- the routes that are left name an entity
    simp [Option.or_eq_some_iff] at hRoute

end Routes

/-! ## Responses -/

/-- The code of the problem that a response tells. -/
def codeField? (response : Response) : Option String :=
  match response.content with
  | .json value => (value.get? "code").bind Json.text?
  | _ => none

theorem ReportsInternal.status {method : String} {handled : Handled}
    (hReports : ReportsInternal method handled) :
    handled.response.status = 500 := by
  obtain ⟨text, rfl⟩ := hReports
  rw [Handled.forMethod]
  split <;> rfl

theorem ReportsInternal.code {method : String} {handled : Handled}
    (hReports : ReportsInternal method handled) (hMethod : method ≠ "HEAD") :
    codeField? handled.response = some "internal" := by
  obtain ⟨text, rfl⟩ := hReports
  rw [Handled.forMethod, if_neg hMethod]
  rfl

theorem ReportsInternal.head {method : String} {handled : Handled}
    (hReports : ReportsInternal method handled) (hMethod : method = "HEAD") :
    handled.response.content = .empty := by
  obtain ⟨text, rfl⟩ := hReports
  rw [Handled.forMethod, if_pos hMethod]
  rfl

/-- Nothing is told of the errors of a kind in response to a request. -/
structure TellsNothingOf (hidden : Error → Prop) (profile : Profile) (request : Request) :
    Prop where
  /-- Stores that differ in such errors only are not told apart. -/
  same {store store' : Behaviour} : store.AlikeButFor hidden store' →
    (store.converse [] (handle profile request)).2.response =
      (store'.converse [] (handle profile request)).2.response
  status {store : Behaviour} : Meets hidden (store.converse [] (handle profile request)).1 →
    (store.converse [] (handle profile request)).2.response.status = 500
  /-- The code goes to all but those who ask for the head only. -/
  code {store : Behaviour} : Meets hidden (store.converse [] (handle profile request)).1 →
    request.method ≠ "HEAD" →
    codeField? (store.converse [] (handle profile request)).2.response = some "internal"
  head {store : Behaviour} : Meets hidden (store.converse [] (handle profile request)).1 →
    request.method = "HEAD" →
    (store.converse [] (handle profile request)).2.response.content = .empty

theorem tellsNothingOf_of_conceals {hidden : Error → Prop} {profile : Profile} {request : Request}
    (hScript : Conceals hidden (ReportsInternal request.method) (handle profile request)) :
    TellsNothingOf hidden profile request where
  same hStores := congrArg Handled.response (hScript.same hStores [])
  status {store} hMeets := (hScript.told_of_meets (converses_converse store [] _) hMeets).status
  code {store} hMeets := (hScript.told_of_meets (converses_converse store [] _) hMeets).code
  head {store} hMeets := (hScript.told_of_meets (converses_converse store [] _) hMeets).head

/-- Whatever store there is and whichever call it fails at, the one who makes a request for
permissions, roles or the system is not told of an error that nobody has foreseen, other than that
something went wrong inside. Where entities are listed, or the store is asked whether it works, this
is so for all errors. -/
theorem unexpected_errors_are_not_told (profile : Profile) {request : Request}
    (hPath : "/v1/".toList <+: pathOf request.target) :
    TellsNothingOf IsUnexpected profile request ∧
      ((∃ route ∈ [Route.systemHealth, .permissions, .roles],
        Route.ofPath? (pathOf request.target) = some route) →
        request.method ≠ "POST" → TellsNothingOf (fun _ => True) profile request) := by
  constructor
  · refine tellsNothingOf_of_conceals (conceals_handle fun route hFound => conceals_handleRoute ?_)
    rintro rfl
    rw [eq_of_ofPath?_eq_command hFound] at hPath
    exact absurd hPath (by decide)
  · rintro ⟨route, hListing, hRoute⟩ hMethod
    refine tellsNothingOf_of_conceals
      (conceals_handle fun other hFound => conceals_handleRoute_of_listing ?_ hMethod)
    obtain rfl := Option.some.inj (hRoute.symm.trans hFound)
    simpa using hListing

/-- A store that answers from a state, and to which nothing can be written. -/
def writeProtected (state : Memory.State) (error : Error) : Behaviour :=
  fun _ call => if Memory.readsOnly call then (state.perform ⟨⟨0⟩, ""⟩ call).1 else .error error

theorem alikeButFor_writeProtected {hidden : Error → Prop} (state : Memory.State)
    {error error' : Error} (hError : hidden error) (hError' : hidden error') :
    (writeProtected state error).AlikeButFor hidden (writeProtected state error') := by
  intro earlier call
  unfold writeProtected
  split
  · exact .inl rfl
  · exact .inr ⟨error, error', hError, hError', rfl, rfl⟩

/-- A store with the permission p only. -/
def described : Memory.State :=
  (Memory.State.empty.perform ⟨⟨0⟩, "p"⟩ (.createPermission "read" (some "old"))).2

/-- A permission that is to get another name can be read but not be written, for one of two
reasons. -/
theorem unexpected_errors_are_not_told_of_second_call :
    let disk := writeProtected described (.unexpected "disk is full" ["no space left on device"])
    let link := writeProtected described (.unexpected "link is down" [])
    let (log, handled) := disk.converse [] (handle memoryProfile renameRequest)
    "/v1/".toList <+: pathOf renameRequest.target ∧ disk.AlikeButFor IsUnexpected link ∧
      log.map Exchange.call = [.getPermission "p", .updatePermission "p" "view" (some "old")] ∧
      Meets IsUnexpected log ∧
      handled.response = (link.converse [] (handle memoryProfile renameRequest)).2.response ∧
      handled.response.status = 500 ∧ codeField? handled.response = some "internal" := by
  intro disk link
  have hPath : "/v1/".toList <+: pathOf renameRequest.target := by decide +kernel
  have hTells := (unexpected_errors_are_not_told memoryProfile hPath).1
  have hStores : disk.AlikeButFor IsUnexpected link :=
    alikeButFor_writeProtected described ⟨_, _, rfl⟩ ⟨_, _, rfl⟩
  have hLog : (disk.converse [] (handle memoryProfile renameRequest)).1 =
      [⟨.getPermission "p", .ok ⟨"p", "read", some "old", ⟨0⟩, ∅⟩⟩,
        ⟨.updatePermission "p" "view" (some "old"),
          .error (.unexpected "disk is full" ["no space left on device"])⟩] := by
    rw [patches_rename.handle_eq]
    rfl
  have hMeets : Meets IsUnexpected (disk.converse [] (handle memoryProfile renameRequest)).1 := by
    rw [hLog]
    exact ⟨_, .tail _ (.head _), _, rfl, _, _, rfl⟩
  refine ⟨hPath, hStores, ?_, hMeets, hTells.same hStores, hTells.status hMeets,
    hTells.code hMeets (by decide)⟩
  rw [hLog]
  rfl

/-- The response to one who asks for the head of it does not carry a code, even if the store cannot
be reached. -/
theorem head_tells_no_code :
    let unreachable : Behaviour := fun _ _ => .error (.unexpected "db down" [])
    let request : Request := ⟨"HEAD", "/v1/system/health", [], []⟩
    let (log, handled) := unreachable.converse [] (handle memoryProfile request)
    "/v1/".toList <+: pathOf request.target ∧ Meets IsUnexpected log ∧
      handled.response.status = 500 ∧
      codeField? handled.response ≠ some "internal" := by
  intro unreachable request
  have hPath : pathOf request.target = "/v1/system/health".toList := by decide +kernel
  have hHandle : handle memoryProfile request =
      do return (← withoutReply health).forMethod "HEAD" := by
    rw [handle, hPath]
    rfl
  rw [hHandle, hPath]
  exact ⟨by decide, ⟨_, .head _, _, rfl, _, _, rfl⟩, rfl, by decide⟩

end Rolebook.Http
