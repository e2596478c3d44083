import Rolebook.Proofs.Http.Patch
import Rolebook.Proofs.Memory.Deletion
import Rolebook.Proofs.Memory.Replacement
import Rolebook.Proofs.Service.Session

/-!
# Sets of permissions from requests

A request gives a role a set of permissions as a list. The list may have them in any order and more
than once: what reaches the store is the set of its members, so two lists of the same members are
answered alike and leave the same store (`set_is_replaced_exactly`). This is so as long as the list
is short enough to be read at all, and a list of the same set may be too long for that
(`list_beyond_limit_is_not_taken`).
-/

namespace Rolebook.Service

open Rolebook.Memory
open Rolebook.Http (Problem Profile Request Response Route bodyLimit handle jsonOfRole pathOf
  permissionList putRolePermissions)
open Rolebook.Store (Error)

/-- A request is to give a role the permissions of a list, of any length. -/
structure Puts (request : Request) (id : Id) (permissions : List Id) : Prop where
  method : request.method = "PUT"
  path : ∃ raw, Route.ofPath? (pathOf request.target) = some (.rolePermissions raw) ∧
    Text.percentDecode? raw = some id
  json : Http.saysJson request = true
  list : permissionList.readAtStart request.body = .ok permissions

/-- The response to a request that gave a role a set: the role as it is shown from then on, or what
went wrong. -/
def setResponse : Except Error Role → Response
  | .ok shown => .ofJson 200 (jsonOfRole shown)
  | .error error => (Problem.ofError "role" "replace role permissions" error).response

/-- The handling comes to one call, which is answered at once. -/
theorem run_putRolePermissions (alone : Alone) (id : Id) (permissions : List Id) :
    (alone.run (putRolePermissions id permissions)).1 =
        setResponse (alone.state.setRolePermissions id (.ofList permissions)).1 ∧
      (alone.run (putRolePermissions id permissions)).2.state =
        (alone.state.setRolePermissions id (.ofList permissions)).2 := by
  have hCall : alone.perform (.setRolePermissions id (.ofList permissions)) =
      ((alone.state.setRolePermissions id (.ofList permissions)).1,
        ⟨(alone.state.setRolePermissions id (.ofList permissions)).2,
          fun number => alone.clock (number + 1)⟩) := rfl
  unfold putRolePermissions Http.respondTo
  rw [Alone.run_ask, hCall]
  cases (alone.state.setRolePermissions id (.ofList permissions)).1 <;> exact ⟨rfl, rfl⟩

section Puts

variable {request : Request} {id : Id} {permissions : List Id} (h : Puts request id permissions)

include h

theorem Puts.handle_eq (hFits : request.body.length ≤ bodyLimit) (profile : Profile) :
    handle profile request = do
      return (← Http.withoutReply (putRolePermissions id permissions)).forMethod "PUT" := by
  obtain ⟨raw, hRoute, hId⟩ := h.path
  have hBody : permissionList.ofRequest request = .ok permissions := by
    rw [Http.BodyFormat.ofRequest, if_pos h.json, Http.body?, if_pos hFits]
    simp only [h.list, Except.mapError]
  rw [handle, hRoute]
  simp [h.method, Route.methods, Http.handleRoute, Http.withId, hId, Http.withBody, hBody]

theorem Puts.run_handle (hFits : request.body.length ≤ bodyLimit) (profile : Profile)
    (alone : Alone) :
    (alone.run (handle profile request)).1 =
        .ofResponse (setResponse (alone.state.setRolePermissions id (.ofList permissions)).1) ∧
      (alone.run (handle profile request)).2.state =
        (alone.state.setRolePermissions id (.ofList permissions)).2 := by
  obtain ⟨hResponse, hState⟩ := run_putRolePermissions alone id permissions
  rw [h.handle_eq hFits, Http.withoutReply]
  simp only [Alone.run_bind]
  rw [← hResponse, ← hState]
  exact ⟨rfl, rfl⟩

theorem Puts.request_comes_to (hFits : request.body.length ≤ bodyLimit) {session : Session}
    {state : State} (hBackend : session.backend = .memory state) :
    (session.request request).1 =
        setResponse (state.setRolePermissions id (.ofList permissions)).1 ∧
      (session.request request).2.backend =
        .memory (state.setRolePermissions id (.ofList permissions)).2 := by
  obtain ⟨hEnd, hAfter⟩ := Session.run_memory hBackend (handle session.profile request)
  obtain ⟨hHandled, hState⟩ := h.run_handle hFits session.profile (session.alone state)
  rw [Session.request_response, Session.request_backend, hEnd, hAfter, hHandled, hState]
  exact ⟨rfl, rfl⟩

/-- A list that is too long is refused before it is looked at. -/
theorem Puts.refused (hLong : bodyLimit < request.body.length) (session : Session) :
    (session.request request).1 = Http.tooLong ∧
      (session.request request).2.backend = session.backend := by
  obtain ⟨raw, hRoute, hId⟩ := h.path
  have hBody : permissionList.ofRequest request = .error .tooLong := by
    rw [Http.BodyFormat.ofRequest, if_pos h.json, Http.body?, if_neg (Nat.not_le.2 hLong)]
  have hHandle : handle session.profile request = pure (.ofResponse Http.tooLong) := by
    rw [handle, hRoute]
    simp [h.method, Route.methods, Http.handleRoute, Http.withId, hId, Http.withBody, hBody]
    rfl
  rw [Session.request_response, Session.request_backend, hHandle]
  exact ⟨rfl, rfl⟩

end Puts

/-- In every state that a store in memory can come to, a role is given a set of permissions exactly
if the role and all of these are there. It has exactly this set then, it stands in exactly these
permissions, and its revision is the next one; nothing else is changed, and if the same is done
again, nothing but the revision. With a revision that is expected it is the same if this is the
revision of the role, and fails if not. Of permissions that are not there the one with the least
bytes is named. A request that has the set as a list, in any order and with any repetitions, is
answered by what this comes to and leaves the same store, if its body is short enough to be read. If
it is not, it is refused and changes nothing. -/
theorem set_is_replaced_exactly {state : State} (hState : Reachable state) (id : Id)
    (wanted : IdSet) :
    ReplacesSet state id wanted ∧
      ∀ (session : Session) (request : Request) (permissions : List Id),
        session.backend = .memory state → Puts request id permissions →
          (∀ permission, permission ∈ permissions ↔ permission ∈ wanted) →
            (request.body.length ≤ bodyLimit →
              (session.request request).1 = setResponse (state.setRolePermissions id wanted).1 ∧
                (session.request request).2.backend =
                  .memory (state.setRolePermissions id wanted).2) ∧
              (bodyLimit < request.body.length →
                (session.request request).1 = Http.tooLong ∧
                  (session.request request).2.backend = .memory state) := by
  refine ⟨hState.coherent.replacesSet wanted id, ?_⟩
  intro session request permissions hBackend hPuts hMembers
  obtain rfl : OrderedSet.ofList permissions = wanted :=
    OrderedSet.ext fun permission => OrderedSet.mem_ofList.trans (hMembers permission)
  exact ⟨fun hFits => hPuts.request_comes_to hFits hBackend,
    fun hLong => hBackend ▸ hPuts.refused hLong session⟩

/-- A service whose store has two roles that share a permission. -/
def sharing : Session :=
  .start (.memory shared) true ⟨6⟩

/-- One of the roles is to have one permission only, which is named twice. -/
def repeatedRequest : Request :=
  ⟨"PUT", "/v1/roles/r/permissions", [("content-type", Text.toUtf8 "application/json")],
    Text.toUtf8 "\x7b\"permission_ids\":[\"q\",\"q\"]\x7d"⟩

theorem puts_repeatedRequest : Puts repeatedRequest "r" ["q", "q"] where
  method := rfl
  path := ⟨"r", by decide +kernel, by decide +kernel⟩
  json := by decide +kernel
  list := Http.ok_of_toOption (by decide +kernel)

theorem set_is_replaced_exactly_of_shared :
    Reachable shared ∧ Puts repeatedRequest "r" ["q", "q"] ∧
      (ReplacesSet shared "r" (.ofList ["q"]) ∧
        (shared.setRolePermissions "r" (.ofList ["q"])).1 =
          .ok ⟨"r", "editor", ⟨2⟩, .ofList ["q"], 2⟩) ∧
      (sharing.request repeatedRequest).1 =
        .ofJson 200 (jsonOfRole ⟨"r", "editor", ⟨2⟩, .ofList ["q"], 2⟩) ∧
      (sharing.request repeatedRequest).2.backend =
        .memory (shared.setRolePermissions "r" (.ofList ["q"])).2 := by
  obtain ⟨hReplaces, hRequest⟩ := set_is_replaced_exactly reachable_shared "r" (.ofList ["q"])
  have hMembers : ∀ permission, permission ∈ ["q", "q"] ↔
      permission ∈ (OrderedSet.ofList ["q"] : IdSet) :=
    fun permission => by simp [OrderedSet.mem_ofList]
  have hDone : (shared.setRolePermissions "r" (.ofList ["q"])).1 =
      .ok ⟨"r", "editor", ⟨2⟩, .ofList ["q"], 2⟩ := rfl
  obtain ⟨hResponse, hBackend⟩ :=
    (hRequest sharing repeatedRequest ["q", "q"] rfl puts_repeatedRequest hMembers).1
      (by decide +kernel)
  rw [hDone] at hResponse
  exact ⟨reachable_shared, puts_repeatedRequest, ⟨hReplaces, hDone⟩, hResponse, hBackend⟩

/-! ## A list that is too long -/

section LongList

open Rolebook.Json (takeText? takeTextItems)
open Rolebook.Text (Bytes ofUtf8? toUtf8)

/-- A byte stands for itself in a text. -/
def isPlain (byte : UInt8) : Bool :=
  byte ≠ 0x22 && byte ≠ 0x5C && 0x20 ≤ byte

theorem takeTextBytes?_plain {text : Bytes} (hPlain : ∀ byte ∈ text, isPlain byte = true)
    (taken rest : Bytes) :
    Json.takeTextBytes? taken (text ++ 0x22 :: rest) = some (taken.reverse ++ text, rest) := by
  induction text generalizing taken with
  | nil =>
      rw [List.nil_append, Json.takeTextBytes?.eq_def]
      simp
  | cons byte text ih =>
      obtain ⟨hByte, hText⟩ := List.forall_mem_cons.1 hPlain
      simp only [isPlain, Bool.and_eq_true, decide_eq_true_eq] at hByte
      have hControl : ¬ byte < 0x20 := UInt8.not_lt.2 hByte.2
      rw [List.cons_append, Json.takeTextBytes?.eq_def]
      simp [hByte.1.1, hByte.1.2, hControl, ih hText]

/-- A text without escapes is read as it stands. -/
theorem takeText?_plain {text : String} (hPlain : (toUtf8 text).all isPlain = true)
    (hText : ofUtf8? (toUtf8 text) = some text) (rest : Bytes) :
    takeText? (toUtf8 text ++ 0x22 :: rest) = some (text, rest) := by
  rw [takeText?, takeTextBytes?_plain (List.all_eq_true.1 hPlain)]
  simp [hText]

theorem takeText?_q (rest : Bytes) : takeText? (0x71 :: 0x22 :: rest) = some ("q", rest) := by
  have hBytes : [0x71] = toUtf8 "q" := by decide +kernel
  have hText : takeText? (toUtf8 "q" ++ 0x22 :: rest) = some ("q", rest) :=
    takeText?_plain (by decide +kernel) (by decide +kernel) rest
  rwa [← hBytes] at hText

/-- The items that name the permission a number of times more. -/
def moreItems (more : Nat) : Bytes :=
  (List.replicate more [0x2C, 0x22, 0x71, 0x22]).flatten

theorem length_moreItems (more : Nat) : (moreItems more).length = 4 * more := by
  simp [moreItems, Nat.mul_comm]

/-- What stands behind the opening bracket: the permission once, and then a number of times more. -/
def behindBracket (more : Nat) (rest : Bytes) : Bytes :=
  0x22 :: 0x71 :: 0x22 :: (moreItems more ++ 0x5D :: rest)

theorem moreItems_succ (more : Nat) (rest : Bytes) :
    moreItems (more + 1) ++ 0x5D :: rest = 0x2C :: behindBracket more rest := by
  simp [moreItems, behindBracket, List.replicate_succ]

/-- The first item is the permission. -/
theorem takeTextField_behindBracket (more : Nat) (rest : Bytes) :
    Json.takeTextField (behindBracket more rest) = .ok ("q", moreItems more ++ 0x5D :: rest) := by
  simp [behindBracket, Json.takeTextField, Json.skipBlanks, takeText?_q]

theorem takeTextItems_moreItems {more fuel : Nat} (hFuel : more < fuel) (rest : Bytes) :
    takeTextItems fuel false (moreItems more ++ 0x5D :: rest) =
      .ok (List.replicate more "q", rest) := by
  induction more generalizing fuel with
  | zero =>
      obtain ⟨fuel, rfl⟩ := Nat.exists_eq_add_one.2 hFuel
      rfl
  | succ more ih =>
      obtain ⟨fuel, rfl⟩ := Nat.exists_eq_add_one.2 (Nat.zero_lt_of_lt hFuel)
      have hSeparator : Json.takeSeparator? 0x5D false (0x2C :: behindBracket more rest) =
          some (.part, behindBracket more rest) := rfl
      rw [moreItems_succ, takeTextItems, hSeparator]
      simp only [takeTextField_behindBracket, bind, Except.bind, ih (Nat.lt_of_succ_lt_succ hFuel)]
      rfl

/-- The value of the field is a list of the one permission. -/
theorem takeField_behindBracket (more : Nat) (rest : Bytes) :
    Json.takeField .texts (0x5B :: behindBracket more rest) =
      .ok (.texts (List.replicate (more + 1) "q"), rest) := by
  have hSeparator : Json.takeSeparator? 0x5D true (behindBracket more rest) =
      some (.part, behindBracket more rest) := rfl
  have hItems : takeTextItems ((behindBracket more rest).length + 1) true
      (behindBracket more rest) = .ok ("q" :: List.replicate more "q", rest) := by
    have hMore : more < (behindBracket more rest).length := by
      simp only [behindBracket, List.length_cons, List.length_append, length_moreItems]
      omega
    rw [takeTextItems, hSeparator]
    simp only [takeTextField_behindBracket, bind, Except.bind, takeTextItems_moreItems hMore]
    rfl
  have hBlanks : Json.skipBlanks (0x5B :: behindBracket more rest) =
      0x5B :: behindBracket more rest := rfl
  rw [Json.takeField, hBlanks]
  simp only [if_pos, hItems]
  rfl

/-- The body that names the permission in its list once, and then a number of times more. -/
def listBody (more : Nat) : Bytes :=
  0x7B :: 0x22 :: (toUtf8 "permission_ids" ++ 0x22 :: 0x3A :: 0x5B :: 0x22 :: 0x71 :: 0x22 ::
    (moreItems more ++ [0x5D, 0x7D]))

theorem readAtStart_listBody (more : Nat) :
    permissionList.readAtStart (listBody more) = .ok (List.replicate (more + 1) "q") := by
  have hKey (rest : Bytes) :
      takeText? (toUtf8 "permission_ids" ++ 0x22 :: rest) = some ("permission_ids", rest) :=
    takeText?_plain (by decide +kernel) (by decide +kernel) rest
  have hStart (rest : Bytes) : Json.takeSeparator? 0x7D true (0x22 :: rest) =
      some (.part, 0x22 :: rest) := rfl
  have hEnd (fuel : Nat) (values : Json.FieldValues)
      (hGiven : (values.lookup "permission_ids").isSome = true) :
      Json.takeFieldMembers permissionList.fields (fuel + 1) false values [0x7D] =
        .ok (values, []) := by
    have hSeparator : Json.takeSeparator? 0x7D false [0x7D] = some (.close, [0x7D]) := rfl
    rw [Json.takeFieldMembers, hSeparator]
    simp [permissionList, hGiven]
  have hRecord : Json.takeRecord permissionList.fields (listBody more) =
      .ok ([("permission_ids", .texts (List.replicate (more + 1) "q"))], []) := by
    have hBlanks : Json.skipBlanks (listBody more) = listBody more := rfl
    have hColon (rest : Bytes) : Json.skipBlanks (0x3A :: rest) = 0x3A :: rest := rfl
    have hBody : listBody more = 0x7B :: 0x22 ::
        (toUtf8 "permission_ids" ++ 0x22 :: 0x3A :: 0x5B :: behindBracket more [0x7D]) := rfl
    rw [Json.takeRecord, hBlanks, hBody]
    simp only [if_pos, List.length_cons]
    rw [Json.takeFieldMembers, hStart]
    simp only [if_pos, hKey, hColon]
    simp only [permissionList, BEq.rfl, List.find?_cons_of_pos, Option.isSome_some, List.lookup_nil,
      Option.isSome_none, Bool.and_false, Bool.false_eq_true, ↓reduceIte, bind, Except.bind,
      takeField_behindBracket, List.nil_append]
    exact hEnd _ _ rfl
  rw [Http.BodyFormat.readAtStart, Json.readRecordAtStart, hRecord]
  rfl

/-- The body that names the permission twice, as it is written. -/
example : listBody 1 = toUtf8 "\x7b\"permission_ids\":[\"q\",\"q\"]\x7d" := by
  decide +kernel

/-- A request that names the one permission in its list once, and then a number of times more. -/
def listRequest (more : Nat) : Request :=
  ⟨"PUT", "/v1/roles/r/permissions", [("content-type", toUtf8 "application/json")], listBody more⟩

theorem puts_listRequest (more : Nat) :
    Puts (listRequest more) "r" (List.replicate (more + 1) "q") where
  method := rfl
  path := by
    have hRoute : Route.ofPath? (pathOf "/v1/roles/r/permissions") =
        some (.rolePermissions "r") := by
      decide +kernel
    exact ⟨"r", hRoute, by decide +kernel⟩
  json := by
    have hJson : Http.saysJson ⟨"PUT", "/v1/roles/r/permissions",
        [("content-type", toUtf8 "application/json")], []⟩ = true := by decide +kernel
    exact hJson
  list := readAtStart_listBody more

theorem bodyLimit_lt_listRequest {more : Nat} (hMore : bodyLimit ≤ more) :
    bodyLimit < (listRequest more).body.length := by
  simp only [listRequest, listBody, List.length_cons, List.length_append, length_moreItems]
  omega

end LongList

/-- A permission and a role are there, and a list names nothing but the permission. The role would
be given it by a call, but a request with this list is refused, and the role keeps the set that it
has. -/
theorem list_beyond_limit_is_not_taken :
    Reachable shared ∧ sharing.backend = .memory shared ∧
      Puts (listRequest bodyLimit) "r" (List.replicate (bodyLimit + 1) "q") ∧
      (∀ permission, permission ∈ List.replicate (bodyLimit + 1) "q" ↔
        permission ∈ (OrderedSet.ofList ["q"] : IdSet)) ∧
      (shared.setRolePermissions "r" (.ofList ["q"])).1 =
        .ok ⟨"r", "editor", ⟨2⟩, .ofList ["q"], 2⟩ ∧
      (sharing.request (listRequest bodyLimit)).1.status = 413 ∧
      (sharing.request (listRequest bodyLimit)).2.backend = .memory shared ∧
      (shared.getRole "r") = .ok ⟨"r", "editor", ⟨2⟩, .ofList ["p", "q"], 1⟩ := by
  have hPuts := puts_listRequest bodyLimit
  obtain ⟨hResponse, hBackend⟩ := hPuts.refused (bodyLimit_lt_listRequest (Nat.le_refl _)) sharing
  refine ⟨reachable_shared, rfl, hPuts, fun permission => ?_, rfl, ?_, hBackend, rfl⟩
  · rw [List.mem_replicate, OrderedSet.mem_ofList, List.mem_singleton]
    exact and_iff_right (Nat.succ_ne_zero _)
  · rw [hResponse]
    rfl

end Rolebook.Service
