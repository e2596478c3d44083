import Rolebook.Proofs.Command.Contention
import Rolebook.Proofs.Store.Conversation

/-!
# Commands and stores of any kind

What the conversation of a command with a store comes to if nothing is known of the store.
`Attempts` lists the logs of a change of a role that was read, one constructor for each way in which
an attempt can end; `ChangeLog` puts the two look-ups in front of them. What is said of commands is
read off these by induction on the attempts.
-/

namespace Rolebook.Command

open Rolebook.Store

/-! ## What a log shows -/

/-- A call writes the set of a role if its revision is the one expected. -/
def isCheckedWrite : Call → Bool
  | .replaceRolePermissions _ _ _ => true
  | _ => false

/-- A call makes a new entity. -/
def isCreation : Call → Bool
  | .createPermission _ _ | .createRole _ => true
  | _ => false

/-- A call looks for the entity of a name. -/
def isLookUp : Call → Bool
  | .getPermissionByName _ | .getRoleByName _ => true
  | _ => false

/-- How often the set of a role is written at an expected revision. -/
def checkedWrites (log : List Exchange) : Nat :=
  log.countP fun exchange => isCheckedWrite exchange.call

@[simp] theorem checkedWrites_nil : checkedWrites [] = 0 :=
  rfl

@[simp] theorem checkedWrites_cons (exchange : Exchange) (log : List Exchange) :
    checkedWrites (exchange :: log) =
      checkedWrites log + if isCheckedWrite exchange.call = true then 1 else 0 :=
  List.countP_cons

@[simp] theorem checkedWrites_append (log later : List Exchange) :
    checkedWrites (log ++ later) = checkedWrites log + checkedWrites later :=
  List.countP_append

/-- A write that fails by this error may be tried again. -/
def IsConflict (error : Store.Error) : Prop :=
  ∃ expected found, error = .revisionMismatch expected found

/-- A call fails by a conflict, and it is the first or the second write of the conversation. -/
def LeavesAttempts (earlier : List Exchange) (call : Call) (error : Store.Error) : Prop :=
  isCheckedWrite call = true ∧ IsConflict error ∧ checkedWrites earlier < 2

/-- A write is that of the role that was returned last, at its revision, and makes a change to its
set. -/
def WritesLastRole (change : Change) (permission : Id) (earlier : List Exchange)
    (exchange : Exchange) : Prop :=
  ∀ id expected wanted, exchange.call = .replaceRolePermissions id expected wanted →
    ∃ shown, lastRole? earlier = some shown ∧ id = shown.id ∧ expected = shown.revision ∧
      change.Makes permission shown.permissionIds wanted

/-- After an error the role that was to be written is read again, if that leaves attempts, and
otherwise it is the last answer, with which the conversation is brought to an end. -/
def ErrorHandled (final : Call → Store.Error → Prop) (earlier : List Exchange) (exchange : Exchange)
    (later : List Exchange) : Prop :=
  ∀ error, exchange.error? = some error →
    (LeavesAttempts earlier exchange.call error →
      ∃ id expected wanted answer rest, exchange.call = .replaceRolePermissions id expected wanted ∧
        later = ⟨.getRole id, answer⟩ :: rest) ∧
    (¬ LeavesAttempts earlier exchange.call error → later = [] ∧ final exchange.call error)

/-- What follows as soon as it is known which role is to be changed, and how: the change is written
to the role as it was returned, unless there is nothing to change. -/
def GoesOn (change : Change) (permission : Id) (shown : Role) (later : List Exchange) : Prop :=
  (change.Idle permission shown.permissionIds ∧ later = []) ∨
    ∃ wanted answer rest, change.Makes permission shown.permissionIds wanted ∧
      later = ⟨.replaceRolePermissions shown.id shown.revision wanted, answer⟩ :: rest

/-- A call that changes the store has succeeded. -/
def Accomplishes (exchange : Exchange) : Prop :=
  exchange.error? = none ∧ (isCreation exchange.call = true ∨ isCheckedWrite exchange.call = true)

/-! ## Attempts -/

/-- The write of a set to a role, as it was read. -/
def writeOf (shown : Role) (wanted : IdSet) : Call :=
  .replaceRolePermissions shown.id shown.revision wanted

@[simp] theorem isCheckedWrite_writeOf (shown : Role) (wanted : IdSet) :
    isCheckedWrite (writeOf shown wanted) = true :=
  rfl

@[simp] theorem isCheckedWrite_getRole (role : Id) : isCheckedWrite (.getRole role) = false :=
  rfl

/-- The logs of a change to a role that was read, with a number of further attempts, and what they
come to. -/
inductive Attempts (change : Change) (permission : Id) :
    Nat → Role → List Exchange → Except Store.Error Bool → Prop
  | idle {further : Nat} {shown : Role}
      (hIdle : change.wanted? permission shown.permissionIds = none) :
      Attempts change permission further shown [] (.ok false)
  | written {further : Nat} {shown : Role} {wanted : IdSet} (answer : (writeOf shown wanted).Value)
      (hWanted : change.wanted? permission shown.permissionIds = some wanted) :
      Attempts change permission further shown [⟨writeOf shown wanted, .ok answer⟩] (.ok true)
  | refused {further : Nat} {shown : Role} {wanted : IdSet} {error : Store.Error}
      (hWanted : change.wanted? permission shown.permissionIds = some wanted)
      (hLast : IsConflict error → further = 0) :
      Attempts change permission further shown [⟨writeOf shown wanted, .error error⟩] (.error error)
  | lost {further : Nat} {shown : Role} {wanted : IdSet} {conflict error : Store.Error}
      (hWanted : change.wanted? permission shown.permissionIds = some wanted)
      (hConflict : IsConflict conflict) :
      Attempts change permission (further + 1) shown
        [⟨writeOf shown wanted, .error conflict⟩, ⟨.getRole shown.id, .error error⟩] (.error error)
  | again {further : Nat} {shown : Role} {wanted : IdSet} {conflict : Store.Error}
      {log : List Exchange}
      {result : Except Store.Error Bool} (reread : Role)
      (hWanted : change.wanted? permission shown.permissionIds = some wanted)
      (hConflict : IsConflict conflict)
      (hRest : Attempts change permission further reread log result) :
      Attempts change permission (further + 1) shown
        (⟨writeOf shown wanted, .error conflict⟩ :: ⟨.getRole shown.id, .ok reread⟩ :: log) result

section Attempts

variable {change : Change} {permission : Id} {shown : Role} {log : List Exchange}
  {result : Except Store.Error Bool}

/-- There is nothing to write, or the write is made and succeeds, or it fails, for good or so that
the role is read again. -/
theorem attemptChange_cases {again? : Option (Role → Script (Except Store.Error Bool))}
    (hRun : Converses (attemptChange change permission shown again?) log result) :
    (change.wanted? permission shown.permissionIds = none ∧ log = [] ∧ result = .ok false) ∨
      ∃ wanted, change.wanted? permission shown.permissionIds = some wanted ∧
        ((∃ answer, log = [⟨writeOf shown wanted, .ok answer⟩] ∧ result = .ok true) ∨
          (∃ error, log = [⟨writeOf shown wanted, .error error⟩] ∧ result = .error error ∧
            (IsConflict error → again? = none)) ∨
          ∃ conflict again later, again? = some again ∧ IsConflict conflict ∧
            log = ⟨writeOf shown wanted, .error conflict⟩ :: later ∧
            Converses (reread shown.id again) later result) := by
  dsimp only [attemptChange] at hRun
  cases hWanted : change.wanted? permission shown.permissionIds with
  | none =>
      rw [hWanted] at hRun
      cases hRun
      exact .inl ⟨rfl, rfl, rfl⟩
  | some wanted =>
      rw [hWanted] at hRun
      refine .inr ⟨wanted, rfl, ?_⟩
      cases hRun with
      | @ask _ _ answer later _ hRest =>
          dsimp only at hRest
          split at hRest
          · cases hRest
            exact .inl ⟨_, rfl, rfl⟩
          · -- a conflict, and attempts are left
            next expected found again =>
              exact .inr (.inr ⟨_, again, later, rfl, ⟨expected, found, rfl⟩, rfl, hRest⟩)
          · next error hFinal =>
              cases hRest
              refine .inr (.inl ⟨error, rfl, rfl, ?_⟩)
              -- the case before this one takes all conflicts for which there is another attempt
              rintro ⟨expected, found, rfl⟩
              exact Option.eq_none_iff_forall_ne_some.2 fun again hAgain =>
                hFinal expected found again hAgain rfl

theorem attempts_of_converses {further : Nat}
    (hRun : Converses (writeChange change permission further shown) log result) :
    Attempts change permission further shown log result := by
  induction further generalizing shown log with
  | zero =>
      rcases attemptChange_cases hRun with ⟨hIdle, rfl, rfl⟩ | ⟨wanted, hWanted, hEnd⟩
      · exact .idle hIdle
      · rcases hEnd with ⟨answer, rfl, rfl⟩ | ⟨error, rfl, rfl, -⟩ | ⟨_, _, _, hNone, -⟩
        · exact .written answer hWanted
        · exact .refused hWanted fun _ => rfl
        · cases hNone
  | succ further ih =>
      rcases attemptChange_cases hRun with ⟨hIdle, rfl, rfl⟩ | ⟨wanted, hWanted, hEnd⟩
      · exact .idle hIdle
      · rcases hEnd with ⟨answer, rfl, rfl⟩ | ⟨error, rfl, rfl, hFinal⟩ |
          ⟨conflict, again, later, hAgain, hConflict, rfl, hRest⟩
        · exact .written answer hWanted
        · exact .refused hWanted fun hConflict => nomatch hFinal hConflict
        · obtain rfl := Option.some.inj hAgain
          cases hRest with
          | @ask _ _ answer log _ hRest =>
              rcases answer with error | shown'
              · cases hRest
                exact .lost hWanted hConflict
              · exact .again shown' hWanted hConflict (ih hRest)

/-! ## What holds of all attempts -/

theorem Attempts.length_le {further : Nat}
    (h : Attempts change permission further shown log result) :
    log.length ≤ 2 * further + 1 := by
  induction h with
  | idle | written | refused | lost =>
      simp only [List.length_cons, List.length_nil]
      omega
  | again _ _ _ _ ih =>
      simp only [List.length_cons]
      omega

theorem Attempts.checkedWrites_le {further : Nat}
    (h : Attempts change permission further shown log result) :
    checkedWrites log ≤ further + 1 := by
  induction h with
  | idle | written | refused | lost => simp
  | again _ _ _ _ ih => simpa using ih

/-- Every write is made from the role that was returned last. -/
theorem Attempts.writesLastRole {further : Nat}
    (h : Attempts change permission further shown log result) {prior : List Exchange}
    (hShown : lastRole? prior = some shown) :
    AtEach log fun earlier exchange _ => WritesLastRole change permission
      (prior ++ earlier) exchange := by
  have hWrite {shown : Role} {wanted : IdSet} {prior : List Exchange}
      (hShown : lastRole? prior = some shown)
      (hWanted : change.wanted? permission shown.permissionIds = some wanted)
      (answer : (writeOf shown wanted).Answer) :
      WritesLastRole change permission (prior ++ []) ⟨writeOf shown wanted, answer⟩ := by
    intro id expected set hCall
    cases hCall
    rw [List.append_nil]
    exact ⟨shown, hShown, rfl, rfl, Change.makes_of_wanted? hWanted⟩
  induction h generalizing prior with
  | idle => exact atEach_nil
  | written answer hWanted | refused hWanted _ =>
      exact atEach_cons.2 ⟨hWrite hShown hWanted _, atEach_nil⟩
  | lost hWanted _ =>
      exact atEach_cons.2 ⟨hWrite hShown hWanted _,
        atEach_cons.2 ⟨fun _ _ _ hCall => (nomatch hCall), atEach_nil⟩⟩
  | @again further shown wanted conflict log result reread hWanted hConflict hRest ih =>
      refine atEach_cons.2 ⟨hWrite hShown hWanted _,
        atEach_cons.2 ⟨fun _ _ _ hCall => (nomatch hCall), ?_⟩⟩
      have hRead : lastRole? (prior ++ [⟨writeOf shown wanted, .error conflict⟩] ++
          [⟨.getRole shown.id, .ok reread⟩]) =
          some reread := lastRole?_append_of_some rfl _
      refine (ih hRead).mono fun earlier exchange _ hWrites => ?_
      simpa using hWrites

/-- All attempts but those that find nothing to change begin with a write. -/
theorem Attempts.goesOn {further : Nat} (h : Attempts change permission further shown log result) :
    GoesOn change permission shown log := by
  cases h with
  | idle hIdle => exact .inl ⟨Change.idle_of_wanted? hIdle, rfl⟩
  | written answer hWanted | refused hWanted hLast | lost hWanted hConflict
  | again reread hWanted hConflict hRest =>
      exact .inr ⟨_, _, _, Change.makes_of_wanted? hWanted, rfl⟩

/-- With a role that was read again it is gone on. -/
theorem Attempts.goesOn_of_reread {further : Nat}
    (h : Attempts change permission further shown log result) :
    AtEach log fun _ exchange later =>
      ∀ id reread, exchange = ⟨.getRole id, .ok reread⟩ →
        GoesOn change permission reread later := by
  induction h with
  | idle => exact atEach_nil
  | written | refused => exact atEach_cons.2 ⟨nofun, atEach_nil⟩
  | lost =>
      refine atEach_cons.2 ⟨nofun, atEach_cons.2 ⟨?_, atEach_nil⟩⟩
      rintro _ _ ⟨⟩
  | again reread hWanted hConflict hRest ih =>
      refine atEach_cons.2 ⟨nofun, atEach_cons.2 ⟨?_, ih⟩⟩
      rintro _ _ ⟨⟩
      exact hRest.goesOn

/-- An error is followed by another reading of the role if it is a conflict that leaves attempts.
Otherwise it is the last answer and the result. -/
theorem Attempts.errorHandled {further : Nat}
    (h : Attempts change permission further shown log result) {prior : List Exchange}
    (hPrior : checkedWrites prior + further = 2) :
    AtEach log fun earlier =>
      ErrorHandled (fun call error => isCreation call = false ∧ result = .error error)
        (prior ++ earlier) := by
  -- a conflict that is not the last one leaves attempts
  have hRetried {further : Nat} {prior : List Exchange}
      (hPrior : checkedWrites prior + (further + 1) = 2) {shown : Role}
      {wanted : IdSet} {conflict : Store.Error} (hConflict : IsConflict conflict)
      (answer : (Call.getRole shown.id).Answer)
      (rest : List Exchange) (final : Call → Store.Error → Prop) :
      ErrorHandled final (prior ++ []) ⟨writeOf shown wanted, .error conflict⟩
        (⟨.getRole shown.id, answer⟩ :: rest) := by
    rintro _ ⟨⟩
    refine ⟨fun _ => ⟨_, _, _, answer, rest, rfl, rfl⟩,
      fun hSpent => absurd ⟨rfl, hConflict, ?_⟩ hSpent⟩
    rw [List.append_nil]
    omega
  induction h generalizing prior with
  | idle => exact atEach_nil
  | written => exact atEach_cons.2 ⟨fun _ hError => (nomatch hError), atEach_nil⟩
  | refused hWanted hLast =>
      refine atEach_cons.2 ⟨?_, atEach_nil⟩
      rintro _ ⟨⟩
      refine ⟨fun ⟨_, hConflict, hLeft⟩ => ?_, fun _ => ⟨rfl, rfl, rfl⟩⟩
      rw [List.append_nil] at hLeft
      have hSpent := hLast hConflict
      omega
  | lost hWanted hConflict =>
      refine atEach_cons.2 ⟨hRetried hPrior hConflict _ _ _, atEach_cons.2 ⟨?_, atEach_nil⟩⟩
      rintro _ ⟨⟩
      exact ⟨fun ⟨hWrite, _⟩ => (nomatch hWrite), fun _ => ⟨rfl, rfl, rfl⟩⟩
  | @again further shown wanted conflict log result reread hWanted hConflict hRest ih =>
      refine atEach_cons.2 ⟨hRetried hPrior hConflict _ _ _,
        atEach_cons.2 ⟨fun _ hError => (nomatch hError), ?_⟩⟩
      have hOne : checkedWrites [⟨writeOf shown wanted, .error conflict⟩,
          ⟨.getRole shown.id, .ok reread⟩] = 1 := by simp
      have hPrior' :
          checkedWrites (prior ++
            [⟨writeOf shown wanted, .error conflict⟩, ⟨.getRole shown.id, .ok reread⟩]) + further =
          2 := by
        rw [checkedWrites_append, hOne]
        omega
      refine (ih hPrior').mono fun earlier exchange later hHandled => ?_
      simpa using hHandled

theorem exists_last_cons {holds : Exchange → Prop} {exchange : Exchange} (hNot : ¬ holds exchange)
    (log : List Exchange) :
    (∃ last ∈ (exchange :: log).getLast?, holds last) ↔ ∃ last ∈ log.getLast?, holds last := by
  cases hLast : log.getLast? with
  | none => simp [List.getLast?_cons, hLast, hNot]
  | some last => simp [List.getLast?_cons, hLast]

theorem not_accomplishes_of_error {call : Call} {error : Store.Error} :
    ¬ Accomplishes ⟨call, .error error⟩ :=
  fun h => nomatch h.1

theorem not_accomplishes_getRole {role : Id} {answer : (Call.getRole role).Answer} :
    ¬ Accomplishes ⟨.getRole role, answer⟩ :=
  fun h => h.2.elim nofun nofun

theorem Attempts.ok_true_iff {further : Nat}
    (h : Attempts change permission further shown log result) :
    result = .ok true ↔ ∃ last ∈ log.getLast?, Accomplishes last := by
  induction h with
  | idle => simp
  | written => simp [Accomplishes, Exchange.error?]
  | refused => simp [not_accomplishes_of_error]
  | lost => simp [not_accomplishes_of_error]
  | again _ _ _ _ ih =>
      rw [exists_last_cons not_accomplishes_of_error, exists_last_cons not_accomplishes_getRole, ih]

end Attempts

/-! ## Changes by names -/

/-- The reply to a change that was tried. -/
def Change.replyTo (change : Change) (roleName permissionName : String) :
    Except Store.Error Bool → Reply
  | .error error => .to change.wording.intent .failure (change.wording.failed ++ error.message)
  | .ok true => .to change.wording.intent .success (change.wording.done permissionName roleName)
  | .ok false => .to change.wording.intent .info (change.wording.idle permissionName roleName)

/-- The look-ups of a change by names that finds both. -/
def lookUps (roleName permissionName : String) (shown : Role) (found : Permission) :
    List Exchange :=
  [⟨.getRoleByName roleName, .ok (some shown)⟩,
    ⟨.getPermissionByName permissionName, .ok (some found)⟩]

/-- The logs of a change by names and the replies that they lead to. -/
inductive ChangeLog (change : Change) (roleName permissionName : String) :
    List Exchange → Reply → Prop
  | roleFailed (error : Store.Error) :
      ChangeLog change roleName permissionName [⟨.getRoleByName roleName, .error error⟩]
        (change.replyTo roleName permissionName (.error error))
  | roleMissing :
      ChangeLog change roleName permissionName [⟨.getRoleByName roleName, .ok none⟩]
        (.to change.wording.intent .failure ("Role '" ++ roleName ++ "' not found." ++
          change.wording.advice))
  | permissionFailed (shown : Role) (error : Store.Error) :
      ChangeLog change roleName permissionName
        [⟨.getRoleByName roleName, .ok (some shown)⟩,
          ⟨.getPermissionByName permissionName, .error error⟩]
        (change.replyTo roleName permissionName (.error error))
  | permissionMissing (shown : Role) :
      ChangeLog change roleName permissionName
        [⟨.getRoleByName roleName, .ok (some shown)⟩,
          ⟨.getPermissionByName permissionName, .ok none⟩]
        (.to change.wording.intent .failure ("Permission '" ++ permissionName ++ "' not found." ++
          change.wording.advice))
  | tried {shown : Role} {found : Permission} {log : List Exchange}
      {result : Except Store.Error Bool}
      (hTried : Attempts change found.id 2 shown log result) :
      ChangeLog change roleName permissionName (lookUps roleName permissionName shown found ++ log)
        (change.replyTo roleName permissionName result)

theorem changeLog_of_converses {change : Change} {roleName permissionName : String}
    {log : List Exchange} {reply : Reply}
    (hRun : Converses (changeByName change roleName permissionName) log reply) :
    ChangeLog change roleName permissionName log reply := by
  dsimp only [changeByName] at hRun
  cases hRun with
  | @ask _ _ answer _ _ hRest =>
      rcases answer with error | _ | shown
      · cases hRest
        exact .roleFailed error
      · cases hRest
        exact .roleMissing
      · cases hRest with
        | @ask _ _ answer _ _ hRest =>
            rcases answer with error | _ | found
            · cases hRest
              exact .permissionFailed shown error
            · cases hRest
              exact .permissionMissing shown
            · obtain ⟨tried, later, result, rfl, hTried, hReply⟩ := hRest.of_bind
              -- what is left is the reply, whatever the change has come to
              have hEnd : later = [] ∧ reply = change.replyTo roleName permissionName result := by
                rcases result with error | _ | _ <;> cases hReply <;> exact ⟨rfl, rfl⟩
              obtain ⟨rfl, rfl⟩ := hEnd
              rw [List.append_nil]
              exact .tried (attempts_of_converses hTried)

/-- If both look-ups find what they are for, the change is tried. -/
theorem ChangeLog.tried_of_found {change : Change} {roleName permissionName : String} {shown : Role}
    {found : Permission} {log : List Exchange} {reply : Reply}
    (h : ChangeLog change roleName permissionName
      (lookUps roleName permissionName shown found ++ log) reply) :
    ∃ result, Attempts change found.id 2 shown log result ∧
      reply = change.replyTo roleName permissionName result := by
  generalize hAll : lookUps roleName permissionName shown found ++ log = all at h
  simp only [lookUps, List.cons_append, List.nil_append] at hAll
  cases h with
  | roleFailed | roleMissing | permissionFailed | permissionMissing => cases hAll
  | @tried shown' found' log' result hTried =>
      cases hAll
      exact ⟨result, hTried, rfl⟩

/-- The first write after the look-ups is that of the role that was looked up, and each later one
that of the role as it was read again. -/
theorem Attempts.writesLastRole_after_lookUps {change : Change} {shown : Role} {found : Permission}
    {further : Nat} {log : List Exchange} {result : Except Store.Error Bool}
    (hTried : Attempts change found.id further shown log result)
    (roleName permissionName : String) :
    AtEach (lookUps roleName permissionName shown found ++ log) fun earlier exchange _ =>
      WritesLastRole change found.id earlier exchange := by
  have hRead : lastRole? (lookUps roleName permissionName shown found) = some shown := rfl
  refine atEach_cons.2 ⟨fun _ _ _ hCall => (nomatch hCall),
    atEach_cons.2 ⟨fun _ _ _ hCall => (nomatch hCall), ?_⟩⟩
  exact hTried.writesLastRole hRead

/-! ## Texts -/

/-- The reply to a creation that meets a conflict says that the name is taken. Any other error
stands at the end of the reply. -/
def Reports (reply : Reply) (call : Call) (error : Store.Error) : Prop :=
  match call, error with
  | .createPermission name _, .conflict _ =>
    reply = .to .createPermission .failure ("Permission '" ++ name ++ "' already exists.")
  | .createRole name, .conflict _ =>
    reply = .to .createRole .failure ("Role '" ++ name ++ "' already exists.")
  | _, _ => ∃ front, reply.message = front ++ error.message

/-- What the conversation that follows on a text may be, and the reply that it ends with. -/
structure Withstands (text : String) (log : List Exchange) (reply : Reply) : Prop where
  calls : log.length ≤ 7
  writes : checkedWrites log ≤ 3
  /-- A write comes from the command that the text is, for the permission that was found by its
  name. -/
  each_write : AtEach log fun earlier exchange _ => isCheckedWrite exchange.call = true →
    ∃ change roleName permissionName found,
      Phrase.parse? text = some (change.command roleName permissionName) ∧
        ⟨.getPermissionByName (Text.trim permissionName), .ok (some found)⟩ ∈ earlier ∧
        WritesLastRole change found.id earlier exchange
  /-- After a conflict the change is made to the role as it was read again, if it still is one. -/
  each_retry : AtEach log fun earlier exchange later =>
    ∀ id reread, exchange = ⟨.getRole id, .ok reread⟩ →
      ∃ change roleName permissionName found,
        Phrase.parse? text = some (change.command roleName permissionName) ∧
          ⟨.getPermissionByName (Text.trim permissionName), .ok (some found)⟩ ∈ earlier ∧
          GoesOn change found.id reread later
  each_error : AtEach log (ErrorHandled fun call error => reply.status = .failure ∧
    Reports reply call error)
  success : reply.status = .success ↔ ∃ last ∈ log.getLast?, Accomplishes last

theorem ErrorHandled.mono {final final' : Call → Store.Error → Prop} {earlier later : List Exchange}
    {exchange : Exchange} (h : ErrorHandled final earlier exchange later)
    (hFinal : ∀ call error, final call error → final' call error) :
    ErrorHandled final' earlier exchange later :=
  fun error hError => ⟨(h error hError).1,
    fun hSpent => ⟨((h error hError).2 hSpent).1, hFinal _ _ ((h error hError).2 hSpent).2⟩⟩

theorem errorHandled_of_ok {final : Call → Store.Error → Prop} {earlier later : List Exchange}
    {exchange : Exchange} (hOk : exchange.error? = none) :
    ErrorHandled final earlier exchange later :=
  fun _ hError => nomatch hOk.symm.trans hError

theorem errorHandled_of_last {final : Call → Store.Error → Prop} {earlier : List Exchange}
    {call : Call} {error : Store.Error} (hOther : isCheckedWrite call = false)
    (hFinal : final call error) :
    ErrorHandled final earlier ⟨call, .error error⟩ [] := by
  rintro _ ⟨⟩
  exact ⟨fun hLeft => absurd (hOther.symm.trans hLeft.1) nofun, fun _ => ⟨rfl, hFinal⟩⟩

theorem reports_of_suffix {reply : Reply} {call : Call} {error : Store.Error}
    (hOther : isCreation call = false)
    (hMessage : ∃ front, reply.message = front ++ error.message) : Reports reply call error := by
  cases call with
  | createPermission | createRole => cases hOther
  | _ => exact hMessage

theorem message_to (intent : Phrase.Intent) (status : Status) (front : String)
    (error : Store.Error) :
    ∃ front', (Reply.to intent status (front ++ error.message)).message = front' ++ error.message :=
  ⟨status.glyph ++ " " ++ front, by simp only [Reply.to, String.append_assoc]⟩

theorem Change.status_replyTo {change : Change} {roleName permissionName : String}
    {result : Except Store.Error Bool} :
    (change.replyTo roleName permissionName result).status = .success ↔ result = .ok true := by
  rcases result with error | _ | _ <;> simp [Change.replyTo, Reply.to]

/-- An error that a change ends with is reported. -/
theorem Change.replyTo_error {change : Change} {roleName permissionName : String} {call : Call}
    {error : Store.Error} (hOther : isCreation call = false) :
    (change.replyTo roleName permissionName (.error error)).status = .failure ∧
      Reports (change.replyTo roleName permissionName (.error error)) call error :=
  ⟨rfl, reports_of_suffix hOther (message_to ..)⟩

theorem other_of_isLookUp {call : Call} (h : isLookUp call = true) :
    isCheckedWrite call = false ∧ isCreation call = false := by
  cases call with
  | getPermissionByName | getRoleByName => exact ⟨rfl, rfl⟩
  | _ => cases h

/-- Look-ups by name, the last of which may fail and is reported then. -/
theorem withstands_of_lookUps {text : String} {log : List Exchange} {reply : Reply}
    (hFew : log.length ≤ 7) (hReads : ∀ exchange ∈ log, isLookUp exchange.call = true)
    (hErrors : AtEach log fun _ exchange later => ∀ error, exchange.error? = some error →
      later = [] ∧ reply.status = .failure ∧ Reports reply exchange.call error)
    (hStatus : reply.status ≠ .success) : Withstands text log reply where
  calls := hFew
  writes := by
    have hNone : checkedWrites log = 0 :=
      List.countP_eq_zero.2 fun exchange hExchange => by
        simp [(other_of_isLookUp (hReads exchange hExchange)).1]
    omega
  each_write := by
    rintro earlier exchange later rfl hWrite
    have hOther := (other_of_isLookUp (hReads exchange (by simp))).1
    exact absurd (hOther.symm.trans hWrite) nofun
  each_retry := by
    rintro earlier _ later rfl id reread rfl
    exact nomatch hReads ⟨.getRole id, .ok reread⟩ (by simp)
  each_error := by
    rintro earlier exchange later rfl error hError
    have hOther := (other_of_isLookUp (hReads exchange (by simp))).1
    refine ⟨fun hLeft => absurd (hOther.symm.trans hLeft.1) nofun, fun _ => ?_⟩
    exact hErrors earlier exchange later rfl error hError
  success := by
    refine iff_of_false hStatus ?_
    rintro ⟨last, hLast, -, hDone⟩
    obtain ⟨hNoWrite, hNoCreation⟩ := other_of_isLookUp (hReads last (List.mem_of_getLast? hLast))
    rw [hNoWrite, hNoCreation] at hDone
    simp at hDone

theorem ChangeLog.withstands {text : String} {change : Change} {roleName permissionName : String}
    {log : List Exchange} {reply : Reply}
    (hText : Phrase.parse? text = some (change.command roleName permissionName))
    (h : ChangeLog change (Text.trim roleName) (Text.trim permissionName) log reply) :
    Withstands text log reply := by
  cases h with
  | roleFailed error =>
      refine withstands_of_lookUps (by simp) (by simp [isLookUp]) ?_ nofun
      refine atEach_cons.2 ⟨?_, atEach_nil⟩
      rintro _ ⟨⟩
      exact ⟨rfl, Change.replyTo_error rfl⟩
  | roleMissing =>
      refine withstands_of_lookUps (by simp) (by simp [isLookUp]) ?_ nofun
      exact atEach_cons.2 ⟨nofun, atEach_nil⟩
  | permissionFailed shown error =>
      refine withstands_of_lookUps (by simp) (by simp [isLookUp]) ?_ nofun
      refine atEach_cons.2 ⟨nofun, atEach_cons.2 ⟨?_, atEach_nil⟩⟩
      rintro _ ⟨⟩
      exact ⟨rfl, Change.replyTo_error rfl⟩
  | permissionMissing shown =>
      refine withstands_of_lookUps (by simp) (by simp [isLookUp]) ?_ nofun
      exact atEach_cons.2 ⟨nofun, atEach_cons.2 ⟨nofun, atEach_nil⟩⟩
  | @tried shown found log result hTried =>
      have hLength := hTried.length_le
      have hWrites := hTried.checkedWrites_le
      have hRead : lastRole? (lookUps (Text.trim roleName) (Text.trim permissionName) shown found) =
          some shown := rfl
      have hNone : checkedWrites
          (lookUps (Text.trim roleName) (Text.trim permissionName) shown found) + 2 = 2 := rfl
      exact
        { calls := by
            simp only [lookUps, List.length_append, List.length_cons, List.length_nil]
            omega
          writes := by
            rw [checkedWrites_append]
            omega
          each_write := by
            refine atEach_cons.2 ⟨nofun, atEach_cons.2 ⟨nofun, ?_⟩⟩
            refine (hTried.writesLastRole hRead).mono fun earlier exchange _ hWrite _ => ?_
            exact ⟨change, roleName, permissionName, found, hText, by simp, hWrite⟩
          each_retry := by
            refine atEach_cons.2 ⟨nofun, atEach_cons.2 ⟨nofun, ?_⟩⟩
            refine hTried.goesOn_of_reread.mono
              fun earlier exchange later hGoesOn id reread hRead => ?_
            exact ⟨change, roleName, permissionName, found, hText, by simp, hGoesOn id reread hRead⟩
          each_error := by
            refine atEach_cons.2
              ⟨errorHandled_of_ok rfl, atEach_cons.2 ⟨errorHandled_of_ok rfl, ?_⟩⟩
            refine (hTried.errorHandled hNone).mono fun earlier exchange later hHandled =>
              hHandled.mono ?_
            rintro call error ⟨hOther, rfl⟩
            exact Change.replyTo_error hOther
          success := by
            rw [Change.status_replyTo, hTried.ok_true_iff]
            exact ((exists_last_cons (fun h => h.2.elim nofun nofun) _).trans
              (exists_last_cons (fun h => h.2.elim nofun nofun) _)).symm }

section Creations

variable {text : String} {call : Call} {log : List Exchange} {reply : Reply}

theorem not_isCheckedWrite_of_isCreation (hCreation : isCreation call = true) :
    isCheckedWrite call = false := by
  cases call with
  | replaceRolePermissions => cases hCreation
  | _ => rfl

theorem ne_getRole_of_isCreation (hCreation : isCreation call = true) {answer : call.Answer}
    (id : Id) (reread : Role) :
    (⟨call, answer⟩ : Exchange) ≠ ⟨.getRole id, .ok reread⟩ := by
  rintro ⟨⟩
  cases hCreation

theorem withstands_created {value : call.Value} (hCreation : isCreation call = true)
    (hStatus : reply.status = .success) :
    Withstands text [⟨call, .ok value⟩] reply where
  calls := by simp
  writes := by simp [not_isCheckedWrite_of_isCreation hCreation]
  each_write := atEach_cons.2
    ⟨fun hWrite => absurd ((not_isCheckedWrite_of_isCreation hCreation).symm.trans hWrite) nofun,
      atEach_nil⟩
  each_retry := atEach_cons.2
    ⟨fun id reread hRead => absurd hRead (ne_getRole_of_isCreation hCreation id reread), atEach_nil⟩
  each_error := atEach_cons.2 ⟨errorHandled_of_ok rfl, atEach_nil⟩
  success := by simp [hStatus, Accomplishes, Exchange.error?, hCreation]

theorem withstands_not_created {error : Store.Error} (hCreation : isCreation call = true)
    (hStatus : reply.status = .failure) (hReports : Reports reply call error) :
    Withstands text [⟨call, .error error⟩] reply where
  calls := by simp
  writes := by simp [not_isCheckedWrite_of_isCreation hCreation]
  each_write := atEach_cons.2
    ⟨fun hWrite => absurd ((not_isCheckedWrite_of_isCreation hCreation).symm.trans hWrite) nofun,
      atEach_nil⟩
  each_retry := atEach_cons.2
    ⟨fun id reread hRead => absurd hRead (ne_getRole_of_isCreation hCreation id reread), atEach_nil⟩
  each_error := atEach_cons.2
    ⟨errorHandled_of_last (not_isCheckedWrite_of_isCreation hCreation) ⟨hStatus, hReports⟩,
      atEach_nil⟩
  success := by simp [hStatus, not_accomplishes_of_error]

theorem withstands_createPermission {name : String} {description : Option String}
    (hRun : Converses (createPermission name description) log reply) :
    Withstands text log reply := by
  cases hRun with
  | @ask _ _ answer _ _ hRest =>
      rcases answer with error | permission
      · cases error with
        | conflict =>
            cases hRest
            exact withstands_not_created rfl rfl rfl
        | _ =>
            cases hRest
            exact withstands_not_created rfl rfl (message_to ..)
      · -- the reply tells the description, if there is one
        dsimp only at hRest
        split at hRest <;>
        · cases hRest
          exact withstands_created rfl rfl

theorem withstands_createRole {name : String} (hRun : Converses (createRole name) log reply) :
    Withstands text log reply := by
  cases hRun with
  | @ask _ _ answer _ _ hRest =>
      rcases answer with error | role
      · cases error with
        | conflict =>
            cases hRest
            exact withstands_not_created rfl rfl rfl
        | _ =>
            cases hRest
            exact withstands_not_created rfl rfl (message_to ..)
      · cases hRest
        exact withstands_created rfl rfl

end Creations

/-- Whatever a store answers to each call, and whatever it fails by, a text is replied to after
seven calls at most, three of which write. Each write is that of the role that was returned last, at
its revision, and differs from its set by the one permission of the command. Only a conflict at the
first or the second write is followed by another call: the role is read again, and the change is
written to it as it is then, if it still needs one. Any other error is the last answer and is
reported. The reply is one of success exactly if the last call has created something or has
written. -/
theorem evaluate_withstands_any_store (store : Behaviour) (text : String) :
    Withstands text (store.converse [] (evaluate text)).1
      (store.converse [] (evaluate text)).2 := by
  have hRun := converses_converse store [] (evaluate text)
  generalize (store.converse [] (evaluate text)).1 = log,
    (store.converse [] (evaluate text)).2 = reply at hRun ⊢
  cases hText : Phrase.parse? text with
  | none =>
      rw [evaluate, hText] at hRun
      cases hRun
      exact withstands_of_lookUps (by simp) (by simp) atEach_nil nofun
  | some command =>
      rw [evaluate, hText] at hRun
      cases command with
      | createPermission name description => exact withstands_createPermission hRun
      | createRole name => exact withstands_createRole hRun
      | assignPermission role permission =>
          have hGrant : Phrase.parse? text = some (Change.grant.command role permission) := hText
          exact (changeLog_of_converses hRun).withstands hGrant
      | removePermission role permission =>
          have hRevoke : Phrase.parse? text = some (Change.revoke.command role permission) := hText
          exact (changeLog_of_converses hRun).withstands hRevoke

/-- A store that shows a role as it was before others changed it, until it is read again. -/
def overtaking : Behaviour
  | _, .getRoleByName name => .ok (some ⟨"r", name, ⟨0⟩, ∅, 4⟩)
  | _, .getPermissionByName name => .ok (some ⟨"p", name, none, ⟨0⟩, ∅⟩)
  | _, .getRole id => .ok ⟨id, "viewer", ⟨0⟩, .ofList ["q"], 5⟩
  | _, .replaceRolePermissions id expected permissions =>
    if expected = 5 then
      .ok ⟨id, "viewer", ⟨0⟩, permissions, 6⟩
    else
      .error (.revisionMismatch expected 5)
  | _, _ => .error (.unexpected "" [])

theorem evaluate_withstands_any_store_of_conflict :
    let conversation :=
      overtaking.converse [] (evaluate "assign permission 'read' to role 'viewer'")
    Withstands "assign permission 'read' to role 'viewer'" conversation.1 conversation.2 ∧
      conversation.1.map Exchange.call =
        [.getRoleByName "viewer", .getPermissionByName "read",
          .replaceRolePermissions "r" 4 (.ofList ["p"]), .getRole "r",
          .replaceRolePermissions "r" 5 (.ofList ["p", "q"])] ∧
      conversation.2.status = .success :=
  ⟨evaluate_withstands_any_store _ _, by decide +kernel, by decide +kernel⟩

end Rolebook.Command
