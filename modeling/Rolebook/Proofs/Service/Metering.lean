import Mathlib.Algebra.GroupWithZero.Nat
import Rolebook.Proofs.Service.Session
import Rolebook.Proofs.Store.Conversation

/-!
# What a service counts

A service makes known how many permissions and roles it has, and how many commands it has replied
to, by intent and outcome. The first two numbers are set by the calls that make or remove an entity
and by no others, so they are right for as long as no other call changes how many there are
(`Transition.resized_or_same`). A command is counted when its evaluation has ended, whoever has
given it, and one that is brought to an end before that is not.

`metrics_track_runs` says this of all that can be done with a service that has started with an empty
store in memory.
-/

namespace Rolebook

open Rolebook.Memory
open Rolebook.Command (Reply)
open Rolebook.Store (Call Error Exchange Inventory Script)

/-! ## What programs end with -/

namespace Program

variable {Call : Type} {Answer : Call → Type} {α β : Type}

/-- Whatever a program is answered, its result is of a kind. -/
def EndsWith (kind : α → Prop) : Program Answer α → Prop
  | .done result => kind result
  | .ask _ next => ∀ answer, EndsWith kind (next answer)

theorem EndsWith.pure {kind : α → Prop} {result : α} (hResult : kind result) :
    (pure result : Program Answer α).EndsWith kind :=
  hResult

theorem endsWith_true (program : Program Answer α) : program.EndsWith fun _ => True := by
  induction program with
  | done result => trivial
  | ask call next ih => exact ih

theorem EndsWith.bind {kind : α → Prop} {kind' : β → Prop} {program : Program Answer α}
    {next : α → Program Answer β} (hProgram : program.EndsWith kind)
    (hNext : ∀ result, kind result → (next result).EndsWith kind') :
    (program >>= next).EndsWith kind' := by
  induction program with
  | done result => exact hNext result hProgram
  | ask call rest ih => exact fun answer => ih answer (hProgram answer)

end Program

namespace Command

/-- Metrics name no intent of a reply exactly if its text is no command. -/
def LabelsFit (reply : Reply) : Prop :=
  reply.intentLabel = "none" ↔ reply.status.label = "not_understood"

theorem labelsFit_to (intent : Phrase.Intent) {status : Status} (text : String)
    (hStatus : status ≠ .notUnderstood) :
    LabelsFit (.to intent status text) := by
  have hIntent : intent.label ≠ "none" := by cases intent <;> decide
  have hLabel : status.label ≠ "not_understood" := by
    cases status <;> first | decide | exact absurd rfl hStatus
  exact iff_of_false hIntent hLabel

theorem endsWith_createPermission (name : String) (description : Option String) :
    (createPermission name description).EndsWith LabelsFit := by
  rintro (error | permission)
  · cases error <;> exact labelsFit_to _ _ nofun
  · dsimp only
    split <;> exact labelsFit_to _ _ nofun

theorem endsWith_createRole (name : String) : (createRole name).EndsWith LabelsFit := by
  rintro (error | role)
  · cases error <;> exact labelsFit_to _ _ nofun
  · exact labelsFit_to _ _ nofun

theorem endsWith_changeByName (change : Change) (roleName permissionName : String) :
    (changeByName change roleName permissionName).EndsWith LabelsFit := by
  rintro (error | _ | role)
  · exact labelsFit_to _ _ nofun
  · exact labelsFit_to _ _ nofun
  · rintro (error | _ | permission)
    · exact labelsFit_to _ _ nofun
    · exact labelsFit_to _ _ nofun
    · refine (Program.endsWith_true _).bind ?_
      rintro (error | _ | _) - <;> exact labelsFit_to _ _ nofun

/-- The labels of a reply fit, whatever the store has answered. -/
theorem endsWith_evaluate (text : String) : (evaluate text).EndsWith LabelsFit := by
  unfold evaluate
  cases Phrase.parse? text with
  | none => exact iff_of_true rfl rfl
  | some command =>
      cases command with
      | createPermission name description => exact endsWith_createPermission _ _
      | createRole name => exact endsWith_createRole _
      | assignPermission role permission => exact endsWith_changeByName _ _ _
      | removePermission role permission => exact endsWith_changeByName _ _ _

end Command

namespace Http

/-- The text that a request gives to be evaluated as a command. -/
def commandOf? (profile : Profile) (request : Request) : Option String :=
  if Route.ofPath? (pathOf request.target) = some .command ∧ request.method = "POST" then
    (body? request).bind fun body => (commandText profile body).toOption
  else
    none

/-- Evaluates a text for one who gets the reply in a response. -/
def evaluateFor (text : String) : Script Handled := do
  let reply ← Command.evaluate text
  return ⟨replyResponse reply, some reply⟩

variable {profile : Profile} {request : Request}

theorem handle_of_commandOf? {text : String} (hText : commandOf? profile request = some text) :
    handle profile request = do return (← evaluateFor text).forMethod "POST" := by
  unfold commandOf? at hText
  split at hText
  · next hCommand =>
      obtain ⟨hRoute, hMethod⟩ := hCommand
      obtain ⟨body, hBody, hFound⟩ := Option.bind_eq_some_iff.1 hText
      cases hCommand : commandText profile body with
      | error problem =>
          rw [hCommand] at hFound
          cases hFound
      | ok found =>
          rw [hCommand] at hFound
          obtain rfl := Option.some.inj hFound
          rw [handle, hRoute, hMethod]
          simp only [handleRoute, postCommand, hBody, hCommand]
          rfl
  · cases hText

/-- Whoever does not give a command gets no reply to one. -/
theorem endsWith_handle (hNone : commandOf? profile request = none) :
    (handle profile request).EndsWith fun handled => handled.reply = none := by
  have hWithoutReply (script : Script Response) :
      (withoutReply script).EndsWith fun handled => handled.reply = none :=
    (Program.endsWith_true script).bind fun _ _ => .pure rfl
  unfold handle
  split
  · exact .pure rfl
  · next route hRoute =>
      split
      · next hMethod =>
          have hRouted : (handleRoute profile request route).EndsWith fun handled => handled.reply =
              none := by
            cases route with
            | command =>
                have hPost : request.method = "POST" := by simpa [Route.methods] using hMethod
                rw [commandOf?, if_pos ⟨hRoute, hPost⟩] at hNone
                rw [handleRoute, postCommand]
                cases hBody : body? request with
                | none => exact .pure rfl
                | some body =>
                    rw [hBody, Option.bind_some] at hNone
                    dsimp only
                    cases hCommand : commandText profile body with
                    | error problem => exact .pure rfl
                    | ok text =>
                        rw [hCommand] at hNone
                        cases hNone
            | _ => exact hWithoutReply _
          refine hRouted.bind fun handled hHandled => ?_
          rw [Handled.forMethod]
          split <;> exact hHandled
      · exact .pure rfl

end Http

/-! ## Numbers of entities -/

namespace Store

/-- A call that has made or removed an entity. -/
def Exchange.resizes : Exchange → Bool
  | ⟨.createPermission _ _, .ok _⟩ | ⟨.deletePermission _, .ok _⟩ => true
  | ⟨.createRole _, .ok _⟩ | ⟨.deleteRole _, .ok _⟩ => true
  | _ => false

@[simp] theorem Exchange.resizes_error (call : Call) (error : Error) :
    (⟨call, .error error⟩ : Exchange).resizes = false := by
  cases call <;> rfl

theorem Exchange.resizes_of_readsOnly {call : Call} (hReads : readsOnly call = true)
    (answer : call.Answer) :
    (⟨call, answer⟩ : Exchange).resizes = false := by
  cases call <;> first | rfl | cases hReads

end Store

namespace Memory

variable {moment : Moment} {state state' : State} {call : Call} {answer : call.Answer}
  {earlier : List Exchange}

/-- The numbers of permissions and roles. -/
def State.tally (state : State) : Inventory :=
  ⟨state.permissions.size, state.roles.size⟩

theorem State.length_listPermissions (state : State) :
    state.listPermissions.length = state.tally.permissions := by
  rw [listPermissions, newestFirst, List.length_mergeSort, List.length_map,
    Table.values, List.length_map]
  rfl

theorem State.length_listRoles (state : State) : state.listRoles.length = state.tally.roles := by
  rw [listRoles, newestFirst, List.length_mergeSort, List.length_map, Table.values, List.length_map]
  rfl

/-- A call that makes or removes an entity makes known how many there are, and any other call
changes neither how many there are nor what is known of it. -/
theorem Transition.resized_or_same (hStep : Transition moment state call answer state') :
    (⟨call, answer⟩ : Exchange).resizes = true ∧ state'.inventory = some state'.tally ∨
      (⟨call, answer⟩ : Exchange).resizes = false ∧ state'.inventory = state.inventory ∧
        state'.tally = state.tally := by
  cases hStep with
  | fails error => exact .inr ⟨Exchange.resizes_error .., rfl, rfl⟩
  | reads _ hReads => exact .inr ⟨Exchange.resizes_of_readsOnly hReads _, rfl, rfl⟩
  | createPermission hKept hFree | createRole hKept hFree => exact .inl ⟨rfl, rfl⟩
  | deletePermission hFound | deleteRole hFound => exact .inl ⟨rfl, rfl⟩
  | updatePermission hKept hFound hFree =>
      exact .inr ⟨rfl, rfl, congrArg (Inventory.mk · _) Table.size_update⟩
  | updateRole hKept hFound hFree =>
      exact .inr ⟨rfl, rfl, congrArg (Inventory.mk _) Table.size_update⟩
  | setRolePermissions hFound hKnown | replaceRolePermissions hFound hKnown =>
      exact .inr ⟨rfl, rfl, congrArg (Inventory.mk _) Table.size_update⟩

/-- What is known of the numbers of entities after some exchanges is what they are, or nothing if
there always were as many. -/
def Known (state : State) (earlier : List Exchange) : Prop :=
  state.inventory = if earlier.any Exchange.resizes then some state.tally else none

theorem Known.step (hKnown : Known state earlier)
    (hStep : Transition moment state call answer state') :
    Known state' (earlier ++ [⟨call, answer⟩]) := by
  unfold Known at hKnown ⊢
  rw [List.any_append, List.any_cons, List.any_nil, Bool.or_false]
  rcases hStep.resized_or_same with ⟨hResizes, hInventory⟩ | ⟨hResizes, hInventory, hTally⟩
  · rw [hResizes, Bool.or_true, if_pos rfl, hInventory]
  · rw [hResizes, Bool.or_false, hInventory, hTally, hKnown]

end Memory

/-! ## The page of the metrics -/

namespace Metrics

/-- The series of the family with a name. -/
def seriesOf (metrics : Metrics) (name : String) : List Series :=
  (metrics.families.filter fun family => family.name == name).flatMap Family.series

variable (metrics : Metrics)

theorem seriesOf_commands :
    metrics.seriesOf "rbac_commands_total" = metrics.commands.map commandSeries := by
  obtain ⟨_ | ⟨count, counts⟩, _ | inventory⟩ := metrics <;>
    simp [seriesOf, families, commandFamily, permissionFamily, roleFamily]

theorem seriesOf_permissions :
    metrics.seriesOf "rbac_permissions_total" =
      metrics.inventory.toList.map fun inventory => ⟨[], inventory.permissions⟩ := by
  obtain ⟨_ | ⟨count, counts⟩, _ | inventory⟩ := metrics <;>
    simp [seriesOf, families, commandFamily, permissionFamily, roleFamily]

theorem seriesOf_roles :
    metrics.seriesOf "rbac_roles_total" = metrics.inventory.toList.map fun inventory =>
      ⟨[], inventory.roles⟩ := by
  obtain ⟨_ | ⟨count, counts⟩, _ | inventory⟩ := metrics <;>
    simp [seriesOf, families, commandFamily, permissionFamily, roleFamily]

end Metrics

/-! ## Runs of a service -/

namespace Service

open Rolebook.Http (Handled Request commandOf? evaluateFor)

/-- Something that is done with a service. -/
inductive Deed
  | call (call : Call)
  | seed
  | request (request : Request)
  | command (text : String)
  /-- Time passes. -/
  | wait (nanoseconds : Int)

namespace Session

variable {α β : Type} {session : Session} {state : State} {earlier : List Exchange}

/-- The calls of a script that a service runs, with the answers to them. -/
def log (session : Session) : Script α → List Exchange
  | .done _ => []
  | .ask call next =>
    match session.perform call with
    | (some answer, session) => ⟨call, answer⟩ :: session.log (next answer)
    | (none, _) => []

/-- The service after something was done. -/
def act (session : Session) : Deed → Session
  | .call call => (session.perform call).2
  | .seed => session.seed.2
  | .request request => (session.request request).2
  | .command text => (session.command text).2
  | .wait nanoseconds => session.later nanoseconds

/-- The calls to the store that are made when something is done. -/
def exchanges (session : Session) : Deed → List Exchange
  | .call call => session.log (Program.perform call)
  | .seed => session.log Demo.seed.run
  | .request request => session.log (Http.handle session.profile request)
  | .command text => session.log (Command.evaluate text)
  | .wait _ => []

/-- The text that is evaluated when something is done. -/
def textOf? (session : Session) : Deed → Option String
  | .request request => commandOf? session.profile request
  | .command text => some text
  | _ => none

/-- The reply that the evaluation of a text returns, if one is evaluated and that is not brought to
an end before. -/
def reply? (session : Session) (deed : Deed) : Option Reply :=
  (session.textOf? deed).bind fun text => (session.run (Command.evaluate text)).1

/-! ### Scripts -/

theorem run_map (script : Script α) (turn : α → β) :
    session.run (do return turn (← script)) =
      ((session.run script).1.map turn, (session.run script).2) := by
  induction script generalizing session with
  | done result => rfl
  | ask call next ih =>
      change session.run (.ask call fun answer => do return turn (← next answer)) = _
      rw [run_ask, run_ask]
      rcases session.perform call with ⟨_ | answer, session'⟩
      · rfl
      · exact ih answer

theorem run_of_endsWith {kind : α → Prop} {script : Script α} (hScript : script.EndsWith kind)
    {result : α} (hResult : (session.run script).1 = some result) : kind result := by
  induction script generalizing session with
  | done ended =>
      obtain rfl := Option.some.inj hResult
      exact hScript
  | ask call next ih =>
      rw [run_ask] at hResult
      generalize session.perform call = outcome at hResult
      obtain ⟨_ | answer, session'⟩ := outcome
      · cases hResult
      · exact ih answer (hScript answer) hResult

/-- A script counts no commands. -/
theorem run_commands (script : Script α) : (session.run script).2.commands = session.commands := by
  induction script generalizing session with
  | done result => rfl
  | ask call next ih =>
      have hPerform : (session.perform call).2.commands = session.commands := rfl
      rw [run_ask]
      generalize session.perform call = outcome at hPerform
      obtain ⟨_ | answer, session'⟩ := outcome
      · exact hPerform
      · exact (ih answer).trans hPerform

/-- What is known of the numbers of entities stays right while a service runs a script. -/
theorem known_run (hMemory : session.backend.memory? = some state) (hKnown : Known state earlier)
    (script : Script α) :
    ∃ after, (session.run script).2.backend.memory? = some after ∧
      Known after (earlier ++ session.log script) := by
  induction script generalizing session state earlier with
  | done result =>
      rw [log, List.append_nil]
      exact ⟨state, hMemory, hKnown⟩
  | ask call next ih =>
      obtain ⟨between, hBetween, hCall⟩ := Backend.troubledCall_perform hMemory session.moment call
      rw [run_ask, log, perform]
      generalize session.backend.perform session.moment call = outcome at hBetween hCall ⊢
      obtain ⟨answer?, backend⟩ := outcome
      cases hCall with
      | stopped =>
          dsimp only
          rw [List.append_nil]
          exact ⟨state, hBetween, hKnown⟩
      | @answered answer _ hStep =>
          have hNext :
              ({ session with backend, nextSerial := session.nextSerial + 1 } :
                Session).backend.memory? =
            some between := hBetween
          obtain ⟨after, hAfter, hLater⟩ := ih answer hNext (hKnown.step hStep)
          rw [List.append_assoc] at hLater
          exact ⟨after, hAfter, hLater⟩

/-! ### Deeds -/

/-- Whatever is done, it does to the store what a script does to it. -/
theorem exists_script (session : Session) (deed : Deed) :
    ∃ (α : Type) (script : Script α),
      (session.act deed).backend = (session.run script).2.backend ∧
        session.exchanges deed = session.log script := by
  cases deed with
  | call call =>
      refine ⟨_, Program.perform call, ?_, rfl⟩
      rw [act, Program.perform, run_ask]
      rcases session.perform call with ⟨_ | answer, session'⟩ <;> rfl
  | seed => exact ⟨_, Demo.seed.run, rfl, rfl⟩
  | request request => exact ⟨_, _, request_backend request, rfl⟩
  | command text =>
      refine ⟨_, Command.evaluate text, ?_, rfl⟩
      rw [act, command]
      rcases session.run (Command.evaluate text) with ⟨_ | reply, session'⟩ <;> rfl
  | wait nanoseconds => exact ⟨Unit, .done (), rfl, rfl⟩

/-- A reply that the evaluation of a text returns is counted, and nothing else is. -/
theorem act_commands (session : Session) (deed : Deed) :
    (session.act deed).commands =
      match session.reply? deed with
      | some reply => countCommand reply.intentLabel reply.status.label session.commands
      | none => session.commands := by
  cases deed with
  | call call => rfl
  | seed => exact run_commands _
  | wait nanoseconds => rfl
  | command text =>
      have hCommands : (session.run (Command.evaluate text)).2.commands = session.commands :=
        run_commands _
      simp only [act, command, reply?, textOf?, Option.bind_some]
      generalize session.run (Command.evaluate text) = ended at hCommands
      obtain ⟨_ | reply, session'⟩ := ended
      · exact hCommands
      · exact congrArg (countCommand reply.intentLabel reply.status.label) hCommands
  | request request =>
      simp only [act, Session.request, reply?, textOf?]
      cases hText : commandOf? session.profile request with
      | some text =>
          have hCommands : (session.run (Command.evaluate text)).2.commands = session.commands :=
            run_commands _
          rw [Http.handle_of_commandOf? hText, run_map, evaluateFor, run_map]
          simp only [Option.bind_some]
          generalize session.run (Command.evaluate text) = ended at hCommands
          obtain ⟨_ | reply, session'⟩ := ended
          · exact hCommands
          · exact congrArg (countCommand reply.intentLabel reply.status.label) hCommands
      | none =>
          have hCommands :
              (session.run (Http.handle session.profile request)).2.commands = session.commands :=
            run_commands _
          have hNone := @run_of_endsWith _ session _ _ (Http.endsWith_handle hText)
          generalize session.run (Http.handle session.profile request) = ended at hCommands hNone
          obtain ⟨_ | ⟨response, _ | reply⟩, session'⟩ := ended
          · exact hCommands
          · exact hCommands
          · cases hNone rfl

end Session

/-! ## What is made known -/

/-- A reply that is counted moves the sum of the counts up by one. -/
theorem sum_countCommand (intent status : String) (commands : List CommandCount) :
    ((countCommand intent status commands).map CommandCount.count).sum =
      (commands.map CommandCount.count).sum + 1 := by
  induction commands with
  | nil => rfl
  | cons count counts ih =>
      rw [countCommand]
      split
      · simp only [List.map_cons, List.sum_cons]
        omega
      · rw [List.map_cons, List.sum_cons, ih, List.map_cons, List.sum_cons, Nat.add_assoc]

/-- What is counted has the labels of the reply or those that were there before. -/
theorem labels_of_mem_countCommand {intent status : String} {commands : List CommandCount}
    {count : CommandCount} (hCount : count ∈ countCommand intent status commands) :
    count.intent = intent ∧ count.status = status ∨
      ∃ other ∈ commands, count.intent = other.intent ∧ count.status = other.status := by
  induction commands with
  | nil =>
      obtain rfl := List.mem_singleton.1 hCount
      exact .inl ⟨rfl, rfl⟩
  | cons first counts ih =>
      rw [countCommand] at hCount
      split at hCount
      · rcases List.mem_cons.1 hCount with rfl | hLater
        · exact .inr ⟨first, .head _, rfl, rfl⟩
        · exact .inr ⟨count, .tail _ hLater, rfl, rfl⟩
      · rcases List.mem_cons.1 hCount with rfl | hLater
        · exact .inr ⟨count, .head _, rfl, rfl⟩
        · exact (ih hLater).imp_right fun ⟨other, hOther, hLabels⟩ =>
            ⟨other, .tail _ hOther, hLabels⟩

theorem Backend.listing_of_memory? {backend : Backend} {state : State}
    (hMemory : backend.memory? = some state) :
    backend.listing = (state.listPermissions, state.listRoles) ∧
      backend.inventory = state.inventory := by
  rcases backend with inner | ⟨inner, durable, faults, _ | rival⟩ | store
  · obtain rfl := Option.some.inj hMemory
    exact ⟨rfl, rfl⟩
  · obtain rfl := Option.some.inj hMemory
    exact ⟨rfl, rfl⟩
  · cases hMemory
  · cases hMemory

/-- A service after a number of deeds, the calls that were made to its store by then, and the
replies of all evaluations that have returned. -/
structure Chronicle where
  session : Session
  exchanges : List Exchange
  replies : List Reply

/-- The chronicle after one more deed. -/
def Chronicle.extend (chronicle : Chronicle) (deed : Deed) : Chronicle where
  session := chronicle.session.act deed
  exchanges := chronicle.exchanges ++ chronicle.session.exchanges deed
  replies := chronicle.replies ++ (chronicle.session.reply? deed).toList

/-- The chronicle of a run. -/
def Session.chronicle (session : Session) (deeds : List Deed) : Chronicle :=
  deeds.foldl Chronicle.extend ⟨session, [], []⟩

namespace Chronicle

/-- The counts of a service agree with what has been done. -/
structure Exact (chronicle : Chronicle) : Prop where
  known : ∃ state, chronicle.session.backend.memory? = some state ∧ Known state chronicle.exchanges
  total : (chronicle.session.commands.map CommandCount.count).sum = chronicle.replies.length
  labels : ∀ count ∈ chronicle.session.commands, count.intent = "none" ↔
    count.status = "not_understood"

variable {chronicle : Chronicle}

theorem Exact.extend (hExact : chronicle.Exact) (deed : Deed) : (chronicle.extend deed).Exact := by
  obtain ⟨⟨state, hMemory, hKnown⟩, hTotal, hLabels⟩ := hExact
  have hCommands := chronicle.session.act_commands deed
  refine ⟨?_, ?_, ?_⟩
  · obtain ⟨α, script, hBackend, hExchanges⟩ := chronicle.session.exists_script deed
    obtain ⟨after, hAfter, hLater⟩ := Session.known_run hMemory hKnown script
    exact ⟨after, (congrArg Backend.memory? hBackend).trans hAfter,
      by rwa [Chronicle.extend, hExchanges]⟩
  · rw [Chronicle.extend, List.length_append, ← hTotal, hCommands]
    cases chronicle.session.reply? deed with
    | none => rfl
    | some reply => exact sum_countCommand ..
  · rw [Chronicle.extend, hCommands]
    cases hReply : chronicle.session.reply? deed with
    | none => exact hLabels
    | some reply =>
        obtain ⟨text, -, hEnd⟩ := Option.bind_eq_some_iff.1 hReply
        intro count hCount
        rcases labels_of_mem_countCommand hCount with ⟨hIntent, hStatus⟩ |
          ⟨other, hOther, hIntent, hStatus⟩
        · rw [hIntent, hStatus]
          exact Session.run_of_endsWith (Command.endsWith_evaluate text) hEnd
        · rw [hIntent, hStatus]
          exact hLabels other hOther

theorem Exact.foldl (hExact : chronicle.Exact) (deeds : List Deed) :
    (deeds.foldl Chronicle.extend chronicle).Exact := by
  induction deeds generalizing chronicle with
  | nil => exact hExact
  | cons deed deeds ih => exact ih (hExact.extend deed)

/-- What the metrics of a service say at the end of a run. -/
structure Metered (run : Chronicle) : Prop where
  permissions : run.session.metrics.seriesOf "rbac_permissions_total" =
    if run.exchanges.any Exchange.resizes then [⟨[], run.session.backend.listing.1.length⟩] else []
  roles : run.session.metrics.seriesOf "rbac_roles_total" =
    if run.exchanges.any Exchange.resizes then [⟨[], run.session.backend.listing.2.length⟩] else []
  /-- Each evaluation that has returned is counted once. -/
  commands : ((run.session.metrics.seriesOf "rbac_commands_total").map Metrics.Series.value).sum =
    run.replies.length
  labels : ∀ series ∈ run.session.metrics.seriesOf "rbac_commands_total",
    ("intent", "none") ∈ series.labels ↔ ("status", "not_understood") ∈ series.labels

theorem Exact.metered (hExact : chronicle.Exact) : chronicle.Metered := by
  obtain ⟨⟨state, hMemory, hKnown⟩, hTotal, hLabels⟩ := hExact
  obtain ⟨hListing, hInventory⟩ := Backend.listing_of_memory? hMemory
  refine ⟨?_, ?_, ?_, fun series hSeries => ?_⟩
  · rw [Metrics.seriesOf_permissions, Session.metrics, hInventory, hListing, hKnown,
      State.length_listPermissions]
    cases chronicle.exchanges.any Exchange.resizes <;> rfl
  · rw [Metrics.seriesOf_roles, Session.metrics, hInventory, hListing, hKnown,
      State.length_listRoles]
    cases chronicle.exchanges.any Exchange.resizes <;> rfl
  · rw [Metrics.seriesOf_commands, List.map_map]
    exact hTotal
  · rw [Metrics.seriesOf_commands] at hSeries
    obtain ⟨count, hCount, rfl⟩ := List.mem_map.1 hSeries
    simpa [Metrics.commandSeries, eq_comm] using hLabels count hCount

end Chronicle

/-- A service has started with an empty store in memory, and any calls, seedings, requests and
commands have been made, of which any may have failed, and any may have been brought to an end. Once
an entity has been made or removed, the metrics say how many permissions and roles there are. The
commands that they count are as many as evaluations have returned, and those without an intent are
those that were not understood. -/
theorem metrics_track_runs {backend : Backend} (hBackend : backend.memory? = some .empty)
    (lowercaseCommands : Bool) (now : Instant) (deeds : List Deed) :
    ((Session.start backend lowercaseCommands now).chronicle deeds).Metered := by
  have hStart : Chronicle.Exact ⟨.start backend lowercaseCommands now, [], []⟩ :=
    ⟨⟨.empty, hBackend, rfl⟩, rfl, nofun⟩
  exact (hStart.foldl deeds).metered

/-- A store in memory that brings the first command that looks for a role to an end. -/
def unsteady : Backend :=
  .rehearsal ⟨.empty, false, [⟨some "get_role_by_name", .abort, 0, 1⟩], none⟩

/-- A role without a name is refused, a grant is brought to an end and later done, a text is not
understood, and one of two permissions is removed. -/
def mixedDeeds : List Deed := [
  .call (.createRole " "), .request grantRequest, .command "hello",
  .call (.createPermission "read" none), .call (.createRole "viewer"), .request grantRequest,
  .call (.createPermission "write" none), .call (.deletePermission (idOfSerial 3))]

theorem metrics_track_runs_of_mixed_deeds :
    let run := (Session.start unsteady true ⟨0⟩).chronicle mixedDeeds
    unsteady.memory? = some .empty ∧ run.Metered ∧ run.exchanges.any Exchange.resizes = true ∧
      run.session.metrics.seriesOf "rbac_permissions_total" =
        [⟨[], run.session.backend.listing.1.length⟩] ∧
      run.session.metrics =
        ⟨[⟨"none", "not_understood", 1⟩, ⟨"assign_permission", "success", 1⟩], some ⟨1, 1⟩⟩ ∧
      run.replies.map Reply.status = [.notUnderstood, .success] := by
  intro run
  have hMetered : run.Metered := metrics_track_runs rfl true ⟨0⟩ mixedDeeds
  have hRun : run.exchanges.any Exchange.resizes = true ∧ run.session.metrics =
      ⟨[⟨"none", "not_understood", 1⟩, ⟨"assign_permission", "success", 1⟩], some ⟨1, 1⟩⟩ ∧
      run.replies.map Reply.status = [.notUnderstood, .success] := by
    decide +kernel
  obtain ⟨hResizes, hMetrics, hReplies⟩ := hRun
  exact ⟨rfl, hMetered, hResizes, hMetered.permissions.trans (if_pos hResizes), hMetrics, hReplies⟩

end Service

end Rolebook
