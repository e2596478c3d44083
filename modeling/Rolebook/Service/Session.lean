import Rolebook.Demo
import Rolebook.Http.Handler
import Rolebook.Metrics
import Rolebook.Service.Backend

/-!
# Sessions

A service at work: its store, its clock, the identifiers that it gives out, and what it counts. What
it logs and the spans that it exports are left out, since it never reads them.
-/

namespace Rolebook.Service

open Rolebook.Command (Reply)
open Rolebook.Http (Handled Manual Profile Request Response)
open Rolebook.Store (Call Error Inventory Script)

/-- The identifier with a serial number: a UUID of version 4 whose last group is the number. -/
def idOfSerial (serial : Nat) : Id :=
  "b5c2f8e4-3a61-4d07-9e1b-" ++ String.ofList (Text.toPaddedDigits 16 12 serial)

/-- A service at work. -/
structure Session where
  backend : Backend
  lowercaseCommands : Bool
  now : Instant
  /-- The serial number of the next identifier. -/
  nextSerial : Nat
  commands : List CommandCount
  manual : Manual

namespace Session

/-- A service that starts with a store at a time. It is one that was built without a manual. -/
def start (backend : Backend) (lowercaseCommands : Bool) (now : Instant) : Session :=
  ⟨backend, lowercaseCommands, now, 1, [], .empty⟩

/-- What the service says of itself. -/
def profile (session : Session) : Profile :=
  ⟨session.backend.name, session.backend.durable, session.lowercaseCommands, session.manual⟩

/-- What a new entity would get. -/
def moment (session : Session) : Moment :=
  ⟨session.now, idOfSerial session.nextSerial⟩

/-- The answer to a call, if the one who makes it lives on, and the session after it. -/
def perform (session : Session) (call : Call) : Option call.Answer × Session :=
  let (answer?, backend) := session.backend.perform session.moment call
  (answer?, { session with backend, nextSerial := session.nextSerial + 1 })

/-- Runs a script to its end, if it comes to one. -/
def run (session : Session) (script : Script α) : Option α × Session :=
  (script.run (m := OptionT (StateM Session)) fun call session => session.perform call) session

/-- Counts a command with a pair of labels. -/
def count (session : Session) (intent status : String) : Session :=
  { session with commands := countCommand intent status session.commands }

/-- Counts the reply to a command. -/
def countReply (session : Session) (reply : Reply) : Session :=
  session.count reply.intentLabel reply.status.label

/-- Makes numbers of permissions and roles known. -/
def publish (session : Session) (inventory : Inventory) : Session :=
  { session with backend := session.backend.publish inventory }

/-- Evaluates a command. -/
def command (session : Session) (text : String) : Option Reply × Session :=
  match session.run (Command.evaluate text) with
  | (some reply, session) => (some reply, session.countReply reply)
  | (none, session) => (none, session)

/-- Handles a request. If that comes to no end then a command is reported to have failed. -/
def request (session : Session) (request : Request) : Response × Session :=
  match session.run (Http.handle session.profile request) with
  | (some ⟨response, some reply⟩, session) => (response, session.countReply reply)
  | (some ⟨response, none⟩, session) => (response, session)
  | (none, session) => (Http.commandFailed.response, session)

/-- Puts the demonstration data into the store. -/
def seed (session : Session) : Option (Except Error Unit) × Session :=
  session.run Demo.seed.run

/-- What is known of the commands and of the inventory. -/
def metrics (session : Session) : Metrics :=
  ⟨session.commands, session.backend.inventory⟩

/-- The session a time later. -/
def later (session : Session) (nanoseconds : Int) : Session :=
  { session with now := session.now.later nanoseconds }

end Session

end Rolebook.Service
