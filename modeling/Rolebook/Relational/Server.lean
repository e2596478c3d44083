import Rolebook.Fault
import Rolebook.Program
import Rolebook.Relational.Statement

/-!
# Database servers

A server keeps tables and does statements for one connection. A transaction works on a copy of the
tables, which takes their place when it is committed and is dropped when it is not.
-/

namespace Rolebook.Relational

/-- What a client can send to a server. -/
inductive Request
  | connect
  | beginTransaction
  | commit
  | rollback
  | execute (statement : Statement)
deriving DecidableEq

/-- What a request results in if it succeeds. -/
def Request.Value : Request → Type
  | .connect => Unit
  | .beginTransaction => Unit
  | .commit => Unit
  | .rollback => Unit
  | .execute statement => statement.Value

/-- The answer to a request. -/
abbrev Request.Answer (request : Request) : Type :=
  Except DatabaseError request.Value

/-- The name of a request. -/
def Request.label : Request → String
  | .connect => "connect"
  | .beginTransaction => "begin"
  | .commit => "commit"
  | .rollback => "rollback"
  | .execute statement => statement.label

/-- A program that sends requests to a server. -/
abbrev Dialogue (α : Type) : Type :=
  Program Request.Answer α

/-- A server with one connection. -/
structure Server where
  committed : Tables
  /-- The tables as the open transaction sees them, if there is one. -/
  transaction : Option Tables
  /-- Whether the connection can be used. -/
  connected : Bool
  faults : List (Fault DatabaseError)

namespace Server

/-- A server with these tables and planned faults, and no transaction. -/
def ofTables (tables : Tables) (faults : List (Fault DatabaseError)) : Server :=
  ⟨tables, none, true, faults⟩

/-- The tables that a statement sees. -/
def visible (server : Server) : Tables :=
  server.transaction.getD server.committed

/-- The server with other tables in place of those that a statement sees. -/
def withVisible (server : Server) (tables : Tables) : Server :=
  match server.transaction with
  | some _ => { server with transaction := some tables }
  | none => { server with committed := tables }

/-- The answer to a request that meets no fault. -/
def answerUnharmed (server : Server) (now : Instant) (request : Request) :
    request.Answer × Server :=
  match request with
  | .connect => (.ok (), { server with connected := true })
  | .beginTransaction => (.ok (), { server with transaction := some server.committed })
  | .commit => (.ok (), { server with committed := server.visible, transaction := none })
  | .rollback => (.ok (), { server with transaction := none })
  | .execute statement =>
    match statement.execute now server.visible with
    | .ok (value, tables) => (.ok value, server.withVisible tables)
    | .error error => (.error error, server)

/-- The server after a request that a fault has struck. A failed rollback takes the connection with
it. -/
def afterFault (server : Server) (request : Request) : Server :=
  match request with
  | .rollback => { server with transaction := none, connected := false }
  | _ => server

/-- The answer to a request on a connection that can be used. -/
def answerConnected (server : Server) (now : Instant) (request : Request) :
    request.Answer × Server :=
  match Fault.strike request.label server.faults with
  | (some error, faults) => (.error error, { server with faults }.afterFault request)
  | (none, faults) => { server with faults }.answerUnharmed now request

/-- The answer to a request. A connection that cannot be used is replaced first. -/
def answer (server : Server) (now : Instant) (request : Request) : request.Answer × Server :=
  if server.connected || request = .connect then
    server.answerConnected now request
  else
    match server.answerConnected now .connect with
    | (.error error, server) => (.error error, server)
    | (.ok _, server) => server.answerConnected now request

/-- Runs a dialogue at one time. -/
def run (server : Server) (now : Instant) (dialogue : Dialogue α) : α × Server :=
  (dialogue.run (m := StateM Server) fun request server => server.answer now request) server

end Server

end Rolebook.Relational
