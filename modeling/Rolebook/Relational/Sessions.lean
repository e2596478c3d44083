import Rolebook.Relational.Client

/-!
# Sessions

Dialogues of several sessions with one database, whose requests come in any order that the database
allows. A statement sees everything that was committed before it and what its own transaction has
done. It takes locks on the rows that it changes, on those that it asks to lock and on those that
its new rows refer to, and waits for other sessions whose locks are in its way. The locks are held
until the transaction ends.

This is a database that is simpler than the real one in one point: a statement has no start of its
own. It sees what was committed before it is answered, also if it had to wait, and it is answered as
a whole. A real one under READ COMMITTED takes a snapshot when the statement starts, and once the
statement has waited for a row it looks at that row again, but not at those that its subqueries have
read.
-/

namespace Rolebook.Relational

open Rolebook.Store (Error Call Inventory)

/-- What identifies a row. -/
inductive RowKey
  | permission (id : Id)
  | role (id : Id)
  | grant (role permission : Id)
deriving DecidableEq

/-- A lock on a row. Sessions can share it if none of them changes the row. -/
structure Lock where
  row : RowKey
  shared : Bool
deriving DecidableEq

/-- Whether a lock has to wait for another one. -/
def Lock.conflicts (lock other : Lock) : Prop :=
  lock.row = other.row ∧ ¬ (lock.shared ∧ other.shared)

instance (lock other : Lock) : Decidable (lock.conflicts other) :=
  inferInstanceAs (Decidable (_ ∧ _))

section Rows

variable {α : Type} [DecidableEq α]

/-- The rows that are in only one of two lists. -/
def differing (before after : List α) : List α :=
  before.filter (fun row => row ∉ after) ++ after.filter fun row => row ∉ before

/-- Rows, with what has changed between two lists of them. -/
def refreshed (before after rows : List α) : List α :=
  rows.filter (fun row => row ∈ after ∨ row ∉ before) ++ after.filter fun row => row ∉ before

end Rows

namespace Tables

/-- The keys of the rows that have changed between tables. -/
def changes (before after : Tables) : List RowKey :=
  (differing before.permissions after.permissions).map (fun row => .permission row.id) ++
    (differing before.roles after.roles).map (fun row => .role row.id) ++
    (differing before.grants after.grants).map fun row => .grant row.role row.permission

/-- Tables, with what has changed between two others. -/
def refresh (tables before after : Tables) : Tables where
  permissions := refreshed before.permissions after.permissions tables.permissions
  roles := refreshed before.roles after.roles tables.roles
  grants := refreshed before.grants after.grants tables.grants
  migrations := refreshed before.migrations after.migrations tables.migrations

end Tables

/-- The locks that a statement takes beyond those on the rows that it changes. -/
def Statement.extraLocks (statement : Statement) (tables : Tables) : List Lock :=
  match statement with
  | .lockRole id => if tables.roles.any fun row => row.id == id then [⟨.role id, false⟩] else []
  | .insertGrants role permissions =>
    permissions.flatMap fun id => [⟨.role role, true⟩, ⟨.permission id, true⟩]
  | _ => []

/-- The locks that a request takes when it makes other tables of those that it sees. -/
def Request.locks (request : Request) (before after : Tables) : List Lock :=
  match request with
  | .execute statement => (before.changes after).map (⟨·, false⟩) ++ statement.extraLocks before
  | _ => []

/-- One call in progress. -/
structure Session where
  newId : Id
  call : Call
  /-- What is left of the dialogue for the call. -/
  rest : Dialogue (Except Error (call.Value × Option Inventory))
  /-- The tables as the open transaction sees them, if there is one. -/
  transaction : Option Tables
  /-- The locks that the open transaction holds. -/
  locks : List Lock

/-- A session that is going to make a call. -/
def Session.start (newId : Id) (call : Call) : Session :=
  ⟨newId, call, (dialogue newId call).run, none, []⟩

/-- A database and its sessions. -/
structure System (ι : Type) where
  committed : Tables
  session : ι → Session

namespace System

variable {ι : Type} (system : System ι)

/-- The server as a session sees it. -/
def server (i : ι) : Server :=
  ⟨system.committed, (system.session i).transaction, true, []⟩

/-- The locks that a request of a session takes. -/
def wanted (i : ι) (now : Instant) (request : Request) : List Lock :=
  request.locks (system.server i).visible ((system.server i).answerUnharmed now request).2.visible

/-- Whether no other session has locks in the way of these. -/
def IsFree (i : ι) (locks : List Lock) : Prop :=
  ∀ j, j ≠ i → ∀ lock ∈ locks, ∀ held ∈ (system.session j).locks, ¬ lock.conflicts held

/-- The system after a session has got an answer and goes on. What it has committed is seen by the
other sessions. -/
def proceed [DecidableEq ι] (i : ι)
    (rest : Dialogue (Except Error ((system.session i).call.Value × Option Inventory)))
    (server : Server) (locks : List Lock) : System ι where
  committed := server.committed
  session j :=
    if j = i then
      { system.session i with
        rest
        transaction := server.transaction
        locks := if server.transaction.isSome then locks else [] }
    else
      { system.session j with
        transaction := (system.session j).transaction.map fun tables =>
          tables.refresh system.committed server.committed }

/-- The next request of a session is answered as soon as no other session has locks in its way, or
it fails for any reason. An UPDATE that had to wait is answered from the tables as they are by then:
the rows that its subquery picks are those of the answer and not those of a snapshot taken when it
started. What is proved of all runs of these steps is proved of statements that read what is there
when they are answered, and of a real one that waits it may be wrong. -/
inductive Step [DecidableEq ι] (i : ι) : System ι → Prop
  | answer {request : Request}
    {rest : request.Answer →
      Dialogue (Except Error ((system.session i).call.Value × Option Inventory))} (now : Instant)
    (hNext : (system.session i).rest = .ask request rest)
    (hFree : system.IsFree i (system.wanted i now request)) :
    Step i (system.proceed i (rest ((system.server i).answerUnharmed now request).1)
      ((system.server i).answerUnharmed now request).2
        (system.wanted i now request ++ (system.session i).locks))
  | fail {request : Request}
    {rest : request.Answer →
      Dialogue (Except Error ((system.session i).call.Value × Option Inventory))}
    (error : DatabaseError)
    (hNext : (system.session i).rest = .ask request rest) :
    Step i (system.proceed i (rest (.error error)) ((system.server i).afterFault request)
      (system.session i).locks)

end System

end Rolebook.Relational
