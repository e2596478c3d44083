import Rolebook.Net.Host
import Rolebook.Net.Url
import Rolebook.Settings.Record
import Rolebook.Store.Error
import Rolebook.Text.Quoted

/-!
# Connections to databases

Where a database is, as its address says, and what is reported if it cannot be reached. A connection
that is refused is tried again until one of the times that are set for it is over.
-/

namespace Rolebook.Relational

open Rolebook.Net
open Rolebook.Settings (Database)
open Rolebook.Store (Error)
open Rolebook.Text

/-- Where a database is. -/
structure Place where
  host : String
  /-- The directory with the socket of the database, if it is not reached over the network. -/
  directory : Option String
  port : UInt16
deriving DecidableEq, Repr

/-- What is wrong with the address of a database. -/
inductive AddressError
  | url (error : UrlError)
  | damaged (damage : Damage)
  | number (error : NumeralError)
  | hostAddress
  | encryption (mode : String)
deriving DecidableEq, Repr

/-- The name that errors of the address start with. -/
def inConfiguration (message : String) : String :=
  "error with configuration: " ++ message

/-- The text of an error and of its causes. -/
def AddressError.messages : AddressError → String × List String
  | .url error => (inConfiguration error.message, [error.message])
  | .damaged damage => (inConfiguration damage.message, [damage.message])
  | .number error => (inConfiguration error.message, [error.message])
  | .hostAddress => (inConfiguration badAddressMessage, [badAddressMessage])
  | .encryption mode =>
    let cause := "unknown value " ++ quoted mode ++ " for \x60ssl_mode\x60"
    (inConfiguration (inConfiguration cause), [inConfiguration cause, cause])

namespace Place

/-- Where a database is when its address does not say. -/
def default : Place :=
  ⟨"localhost", none, 5432⟩

/-- The place with a host, or with the directory of a socket if it starts with a slash. -/
def withHost (place : Place) (host : String) : Place :=
  if host.startsWith "/" then { place with directory := some host } else { place with host }

/-- The ways to encrypt a connection. -/
def encryptionModes : List String :=
  ["disable", "allow", "prefer", "require", "verify-ca", "verify-full"]

/-- The number of so many bits that a parameter says. -/
def readParameter (bits : Nat) (value : String) : Except AddressError Nat :=
  (readNumeral 10 (greatestOfBits bits) value.toList).mapError .number

/-- The place with what a parameter of its address says. -/
def withParameter (place : Place) (name value : String) : Except AddressError Place :=
  match name with
  | "sslmode" | "ssl-mode" =>
    if encryptionModes.contains value.toLower then .ok place else .error (.encryption value)
  | "statement-cache-capacity" => (readParameter 64 value).map fun _ => place
  | "host" => .ok (place.withHost value)
  | "hostaddr" =>
    match Address.ofText? value with
    | some _ => .ok { place with host := value }
    | none => .error .hostAddress
  | "port" => (readParameter 16 value).map fun port => { place with port := UInt16.ofNat port }
  | _ => .ok place

/-- The place with what the parameters of its address say, one after the other. -/
def withParameters (place : Place) : List (String × String) → Except AddressError Place
  | [] => .ok place
  | (name, value) :: rest => do (← place.withParameter name value).withParameters rest

/-- A part of an address with percent signs undone. -/
def readPart (part : List Char) : Except AddressError String :=
  (readUtf8 (percentDecodeFrom 0 (toUtf8 (String.ofList part)))).mapError .damaged

/-- The place that an address says. -/
def ofUrl (text : String) : Except AddressError Place := do
  let url ← (Url.ofText text).mapError .url
  let place ←
    match url.host with
    | some host => (readPart host).map default.withHost
    | none => .ok default
  let place := { place with port := url.port.getD place.port }
  let _ ← readPart url.user
  let _ ← readPart url.password
  let _ ← readPart (url.path.dropWhile (· = '/'))
  place.withParameters url.parameters

/-- Whether the host of a place is known without asking the network. -/
def isKnownHost (place : Place) : Bool :=
  place.host = "localhost" || (Address.ofText? place.host).isSome

end Place

/-- Why there is no connection to a database. -/
inductive ConnectionError
  | address (error : AddressError)
  | noSocket
  | socketNameTooLong
  | unknownHost
  | detached
  /-- No connection was made in the time that is set for taking one. -/
  | notAcquired
  /-- No connection was made in the time that is set for making one. -/
  | notConnected
deriving DecidableEq, Repr

/-- An error of the operating system in talking to a database. -/
def inCommunication (message : String) : String × List String :=
  ("error communicating with database: " ++ message, [message])

/-- The text of an error and of its causes. -/
def ConnectionError.messages : ConnectionError → String × List String
  | .address error => error.messages
  | .noSocket => inCommunication "No such file or directory (os error 2)"
  | .socketNameTooLong => inCommunication "path must be shorter than SUN_LEN"
  | .unknownHost =>
    inCommunication "failed to lookup address information: Temporary failure in name resolution"
  | .detached => inCommunication "Network is unreachable (os error 101)"
  | .notAcquired => ("pool timed out while waiting for an open connection", [])
  | .notConnected => ("timed out connecting to postgres", [])

/-- An error in connecting to a database as an error of the store. -/
def ConnectionError.toError (error : ConnectionError) : Error :=
  .unexpected error.messages.1 error.messages.2

/-- What is reported once the shorter one of the times of a database is over. -/
def timeoutError (database : Database) : ConnectionError :=
  if database.connectTimeout < database.acquireTimeout then .notConnected else .notAcquired

/-- How long the name of a socket may be. -/
def maxSocketName : Nat := 107

/-- Why there is no connection to a socket in a directory in which there is no database. -/
def socketError (directory : String) (port : UInt16) : ConnectionError :=
  let name := directory ++ "/.s.PGSQL." ++ String.ofList (toDigits 10 port.toNat)
  if maxSocketName < name.utf8ByteSize then .socketNameTooLong else .noSocket

/-- Why a database cannot be connected to from a host on which there is none. -/
def connectionError (network : Network) (database : Database) : ConnectionError :=
  match Place.ofUrl database.url with
  | .error error => .address error
  | .ok place =>
    if database.acquireTimeout = 0 then
      .notAcquired
    else if database.maxConnections = 0 then
      timeoutError database
    else
      match place.directory with
      | some directory => socketError directory place.port
      | none =>
        match network with
        | .detached => if place.isKnownHost then .detached else .unknownHost
        | .loopback => timeoutError database

end Rolebook.Relational
