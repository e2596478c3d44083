import Rolebook.Net.SocketAddress
import Rolebook.Text.Blank
import Rolebook.Text.Numeral

/-!
# Settings

What can be set before the service starts, how each setting is written, and what is wrong with one
that is not.
-/

namespace Rolebook

open Rolebook.Net (SocketAddress)

namespace Settings

/-- Where the service keeps its records. -/
inductive Storage
  | memory
  | postgres
deriving DecidableEq, Repr

/-- The name of a storage. -/
def Storage.label : Storage → String
  | .memory => "memory"
  | .postgres => "postgres"

/-- How a database is reached. -/
structure Database where
  url : String
  maxConnections : UInt32
  connectTimeout : UInt64
  acquireTimeout : UInt64
deriving DecidableEq, Repr

end Settings

/-- The settings of the service. -/
structure Settings where
  bind : SocketAddress
  metricsBind : SocketAddress
  storage : Settings.Storage
  database : Option Settings.Database
  seedDemo : Bool
  lowercaseCommands : Bool
deriving DecidableEq, Repr

namespace Settings

/-! ## Defaults -/

/-- Every address of four bytes of this host. -/
def anywhere (port : UInt16) : SocketAddress :=
  .short ⟨0, 0, 0, 0⟩ port

/-- How many connections to a database there are at most, unless something else is set. -/
def defaultMaxConnections : UInt32 := 10

/-- How many milliseconds are waited for a database, unless something else is set. -/
def defaultTimeout : UInt64 := 5000

/-- A database at an address, with all else as it is by default. -/
def Database.ofUrl (url : String) : Database :=
  ⟨url, defaultMaxConnections, defaultTimeout, defaultTimeout⟩

/-- What holds where nothing is set. -/
def default : Settings :=
  ⟨anywhere 8443, anywhere 8080, .memory, none, false, true⟩

/-! ## Reading single settings -/

/-- What is wrong with the text of a setting. -/
inductive Defect
  | address
  | storage (name : String)
  | switch
  | number (error : Text.NumeralError)
deriving DecidableEq, Repr

/-- The text of a defect. -/
def Defect.message : Defect → String
  | .address => Net.badSocketAddressMessage
  | .storage name => "unknown storage backend: " ++ name
  | .switch => "provided string was not \x60true\x60 or \x60false\x60"
  | .number error => error.message

/-- The address that a text stands for, as it stands. -/
def readAddress (text : String) : Except Defect SocketAddress :=
  match SocketAddress.ofText? text with
  | some address => .ok address
  | none => .error .address

/-- The storage that a text names, in any case and with blanks around it. -/
def readStorage (text : String) : Except Defect Storage :=
  let name := (Text.trim text).toLower
  if name = "memory" then .ok .memory
  else if name = "postgres" ∨ name = "postgresql" then .ok .postgres
  else .error (.storage name)

/-- The switch that a text stands for, with blanks around it. -/
def readSwitch (text : String) : Except Defect Bool :=
  let name := Text.trim text
  if name = "true" then .ok true
  else if name = "false" then .ok false
  else .error .switch

/-- The number of so many bits that a text stands for, with blanks around it. -/
def readNumber (bits : Nat) (text : String) : Except Defect Nat :=
  (Text.readNumeral 10 (Text.greatestOfBits bits) (Text.trim text).toList).mapError .number

/-- The number of 32 bits that a text stands for. -/
def readCount (text : String) : Except Defect UInt32 :=
  (readNumber 32 text).map UInt32.ofNat

/-- The number of 64 bits that a text stands for. -/
def readTime (text : String) : Except Defect UInt64 :=
  (readNumber 64 text).map UInt64.ofNat

/-! ## Errors -/

/-- Why a file cannot be read. -/
inductive FileError
  | missing
  | directory
  | notDirectory
  | nameTooLong
  | notText
deriving DecidableEq, Repr

/-- The text of an error. -/
def FileError.message : FileError → String
  | .missing => "No such file or directory (os error 2)"
  | .directory => "Is a directory (os error 21)"
  | .notDirectory => "Not a directory (os error 20)"
  | .nameTooLong => "File name too long (os error 36)"
  | .notText => "stream did not contain valid UTF-8"

/-- Why there are no settings. -/
inductive Error
  /-- A setting cannot be read. -/
  | setting (name : String) (defect : Defect)
  /-- The settings file cannot be read. -/
  | file (path : String) (error : FileError)
  /-- The settings file is not written as it has to be. -/
  | malformedFile
deriving DecidableEq, Repr

/-- The text of an error and of its causes. -/
def Error.messages : Error → List String
  | .setting name defect => ["parse " ++ name, defect.message]
  | .file path error => ["read RBAC_ADMIN_CONFIG: " ++ path, error.message]
  | .malformedFile => ["parse rbac admin config yaml"]

/-- A setting that has been read, or what is wrong with the setting of this name. -/
def named (name : String) (value : Except Defect α) : Except Error α :=
  value.mapError (.setting name)

end Settings

end Rolebook
