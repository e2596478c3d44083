import Rolebook.Net.SocketAddress

/-!
# Hosts

The host on which the service runs: what it is attached to, and which of its addresses something
listens on.
-/

namespace Rolebook.Net

/-- What can be reached from a host. -/
inductive Network
  /-- Nothing, not even what listens on the host itself. -/
  | detached
  /-- What listens on the host itself. -/
  | loopback
deriving DecidableEq, Repr

/-- What a client gets of a response that a listener on the same host sends. -/
def Network.deliver (network : Network) (response : α) : Option α :=
  match network with
  | .detached => none
  | .loopback => some response

/-- A host. -/
structure Host where
  network : Network
  /-- What is listened on. -/
  listening : List SocketAddress
deriving Repr

/-- Why an address cannot be listened on. -/
inductive ListenError
  | inUse
  | notOfHost
deriving DecidableEq, Repr

/-- The text of an error. -/
def ListenError.message : ListenError → String
  | .inUse => "Address already in use (os error 98)"
  | .notOfHost => "Cannot assign requested address (os error 99)"

namespace SocketAddress

/-- The port of an address. -/
def port : SocketAddress → UInt16
  | .short _ port => port
  | .long _ _ port => port

/-- Whether an address stands for all addresses of its host. -/
def isAnywhere : SocketAddress → Bool
  | .short address _ => address = ⟨0, 0, 0, 0⟩
  | .long address _ _ => address.groups.toList.all (· = 0)

/-- Whether an address belongs to every host. -/
def isLocal (address : SocketAddress) : Bool :=
  address.isAnywhere ||
    match address with
    | .short address _ => address.a = 127
    | .long address _ _ => address.groups.toList = [0, 0, 0, 0, 0, 0, 0, 1]

/-- Whether two addresses cannot be listened on at a time. A port 0 stands for one that is free. -/
def clash (a b : SocketAddress) : Bool :=
  a.port ≠ 0 && a.port = b.port && (a = b || a.isAnywhere || b.isAnywhere)

end SocketAddress

/-- The host once an address is listened on. -/
def Host.listen (host : Host) (address : SocketAddress) : Except ListenError Host :=
  if !address.isLocal then .error .notOfHost
  else if host.listening.any address.clash then .error .inUse
  else .ok { host with listening := address :: host.listening }

end Rolebook.Net
