import GatewayLink.Network.Address

/-!
# Networks
-/

namespace GatewayLink

/-- What the network does with an attempt to connect. -/
inductive Network where
  /-- Every usable address can be reached. -/
  | reachable
  /-- The operating system knows no way to any address. -/
  | unreachable
  deriving DecidableEq, Repr

namespace Network

/-- The fault of an address to which no way is known. -/
def noRoute : StreamFault :=
  .io "Network is unreachable (os error 101)"

/-- What comes of an attempt to connect to an address. -/
def attempt (network : Network) (url : String) : Except TransportError Unit :=
  match Url.target url, network with
  | .error cause, _ => .error cause
  | .ok _, .reachable => .ok ()
  | .ok _, .unreachable => .error (.stream noRoute)

end Network

end GatewayLink
