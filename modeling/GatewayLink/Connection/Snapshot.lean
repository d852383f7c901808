import GatewayLink.Json.Record

/-!
# The published state of a connection
-/

namespace GatewayLink

open Json (Document)

/-- How a connection stands. -/
inductive LinkStatus where
  | connecting
  | connected
  | disconnected
  deriving DecidableEq, Repr

namespace LinkStatus

/-- The word for a status. -/
def word : LinkStatus → String
  | .connecting => "connecting"
  | .connected => "connected"
  | .disconnected => "disconnected"

/-- The status of a word. -/
def ofWord? : String → Option LinkStatus
  | "connecting" => some .connecting
  | "connected" => some .connected
  | "disconnected" => some .disconnected
  | _ => none

/-- Reads a status. -/
def ofDocument? (document : Document) : Option LinkStatus :=
  document.word?.bind ofWord?

end LinkStatus

/-- What observers of a connection see. -/
structure Snapshot where
  /-- The address that was last opened. -/
  url : Option String
  status : LinkStatus
  /-- The protocol version that the gateway chose for the session. -/
  version : Option Int64
  /-- The id of the session. -/
  session : Option String
  generation : Nat
  deriving DecidableEq, Repr

namespace Snapshot

/-- Before anything was opened. -/
def initial : Snapshot := ⟨none, .disconnected, none, none, 0⟩

/-- The snapshot without its session. -/
def withoutSession (snapshot : Snapshot) : Snapshot :=
  { snapshot with version := none, session := none }

end Snapshot

end GatewayLink
