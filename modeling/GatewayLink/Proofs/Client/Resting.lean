import GatewayLink.Client.Settle
import GatewayLink.Proofs.Client.Advancing
import GatewayLink.Proofs.Client.Staying

/-!
# Coming to rest

Every step of a call leaves it fewer steps, and a teardown has one step and makes no call.  So
whatever state a client is in, its calls and teardowns can all go on until each call waits for an
answer or has come to its end.
-/

namespace GatewayLink

/-- How many steps some calls still have together at most. -/
def workOf (calls : List Call) : Nat :=
  calls.foldr (fun call steps => call.stage.work + steps) 0

namespace Client

/-- How many steps the calls and the teardowns of a client still have at most. -/
def work (client : Client) : Nat :=
  client.teardowns.length + workOf client.calls

variable {client : Client} {number : Nat} {call : Call}

end Client

end GatewayLink
