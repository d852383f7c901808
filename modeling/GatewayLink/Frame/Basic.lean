import GatewayLink.Json.Printer

/-!
# Frames

Client and gateway exchange three kinds of frames: the client sends requests, and the gateway sends
responses, which repeat the id of their request, and events.  Parameters and payloads are opaque
values.
-/

namespace GatewayLink

/-- The method of the request that opens a session. -/
def openingMethod : String := "gateway.connect"

/-- The event that tells how a subscription fares. -/
def subscriptionEvent : String := "feeds.subscription"

/-- The text for a refusal that gives none. -/
def unexplainedRefusal : String := "request failed"

/-- A request of the client. -/
structure Request where
  id : String
  method : String
  params : Json
  deriving DecidableEq

/-- An answer of the gateway. -/
structure Response where
  /-- The id of the request. -/
  id : String
  ok : Bool
  payload : Option Json
  /-- What the gateway says of a refusal, in any shape. -/
  error : Option Json
  deriving DecidableEq

/-- An event that the gateway announces. -/
structure Event where
  name : String
  payload : Option Json
  deriving DecidableEq

/-- A frame from the client. -/
inductive Outgoing where
  | request (request : Request)
  deriving DecidableEq

/-- A frame from the gateway. -/
inductive Incoming where
  | response (response : Response)
  | event (event : Event)
  deriving DecidableEq

namespace Response

/-- The answer to a request that succeeded. -/
def granted (id : String) (payload : Json) : Response :=
  ⟨id, true, some payload, none⟩

/-- The answer to a request that was refused. -/
def refused (id code message : String) : Response :=
  ⟨id, false, none, some (.object [("code", .string code), ("message", .string message)])⟩

/-- The text of a refusal: the error's nonempty `message`, or the fallback. -/
def refusalText (response : Response) : String :=
  match (response.error.bind (·.member? "message")).bind Json.string? with
  | some text => if text.isEmpty then unexplainedRefusal else text
  | none => unexplainedRefusal

/-- The code of a refusal: the error's `code` where it is a string, a number or a truth value. -/
def refusalCode (response : Response) : String :=
  match response.error.bind (·.member? "code") with
  | some (.string code) => code
  | some (.number code) => String.ofList code.text
  | some (.bool code) => if code then "true" else "false"
  | _ => ""

end Response

end GatewayLink
