import GatewayLink.Failure
import GatewayLink.Frame.Basic
import GatewayLink.Json.Record
import GatewayLink.Text.Excerpt

/-!
# Frames as texts

Each frame is one JSON text.  A frame carries its kind in the member `type`, or, written as an
array, in its first element.  Parts that are absent are not written, and `null` reads as absent.
-/

namespace GatewayLink

open Json (Document)

/-- The number of characters of a text that a decoding failure quotes. -/
def excerptLength : Nat := 120

/-- Reads a text through a reader of documents. -/
def decode {α : Type} (read : Document → Option α) (text : String) : Except TransportError α :=
  let failure (reason : String) : Except TransportError α :=
    .error (.decoding ("文本帧反序列化失败: " ++ reason ++ ", 原始文本: '" ++
      excerpt text excerptLength ++ "'"))
  match Document.read? text with
  | none => failure "malformed JSON"
  | some document =>
    match read document with
    | none => failure "unexpected shape"
    | some value => .ok value

namespace Request

/-- The members of a request. -/
def members (request : Request) : List (String × Json) :=
  [("id", .string request.id), ("method", .string request.method), ("params", request.params)]

/-- Reads a request without its kind. -/
def ofDocument? (document : Document) : Option Request := do
  let fields ← document.fields? ["id", "method", "params"]
  let id ← fields.required? "id" Document.text?
  let method ← fields.required? "method" Document.text?
  let params ← fields.required? "params" (·.valueWithin? 1)
  return ⟨id, method, params⟩

end Request

namespace Response

/-- The members of a response. -/
def members (response : Response) : List (String × Json) :=
  [("id", .string response.id), ("ok", .bool response.ok)] ++
    Json.memberOf? "payload" (fun value => value) response.payload ++
    Json.memberOf? "error" (fun value => value) response.error

/-- Reads a response without its kind. -/
def ofDocument? (document : Document) : Option Response := do
  let fields ← document.fields? ["id", "ok", "payload", "error"]
  let id ← fields.required? "id" Document.text?
  let ok ← fields.required? "ok" Document.truth?
  let payload ← fields.withDefault? "payload" (Document.nullable? (·.valueWithin? 1)) none
  let error ← fields.withDefault? "error" (Document.nullable? (·.valueWithin? 1)) none
  return ⟨id, ok, payload, error⟩

/-- The text of a response without its kind. -/
def text (response : Response) : String :=
  (Json.object response.members).compact

end Response

namespace Event

/-- The members of an event. -/
def members (event : Event) : List (String × Json) :=
  ("event", .string event.name) :: Json.memberOf? "payload" (fun value => value) event.payload

/-- Reads an event without its kind. -/
def ofDocument? (document : Document) : Option Event := do
  let fields ← document.fields? ["event", "payload"]
  let name ← fields.required? "event" Document.text?
  let payload ← fields.withDefault? "payload" (Document.nullable? (·.valueWithin? 1)) none
  return ⟨name, payload⟩

end Event

/-- Splits a readable document within the nesting limit into its kind and the rest of it. -/
def kindAndRest? (document : Document) : Option (String × Document) :=
  if document.isReadable && document.depth ≤ Json.nestingLimit then
    match document with
    | .object members =>
      match members.filter (·.1 == some "type") with
      | [(_, .string (some kind))] => some (kind, .object (members.filter (·.1 != some "type")))
      | _ => none
    | .array (.string (some kind) :: rest) => some (kind, .array rest)
    | _ => none
  else none

namespace Outgoing

/-- The frame as a value. -/
def toJson : Outgoing → Json
  | .request body => .object (("type", .string "req") :: body.members)

/-- The text of the frame. -/
def text (frame : Outgoing) : String :=
  frame.toJson.compact

/-- Reads a frame of the client. -/
def ofDocument? (document : Document) : Option Outgoing := do
  let (kind, rest) ← kindAndRest? document
  if kind = "req" then (Request.ofDocument? rest).map .request else none

end Outgoing

namespace Incoming

/-- The frame as a value. -/
def toJson : Incoming → Json
  | .response body => .object (("type", .string "res") :: body.members)
  | .event body => .object (("type", .string "event") :: body.members)

/-- The text of the frame. -/
def text (frame : Incoming) : String :=
  frame.toJson.compact

/-- Reads a frame of the gateway. -/
def ofDocument? (document : Document) : Option Incoming := do
  let (kind, rest) ← kindAndRest? document
  if kind = "res" then (Response.ofDocument? rest).map .response
  else if kind = "event" then (Event.ofDocument? rest).map .event
  else none

/-- The number of characters of a text that a refused frame quotes. -/
def quotedLength : Nat := 80

/-- Reads an inbound text; whatever is no frame of the gateway is malformed. -/
def parse (text : String) : Except ClientError Incoming :=
  match decode ofDocument? text with
  | .ok frame => .ok frame
  | .error cause =>
    .error (.malformed (cause.message ++ " ('" ++ excerpt text quotedLength ++ "')"))

end Incoming

end GatewayLink
