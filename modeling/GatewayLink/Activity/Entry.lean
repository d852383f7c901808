import GatewayLink.Json.Printer
import GatewayLink.Json.Record
import GatewayLink.Time.Reader

/-!
# Records of activity

What the client keeps for its operator: one record for each attempted call, bulletins to be
displayed, what became of subscriptions, and the last success and failure of each method.
-/

namespace GatewayLink

open Json (Document)

/-- How an attempted call stands. -/
inductive CallStatus where
  /-- Sent, and not answered yet. -/
  | sent
  | ok
  | error
  /-- Held back because the method was called a moment ago. -/
  | debounced
  /-- Not sent because no connection is open. -/
  | skipped
  deriving DecidableEq, Repr

namespace CallStatus

/-- Whether the status is final. -/
def isFinal : CallStatus → Bool
  | .sent => false
  | _ => true

/-- The word for a status. -/
def word : CallStatus → String
  | .sent => "sent"
  | .ok => "ok"
  | .error => "error"
  | .debounced => "debounced"
  | .skipped => "skipped"

/-- The status of a word. -/
def ofWord? : String → Option CallStatus
  | "sent" => some .sent
  | "ok" => some .ok
  | "error" => some .error
  | "debounced" => some .debounced
  | "skipped" => some .skipped
  | _ => none

/-- Reads a status. -/
def ofDocument? (document : Document) : Option CallStatus :=
  document.word?.bind ofWord?

end CallStatus

/-- How much a bulletin matters. -/
inductive Severity where
  | info
  | warn
  | error
  deriving DecidableEq, Repr

namespace Severity

/-- The word for a severity. -/
def word : Severity → String
  | .info => "info"
  | .warn => "warn"
  | .error => "error"

/-- The severity of a word. -/
def ofWord? : String → Option Severity
  | "info" => some .info
  | "warn" => some .warn
  | "error" => some .error
  | _ => none

/-- Reads a severity. -/
def ofDocument? (document : Document) : Option Severity :=
  document.word?.bind ofWord?

end Severity

namespace Timestamp

/-- The point in time as a value. -/
def toJson (time : Timestamp) : Json :=
  .string time.text

/-- Reads a point in time. -/
def ofDocument? (document : Document) : Option Timestamp :=
  document.text?.bind ofText?

end Timestamp

/-- One attempted call. -/
structure CallRecord where
  /-- The id of the request, or a generated one where nothing was sent. -/
  id : String
  method : String
  status : CallStatus
  /-- Milliseconds until the outcome; given with a final status. -/
  duration : Option UInt64
  time : Timestamp
  deriving DecidableEq

namespace CallRecord

/-- The record as a value. -/
def toJson (entry : CallRecord) : Json :=
  .object [("id", .string entry.id), ("method", .string entry.method),
    ("status", .string entry.status.word),
    ("duration_ms", Json.ofOption Json.ofUInt64 entry.duration), ("timestamp", entry.time.toJson)]

/-- Reads a record of a call. -/
def ofDocument? (document : Document) : Option CallRecord := do
  let fields ← document.fields? ["id", "method", "status", "duration_ms", "timestamp"]
  let id ← fields.required? "id" Document.text?
  let method ← fields.required? "method" Document.text?
  let status ← fields.required? "status" CallStatus.ofDocument?
  let duration ← fields.optional? "duration_ms" Document.uint64?
  let time ← fields.required? "timestamp" Timestamp.ofDocument?
  return ⟨id, method, status, duration, time⟩

end CallRecord

/-- A notice for display. -/
structure Bulletin where
  id : String
  title : String
  content : String
  severity : Severity
  deriving DecidableEq

namespace Bulletin

/-- The bulletin as a value. -/
def toJson (bulletin : Bulletin) : Json :=
  .object [("id", .string bulletin.id), ("title", .string bulletin.title),
    ("content", .string bulletin.content), ("severity", .string bulletin.severity.word)]

/-- Reads a bulletin. -/
def ofDocument? (document : Document) : Option Bulletin := do
  let fields ← document.fields? ["id", "title", "content", "severity"]
  let id ← fields.required? "id" Document.text?
  let title ← fields.required? "title" Document.text?
  let content ← fields.required? "content" Document.text?
  let severity ← fields.required? "severity" Severity.ofDocument?
  return ⟨id, title, content, severity⟩

end Bulletin

/-- A change in the life of a subscription. -/
structure SubscriptionRecord where
  id : String
  action : String
  subscription : Option String
  deriving DecidableEq

namespace SubscriptionRecord

/-- The record as a value. -/
def toJson (record : SubscriptionRecord) : Json :=
  .object [("id", .string record.id), ("action", .string record.action),
    ("subscription_id", Json.ofOption .string record.subscription)]

/-- Reads a record. -/
def ofDocument? (document : Document) : Option SubscriptionRecord := do
  let fields ← document.fields? ["id", "action", "subscription_id"]
  let id ← fields.required? "id" Document.text?
  let action ← fields.required? "action" Document.text?
  let subscription ← fields.optional? "subscription_id" Document.text?
  return ⟨id, action, subscription⟩

end SubscriptionRecord

/-- The last success and the last failure of a method. -/
structure MethodStanding where
  lastOk : Option Timestamp
  lastError : Option Timestamp
  lastErrorText : Option String
  deriving DecidableEq

namespace MethodStanding

/-- A method that was not answered yet. -/
def unknown : MethodStanding := ⟨none, none, none⟩

/-- The standing as a value. -/
def toJson (standing : MethodStanding) : Json :=
  .object [("last_ok_at", Json.ofOption Timestamp.toJson standing.lastOk),
    ("last_error_at", Json.ofOption Timestamp.toJson standing.lastError),
    ("last_error", Json.ofOption .string standing.lastErrorText)]

/-- Reads a method's standing. -/
def ofDocument? (document : Document) : Option MethodStanding := do
  let fields ← document.fields? ["last_ok_at", "last_error_at", "last_error"]
  let lastOk ← fields.optional? "last_ok_at" Timestamp.ofDocument?
  let lastError ← fields.optional? "last_error_at" Timestamp.ofDocument?
  let lastErrorText ← fields.optional? "last_error" Document.text?
  return ⟨lastOk, lastError, lastErrorText⟩

end MethodStanding

end GatewayLink
