import GatewayLink.Json.Printer
import GatewayLink.Json.Record

/-!
# The opening of a session

The client introduces itself with the protocol versions it speaks, and the gateway welcomes it with
the version it chose and the id of the session.
-/

namespace GatewayLink

open Json (Document)

/-- Who the client says it is. -/
structure Identity where
  name : String
  kind : String
  platform : String
  version : String
  deriving DecidableEq

/-- The protocol versions that the client speaks, both ends included. -/
structure VersionRange where
  min : UInt32
  max : UInt32
  deriving DecidableEq

/-- The parameters of the request that opens a session. -/
structure Introduction where
  client : Identity
  protocol : VersionRange
  deriving DecidableEq

/-- The gateway's answer to an introduction. -/
structure Welcome where
  version : Int64
  session : String
  deriving DecidableEq

namespace Identity

/-- The identity as a value. -/
def toJson (identity : Identity) : Json :=
  .object [("name", .string identity.name), ("kind", .string identity.kind),
    ("platform", .string identity.platform), ("version", .string identity.version)]

/-- Reads an identity; all fields must be given. -/
def ofDocument? (document : Document) : Option Identity := do
  let fields ← document.fields? ["name", "kind", "platform", "version"]
  let name ← fields.required? "name" Document.text?
  let kind ← fields.required? "kind" Document.text?
  let platform ← fields.required? "platform" Document.text?
  let version ← fields.required? "version" Document.text?
  return ⟨name, kind, platform, version⟩

end Identity

namespace VersionRange

/-- The range as a value. -/
def toJson (range : VersionRange) : Json :=
  .object [("min", Json.ofUInt32 range.min), ("max", Json.ofUInt32 range.max)]

/-- Reads a range; its ends need not be in order. -/
def ofDocument? (document : Document) : Option VersionRange := do
  let fields ← document.fields? ["min", "max"]
  let min ← fields.required? "min" Document.uint32?
  let max ← fields.required? "max" Document.uint32?
  return ⟨min, max⟩

end VersionRange

namespace Introduction

/-- The introduction as a value, members as they are declared. -/
def toJson (introduction : Introduction) : Json :=
  .object [("client", introduction.client.toJson), ("protocol", introduction.protocol.toJson)]

/-- Reads an introduction. -/
def ofDocument? (document : Document) : Option Introduction := do
  let fields ← document.fields? ["client", "protocol"]
  let client ← fields.required? "client" Identity.ofDocument?
  let protocol ← fields.required? "protocol" VersionRange.ofDocument?
  return ⟨client, protocol⟩

/-- The parameters of the opening request, members by key. -/
def params (introduction : Introduction) : Json :=
  let { name, kind, platform, version } := introduction.client
  let { min, max } := introduction.protocol
  .object
    [("client", .object [("kind", .string kind), ("name", .string name),
        ("platform", .string platform), ("version", .string version)]),
      ("protocol", .object [("max", Json.ofUInt32 max), ("min", Json.ofUInt32 min)])]

end Introduction

namespace Welcome

/-- The welcome as a value. -/
def toJson (welcome : Welcome) : Json :=
  .object [("protocol", .object [("selected", Json.ofInt64 welcome.version)]),
    ("session", .object [("sessionId", .string welcome.session)])]

/-- Reads the version that was chosen. -/
def versionOf? (document : Document) : Option Int64 := do
  let fields ← document.fields? ["selected"]
  fields.required? "selected" Document.int64?

/-- Reads the id of the session. -/
def sessionOf? (document : Document) : Option String := do
  let fields ← document.fields? ["sessionId"]
  fields.required? "sessionId" Document.text?

/-- Reads a welcome; version and session must both be given. -/
def ofDocument? (document : Document) : Option Welcome := do
  let fields ← document.fields? ["protocol", "session"]
  let version ← fields.required? "protocol" versionOf?
  let session ← fields.required? "session" sessionOf?
  return ⟨version, session⟩

/-- The welcome in a payload, if it is one. -/
def ofPayload? (payload : Json) : Option Welcome :=
  ofDocument? (Document.ofJson payload)

end Welcome

end GatewayLink
