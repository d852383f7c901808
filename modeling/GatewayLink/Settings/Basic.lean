import GatewayLink.Frame.Handshake

/-!
# Configurations

A configuration is a record in which every field may be left out: what a text does not give stands
for its default.  The same holds for the refresh plan inside it, and for the parameters of the
calls of the plan.
-/

namespace GatewayLink

open Json (Document)

/-- A call that is repeated by refreshing. -/
structure RepeatedCall where
  method : String
  /-- The parameters; `null` stands for those that were last used. -/
  params : Json
  deriving DecidableEq

namespace RepeatedCall

/-- The call as a value. -/
def toJson (call : RepeatedCall) : Json :=
  .object [("method", .string call.method), ("params", call.params)]

/-- Reads a call that stands inside some containers. -/
def ofDocument? (containers : Nat) (document : Document) : Option RepeatedCall := do
  let fields ← document.fields? ["method", "params"]
  let method ← fields.required? "method" Document.text?
  let params ← fields.withDefault? "params" (·.valueWithin? (containers + 1)) .null
  return ⟨method, params⟩

end RepeatedCall

/-- What is called again and again, and how often. -/
structure RefreshPlan where
  enabled : Bool
  /-- The time between two rounds, in milliseconds. -/
  interval : UInt64
  /-- The calls of a round, in order. -/
  calls : List RepeatedCall
  deriving DecidableEq

namespace RefreshPlan

/-- Nothing is called. -/
def default : RefreshPlan := ⟨false, 15000, []⟩

/-- The plan as a value. -/
def toJson (plan : RefreshPlan) : Json :=
  .object [("enabled", .bool plan.enabled), ("interval_ms", Json.ofUInt64 plan.interval),
    ("calls", .array (plan.calls.map RepeatedCall.toJson))]

/-- Reads a plan that stands inside some containers. -/
def ofDocument? (containers : Nat) (document : Document) : Option RefreshPlan := do
  let fields ← document.fields? ["enabled", "interval_ms", "calls"]
  let enabled ← fields.withDefault? "enabled" Document.truth? default.enabled
  let interval ← fields.withDefault? "interval_ms" Document.uint64? default.interval
  let calls ← fields.withDefault? "calls"
    (Document.elements? (RepeatedCall.ofDocument? (containers + 2))) default.calls
  return ⟨enabled, interval, calls⟩

end RefreshPlan

/-- What an operator configures. -/
structure Settings where
  /-- The address of the gateway. -/
  gatewayUrl : String
  client : Identity
  protocol : VersionRange
  /-- The least number of milliseconds between two calls of a method. -/
  minGap : Int64
  /-- Whether the gateway is connected to at the start. -/
  autoConnect : Bool
  refresh : RefreshPlan
  logLevel : String
  /-- The file of the parameters that were last used. -/
  parameterFile : String
  deriving DecidableEq

namespace Settings

/-- What is configured where nothing is said. -/
def default : Settings where
  gatewayUrl := "ws://localhost:8088/ws"
  client := ⟨"gateway-console", "operator", "linux", "0.1.0"⟩
  protocol := ⟨1, 1⟩
  minGap := 500
  autoConnect := true
  refresh := .default
  logLevel := "info"
  parameterFile := "gateway_presets.json"

/-- The names of the fields, as they are declared. -/
def fieldNames : List String :=
  ["gateway_url", "client", "protocol", "min_gap_ms", "auto_connect", "auto_refresh", "log_level",
    "preset_file"]

/-- The configuration as a value. -/
def toJson (settings : Settings) : Json :=
  .object [("gateway_url", .string settings.gatewayUrl), ("client", settings.client.toJson),
    ("protocol", settings.protocol.toJson), ("min_gap_ms", Json.ofInt64 settings.minGap),
    ("auto_connect", .bool settings.autoConnect), ("auto_refresh", settings.refresh.toJson),
    ("log_level", .string settings.logLevel), ("preset_file", .string settings.parameterFile)]

/-- Reads a configuration. -/
def ofDocument? (document : Document) : Option Settings := do
  let fields ← document.fields? fieldNames
  let gatewayUrl ← fields.withDefault? "gateway_url" Document.text? default.gatewayUrl
  let client ← fields.withDefault? "client" Identity.ofDocument? default.client
  let protocol ← fields.withDefault? "protocol" VersionRange.ofDocument? default.protocol
  let minGap ← fields.withDefault? "min_gap_ms" Document.int64? default.minGap
  let autoConnect ← fields.withDefault? "auto_connect" Document.truth? default.autoConnect
  let refresh ← fields.withDefault? "auto_refresh" (RefreshPlan.ofDocument? 1) default.refresh
  let logLevel ← fields.withDefault? "log_level" Document.text? default.logLevel
  let parameterFile ← fields.withDefault? "preset_file" Document.text? default.parameterFile
  return ⟨gatewayUrl, client, protocol, minGap, autoConnect, refresh, logLevel, parameterFile⟩

/-- Reads a configuration from a text. -/
def read? (text : String) : Option Settings :=
  (Document.read? text).bind ofDocument?

end Settings

end GatewayLink
