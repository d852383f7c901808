import GatewayLink.Network.Address
import GatewayLink.Settings.Basic
import GatewayLink.Text.Blank

/-!
# Usable configurations

A configuration is checked before it is put to use: the address must be one that can be connected
to, the protocol versions must be in order, rounds of refreshing must be apart, and the log level
must be known.  The first fault is reported.
-/

namespace GatewayLink

/-- How much is logged. -/
inductive LogLevel where
  | off
  | error
  | warn
  | info
  | debug
  | trace
  deriving DecidableEq, Repr

namespace LogLevel

/-- The name of a level. -/
def name : LogLevel → String
  | .off => "OFF"
  | .error => "ERROR"
  | .warn => "WARN"
  | .info => "INFO"
  | .debug => "DEBUG"
  | .trace => "TRACE"

/-- All levels. -/
def all : List LogLevel := [.off, .error, .warn, .info, .debug, .trace]

/-- The level of a name, with white space around it and in letters of either case. -/
def parse (text : String) : Except ClientError LogLevel :=
  let wanted := (trimBy isWhiteSpace text.toList).map Char.toUpper
  match all.find? (·.name.toList == wanted) with
  | some level => .ok level
  | none => .error (.invalidSettings ("无法识别的日志级别 '" ++ text ++ "'"))

end LogLevel

/-- The fault of an interval that leaves no time between rounds. -/
def intervalFault : ClientError :=
  .invalidSettings "定时刷新周期必须大于 0"

namespace Settings

/-- Checks the address of the gateway. -/
def checkUrl (settings : Settings) : Except ClientError Unit :=
  match Url.parse settings.gatewayUrl with
  | .error fault =>
    .error (.invalidSettings ("网关地址 '" ++ settings.gatewayUrl ++ "' 无效: " ++ fault.message))
  | .ok url =>
    if url.isWebSocket then .ok ()
    else .error (.invalidSettings ("网关地址 '" ++ settings.gatewayUrl ++ "' 的协议必须是 ws 或 wss"))

/-- Checks the protocol versions. -/
def checkProtocol (settings : Settings) : Except ClientError Unit :=
  let { min, max } := settings.protocol
  if max < min then
    .error (.invalidSettings
      ("协议版本区间无效: min=" ++ min.toNat.repr ++ " > max=" ++ max.toNat.repr))
  else .ok ()

/-- Checks the refresh plan. -/
def checkRefresh (settings : Settings) : Except ClientError Unit :=
  if settings.refresh.enabled && settings.refresh.interval == 0 then .error intervalFault
  else .ok ()

/-- Checks a configuration. -/
def check (settings : Settings) : Except ClientError Unit := do
  settings.checkUrl
  settings.checkProtocol
  settings.checkRefresh
  let _ ← LogLevel.parse settings.logLevel

/-- The file that a configuration is kept in where none is named. -/
def standardPath : String := "./gateway_client.json"

/-- The file to use for an argument; a blank one names none. -/
def path : Option String → String
  | none => standardPath
  | some argument => if argument.toList.all isWhiteSpace then standardPath else argument

end Settings

end GatewayLink
