import GatewayLink.Client.Settle
import GatewayLink.Parameters.Refresh
import GatewayLink.Settings.File

/-!
# The console

The console loads its configuration and refuses an unusable one.  Then it connects to the gateway
and starts refreshing, as configured, and runs until it is told to stop.
-/

namespace GatewayLink

namespace Console

/-- A text with each of its lines moved to the right. -/
def indentedLines (text : String) : String :=
  "    " ++ "\n    ".intercalate (text.splitOn "\n")

/-- The report of a failure and its cause. -/
def failureText (context : String) (cause : ClientError) : String :=
  "Error: " ++ context ++ "\n\nCaused by:\n" ++ indentedLines cause.message ++ "\n"

/-- The calls to refresh, with the parameters that are kept for them, and the files afterwards. -/
def refreshCalls (settings : Settings) (files : FileTree) : List RepeatedCall × FileTree :=
  let store := ParameterStore.file (.parse settings.parameterFile) files
  match RepeatedCall.fillAll store settings.refresh.calls with
  | (calls, .file _ files) => (calls, files)
  | (calls, .memory _) => (calls, files)

/-- Starts to refresh as configured: the client, or the report of a failure, and the files
afterwards. -/
def startRefresh (settings : Settings) (client : Client) (files : FileTree) :
    Except String Client × FileTree :=
  if settings.refresh.enabled then
    let (calls, files) := refreshCalls settings files
    match client.startRefresh settings.refresh.interval.toNat calls with
    | (.ok (), client) => (.ok client, files)
    | (.error cause, _) => (.error (failureText "启动定时刷新失败" cause), files)
  else (.ok client, files)

/-- Starts the console: its client, or the report of a failure, and the files afterwards. -/
def start (argument : Option String) (files : FileTree) (wall : Timestamp) :
    Except String Client × FileTree :=
  let name := Settings.path argument
  let (settings, files) := Settings.load (.parse name) files
  match settings.check with
  | .error cause => (.error (failureText ("配置文件 '" ++ name ++ "' 无效") cause), files)
  | .ok () =>
    let client := Client.new settings .standard wall
    let client := if settings.autoConnect then client.connect settings.gatewayUrl else client
    startRefresh settings client files

end Console

end GatewayLink
