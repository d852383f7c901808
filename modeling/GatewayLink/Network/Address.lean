import GatewayLink.Failure
import GatewayLink.Url.Address

/-!
# Addresses of connections

A gateway is reached at an address whose scheme is `ws` or `wss`; whatever else is given is refused
before the network is used.
-/

namespace GatewayLink

namespace Url

/-- Whether connections can be made to the address. -/
def isWebSocket (url : Url) : Bool :=
  url.scheme == "ws" || url.scheme == "wss"

/-- The address to connect to that a text gives. -/
def target (text : String) : Except TransportError Url :=
  match parse text with
  | .error fault =>
    .error (.invalidUrl ("无效的 WebSocket URL '" ++ text ++ "': " ++ fault.message))
  | .ok url =>
    if url.isWebSocket then .ok url
    else
      .error (.invalidUrl ("不支持的 URL 协议 '" ++ url.scheme ++ "' (仅支持 ws/wss): " ++ text))

end Url

end GatewayLink
