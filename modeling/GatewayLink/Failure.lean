/-!
# Failures

Each failure is a cause with its particulars; `message` is the wording that an operator reads.
-/

namespace GatewayLink

/-- What went wrong on a WebSocket stream. -/
inductive StreamFault where
  /-- Text that is not UTF-8. -/
  | encoding
  | attack
  /-- The peer went away without a closing handshake. -/
  | reset
  | sendAfterClose
  | invalidOpcode (code : Nat)
  | reservedBits
  | maskedByServer
  | strayContinuation
  | fragmentedControl
  | invalidCloseSequence
  /-- The answer to the upgrade request has another status. -/
  | status (line : String)
  | noUpgradeHeader
  | acceptMismatch
  | handshakeUnfinished
  /-- The operating system refused. -/
  | io (text : String)
  /-- Any other fault, by its wording. -/
  | other (text : String)
  deriving DecidableEq, Repr

namespace StreamFault

/-- The wording of a breach of the WebSocket protocol. -/
def protocolText? : StreamFault → Option String
  | .reset => some "Connection reset without closing handshake"
  | .sendAfterClose => some "Sending after closing is not allowed"
  | .invalidOpcode code => some ("Encountered invalid opcode: " ++ code.repr)
  | .reservedBits => some "Reserved bits are non-zero"
  | .maskedByServer => some "Received a masked frame from server"
  | .strayContinuation => some "Continue frame but nothing to continue"
  | .fragmentedControl => some "Fragmented control frame"
  | .invalidCloseSequence => some "Invalid close sequence"
  | .noUpgradeHeader => some "No \"Upgrade: websocket\" header"
  | .acceptMismatch => some "Key mismatch in \"Sec-WebSocket-Accept\" header"
  | .handshakeUnfinished => some "Handshake not finished"
  | _ => none

/-- The wording of a stream fault. -/
def message (fault : StreamFault) : String :=
  match fault.protocolText? with
  | some text => "WebSocket protocol error: " ++ text
  | none =>
    match fault with
    | .attack => "Attack attempt detected"
    | .status line => "HTTP error: " ++ line
    | .io text => "IO error: " ++ text
    | .other text => text
    | _ => "UTF-8 encoding error"

end StreamFault

/-- Why the transport failed. -/
inductive TransportError where
  | encoding (details : String)
  | decoding (details : String)
  | stream (fault : StreamFault)
  | io (text : String)
  /-- The outgoing queue has no reader any more. -/
  | queueClosed
  | invalidUrl (details : String)
  | notConnected
  /-- A message of a kind that the protocol does not use. -/
  | unexpected (details : String)
  deriving DecidableEq, Repr

/-- The wording of a transport failure. -/
def TransportError.message : TransportError → String
  | .encoding details => "序列化错误: " ++ details
  | .decoding details => "反序列化错误: " ++ details
  | .stream fault => "WebSocket协议错误: " ++ fault.message
  | .io text => "I/O错误: " ++ text
  | .queueClosed => "发送错误: 通道已关闭"
  | .invalidUrl details => "无效的URL: " ++ details
  | .notConnected => "未连接"
  | .unexpected details => "消息错误: " ++ details

/-- Why an operation of the client failed. -/
inductive ClientError where
  /-- No connection is open, so the call was skipped. -/
  | notConnected (method : String)
  /-- The least interval between two calls of the method has not passed. -/
  | rateLimited (method : String) (remaining : Int64)
  /-- The gateway refused the call. -/
  | rejected (method code text : String)
  /-- A text that is no frame. -/
  | malformed (details : String)
  /-- The connection was closed before the answer came. -/
  | abandoned (id method : String)
  /-- The request id is awaited already. -/
  | duplicateId (id : String)
  | transport (cause : TransportError)
  | encoding (details : String)
  | invalidSettings (details : String)
  | io (text : String)
  deriving DecidableEq, Repr

/-- The wording of a client failure. -/
def ClientError.message : ClientError → String
  | .notConnected method => "未连接到网关，调用 '" ++ method ++ "' 已跳过"
  | .rateLimited method remaining =>
    "调用 '" ++ method ++ "' 被限流: 距离下次允许还有 " ++ remaining.toInt.repr ++ " 毫秒"
  | .rejected method code text => "网关拒绝了调用 '" ++ method ++ "' (" ++ code ++ "): " ++ text
  | .malformed details => "无法解析的入站消息: " ++ details
  | .abandoned id method => "连接在请求 '" ++ id ++ "' (" ++ method ++ ") 完成前关闭"
  | .duplicateId id => "请求 ID '" ++ id ++ "' 已在等待中"
  | .transport cause => "传输层错误: " ++ cause.message
  | .encoding details => "序列化错误: " ++ details
  | .invalidSettings details => "配置错误: " ++ details
  | .io text => "I/O错误: " ++ text

end GatewayLink
