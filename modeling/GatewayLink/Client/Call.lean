import GatewayLink.Client.State
import GatewayLink.Frame.Codec
import GatewayLink.Frame.Handshake

/-!
# Calls

A call is skipped where no connection is open, and held back where the method was called a moment
ago; else it is sent under a fresh id, and returns when its answer comes or the connection goes.
A handshake is sent at once, if its connection is still the current one.  Here a call makes all its
steps up to the first wait in a row; calls whose steps come between each other are interleaved.
-/

namespace GatewayLink

namespace Client

/-- Records a call that is not made and lets it return. -/
def refuse (client : Client) (call : Nat) (cause : ClientError) (method : String)
    (status : CallStatus) (duration : Option UInt64) (text : String) (severity : Severity) :
    Client :=
  let (_, logbook) := client.logbook.attempt client.clock.wall none method status duration
  { client with logbook := logbook.post method text severity }.setStage call
    (.returned (.error cause))

/-- Records a failure of a call that was sent and lets the call return. -/
def fail (client : Client) (call : Nat) (id method : String) (since : Nat) (text : String)
    (cause : ClientError) : Client :=
  let (_, logbook) := client.logbook.settle id .error (client.elapsedSince since)
  { client with logbook := logbook.post method text .error }.setStage call
    (.returned (.error cause))

/-! ## The steps of a request -/

/-- Takes the next id for a request. -/
def takeId (client : Client) : String × Client :=
  let issued := client.issued + 1
  (issued.repr, { client with issued })

/-- Registers a request under its id. -/
def register (client : Client) (id method : String) : Except ClientError Handle × Client :=
  let (result, inFlight) := client.inFlight.enter id method
  (result, { client with inFlight })

/-- Records a request as sent. -/
def recordSent (client : Client) (id method : String) : Client :=
  let (_, logbook) := client.logbook.attempt client.clock.wall (some id) method .sent none
  { client with logbook }

/-- Sends a request. -/
def transmit (client : Client) (request : Request) : Except TransportError Unit × Client :=
  let (result, connection) := client.connection.send (Outgoing.request request).text
  (result, { client with connection })

/-- Withdraws a request that could not be sent. -/
def withdraw (client : Client) (id : String) : Client :=
  let (_, inFlight) := client.inFlight.withdraw id
  { client with inFlight }

/-- Lets a call return whose request could not be sent. -/
def failToSend (client : Client) (call : Nat) (id method : String) (since : Nat)
    (cause : TransportError) : Client :=
  let cause := ClientError.transport cause
  client.fail call id method since cause.message cause

/-- Sends a request that is recorded, and withdraws it if it cannot be sent. -/
def sendRequest (client : Client) (call : Nat) (request : Request) (handle : Handle) : Client :=
  let since := client.clock.uptime
  match client.transmit request with
  | (.ok (), client) => client.setStage call (.waiting request.id handle since)
  | (.error cause, client) =>
    (client.withdraw request.id).failToSend call request.id request.method since cause

/-- Takes an id for a call, registers its request, records it and sends it, all in a row. -/
def issue (client : Client) (call : Nat) (method : String) (params : Json) : Client :=
  let (id, client) := client.takeId
  match client.register id method with
  | (.error cause, client) => client.setStage call (.returned (.error cause))
  | (.ok handle, client) =>
    (client.recordSent id method).sendRequest call ⟨id, method, params⟩ handle

/-! ## Calls that are not sent -/

/-- Lets a call return for which no connection was open. -/
def skip (client : Client) (call : Nat) (method : String) : Client :=
  client.refuse call (.notConnected method) method .skipped none "未连接到网关，调用已跳过" .error

/-- What an operator reads of a call that was held back. -/
def heldBackText (gap remaining : Int64) : String :=
  gap.toInt.repr ++ " 毫秒内只允许调用一次，请在 " ++ remaining.toInt.repr ++ " 毫秒后重试"

/-- Lets a call return that the pacing of its method has held back. -/
def holdBack (client : Client) (call : Nat) (method : String) (gap remaining : Int64) : Client :=
  client.refuse call (.rateLimited method remaining) method .debounced (some 0)
    (heldBackText gap remaining) .warn

/-! ## Whole calls -/

/-- Makes a call that the pacing of its method must let through. -/
def attempt (client : Client) (call : Nat) (method : String) (params : Json) : Client :=
  if client.connection.current.status ≠ .connected then client.skip call method
  else
    match client.pacing.attempt method client.now client.minGap with
    | (true, pacing) => { client with pacing }.issue call method params
    | (false, _) =>
      match client.pacing.timeLeft? method client.now client.minGap with
      | none => client.setStage call .overflowed
      | some remaining => client.holdBack call method client.minGap remaining

/-- Sends the handshake of a generation, unless it is over. -/
def handshake (client : Client) (call generation : Nat) (method : String) (params : Json) :
    Client :=
  if client.connection.stands generation then client.issue call method params
  else client.setStage call .lapsed

/-- Begins a call that is ready. -/
def start (client : Client) (call : Nat) : Client :=
  match client.calls[call]? with
  | some ⟨.handshake generation, method, params, .ready⟩ =>
    client.handshake call generation method params
  | some ⟨_, method, params, .ready⟩ => client.attempt call method params
  | _ => client

/-- Enters the session that the answer to a handshake opens. -/
def enterSession (client : Client) (caller : Caller) (payload : Json) : Client :=
  match caller, Welcome.ofPayload? payload with
  | .handshake generation, some welcome =>
    { client with connection := (client.connection.welcome generation welcome).2 }
  | _, _ => client

/-- Lets a call return with the answer of the gateway. -/
def conclude (client : Client) (call : Nat) (caller : Caller) (id method : String) (since : Nat)
    (response : Response) : Client :=
  if response.ok then
    let payload := response.payload.getD (.object [])
    let (_, logbook) := client.logbook.settle id .ok (client.elapsedSince since)
    let logbook := (logbook.noteSuccess client.clock.wall method).post method payload.compact .info
    let client := { client with logbook }.setStage call (.returned (.ok payload))
    client.enterSession caller payload
  else
    let text := response.refusalText
    let logbook := client.logbook.noteFailure client.clock.wall method text
    { client with logbook }.fail call id method since text
      (.rejected method response.refusalCode text)

/-- What an operator reads of a call whose connection went before its answer came. -/
def abandonedText : String := "连接在响应到达前关闭"

/-- Goes on with a call whose answer has come or will not come. -/
def wake (client : Client) (call : Nat) : Client :=
  match client.calls[call]? with
  | some ⟨caller, method, _, .waiting id handle since⟩ =>
    match client.inFlight.poll handle with
    | (some (.response response), inFlight) =>
      { client with inFlight }.conclude call caller id method since response
    | (some .closed, _) =>
      client.fail call id method since abandonedText (.abandoned id method)
    | _ => client
  | _ => client

end Client

end GatewayLink
