import GatewayLink.Client.State
import GatewayLink.Frame.Codec
import GatewayLink.Network.Stream

/-!
# Links

A link connects to the gateway, opens its generation of the connection, hands the texts that it
receives to the client, and ends with the first item that is neither a text nor a message to be
passed over.  Opening and closing abort the link that is there and wait for its end; after that the
generation is over, and calls that still wait are given up.
-/

namespace GatewayLink

namespace Client

/-- Takes in a text of the gateway: an answer goes to the call that waits for it, an event to the
observers, and whatever else is dropped. -/
def inbound (client : Client) (text : String) : Client :=
  match Incoming.parse text with
  | .ok (.response response) =>
    { client with inFlight := (client.inFlight.answer response.id response).2 }
  | .ok (.event event) =>
    { client with
      logbook := event.record client.logbook
      observers := client.observers.publish (event.observed client.clock.wall) }
  | .error _ => client

/-- Takes in that a generation could not be opened. -/
def generationRefused (client : Client) (generation : Nat) (cause : TransportError) : Client :=
  match client.connection.lose generation with
  | (false, _) => client
  | (true, connection) =>
    { client with
      connection
      logbook := client.logbook.post "connection failed" cause.message .error }

/-- Takes in that an open generation has been closed. -/
def generationLost (client : Client) (generation : Nat) (reason : String) : Client :=
  match client.connection.lose generation with
  | (false, _) => client
  | (true, connection) =>
    { client with
      connection
      logbook := client.logbook.post "connection closed" reason .warn
      inFlight := client.inFlight.abandonAll.2 }

/-- The call that opens the session of a generation. -/
def handshakeCall (client : Client) (generation : Nat) : Call :=
  ⟨.handshake generation, openingMethod,
    (Introduction.mk client.settings.client client.settings.protocol).params, .ready⟩

/-- Takes in that a link has connected. -/
def linkOpened (client : Client) (link : Nat) : Client :=
  match client.links[link]? with
  | some ⟨generation, _, .connecting⟩ =>
    match client.connection.establish generation with
    | (true, channel, connection) =>
      ({ client with connection }.setLink link (.receiving channel)).addCalls
        [client.handshakeCall generation]
    | (false, channel, connection) =>
      { client with connection := (connection.hangUp channel).2 }.setLink link .ended
  | _ => client

/-- Takes in that a link could not connect. -/
def linkFailed (client : Client) (link : Nat) (cause : TransportError) : Client :=
  match client.links[link]? with
  | some ⟨generation, _, .connecting⟩ =>
    (client.setLink link .ended).generationRefused generation cause
  | _ => client

/-- What an operator reads of a connection that the gateway has closed. -/
def closedByGateway : String := "网关关闭了连接"

/-- The reason for which a reading ends a link, if it does. -/
def endReason? : StreamItem.Reading → Option String
  | .text _ => none
  | .failure (.unexpected _) => none
  | .failure cause => some cause.message
  | .finished => some closedByGateway

/-- Takes in what a link has received; nothing stands for the end of the stream. -/
def received (client : Client) (link : Nat) (item : Option StreamItem) : Client :=
  match client.links[link]? with
  | some ⟨generation, _, .receiving _⟩ =>
    match item.elim (some .finished) StreamItem.reading? with
    | none => client
    | some (.text text) => client.inbound text
    | some reading =>
      match endReason? reading with
      | none => client
      | some reason => (client.setLink link .ended).generationLost generation reason
  | _ => client

/-- Hands a link over to the connection; one that it replaces is aborted. -/
def runLink (client : Client) (link : Nat) : Client :=
  let (replaced, connection) := client.connection.assign link
  let client := { client with connection }
  match replaced with
  | some other => client.setLink other .ended
  | none => client

/-- Ends the current generation and gives up the calls that wait. -/
def endGeneration (client : Client) : Client :=
  { client with
    connection := client.connection.supersede
    inFlight := client.inFlight.abandonAll.2 }

/-- Does what an aborted link was in the way of. -/
def carryOut (client : Client) (purpose : Purpose) : Client :=
  let client := client.endGeneration
  match purpose with
  | .close => client
  | .reopen url =>
    let (generation, connection) := client.connection.dial url
    let number := client.links.length
    let link : Link := ⟨generation, url, .connecting⟩
    { client with connection, links := client.links ++ [link] }.runLink number

/-- Whether a link has not ended. -/
def linkRuns (client : Client) (link : Nat) : Bool :=
  match client.links[link]? with
  | some ⟨_, _, .ended⟩ | none => false
  | some _ => true

/-- Aborts the link that is there.  If it was running, the rest has to wait for its end. -/
def tearDown (client : Client) (purpose : Purpose) : Client :=
  let (task, connection) := client.connection.unassign
  let client := { client with connection }
  match task with
  | none => client.carryOut purpose
  | some link =>
    if client.linkRuns link then
      { client.setLink link .ended with teardowns := client.teardowns ++ [purpose] }
    else client.carryOut purpose

/-- Opens a connection to an address. -/
def connect (client : Client) (url : String) : Client :=
  client.tearDown (.reopen url)

/-- Stops the ticker and closes the connection. -/
def close (client : Client) : Client :=
  { client with ticker := none }.tearDown .close

/-- Goes on with what waited for an aborted link to end. -/
def resume (client : Client) (teardown : Nat) : Client :=
  match client.teardowns[teardown]? with
  | none => client
  | some purpose =>
    { client with teardowns := client.teardowns.eraseIdx teardown }.carryOut purpose

end Client

end GatewayLink
