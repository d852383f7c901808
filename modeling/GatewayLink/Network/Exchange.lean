import GatewayLink.Network.Stream

/-!
# Exchanges of texts

The sending side of a connection takes texts until it is closed, by its owner or by the other side.
An exchange with a gateway sends some texts, reads the answers, and at last pumps out a queue that
nobody adds to any more.
-/

namespace GatewayLink

/-- The sending side of a connection. -/
structure SendingSide where
  /-- The texts that were sent. -/
  sent : List String
  isClosed : Bool
  deriving DecidableEq, Repr

namespace SendingSide

/-- The sending side of a new connection. -/
def new : SendingSide := ⟨[], false⟩

/-- Sends a text. -/
def send (side : SendingSide) (text : String) : Except TransportError Unit × SendingSide :=
  if side.isClosed then (.error (.stream .sendAfterClose), side)
  else (.ok (), { side with sent := side.sent ++ [text] })

/-- Closes the sending side. -/
def close (side : SendingSide) : SendingSide :=
  { side with isClosed := true }

/-- Sends texts up to the first failure. -/
def sendAll (side : SendingSide) : List String → Nat × SendingSide
  | [] => (0, side)
  | text :: rest =>
    match side.send text with
    | (.error _, side) => (0, side)
    | (.ok (), side) =>
      let (count, side) := side.sendAll rest
      (count + 1, side)

/-- Pumps out a queue and closes; the number of texts that were sent. -/
def pump (side : SendingSide) (queue : List String) : Nat × SendingSide :=
  let (count, side) := side.sendAll queue
  (count, side.close)

end SendingSide

/-- What client and gateway do in an exchange. -/
structure Exchange where
  /-- The texts that the client sends at first. -/
  direct : List String
  /-- The texts that the gateway answers. -/
  replies : List String
  /-- Whether the gateway closes after its answers. -/
  gatewayCloses : Bool
  /-- Whether the client closes after reading them. -/
  clientCloses : Bool
  /-- The queue that is pumped out in the end. -/
  queue : List String

namespace Exchange

/-- What comes of an exchange. -/
structure Report where
  /-- What the client reads. -/
  received : List StreamItem.Reading
  /-- How many texts of the queue were sent. -/
  written : Nat
  /-- What becomes of a text that is sent after the client has closed. -/
  afterClose : Option (Except TransportError Unit)
  /-- What the gateway has got. -/
  side : SendingSide

/-- The stream that the client reads. -/
def stream (exchange : Exchange) : List StreamItem :=
  exchange.replies.map .text ++ if exchange.gatewayCloses then [.close none] else []

/-- Carries out an exchange over a connection. -/
def run (exchange : Exchange) : Report :=
  let (_, side) := SendingSide.new.sendAll exchange.direct
  let stream := exchange.stream
  let received := StreamItem.readings stream.length stream
  let side := if exchange.gatewayCloses then side.close else side
  let (afterClose, side) :=
    if exchange.clientCloses then
      let (result, side) := side.close.send ""
      (some result, side)
    else (none, side)
  let (written, side) := side.pump exchange.queue
  ⟨received, written, afterClose, side⟩

end Exchange

end GatewayLink
