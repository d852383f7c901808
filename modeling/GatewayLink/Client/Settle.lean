import GatewayLink.Client.Action
import GatewayLink.Network.Basic

/-!
# Letting a client come to rest

A client comes to rest when each of its tasks has to wait.  The tasks go on in a fixed order: what
waited for a link to end, calls in the order in which they were made, links, and the ticker.
-/

namespace GatewayLink

namespace Client

/-- Whether a call can go on: it has not begun, or its answer has come or will not come. -/
def canGoOn (client : Client) (call : Call) : Bool :=
  match call.stage with
  | .ready | .underway _ => true
  | .waiting _ handle _ =>
    match client.inFlight.glance? handle with
    | some .waiting | none => false
    | some _ => true
  | _ => false

/-- The step of a call that can go on. -/
def callStep (call : Call) (number : Nat) : Action :=
  if call.isReady then .start number else .wake number

/-- The next step of a task that does not have to wait. -/
def nextStep? (network : Network) (client : Client) : Option Action :=
  if !client.teardowns.isEmpty then some (.resume 0)
  else
    match client.calls.zipIdx.find? fun (call, _) => client.canGoOn call with
    | some (call, number) => some (callStep call number)
    | none =>
      match client.links.zipIdx.find? fun (link, _) => link.stage == .connecting with
      | some (link, number) =>
        match network.attempt link.url with
        | .ok () => some (.linkOpened number)
        | .error cause => some (.linkFailed number cause)
      | none =>
        if (client.ticker.map fun ticker => ticker.isDue client.clock.uptime) == some true then
          some .tick
        else none

/-- A number of steps that is enough for the client to come to rest: a teardown opens one link at
most, a link that connects makes one call, a call has two steps, and of the rounds that are due at
one time only those within the tolerance follow one another. -/
def restBound (client : Client) : Nat :=
  let rounds := Ticker.tolerance + 2
  let roundCalls := (client.ticker.map fun ticker => ticker.calls.length).getD 0
  4 * (client.teardowns.length + client.links.length + client.calls.length) +
    rounds * (2 * roundCalls + 1) + 1

/-- Lets tasks go on for a number of steps at most. -/
def settleWithin (network : Network) : Nat → Client → Client
  | 0, client => client
  | steps + 1, client =>
    match nextStep? network client with
    | none => client
    | some action => settleWithin network steps (client.step action)

/-- Lets all tasks go on until each has to wait. -/
def settle (network : Network) (client : Client) : Client :=
  settleWithin network client.restBound client

/-- The link that is open. -/
def openLink? (client : Client) : Option Nat :=
  client.links.findIdx? fun link =>
    match link.stage with
    | .receiving _ => true
    | _ => false

/-- Takes all texts out of the channels, as links that are not held up do. -/
def pumpAll (client : Client) : List String × Client :=
  (List.range client.connection.channels.length).foldl
    (fun (texts, client) channel =>
      match client.apply (.pump channel) with
      | (.texts (some (more, _)), client) => (texts ++ more, client)
      | (_, client) => (texts, client))
    ([], client)

end Client

end GatewayLink
