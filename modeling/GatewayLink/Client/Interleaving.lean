import GatewayLink.Client.Action

/-!
# Interleaved calls

Between two steps of a call other tasks may go on: the client may be closed after a request was
registered and before it is sent, or an answer may come.  Here a call makes one step at a time, from
one point at which it may have to wait to the next, and the steps of several calls, of links and of
whatever is asked of the client come in any order.  Whoever has made a call may drop it at any of
these points.
-/

namespace GatewayLink

namespace Client

/-- What happens to a client whose calls are interleaved. -/
inductive Move where
  /-- Carries out an action; a call that is started makes one step. -/
  | act (action : Action)
  /-- The caller of a call drops it. -/
  | giveUp (call : Nat)

/-- Gives a call the next id. -/
def assignId (client : Client) (call : Nat) : Client :=
  let (id, client) := client.takeId
  client.setStage call (.underway (.numbered id))

/-- Lets a call that has begun make its next step. -/
def proceed (client : Client) (call : Nat) (method : String) (params : Json) : Progress → Client
  | .skipped => client.skip call method
  | .checked now gap =>
    match client.pacing.attempt method now gap with
    | (true, pacing) => { client with pacing }.assignId call
    | (false, _) =>
      match client.pacing.timeLeft? method now gap with
      | none => client.setStage call .overflowed
      | some remaining => client.setStage call (.underway (.heldBack gap remaining))
  | .heldBack gap remaining => client.holdBack call method gap remaining
  | .numbered id =>
    match client.register id method with
    | (.error cause, client) => client.setStage call (.returned (.error cause))
    | (.ok handle, client) => client.setStage call (.underway (.registered id handle))
  | .registered id handle =>
    (client.recordSent id method).setStage call
      (.underway (.recorded id handle client.clock.uptime))
  | .recorded id handle since =>
    match client.transmit ⟨id, method, params⟩ with
    | (.ok (), client) => client.setStage call (.waiting id handle since)
    | (.error cause, client) => client.setStage call (.underway (.unsent id handle since cause))
  | .unsent id _ since cause =>
    (client.withdraw id).setStage call (.underway (.withdrawn id since cause))
  | .withdrawn id since cause => client.failToSend call id method since cause

/-- What a call that is no handshake finds when it begins. -/
def outset (client : Client) : Progress :=
  if client.connection.current.status ≠ .connected then .skipped
  else .checked client.now client.minGap

/-- Lets a call that does not wait make its next step. -/
def advance (client : Client) (call : Nat) : Client :=
  match client.calls[call]? with
  | some ⟨.handshake generation, _, _, .ready⟩ =>
    if client.connection.stands generation then client.assignId call
    else client.setStage call .lapsed
  | some ⟨_, _, _, .ready⟩ => client.setStage call (.underway client.outset)
  | some ⟨_, method, params, .underway progress⟩ => client.proceed call method params progress
  | _ => client

/-- Lets go of the handle of a ticket, if it has one. -/
def letGo (client : Client) (ticket : Option Ticket) : Client :=
  { client with
    inFlight :=
      match ticket.bind Ticket.handle with
      | some handle => (client.inFlight.release handle).2
      | none => client.inFlight }

/-- Drops a call of somebody who holds the client.  What it has registered and recorded stays. -/
def giveUp (client : Client) (call : Nat) : Client :=
  match client.calls[call]? with
  | some ⟨.holder, method, params, stage⟩ =>
    if (Call.mk .holder method params stage).isActive then
      (client.letGo stage.ticket?).setStage call (.dropped stage.ticket?)
    else client
  | _ => client

/-- The client after a move. -/
def move (client : Client) : Move → Client
  | .act (.start call) => (client.advance call).dissolve
  | .act action => client.step action
  | .giveUp call => (client.giveUp call).dissolve

/-- The client after a sequence of moves. -/
def weave (client : Client) (moves : List Move) : Client :=
  moves.foldl move client

end Client

end GatewayLink
