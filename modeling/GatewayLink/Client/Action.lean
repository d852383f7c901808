import GatewayLink.Client.Call
import GatewayLink.Client.Link
import GatewayLink.Client.Ticker

/-!
# Runs of a client

An action is one step of a client: something that is asked of it, a task that goes on, or something
that the network or the clocks do.  A run is a sequence of actions.  An action that is not possible
at its time changes nothing.
-/

namespace GatewayLink

namespace Client

/-- A step of a client. -/
inductive Action where
  /-- Sets the time of day. -/
  | setWall (wall : Timestamp)
  /-- Lets some milliseconds pass. -/
  | pass (milliseconds : Nat)
  /-- Makes a call, which is ready to begin. -/
  | call (method : String) (params : Json)
  | start (call : Nat)
  | wake (call : Nat)
  | connect (url : String)
  | close
  | resume (teardown : Nat)
  | linkOpened (link : Nat)
  | linkFailed (link : Nat) (cause : TransportError)
  /-- A link receives an item, or the end of its stream. -/
  | received (link : Nat) (item : Option StreamItem)
  /-- A link takes the texts out of its channel. -/
  | pump (channel : Nat)
  /-- A link can send no more. -/
  | hangUp (channel : Nat)
  /-- Hands over a text as if it had been received. -/
  | inbound (text : String)
  | setGap (gap : Int64)
  | startRefresh (interval : Nat) (calls : List RepeatedCall)
  | stopRefresh
  | tick
  | subscribe
  | drain (observer : Nat)
  | watch
  | observe (observer : Nat)
  /-- Lets go of the client. -/
  | drop

/-- The answer to an action. -/
inductive Outcome where
  | done
  /-- The client does not exist any more, or nobody holds it. -/
  | gone
  | number (value : Nat)
  | truth (value : Bool)
  | gap (value : Int64)
  | started (result : Except ClientError Unit)
  | texts (value : Option (List String × Bool))
  | notices (value : Option (List (Notice Announcement)))
  /-- Whether something was published since the last look, unless the client is gone. -/
  | observed (changed : Option Bool) (snapshot : Snapshot)

/-- Puts an end to a client that is not kept any more: its ticker and its link are aborted, and its
observers learn that nothing will come. -/
def dissolve (client : Client) : Client :=
  if client.isAlive then client
  else
    let (task, connection) := client.connection.unassign
    let client :=
      { client with
        connection := connection.uninstall
        observers := client.observers.close
        ticker := none }
    match task with
    | some link => client.setLink link .ended
    | none => client

/-- Carries out an action of the network, of the clocks, or of an observer. -/
def applyOutside (client : Client) : Action → Outcome × Client
  | .setWall wall => (.done, { client with clock := { client.clock with wall } })
  | .pass milliseconds =>
    (.done,
      { client with
        clock := { client.clock with uptime := client.clock.uptime + milliseconds } })
  | .pump channel =>
    let (texts, connection) := client.connection.receive channel
    (.texts texts, { client with connection })
  | .hangUp channel =>
    let (held, connection) := client.connection.hangUp channel
    (.truth held, { client with connection })
  | .drain observer =>
    let (notices, observers) := client.observers.drain observer
    (.notices notices, { client with observers })
  | .observe observer =>
    if client.isAlive then
      let (changed, connection) := client.connection.observe observer
      (.observed (some changed) connection.current, { client with connection })
    else (.observed none client.connection.current, client)
  | _ => (.gone, client)

/-- Lets a task of a client go on. -/
def applyTask (client : Client) : Action → Outcome × Client
  | .start call => (.done, client.start call)
  | .wake call => (.done, client.wake call)
  | .resume teardown => (.done, client.resume teardown)
  | .linkOpened link => (.done, client.linkOpened link)
  | .linkFailed link cause => (.done, client.linkFailed link cause)
  | .received link item => (.done, client.received link item)
  | .tick => (.done, client.tick)
  | action => client.applyOutside action

/-- Carries out what is asked of a client that is held, or anything else. -/
def applyHeld (client : Client) : Action → Outcome × Client
  | .call method params =>
    (.number client.calls.length, client.addCalls [⟨.holder, method, params, .ready⟩])
  | .connect url => (.done, client.connect url)
  | .close => (.done, client.close)
  | .inbound text => (.done, client.inbound text)
  | .setGap gap =>
    let client := { client with minGap := usableGap gap }
    (.gap client.minGap, client)
  | .startRefresh interval calls =>
    let (result, client) := client.startRefresh interval calls
    (.started result, client)
  | .stopRefresh =>
    let (stopped, client) := client.stopRefresh
    (.truth stopped, client)
  | .subscribe =>
    let (observer, observers) := client.observers.subscribe
    (.number observer, { client with observers })
  | .watch =>
    let (observer, connection) := client.connection.watch
    (.number observer, { client with connection })
  | .drop => (.done, { client with isHeld := false })
  | action => client.applyTask action

/-- Carries out an action. -/
def apply (client : Client) (action : Action) : Outcome × Client :=
  let (outcome, client) :=
    if client.isHeld then client.applyHeld action
    else if client.isAlive then client.applyTask action
    else client.applyOutside action
  (outcome, client.dissolve)

/-- The client after an action. -/
def step (client : Client) (action : Action) : Client :=
  (client.apply action).2

/-- The client after a sequence of actions. -/
def run (client : Client) (actions : List Action) : Client :=
  actions.foldl step client

end Client

end GatewayLink
