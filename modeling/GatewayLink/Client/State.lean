import GatewayLink.Activity.Logbook
import GatewayLink.Call.InFlight
import GatewayLink.Call.Pacing
import GatewayLink.Connection.Basic
import GatewayLink.Event.Relay
import GatewayLink.Settings.Basic

/-!
# The state of a client

A client has one connection at a time and any number of calls under way.  Its calls, the links to
the gateway that it opens, its ticker and the operations that wait for a link to end are tasks.  A
task runs until it has to wait; what it then does is one step of the client, and steps of different
tasks may come in any order.
-/

namespace GatewayLink

/-- Who makes a call. -/
inductive Caller where
  /-- Somebody who holds the client. -/
  | holder
  /-- The ticker. -/
  | ticker
  /-- The client itself, to open the session of a generation of the connection. -/
  | handshake (generation : Nat)
  deriving DecidableEq, Repr

/-- How far a call has come that has begun and does not wait for its answer yet. -/
inductive Progress where
  /-- No connection was open. -/
  | skipped
  /-- A connection was open, at a time of day and with an interval between calls. -/
  | checked (now gap : Int64)
  /-- The pacing of its method has held it back. -/
  | heldBack (gap remaining : Int64)
  /-- It has an id for its request. -/
  | numbered (id : String)
  /-- Its request is registered. -/
  | registered (id : String) (handle : Handle)
  /-- Its request is recorded as sent since some time, and is still to be sent. -/
  | recorded (id : String) (handle : Handle) (since : Nat)
  /-- Its request could not be sent. -/
  | unsent (id : String) (handle : Handle) (since : Nat) (cause : TransportError)
  /-- Its request could not be sent and is not registered any more. -/
  | withdrawn (id : String) (since : Nat) (cause : TransportError)

/-- What a call holds of its request: its id, and its handle while it is registered. -/
structure Ticket where
  id : String
  handle : Option Handle

/-- What a call holds of its request, if it has one. -/
def Progress.ticket? : Progress → Option Ticket
  | .numbered id | .withdrawn id _ _ => some ⟨id, none⟩
  | .registered id handle | .recorded id handle _ | .unsent id handle _ _ =>
    some ⟨id, some handle⟩
  | _ => none

/-- How far a call has come. -/
inductive CallStage where
  /-- It has not begun. -/
  | ready
  /-- It has begun, and has neither returned nor come to wait for its answer. -/
  | underway (progress : Progress)
  /-- It was sent under an id and waits for its answer since some time. -/
  | waiting (id : String) (handle : Handle) (since : Nat)
  /-- It has returned. -/
  | returned (result : Except ClientError Json)
  /-- It was a handshake of a connection that was gone before it began. -/
  | lapsed
  /-- The remaining time of a refused call did not fit a word. -/
  | overflowed
  /-- Its caller has dropped it, with what it held of its request. -/
  | dropped (ticket : Option Ticket)

/-- What a call in a stage holds of its request. -/
def CallStage.ticket? : CallStage → Option Ticket
  | .underway progress => progress.ticket?
  | .waiting id handle _ => some ⟨id, some handle⟩
  | .dropped ticket => ticket
  | _ => none

/-- A call. -/
structure Call where
  caller : Caller
  method : String
  params : Json
  stage : CallStage

namespace Call

/-- Whether the call is under way. -/
def isActive (call : Call) : Bool :=
  match call.stage with
  | .ready | .underway _ | .waiting .. => true
  | _ => false

/-- What the call has returned. -/
def result? (call : Call) : Option (Except ClientError Json) :=
  match call.stage with
  | .returned result => some result
  | _ => none

/-- Whether the call has not begun. -/
def isReady (call : Call) : Bool :=
  match call.stage with
  | .ready => true
  | _ => false

end Call

/-- How far a link has come. -/
inductive LinkStage where
  | connecting
  /-- It is open, and sends what is queued in a channel. -/
  | receiving (channel : Nat)
  /-- It has ended or was aborted. -/
  | ended
  deriving DecidableEq, Repr

/-- A link to the gateway: what runs one generation of the connection. -/
structure Link where
  generation : Nat
  url : String
  stage : LinkStage
  deriving DecidableEq, Repr

/-- What follows once the link that was aborted has ended. -/
inductive Purpose where
  | reopen (url : String)
  | close
  deriving DecidableEq, Repr

/-- The task that makes calls again and again. -/
structure Ticker where
  /-- The number of milliseconds between two rounds. -/
  interval : Nat
  calls : List RepeatedCall
  /-- When the next round is due; nothing before the ticker has begun. -/
  due : Option Nat
  deriving DecidableEq

/-- The clocks of a client. -/
structure Clock where
  /-- The time of day, which may be set back. -/
  wall : Timestamp
  /-- The number of milliseconds that have passed. -/
  uptime : Nat
  deriving DecidableEq, Repr

/-- A client. -/
structure Client where
  settings : Settings
  connection : Connection
  inFlight : InFlight
  pacing : Pacing
  logbook : Logbook
  observers : Broadcast Announcement
  /-- How many request ids were issued. -/
  issued : Nat
  /-- The least number of milliseconds between two calls of a method. -/
  minGap : Int64
  ticker : Option Ticker
  /-- All calls that were ever made. -/
  calls : List Call
  /-- All links that were ever opened. -/
  links : List Link
  /-- What waits for an aborted link to end. -/
  teardowns : List Purpose
  clock : Clock
  /-- Whether somebody holds the client. -/
  isHeld : Bool

namespace Client

/-- How many events are kept for observers that fall behind. -/
def eventCapacity : Nat := 64

/-- An interval between calls as it is used; a negative one is none. -/
def usableGap (gap : Int64) : Int64 :=
  if gap < 0 then 0 else gap

/-- A new client, which has not been connected. -/
def new (settings : Settings) (limits : Limits) (wall : Timestamp) : Client where
  settings := settings
  connection := .new
  inFlight := .new
  pacing := .new
  logbook := .new limits
  observers := .new eventCapacity
  issued := 0
  minGap := usableGap settings.minGap
  ticker := none
  calls := []
  links := []
  teardowns := []
  clock := ⟨wall, 0⟩
  isHeld := true

/-- Whether the client still exists: somebody holds it, or a call keeps it. -/
def isAlive (client : Client) : Bool :=
  client.isHeld || !client.teardowns.isEmpty || client.calls.any Call.isActive

/-- The time of day in milliseconds. -/
def now (client : Client) : Int64 :=
  Int64.ofInt client.clock.wall.milliseconds

/-- The number of milliseconds since some time, held within a word. -/
def elapsedSince (client : Client) (start : Nat) : UInt64 :=
  UInt64.ofNat (min (client.clock.uptime - start) 18446744073709551615)

/-- Moves a call on to a stage. -/
def setStage (client : Client) (call : Nat) (stage : CallStage) : Client :=
  { client with calls := client.calls.modify call ({ · with stage }) }

/-- Moves a link on to a stage. -/
def setLink (client : Client) (link : Nat) (stage : LinkStage) : Client :=
  { client with links := client.links.modify link ({ · with stage }) }

/-- Adds calls that have not begun. -/
def addCalls (client : Client) (calls : List Call) : Client :=
  { client with calls := client.calls ++ calls }

end Client

end GatewayLink
