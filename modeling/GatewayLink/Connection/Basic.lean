import GatewayLink.Connection.Snapshot
import GatewayLink.Failure
import GatewayLink.Frame.Handshake

/-!
# The state of a connection

Each attempt to connect is a generation of its own.  What is reported for a generation that is no
longer the current one is ignored, so that a late report about an old connection does not touch a
new one.  Every change is published, and texts are sent through the channel that was installed when
the current generation was opened.
-/

namespace GatewayLink

/-- A queue of outgoing texts. -/
structure Channel where
  /-- All texts that were queued, oldest first. -/
  texts : List String
  /-- How many of them were taken out. -/
  taken : Nat
  /-- Whether there is a sending end. -/
  sending : Bool
  /-- Whether there is a receiving end. -/
  receiving : Bool
  deriving DecidableEq, Repr

namespace Channel

/-- A new queue with both ends. -/
def new : Channel := ⟨[], 0, true, true⟩

/-- The texts that wait to be taken out. -/
def queued (channel : Channel) : List String :=
  channel.texts.drop channel.taken

end Channel

/-- The state of a connection, its queues and its observers. -/
structure Connection where
  /-- The latest published snapshot. -/
  current : Snapshot
  /-- The snapshots published before it, latest first. -/
  earlier : List Snapshot
  generation : Nat
  /-- The channel that texts are sent through. -/
  outbound : Option Nat
  /-- All channels that were ever offered. -/
  channels : List Channel
  /-- For each observer how many publications it has seen. -/
  observers : List Nat
  /-- The task that runs the connection. -/
  task : Option Nat
  deriving DecidableEq

namespace Connection

/-- Before anything was opened. -/
def new : Connection where
  current := .initial
  earlier := []
  generation := 0
  outbound := none
  channels := []
  observers := []
  task := none

/-- How many snapshots were published after the initial one. -/
def publications (connection : Connection) : Nat :=
  connection.earlier.length

/-- Publishes a snapshot. -/
def publish (connection : Connection) (snapshot : Snapshot) : Connection :=
  { connection with current := snapshot, earlier := connection.current :: connection.earlier }

/-- Whether a generation is the current one. -/
def stands (connection : Connection) (generation : Nat) : Bool :=
  generation == connection.generation

theorem stands_iff (connection : Connection) (generation : Nat) :
    connection.stands generation = true ↔ generation = connection.generation := by
  simp [stands]

@[simp] theorem current_publish (connection : Connection) (snapshot : Snapshot) :
    (connection.publish snapshot).current = snapshot := rfl

@[simp] theorem publications_publish (connection : Connection) (snapshot : Snapshot) :
    (connection.publish snapshot).publications = connection.publications + 1 := rfl

/-- Changes one channel. -/
def updateChannel (connection : Connection) (channel : Nat) (update : Channel → Channel) :
    Connection :=
  { connection with channels := connection.channels.modify channel update }

/-- Lets go of the sending end of the installed channel. -/
def uninstall (connection : Connection) : Connection :=
  match connection.outbound with
  | none => connection
  | some channel =>
    { connection.updateChannel channel ({ · with sending := false }) with outbound := none }

@[simp] theorem outbound_uninstall (connection : Connection) :
    connection.uninstall.outbound = none := by
  unfold uninstall
  split <;> simp_all

@[simp] theorem generation_uninstall (connection : Connection) :
    connection.uninstall.generation = connection.generation := by
  unfold uninstall
  split <;> rfl

@[simp] theorem current_uninstall (connection : Connection) :
    connection.uninstall.current = connection.current := by
  unfold uninstall
  split <;> rfl

/-- Starts a new generation, which is connecting to an address; its number. -/
def dial (connection : Connection) (url : String) : Nat × Connection :=
  let generation := connection.generation + 1
  let connection := { connection.uninstall with generation }
  (generation, connection.publish ⟨some url, .connecting, none, none, generation⟩)

/-- Offers a new channel for a generation that has been opened; whether it is installed, and its
number. -/
def establish (connection : Connection) (generation : Nat) : Bool × Nat × Connection :=
  let channel := connection.channels.length
  if connection.stands generation then
    let connection := connection.uninstall
    let connection :=
      { connection with channels := connection.channels ++ [Channel.new], outbound := some channel }
    (true, channel, connection.publish { connection.current with status := .connected })
  else
    (false, channel,
      { connection with
        channels := connection.channels ++ [{ Channel.new with sending := false }] })

/-- Enters the session that the gateway opened in a generation; whether that is the current one. -/
def welcome (connection : Connection) (generation : Nat) (welcome : Welcome) :
    Bool × Connection :=
  if connection.stands generation then
    (true, connection.publish
      { connection.current with version := some welcome.version, session := some welcome.session })
  else (false, connection)

/-- Notes that a generation has been closed; whether that is the current one. -/
def lose (connection : Connection) (generation : Nat) : Bool × Connection :=
  if connection.stands generation then
    let connection := connection.uninstall
    (true, connection.publish { connection.current.withoutSession with status := .disconnected })
  else (false, connection)

/-- Ends the current generation, so that all that is reported for it later is ignored. -/
def supersede (connection : Connection) : Connection :=
  let generation := connection.generation + 1
  let connection := { connection.uninstall with generation }
  connection.publish
    { connection.current.withoutSession with status := .disconnected, generation }

@[simp] theorem generation_dial (connection : Connection) (url : String) :
    (connection.dial url).2.generation = connection.generation + 1 := rfl

@[simp] theorem generation_supersede (connection : Connection) :
    connection.supersede.generation = connection.generation + 1 := rfl

/-- Queues a text on the installed channel. -/
def send (connection : Connection) (text : String) : Except TransportError Unit × Connection :=
  match connection.outbound with
  | none => (.error .notConnected, connection)
  | some channel =>
    match connection.channels[channel]? with
    | some { receiving := true, .. } =>
      (.ok (), connection.updateChannel channel fun channel =>
        { channel with texts := channel.texts ++ [text] })
    | _ => (.error .queueClosed, connection)

/-- Lets go of the receiving end of a channel; whether there was one. -/
def hangUp (connection : Connection) (channel : Nat) : Bool × Connection :=
  match connection.channels[channel]? with
  | some { receiving := true, .. } =>
    (true, connection.updateChannel channel ({ · with receiving := false }))
  | _ => (false, connection)

/-- Takes all queued texts out of a channel, and whether no more can come; nothing without a
receiving end. -/
def receive (connection : Connection) (channel : Nat) :
    Option (List String × Bool) × Connection :=
  match connection.channels[channel]? with
  | some state =>
    if state.receiving then
      (some (state.queued, !state.sending),
        connection.updateChannel channel fun channel =>
          { channel with taken := channel.texts.length })
    else (none, connection)
  | none => (none, connection)

/-- Lets an observer join; its number. -/
def watch (connection : Connection) : Nat × Connection :=
  (connection.observers.length,
    { connection with observers := connection.observers ++ [connection.publications] })

/-- Shows an observer the current snapshot, and whether it was published since the last look. -/
def observe (connection : Connection) (observer : Nat) : Bool × Connection :=
  (connection.observers[observer]? != some connection.publications,
    { connection with
      observers := connection.observers.set observer connection.publications })

/-- Hands over the task that runs the connection; the task that it replaces. -/
def assign (connection : Connection) (task : Nat) : Option Nat × Connection :=
  (connection.task, { connection with task := some task })

/-- Takes the task back. -/
def unassign (connection : Connection) : Option Nat × Connection :=
  (connection.task, { connection with task := none })

end Connection

end GatewayLink
