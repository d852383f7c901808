import GatewayLink.Connection.Basic

/-!
# A connection with its tasks

The operations on a connection, together with the tasks that have been handed to it.  A task that
is replaced, or that is still held when the connection is dropped, is aborted; one that was taken
back runs on.
-/

namespace GatewayLink

/-- A connection and the tasks that run. -/
structure ConnectionSession where
  connection : Connection
  /-- Whether the connection has not been dropped. -/
  isAlive : Bool
  /-- How many tasks were started. -/
  started : Nat
  /-- The tasks that have not been aborted. -/
  running : List Nat
  deriving DecidableEq

namespace ConnectionSession

/-- A new connection without tasks. -/
def new : ConnectionSession := ⟨.new, true, 0, []⟩

/-- The tasks without an aborted one. -/
def abort (running : List Nat) : Option Nat → List Nat
  | none => running
  | some task => running.filter (· != task)

/-- What can be asked of a connection. -/
inductive Operation where
  | dial (url : String)
  | establish (generation : Nat)
  | welcome (generation : Nat) (welcome : Welcome)
  | lose (generation : Nat)
  | supersede
  | send (text : String)
  | stands (generation : Nat)
  | status
  | hangUp (channel : Nat)
  | receive (channel : Nat)
  | watch
  | observe (observer : Nat)
  /-- Starts a task that never ends by itself and hands it over. -/
  | assign
  | unassign
  | drop

/-- The answer of a connection. -/
inductive Outcome where
  | number (value : Nat)
  | truth (value : Bool)
  /-- Whether a channel was installed, and its number. -/
  | offered (installed : Bool) (channel : Nat)
  | sent (result : Except TransportError Unit)
  | status (status : LinkStatus)
  | received (texts : Option (List String × Bool))
  /-- Whether something was published since the last look, unless the connection is gone. -/
  | observed (changed : Option Bool) (snapshot : Snapshot)
  | done
  /-- The connection is gone. -/
  | gone

/-- Drops the connection with its sending ends and its task. -/
def drop (session : ConnectionSession) : ConnectionSession :=
  let (task, connection) := session.connection.unassign
  { session with
    connection := connection.uninstall
    isAlive := false
    running := abort session.running task }

/-- Puts another connection in place. -/
def withConnection (session : ConnectionSession) (connection : Connection) : ConnectionSession :=
  { session with connection }

/-- Carries out an operation on a connection that has not been dropped. -/
def applyAlive (session : ConnectionSession) : Operation → Outcome × ConnectionSession
  | .dial url =>
    let (generation, connection) := session.connection.dial url
    (.number generation, session.withConnection connection)
  | .establish generation =>
    let (installed, channel, connection) := session.connection.establish generation
    (.offered installed channel, session.withConnection connection)
  | .welcome generation welcome =>
    let (accepted, connection) := session.connection.welcome generation welcome
    (.truth accepted, session.withConnection connection)
  | .lose generation =>
    let (accepted, connection) := session.connection.lose generation
    (.truth accepted, session.withConnection connection)
  | .supersede => (.done, session.withConnection session.connection.supersede)
  | .send text =>
    let (result, connection) := session.connection.send text
    (.sent result, session.withConnection connection)
  | .stands generation => (.truth (session.connection.stands generation), session)
  | .status => (.status session.connection.current.status, session)
  | .hangUp channel =>
    let (held, connection) := session.connection.hangUp channel
    (.truth held, session.withConnection connection)
  | .receive channel =>
    let (texts, connection) := session.connection.receive channel
    (.received texts, session.withConnection connection)
  | .watch =>
    let (observer, connection) := session.connection.watch
    (.number observer, session.withConnection connection)
  | .observe observer =>
    let (changed, connection) := session.connection.observe observer
    (.observed (some changed) connection.current, session.withConnection connection)
  | .assign =>
    let task := session.started
    let (replaced, connection) := session.connection.assign task
    (.number task,
      { session with
        connection
        started := task + 1
        running := abort session.running replaced ++ [task] })
  | .unassign =>
    let (task, connection) := session.connection.unassign
    (.truth task.isSome, session.withConnection connection)
  | .drop => (.done, session.drop)

/-- Carries out an operation.  Of a dropped connection the receiving ends and the last snapshot
are left. -/
def apply (session : ConnectionSession) (operation : Operation) : Outcome × ConnectionSession :=
  if session.isAlive then session.applyAlive operation
  else
    match operation with
    | .hangUp _ | .receive _ => session.applyAlive operation
    | .observe _ => (.observed none session.connection.current, session)
    | _ => (.gone, session)

/-- The connection after a sequence of operations. -/
def run (session : ConnectionSession) (operations : List Operation) : ConnectionSession :=
  operations.foldl (fun session operation => (session.apply operation).2) session

end ConnectionSession

end GatewayLink
