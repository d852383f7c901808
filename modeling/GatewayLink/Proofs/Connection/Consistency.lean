import GatewayLink.Proofs.Connection.Publication

/-!
# The parts of a connection agree

A connection keeps its channel, its generation and its published snapshot apart.  Every operation
changes them together: a channel is installed just while the snapshot shows an open connection, the
snapshot shows the current generation, and it shows a whole session or none.
-/

namespace GatewayLink

namespace Connection

variable {connection : Connection} {generation : Nat}

/-- The parts of a connection agree. -/
structure Consistent (connection : Connection) : Prop where
  installed : connection.outbound.isSome = true ↔ connection.current.status = .connected
  generation : connection.current.generation = connection.generation
  session : connection.current.version = none ↔ connection.current.session = none

theorem consistent_new : new.Consistent where
  installed := by simp [new, Snapshot.initial]
  generation := rfl
  session := by simp [new, Snapshot.initial]

namespace Consistent

theorem dial (connection : Connection) (url : String) : (connection.dial url).2.Consistent where
  installed := by simp [Connection.dial, publish]
  generation := rfl
  session := by simp [Connection.dial]

theorem establish (consistent : connection.Consistent) (generation : Nat) :
    (connection.establish generation).2.2.Consistent := by
  obtain ⟨-, established⟩ | ⟨-, established⟩ := connection.establish_cases generation
  · rw [established]
    exact
      { installed := by simp [publish]
        generation := by simpa [publish] using consistent.generation
        session := by simpa [publish] using consistent.session }
  · rw [established]
    exact { consistent with }

theorem welcome (consistent : connection.Consistent) (generation : Nat) (welcome : Welcome) :
    (connection.welcome generation welcome).2.Consistent := by
  obtain ⟨-, welcomed⟩ | ⟨-, welcomed⟩ := connection.welcome_cases generation welcome
  · rw [welcomed]
    exact
      { installed := consistent.installed
        generation := consistent.generation
        session := by simp }
  · rwa [welcomed]

theorem lose (consistent : connection.Consistent) (generation : Nat) :
    (connection.lose generation).2.Consistent := by
  obtain ⟨-, lost⟩ | ⟨-, lost⟩ := connection.lose_cases generation
  · rw [lost]
    exact
      { installed := by simp [publish]
        generation := by simpa [publish, Snapshot.withoutSession] using consistent.generation
        session := by simp [Snapshot.withoutSession] }
  · rwa [lost]

theorem supersede (connection : Connection) : connection.supersede.Consistent where
  installed := by simp [Connection.supersede, publish]
  generation := rfl
  session := by simp [Connection.supersede, Snapshot.withoutSession]

theorem of_kept (consistent : connection.Consistent) {after : Connection}
    (current : after.current = connection.current)
    (generation : after.generation = connection.generation)
    (outbound : after.outbound = connection.outbound) : after.Consistent where
  installed := by simpa [outbound, current] using consistent.installed
  generation := by rw [current, generation, consistent.generation]
  session := by simpa [current] using consistent.session

theorem send (consistent : connection.Consistent) (text : String) :
    (connection.send text).2.Consistent := by
  obtain ⟨channel, state, -, -, -, sent⟩ | ⟨cause, sent, -⟩ := connection.send_cases text <;>
    rw [sent] <;> exact consistent.of_kept rfl rfl rfl

theorem hangUp (consistent : connection.Consistent) (channel : Nat) :
    (connection.hangUp channel).2.Consistent := by
  obtain ⟨state, -, -, hung_up⟩ | ⟨-, hung_up⟩ := connection.hangUp_cases channel <;>
    rw [hung_up] <;> exact consistent.of_kept rfl rfl rfl

theorem receive (consistent : connection.Consistent) (channel : Nat) :
    (connection.receive channel).2.Consistent := by
  obtain ⟨state, -, -, received⟩ | ⟨-, received⟩ := connection.receive_cases channel <;>
    rw [received] <;> exact consistent.of_kept rfl rfl rfl

/-- A text is refused for want of a connection just while none is shown to be open. -/
theorem send_fst_iff (consistent : connection.Consistent) (text : String) :
    (connection.send text).1 = .error .notConnected ↔ connection.current.status ≠ .connected := by
  rw [ne_eq, ← not_congr consistent.installed]
  cases installed : connection.outbound with
  | none => simp [Connection.send, installed]
  | some channel =>
      simp only [Connection.send, installed]
      split <;> simp

end Consistent

end Connection

namespace ConnectionSession

open Connection

/-- The address that an operation dials. -/
def Operation.address? : Operation → Option String
  | .dial url => some url
  | _ => none

theorem consistent_apply {session : ConnectionSession} {operation : Operation}
    (consistent : session.connection.Consistent)
    (alive : (session.apply operation).2.isAlive = true) :
    (session.apply operation).2.connection.Consistent := by
  have was_alive : session.isAlive = true := isAlive_of_isAlive_apply alive
  simp only [apply, was_alive, if_true] at alive ⊢
  cases operation with
  | dial url => exact .dial session.connection url
  | establish generation => exact consistent.establish generation
  | welcome generation welcome => exact consistent.welcome generation welcome
  | lose generation => exact consistent.lose generation
  | supersede => exact .supersede session.connection
  | send text => exact consistent.send text
  | hangUp channel => exact consistent.hangUp channel
  | receive channel => exact consistent.receive channel
  | drop => cases alive
  | _ => exact consistent.of_kept rfl rfl rfl

theorem consistent_run {session : ConnectionSession} {operations : List Operation}
    (consistent : session.connection.Consistent)
    (alive : (session.run operations).isAlive = true) :
    (session.run operations).connection.Consistent := by
  induction operations generalizing session with
  | nil => exact consistent
  | cons operation rest induction =>
      have next : (session.apply operation).2.isAlive = true := isAlive_of_isAlive_run alive
      exact induction (consistent_apply consistent next) alive

theorem current_apply {session : ConnectionSession} (alive : session.isAlive = true)
    (operation : Operation) :
    (session.apply operation).2.connection.current =
      (announced? session.connection operation).getD session.connection.current := by
  have shown := published_apply alive operation
  cases announced : announced? session.connection operation with
  | none => exact (List.cons.inj (by simpa [announced, published] using shown)).1
  | some snapshot => exact (List.cons.inj (by simpa [announced, published] using shown)).1

/-- Only a dial changes the address that is shown. -/
theorem url_announced (connection : Connection) (operation : Operation) :
    ((announced? connection operation).getD connection.current).url =
      operation.address?.or connection.current.url := by
  cases operation with
  | establish generation =>
      by_cases stands : connection.stands generation <;>
        simp [announced?, stands, Operation.address?]
  | welcome generation welcome =>
      by_cases stands : connection.stands generation <;>
        simp [announced?, stands, Operation.address?]
  | lose generation =>
      by_cases stands : connection.stands generation <;>
        simp [announced?, stands, Operation.address?, Snapshot.withoutSession]
  | _ => rfl

/-- The address that was dialled last is shown. -/
theorem url_run {session : ConnectionSession} {operations : List Operation}
    (alive : (session.run operations).isAlive = true) :
    (session.run operations).connection.current.url =
      (operations.filterMap Operation.address?).getLast?.or session.connection.current.url := by
  induction operations generalizing session with
  | nil => rfl
  | cons operation rest induction =>
      have next : (session.apply operation).2.isAlive = true := isAlive_of_isAlive_run alive
      have step : (session.apply operation).2.connection.current.url =
          operation.address?.or session.connection.current.url := by
        rw [current_apply (isAlive_of_isAlive_apply next), url_announced]
      rw [run_cons, induction alive, step, List.filterMap_cons]
      cases operation.address? with
      | none => rfl
      | some url => simp [List.getLast?_cons]

/-- In every run a channel is installed just while the connection is shown to be open, and the
snapshot shows the generation that is counted and the address that was dialled last. -/
theorem connection_parts_agree {operations : List Operation}
    (alive : (new.run operations).isAlive = true) :
    let session := new.run operations
    let connection := session.connection
    (connection.outbound.isSome = true ↔ connection.current.status = .connected) ∧
      (∀ text, (connection.send text).1 = .error .notConnected ↔
        connection.current.status ≠ .connected) ∧
      connection.current.generation = connection.generation ∧
      (connection.current.version = none ↔ connection.current.session = none) ∧
      (connection.current.url = none ↔ ∀ url, .dial url ∉ operations) ∧
      connection.current.url = (operations.filterMap Operation.address?).getLast? ∧
      ∀ operation, (session.apply operation).2.connection.generation =
        if operation.overtakes then connection.generation + 1 else connection.generation := by
  intro session connection
  have consistent : connection.Consistent := consistent_run consistent_new alive
  have url_eq : connection.current.url = (operations.filterMap Operation.address?).getLast? := by
    rw [url_run alive]
    exact Option.or_none
  refine ⟨consistent.installed, consistent.send_fst_iff, consistent.generation,
    consistent.session, ?_, url_eq, generation_apply alive⟩
  rw [url_eq, List.getLast?_eq_none_iff, List.filterMap_eq_nil_iff]
  constructor
  · intro none_dialled url member
    cases none_dialled _ member
  · intro none_dialled operation member
    cases operation with
    | dial url => exact absurd member (none_dialled url)
    | _ => rfl

/-- A session is entered although the loss of another generation is reported. -/
theorem parts_agree_after_foreign_loss :
    let session := new.run [.dial "ws://gateway", .establish 1, .lose 7, .welcome 1 ⟨1, "s1"⟩]
    session.isAlive = true ∧ session.connection.outbound.isSome = true ∧
      session.connection.current.generation = session.connection.generation ∧
      session.connection.current.url = some "ws://gateway" := by
  intro session
  have alive : session.isAlive = true := by decide
  have status : session.connection.current.status = .connected := by decide
  obtain ⟨installed, -, generation, -, -, url, -⟩ := connection_parts_agree alive
  exact ⟨alive, installed.mpr status, generation, url⟩

end ConnectionSession

end GatewayLink
