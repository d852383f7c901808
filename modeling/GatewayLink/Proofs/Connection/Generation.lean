import GatewayLink.Proofs.Connection.Operations

/-!
# Generations of a connection

The generation of a connection never goes back, and it goes on with every operation that opens or
ends one.  A report for a generation that has been overtaken is refused and leaves no trace: of a
channel that is offered for it only the receiving end is left.
-/

namespace GatewayLink

namespace Connection

variable {connection : Connection} {generation : Nat}

@[simp] theorem generation_welcome (connection : Connection) (generation : Nat)
    (welcome : Welcome) :
    (connection.welcome generation welcome).2.generation = connection.generation := by
  obtain ⟨-, welcomed⟩ | ⟨-, welcomed⟩ := connection.welcome_cases generation welcome <;>
    rw [welcomed]
  rfl

@[simp] theorem generation_lose (connection : Connection) (generation : Nat) :
    (connection.lose generation).2.generation = connection.generation := by
  obtain ⟨-, lost⟩ | ⟨-, lost⟩ := connection.lose_cases generation
  · rw [lost]
    exact connection.generation_uninstall
  · rw [lost]

@[simp] theorem generation_establish (connection : Connection) (generation : Nat) :
    (connection.establish generation).2.2.generation = connection.generation := by
  obtain ⟨-, established⟩ | ⟨-, established⟩ := connection.establish_cases generation
  · rw [established]
    exact connection.generation_uninstall
  · rw [established]
    rfl

@[simp] theorem generation_send (connection : Connection) (text : String) :
    (connection.send text).2.generation = connection.generation := by
  obtain ⟨channel, state, -, -, -, sent⟩ | ⟨cause, sent, -⟩ := connection.send_cases text <;>
    rw [sent]
  rfl

@[simp] theorem generation_hangUp (connection : Connection) (channel : Nat) :
    (connection.hangUp channel).2.generation = connection.generation := by
  obtain ⟨state, -, -, hung_up⟩ | ⟨-, hung_up⟩ := connection.hangUp_cases channel <;> rw [hung_up]
  rfl

@[simp] theorem generation_receive (connection : Connection) (channel : Nat) :
    (connection.receive channel).2.generation = connection.generation := by
  obtain ⟨state, -, -, received⟩ | ⟨-, received⟩ := connection.receive_cases channel <;>
    rw [received]
  rfl

theorem not_stands_of_lt (overtaken : generation < connection.generation) :
    connection.stands generation = false := by
  simp only [stands, beq_eq_false_iff_ne]
  omega

theorem welcome_of_not_stands (late : connection.stands generation = false) (welcome : Welcome) :
    connection.welcome generation welcome = (false, connection) := by
  simp [Connection.welcome, late]

theorem lose_of_not_stands (late : connection.stands generation = false) :
    connection.lose generation = (false, connection) := by
  simp [lose, late]

theorem establish_of_not_stands (late : connection.stands generation = false) :
    connection.establish generation =
      (false, connection.channels.length, connection.withRefusedChannel) := by
  simp [establish, late, withRefusedChannel]

end Connection

namespace ConnectionSession

/-- Whether an operation opens a new generation or ends the current one. -/
def Operation.overtakes : Operation → Bool
  | .dial _ | .supersede => true
  | _ => false

theorem generation_applyAlive (session : ConnectionSession) (operation : Operation) :
    (session.applyAlive operation).2.connection.generation =
      if operation.overtakes then session.connection.generation + 1
      else session.connection.generation := by
  cases operation with
  | drop => exact (session.connection.unassign.2).generation_uninstall
  | _ => simp [applyAlive, withConnection, Operation.overtakes, Connection.watch,
      Connection.observe, Connection.assign, Connection.unassign]

theorem isAlive_of_isAlive_apply {session : ConnectionSession} {operation : Operation}
    (alive : (session.apply operation).2.isAlive = true) : session.isAlive = true := by
  cases before : session.isAlive with
  | true => rfl
  | false =>
      unfold apply at alive
      simp only [before] at alive
      cases operation <;> simp_all [applyAlive, withConnection]

theorem isAlive_of_isAlive_run {session : ConnectionSession} {operations : List Operation}
    (alive : (session.run operations).isAlive = true) : session.isAlive = true := by
  induction operations generalizing session with
  | nil => exact alive
  | cons operation rest induction => exact isAlive_of_isAlive_apply (induction alive)

theorem generation_apply {session : ConnectionSession} (alive : session.isAlive = true)
    (operation : Operation) :
    (session.apply operation).2.connection.generation =
      if operation.overtakes then session.connection.generation + 1
      else session.connection.generation := by
  simp only [apply, alive, if_true]
  exact session.generation_applyAlive operation

/-- The generation goes on by one with every operation that overtakes it. -/
theorem generation_run {session : ConnectionSession} {operations : List Operation}
    (alive : (session.run operations).isAlive = true) :
    (session.run operations).connection.generation =
      session.connection.generation + operations.countP Operation.overtakes := by
  induction operations generalizing session with
  | nil => rfl
  | cons operation rest induction =>
      have next : (session.apply operation).2.isAlive = true := isAlive_of_isAlive_run alive
      have counted : (session.run (operation :: rest)).connection.generation =
          (session.apply operation).2.connection.generation + rest.countP Operation.overtakes :=
        induction alive
      rw [counted, generation_apply (isAlive_of_isAlive_apply next), List.countP_cons]
      split <;> omega

/-- What a late report does: nothing, but for the receiving end of a channel that is offered. -/
theorem late_reports {session : ConnectionSession} {generation : Nat}
    (alive : session.isAlive = true) (late : session.connection.stands generation = false) :
    session.apply (.stands generation) = (.truth false, session) ∧
      (∀ welcome, session.apply (.welcome generation welcome) = (.truth false, session)) ∧
      session.apply (.lose generation) = (.truth false, session) ∧
      session.apply (.establish generation) =
        (.offered false session.connection.channels.length,
          session.withConnection session.connection.withRefusedChannel) := by
  have applied (operation : Operation) : session.apply operation = session.applyAlive operation := by
    simp [apply, alive]
  refine ⟨?_, fun welcome => ?_, ?_, ?_⟩
  · rw [applied, applyAlive, late]
  · rw [applied, applyAlive, Connection.welcome_of_not_stands late]
    rfl
  · rw [applied, applyAlive, Connection.lose_of_not_stands late]
    rfl
  · rw [applied, applyAlive, Connection.establish_of_not_stands late]

end ConnectionSession

end GatewayLink
