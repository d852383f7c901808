import GatewayLink.Proofs.Client.Linking

/-!
# Late reports

A generation that was overtaken stays so in every continuation of a run.  What is reported for it
then is refused by the connection, and the client that passes the report on is left as it is.
-/

namespace GatewayLink

namespace ConnectionSession

/-- What a connection does with everything that is reported for a generation. -/
structure Refuses (session : ConnectionSession) (generation : Nat) : Prop where
  stands : session.apply (.stands generation) = (.truth false, session)
  welcome : ∀ welcome, session.apply (.welcome generation welcome) = (.truth false, session)
  lose : session.apply (.lose generation) = (.truth false, session)
  /-- Of the channel that is offered only the receiving end is left. -/
  establish : session.apply (.establish generation) =
    (.offered false session.connection.channels.length,
      session.withConnection session.connection.withRefusedChannel)
  /-- Nobody sees a publication, and texts are queued as before. -/
  observed : ∀ observer,
    ((session.apply (.establish generation)).2.apply (.observe observer)).1 =
      (session.apply (.observe observer)).1
  outbound : (session.apply (.establish generation)).2.connection.outbound =
    session.connection.outbound

theorem refuses_of_late {session : ConnectionSession} {generation : Nat}
    (alive : session.isAlive = true) (late : session.connection.stands generation = false) :
    session.Refuses generation := by
  obtain ⟨stands, welcome, lose, establish⟩ := late_reports alive late
  refine ⟨stands, welcome, lose, establish, fun observer => ?_, ?_⟩
  · rw [establish]
    simp [apply, alive, withConnection, applyAlive, Connection.observe,
      Connection.withRefusedChannel, Connection.publications]
  · rw [establish]
    rfl

theorem refuses_of_overtaken {opened : ConnectionSession} {generation : Nat}
    (current : generation = opened.connection.generation) {operations : List Operation}
    (overtaken : ∃ operation ∈ operations, operation.overtakes = true)
    (alive : (opened.run operations).isAlive = true) :
    (opened.run operations).Refuses generation := by
  refine refuses_of_late alive (Connection.not_stands_of_lt ?_)
  have counted : 0 < operations.countP Operation.overtakes := List.countP_pos_iff.mpr overtaken
  rw [generation_run alive]
  omega

end ConnectionSession

namespace Client

variable {client : Client} {generation : Nat}

theorem generationLost_of_late (late : client.connection.stands generation = false)
    (reason : String) : client.generationLost generation reason = client := by
  simp [generationLost, Connection.lose_of_not_stands late]

theorem generationRefused_of_late (late : client.connection.stands generation = false)
    (cause : TransportError) : client.generationRefused generation cause = client := by
  simp [generationRefused, Connection.lose_of_not_stands late]

theorem handshake_of_late (late : client.connection.stands generation = false) (number : Nat)
    (method : String) (params : Json) :
    client.handshake number generation method params = client.setStage number .lapsed := by
  simp [handshake, late]

end Client

open ConnectionSession in
/-- A generation that was overtaken stays so, and what is reported for it changes nothing of a
client but the link or the call that reports. -/
theorem late_reports_change_nothing :
    (∀ (before between : List ConnectionSession.Operation) (url : String),
      let opened := (new.run before).apply (.dial url)
      let later := opened.2.run between
      later.isAlive = true →
        ∃ generation, opened.1 = .number generation ∧
          (∀ other, ∃ number, (later.apply (.dial other)).1 = .number number ∧
            generation < number) ∧
          ((∃ operation ∈ between, operation.overtakes = true) → later.Refuses generation)) ∧
    (∀ (settings : Settings) (limits : Limits) (wall : Timestamp)
        (actions more : List Client.Action) (link : Link),
      let client := (Client.new settings limits wall).run actions
      let later := client.run more
      link ∈ client.links →
        link.generation ≤ client.connection.generation ∧
        client.connection.generation ≤ later.connection.generation ∧
        (link.generation < later.connection.generation →
          later.connection.stands link.generation = false ∧
          (∀ reason, later.generationLost link.generation reason = later) ∧
          (∀ cause, later.generationRefused link.generation cause = later) ∧
          ∀ number method params,
            let after := later.handshake number link.generation method params
            after.inFlight = later.inFlight ∧ after.logbook = later.logbook ∧
              after.issued = later.issued ∧ after.connection = later.connection)) ∧
    ∀ (client : Client) (purpose : Purpose),
      client.connection.generation < (client.carryOut purpose).connection.generation := by
  refine ⟨?_, ?_, Client.generation_lt_carryOut⟩
  · intro before between url opened later alive
    have opened_alive : opened.2.isAlive = true := isAlive_of_isAlive_run alive
    have before_alive : (new.run before).isAlive = true := isAlive_of_isAlive_apply opened_alive
    have opened_eq : opened = (.number ((new.run before).connection.generation + 1),
        (new.run before).withConnection ((new.run before).connection.dial url).2) := by
      simp only [opened, apply, before_alive, if_true]
      rfl
    have current : (new.run before).connection.generation + 1 = opened.2.connection.generation := by
      rw [opened_eq]
      rfl
    refine ⟨(new.run before).connection.generation + 1, by rw [opened_eq], ?_, ?_⟩
    · intro other
      refine ⟨later.connection.generation + 1, ?_, ?_⟩
      · simp only [apply, alive, if_true]
        rfl
      · rw [generation_run alive, ← current]
        omega
    · exact fun overtaken => refuses_of_overtaken current overtaken alive
  · intro settings limits wall actions more link client later member
    refine ⟨(Client.linked_run settings limits wall actions).reached link member,
      (Client.advance_run client more).generation_le, fun overtaken => ?_⟩
    have late := Connection.not_stands_of_lt overtaken
    refine ⟨late, Client.generationLost_of_late late, Client.generationRefused_of_late late, ?_⟩
    intro number method params
    rw [Client.handshake_of_late late]
    exact ⟨rfl, rfl, rfl, rfl⟩

end GatewayLink
