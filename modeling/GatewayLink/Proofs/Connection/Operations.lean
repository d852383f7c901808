import GatewayLink.Connection.Session

/-!
# What the operations of a connection come to

Letting go of an end of a channel, sending, receiving, and taking in what is reported about a
generation are listed here case by case: when each case occurs, and what the connection is then.
-/

namespace GatewayLink

namespace Connection

/-- The connection with a channel that was refused, whose sending end is gone. -/
def withRefusedChannel (connection : Connection) : Connection :=
  { connection with channels := connection.channels ++ [{ Channel.new with sending := false }] }

variable (connection : Connection) (channel generation : Nat)

theorem uninstall_cases :
    (connection.outbound = none ∧ connection.uninstall = connection) ∨
    ∃ channel, connection.outbound = some channel ∧
      connection.uninstall =
        { connection.updateChannel channel ({ · with sending := false }) with
          outbound := none } := by
  cases installed : connection.outbound with
  | none => exact .inl ⟨rfl, by simp [uninstall, installed]⟩
  | some channel => exact .inr ⟨channel, rfl, by simp [uninstall, installed]⟩

theorem establish_cases :
    (connection.stands generation = true ∧
      connection.establish generation =
        (true, connection.channels.length,
          { connection.uninstall with
            channels := connection.uninstall.channels ++ [Channel.new]
            outbound := some connection.channels.length }.publish
              { connection.current with status := .connected })) ∨
    (connection.stands generation = false ∧
      connection.establish generation =
        (false, connection.channels.length, connection.withRefusedChannel)) := by
  cases stands : connection.stands generation with
  | true => exact .inl ⟨rfl, by simp [establish, stands]⟩
  | false => exact .inr ⟨rfl, by simp [establish, stands, withRefusedChannel]⟩

theorem welcome_cases (welcome : Welcome) :
    (connection.stands generation = true ∧
      connection.welcome generation welcome =
        (true, connection.publish
          { connection.current with
            version := some welcome.version, session := some welcome.session })) ∨
    (connection.stands generation = false ∧
      connection.welcome generation welcome = (false, connection)) := by
  cases stands : connection.stands generation with
  | true => exact .inl ⟨rfl, by simp [Connection.welcome, stands]⟩
  | false => exact .inr ⟨rfl, by simp [Connection.welcome, stands]⟩

theorem lose_cases :
    (connection.stands generation = true ∧
      connection.lose generation =
        (true, connection.uninstall.publish
          { connection.current.withoutSession with status := .disconnected })) ∨
    (connection.stands generation = false ∧
      connection.lose generation = (false, connection)) := by
  cases stands : connection.stands generation with
  | true => exact .inl ⟨rfl, by simp [lose, stands]⟩
  | false => exact .inr ⟨rfl, by simp [lose, stands]⟩

/-- A text is queued in the installed channel if that has a receiving end. -/
theorem send_cases (text : String) :
    (∃ channel state, connection.outbound = some channel ∧
      connection.channels[channel]? = some state ∧ state.receiving = true ∧
      connection.send text =
        (.ok (), connection.updateChannel channel fun channel =>
          { channel with texts := channel.texts ++ [text] })) ∨
    ∃ cause, connection.send text = (.error cause, connection) ∧
      ∀ channel state, connection.outbound = some channel →
        connection.channels[channel]? = some state → state.receiving = false := by
  cases installed : connection.outbound with
  | none => exact .inr ⟨.notConnected, by simp [send, installed], by simp⟩
  | some channel =>
      cases found : connection.channels[channel]? with
      | none =>
          refine .inr ⟨.queueClosed, by simp [send, installed, found], ?_⟩
          rintro _ state ⟨⟩
          simp [found]
      | some state =>
          obtain ⟨texts, taken, sending, receiving⟩ := state
          cases receiving with
          | true => exact .inl ⟨channel, _, rfl, found, rfl, by simp [send, installed, found]⟩
          | false =>
              refine .inr ⟨.queueClosed, by simp [send, installed, found], ?_⟩
              rintro _ state ⟨⟩
              simp only [found, Option.some.injEq]
              rintro rfl
              rfl

theorem hangUp_cases :
    (∃ state, connection.channels[channel]? = some state ∧ state.receiving = true ∧
      connection.hangUp channel =
        (true, connection.updateChannel channel ({ · with receiving := false }))) ∨
    ((∀ state, connection.channels[channel]? = some state → state.receiving = false) ∧
      connection.hangUp channel = (false, connection)) := by
  cases found : connection.channels[channel]? with
  | none => exact .inr ⟨by simp, by simp [hangUp, found]⟩
  | some state =>
      obtain ⟨texts, taken, sending, receiving⟩ := state
      cases receiving with
      | true => exact .inl ⟨_, rfl, rfl, by simp [hangUp, found]⟩
      | false => exact .inr ⟨by simp, by simp [hangUp, found]⟩

theorem receive_cases :
    (∃ state, connection.channels[channel]? = some state ∧ state.receiving = true ∧
      connection.receive channel =
        (some (state.queued, !state.sending), connection.updateChannel channel fun channel =>
          { channel with taken := channel.texts.length })) ∨
    ((∀ state, connection.channels[channel]? = some state → state.receiving = false) ∧
      connection.receive channel = (none, connection)) := by
  cases found : connection.channels[channel]? with
  | none => exact .inr ⟨by simp, by simp [receive, found]⟩
  | some state =>
      cases held : state.receiving with
      | true => exact .inl ⟨state, rfl, held, by simp [receive, found, held]⟩
      | false => exact .inr ⟨by simp [held], by simp [receive, found, held]⟩

end Connection

end GatewayLink
