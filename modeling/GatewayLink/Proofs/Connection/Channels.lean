import GatewayLink.Proofs.Connection.Generation

/-!
# What is queued in the channels

A text is queued only where it is sent, in the channel that is installed.  Whatever else happens to
a connection leaves the texts of all channels alone, and no channel that was ever offered gets its
receiving end back.
-/

namespace GatewayLink

namespace Connection

/-- The texts that were queued in a channel, oldest first. -/
def textsOf (connection : Connection) (channel : Nat) : List String :=
  (connection.channels[channel]?.map Channel.texts).getD []

/-- Whether a channel has a receiving end. -/
def hasReceiver (connection : Connection) (channel : Nat) : Bool :=
  (connection.channels[channel]?.map Channel.receiving).getD false

section Texts

variable (connection : Connection) (channel generation : Nat)

theorem textsOf_updateChannel (update : Channel → Channel)
    (kept : ∀ state, (update state).texts = state.texts) :
    (connection.updateChannel channel update).textsOf = connection.textsOf := by
  funext other
  simp only [textsOf, updateChannel, List.getElem?_modify]
  by_cases same : channel = other <;> cases connection.channels[other]? <;> simp [same, kept]

@[simp] theorem textsOf_publish (snapshot : Snapshot) :
    (connection.publish snapshot).textsOf = connection.textsOf := rfl

@[simp] theorem textsOf_uninstall : connection.uninstall.textsOf = connection.textsOf := by
  obtain ⟨-, uninstalled⟩ | ⟨channel, -, uninstalled⟩ := connection.uninstall_cases
  · rw [uninstalled]
  · rw [uninstalled]
    exact connection.textsOf_updateChannel _ _ fun _ => rfl

@[simp] theorem textsOf_dial (url : String) :
    (connection.dial url).2.textsOf = connection.textsOf :=
  connection.textsOf_uninstall

@[simp] theorem textsOf_supersede : connection.supersede.textsOf = connection.textsOf :=
  connection.textsOf_uninstall

@[simp] theorem textsOf_lose : (connection.lose generation).2.textsOf = connection.textsOf := by
  obtain ⟨-, lost⟩ | ⟨-, lost⟩ := connection.lose_cases generation
  · rw [lost]
    exact connection.textsOf_uninstall
  · rw [lost]

@[simp] theorem textsOf_welcome (welcome : Welcome) :
    (connection.welcome generation welcome).2.textsOf = connection.textsOf := by
  obtain ⟨-, welcomed⟩ | ⟨-, welcomed⟩ := connection.welcome_cases generation welcome <;>
    rw [welcomed]
  rfl

theorem textsOf_append {before after : Connection} {fresh : Channel} (empty : fresh.texts = [])
    (channels : after.channels = before.channels ++ [fresh]) : after.textsOf = before.textsOf := by
  funext other
  simp only [textsOf, channels]
  rcases Nat.lt_trichotomy other before.channels.length with known | rfl | beyond
  · rw [List.getElem?_append_left known]
  · simp [empty]
  · rw [List.getElem?_eq_none (by rw [List.length_append]; exact beyond),
      List.getElem?_eq_none (Nat.le_of_lt beyond)]

@[simp] theorem textsOf_establish :
    (connection.establish generation).2.2.textsOf = connection.textsOf := by
  obtain ⟨-, established⟩ | ⟨-, established⟩ := connection.establish_cases generation
  · rw [established, ← connection.textsOf_uninstall]
    exact @textsOf_append connection.uninstall _ .new rfl rfl
  · rw [established]
    exact textsOf_append rfl rfl

@[simp] theorem textsOf_hangUp : (connection.hangUp channel).2.textsOf = connection.textsOf := by
  obtain ⟨state, -, -, hung_up⟩ | ⟨-, hung_up⟩ := connection.hangUp_cases channel
  · rw [hung_up]
    exact connection.textsOf_updateChannel _ _ fun _ => rfl
  · rw [hung_up]

@[simp] theorem textsOf_receive : (connection.receive channel).2.textsOf = connection.textsOf := by
  obtain ⟨state, -, -, received⟩ | ⟨-, received⟩ := connection.receive_cases channel
  · rw [received]
    exact connection.textsOf_updateChannel _ _ fun _ => rfl
  · rw [received]

end Texts

section Receivers

variable (connection : Connection) (channel generation : Nat)

theorem hasReceiver_updateChannel (update : Channel → Channel)
    (kept : ∀ state, (update state).receiving = state.receiving) :
    (connection.updateChannel channel update).hasReceiver = connection.hasReceiver := by
  funext other
  simp only [hasReceiver, updateChannel, List.getElem?_modify]
  by_cases same : channel = other <;> cases connection.channels[other]? <;> simp [same, kept]

@[simp] theorem hasReceiver_publish (snapshot : Snapshot) :
    (connection.publish snapshot).hasReceiver = connection.hasReceiver := rfl

@[simp] theorem hasReceiver_uninstall :
    connection.uninstall.hasReceiver = connection.hasReceiver := by
  obtain ⟨-, uninstalled⟩ | ⟨channel, -, uninstalled⟩ := connection.uninstall_cases
  · rw [uninstalled]
  · rw [uninstalled]
    exact connection.hasReceiver_updateChannel _ _ fun _ => rfl

@[simp] theorem hasReceiver_dial (url : String) :
    (connection.dial url).2.hasReceiver = connection.hasReceiver :=
  connection.hasReceiver_uninstall

@[simp] theorem hasReceiver_supersede :
    connection.supersede.hasReceiver = connection.hasReceiver :=
  connection.hasReceiver_uninstall

@[simp] theorem hasReceiver_lose :
    (connection.lose generation).2.hasReceiver = connection.hasReceiver := by
  obtain ⟨-, lost⟩ | ⟨-, lost⟩ := connection.lose_cases generation
  · rw [lost]
    exact connection.hasReceiver_uninstall
  · rw [lost]

@[simp] theorem hasReceiver_welcome (welcome : Welcome) :
    (connection.welcome generation welcome).2.hasReceiver = connection.hasReceiver := by
  obtain ⟨-, welcomed⟩ | ⟨-, welcomed⟩ := connection.welcome_cases generation welcome <;>
    rw [welcomed]
  rfl

@[simp] theorem hasReceiver_receive :
    (connection.receive channel).2.hasReceiver = connection.hasReceiver := by
  obtain ⟨state, -, -, received⟩ | ⟨-, received⟩ := connection.receive_cases channel
  · rw [received]
    exact connection.hasReceiver_updateChannel _ _ fun _ => rfl
  · rw [received]

/-- To hang up takes away the receiving end of one channel. -/
theorem hasReceiver_hangUp (other : Nat) :
    (connection.hangUp channel).2.hasReceiver other =
      (connection.hasReceiver other && channel != other) := by
  obtain ⟨state, found, -, hung_up⟩ | ⟨unheld, hung_up⟩ := connection.hangUp_cases channel
  · rw [hung_up]
    by_cases same : channel = other
    · subst same
      simp [hasReceiver, updateChannel, found]
    · simp [hasReceiver, updateChannel, same]
  · rw [hung_up]
    by_cases same : channel = other
    · subst same
      cases found : connection.channels[channel]? with
      | none => simp [hasReceiver, found]
      | some state => simp [hasReceiver, found, unheld state found]
    · simp [same]

/-- A channel that is offered too late has no receiving end once it is hung up. -/
theorem hasReceiver_refused (late : connection.stands generation = false) :
    ((connection.establish generation).2.2.hangUp (connection.establish generation).2.1).2.hasReceiver
      = connection.hasReceiver := by
  rw [establish_of_not_stands late]
  funext other
  rw [hasReceiver_hangUp]
  simp only [hasReceiver, withRefusedChannel]
  rcases Nat.lt_trichotomy other connection.channels.length with known | rfl | beyond
  · simp [List.getElem?_append_left known, Nat.ne_of_gt known]
  · simp
  · rw [List.getElem?_eq_none (by rw [List.length_append]; exact beyond),
      List.getElem?_eq_none (Nat.le_of_lt beyond)]
    rfl

end Receivers

/-- A text that is sent is queued in the installed channel, which has a receiving end. -/
theorem textsOf_send {connection sent : Connection} {text : String}
    (sends : connection.send text = (.ok (), sent)) :
    ∃ channel, connection.outbound = some channel ∧ connection.hasReceiver channel = true ∧
      sent.hasReceiver = connection.hasReceiver ∧
      ∀ other, sent.textsOf other =
        if other = channel then connection.textsOf channel ++ [text] else connection.textsOf other := by
  obtain ⟨channel, state, installed, found, held, sent_eq⟩ | ⟨cause, sent_eq, -⟩ :=
    connection.send_cases text
  · obtain ⟨-, rfl⟩ := Prod.mk.inj (sends.symm.trans sent_eq)
    refine ⟨channel, installed, by simp [hasReceiver, found, held],
      connection.hasReceiver_updateChannel _ _ fun _ => rfl, fun other => ?_⟩
    by_cases same : other = channel
    · subst same
      simp [textsOf, updateChannel, found]
    · simp [textsOf, updateChannel, same, Ne.symm same]
  · cases sends.symm.trans sent_eq

/-- A text is refused only where no channel is installed or its receiving end is gone. -/
theorem hasReceiver_of_send_error {connection : Connection} {text : String} {cause : TransportError}
    {channel : Nat} (installed : connection.outbound = some channel)
    (fails : (connection.send text).1 = .error cause) : connection.hasReceiver channel = false := by
  obtain ⟨other, state, -, -, -, sent⟩ | ⟨-, -, unheld⟩ := connection.send_cases text
  · rw [sent] at fails
    cases fails
  · cases found : connection.channels[channel]? with
    | none => simp [hasReceiver, found]
    | some state => simp [hasReceiver, found, unheld channel state installed found]

end Connection

end GatewayLink
