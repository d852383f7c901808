import GatewayLink.Proofs.Client.Linking

/-!
# What stays unless a client is opened or closed

The generation of a connection and its address, its links and what waits for a link to end change
only when the client is opened or closed, or goes on with what has waited.  Everything else leaves
them alone, and no ticker starts by itself.
-/

namespace GatewayLink

namespace Connection

/-- The address and the generation of a connection, and the task that runs it. -/
def aim (connection : Connection) : Option String × Nat × Option Nat :=
  (connection.current.url, connection.generation, connection.task)

section Aim

variable (connection : Connection) (channel generation : Nat)

@[simp] theorem aim_uninstall : connection.uninstall.aim = connection.aim := by
  obtain ⟨-, uninstalled⟩ | ⟨channel, -, uninstalled⟩ := connection.uninstall_cases <;>
    rw [uninstalled]
  rfl

theorem aim_send {sent : Connection} {text : String}
    (sends : connection.send text = (.ok (), sent)) : sent.aim = connection.aim := by
  obtain ⟨channel, state, -, -, -, sent⟩ | ⟨cause, sent, -⟩ := connection.send_cases text
  · obtain ⟨-, rfl⟩ := Prod.mk.inj (sends.symm.trans sent)
    rfl
  · cases sends.symm.trans sent

@[simp] theorem aim_welcome (welcome : Welcome) :
    (connection.welcome generation welcome).2.aim = connection.aim := by
  obtain ⟨-, welcomed⟩ | ⟨-, welcomed⟩ := connection.welcome_cases generation welcome <;>
    rw [welcomed]
  rfl

@[simp] theorem aim_lose : (connection.lose generation).2.aim = connection.aim := by
  obtain ⟨-, lost⟩ | ⟨-, lost⟩ := connection.lose_cases generation
  · rw [lost]
    simpa [aim, publish, Snapshot.withoutSession] using connection.aim_uninstall
  · rw [lost]

@[simp] theorem aim_establish : (connection.establish generation).2.2.aim = connection.aim := by
  obtain ⟨-, established⟩ | ⟨-, established⟩ := connection.establish_cases generation
  · rw [established]
    simpa [aim, publish] using connection.aim_uninstall
  · rw [established]
    rfl

@[simp] theorem aim_hangUp : (connection.hangUp channel).2.aim = connection.aim := by
  obtain ⟨state, -, -, hung_up⟩ | ⟨-, hung_up⟩ := connection.hangUp_cases channel <;> rw [hung_up]
  rfl

@[simp] theorem aim_receive : (connection.receive channel).2.aim = connection.aim := by
  obtain ⟨state, -, -, received⟩ | ⟨-, received⟩ := connection.receive_cases channel <;>
    rw [received]
  rfl

end Aim

end Connection

namespace Client

/-- Whether an action opens or closes the connection or starts a ticker. -/
def Action.intervenes : Action → Bool
  | .connect _ | .close | .startRefresh .. => true
  | _ => false

/-- Whether an action carries out what has waited for a link to end. -/
def Action.resumes : Action → Bool
  | .resume _ => true
  | _ => false

/-- Nothing was opened or closed. -/
structure Stays (before after : Client) : Prop where
  teardowns : after.teardowns = before.teardowns
  ticker : before.ticker = none → after.ticker = none
  aim : before.connection.task = none → after.connection.aim = before.connection.aim
  generations : after.links.map Link.generation = before.links.map Link.generation

namespace Stays

variable {before middle after : Client}

theorem refl (client : Client) : Stays client client :=
  ⟨rfl, id, fun _ => rfl, rfl⟩

theorem trans (first : Stays before middle) (second : Stays middle after) : Stays before after where
  teardowns := second.teardowns.trans first.teardowns
  ticker := fun stopped => second.ticker (first.ticker stopped)
  aim := by
    intro idle
    have same := first.aim idle
    have task : middle.connection.task = before.connection.task :=
      congrArg (fun aim => aim.2.2) same
    exact (second.aim (task.trans idle)).trans same
  generations := second.generations.trans first.generations

theorem of_aim (teardowns : after.teardowns = before.teardowns) (ticker : after.ticker = before.ticker)
    (aim : after.connection.aim = before.connection.aim)
    (links : Settled before.links after.links) : Stays before after :=
  ⟨teardowns, fun stopped => ticker.trans stopped, fun _ => aim, links.generations⟩

end Stays

section Operations

variable (client : Client) (number : Nat)

theorem stays_dissolve : Stays client client.dissolve := by
  obtain same | ⟨links, kept, same⟩ := client.dissolve_cases
  · rw [same]
    exact .refl client
  · rw [same]
    refine ⟨rfl, fun _ => rfl, fun idle => ?_, ?_⟩
    · refine (Connection.aim_uninstall _).trans ?_
      simp [Connection.aim, idle]
    · obtain rfl | ⟨link, rfl⟩ := kept
      · rfl
      · exact (Settled.modify client.links link .ended (by simp)).generations

theorem stays_setLink (stage : LinkStage) (ahead : stage ≠ .connecting) :
    Stays client (client.setLink number stage) :=
  .of_aim rfl rfl rfl (.modify client.links number stage ahead)

theorem calls_carryOut (purpose : Purpose) :
    (client.carryOut purpose).calls = client.calls ∧
      (client.carryOut purpose).teardowns = client.teardowns := by
  cases purpose with
  | close => exact ⟨rfl, rfl⟩
  | reopen url =>
      dsimp only [carryOut, runLink, Connection.assign]
      split <;> exact ⟨rfl, rfl⟩

theorem stays_start : Stays client (client.start number) := by
  obtain ⟨call, -, -, began⟩ | ⟨-, unchanged⟩ := client.start_cases number
  · generalize client.start number = after at began
    cases began with
    | issued pacing after issued =>
        cases issued with
        | sent free connection sends => exact .of_aim rfl rfl (client.connection.aim_send sends) (.refl _)
        | _ => exact .of_aim rfl rfl rfl (.refl _)
    | _ => exact .of_aim rfl rfl rfl (.refl _)
  · rw [unchanged]
    exact .refl client

theorem stays_wake : Stays client (client.wake number) := by
  obtain ⟨call, id, handle, since, -, -, woke⟩ | ⟨-, unchanged⟩ := client.wake_cases number
  · generalize client.wake number = after at woke
    cases woke with
    | concluded response seen connection welcomed =>
        obtain rfl | ⟨generation, welcome, rfl⟩ := welcomed
        · exact .of_aim rfl rfl rfl (.refl _)
        · exact .of_aim rfl rfl (client.connection.aim_welcome generation welcome) (.refl _)
    | abandoned seen => exact .of_aim rfl rfl rfl (.refl _)
    | unchanged seen => exact .refl client
  · rw [unchanged]
    exact .refl client

theorem stays_inbound (text : String) : Stays client (client.inbound text) := by
  obtain ⟨response, -, taken⟩ | ⟨-, event, taken⟩ | ⟨-, taken⟩ := client.inbound_cases text <;>
    rw [taken] <;> exact .of_aim rfl rfl rfl (.refl _)

theorem stays_generationRefused (generation : Nat) (cause : TransportError) :
    Stays client (client.generationRefused generation cause) := by
  obtain ⟨-, lost⟩ | ⟨-, lost⟩ := client.generationRefused_cases generation cause
  · rw [lost]
    exact .of_aim rfl rfl (client.connection.aim_lose generation) (.refl _)
  · rw [lost]
    exact .refl client

theorem stays_generationLost (generation : Nat) (reason : String) :
    Stays client (client.generationLost generation reason) := by
  obtain ⟨-, lost⟩ | ⟨-, lost⟩ := client.generationLost_cases generation reason
  · rw [lost]
    exact .of_aim rfl rfl (client.connection.aim_lose generation) (.refl _)
  · rw [lost]
    exact .refl client

theorem stays_linkOpened : Stays client (client.linkOpened number) := by
  obtain ⟨generation, url, -, -, opened⟩ | ⟨generation, url, -, -, opened⟩ | ⟨-, opened⟩ :=
    client.linkOpened_cases number
  · rw [opened]
    exact .of_aim rfl rfl (client.connection.aim_establish generation)
      (.modify client.links number (.receiving client.connection.channels.length) (by simp))
  · rw [opened]
    exact .of_aim rfl rfl (client.connection.withRefusedChannel.aim_hangUp _)
      (.modify client.links number .ended (by simp))
  · rw [opened]
    exact .refl client

theorem stays_linkFailed (cause : TransportError) :
    Stays client (client.linkFailed number cause) := by
  obtain ⟨generation, url, -, failed⟩ | ⟨-, failed⟩ := client.linkFailed_cases number cause
  · rw [failed]
    exact (client.stays_setLink number .ended (by simp)).trans (stays_generationRefused ..)
  · rw [failed]
    exact .refl client

theorem stays_received (item : Option StreamItem) : Stays client (client.received number item) := by
  obtain ⟨text, -, -, received⟩ | ⟨-, generation, url, channel, reason, -, -, received⟩ |
    ⟨-, -, received⟩ := client.received_cases number item
  · rw [received]
    exact client.stays_inbound text
  · rw [received]
    exact (client.stays_setLink number .ended (by simp)).trans (stays_generationLost ..)
  · rw [received]
    exact .refl client

theorem stays_tick : Stays client client.tick := by
  obtain ⟨ticker, calls, ticked, stopped, -⟩ := client.tick_eq
  rw [ticked]
  exact ⟨rfl, stopped, fun _ => rfl, rfl⟩

theorem stays_applyOutside (action : Action) : Stays client (client.applyOutside action).2 := by
  cases action with
  | pump channel => exact .of_aim rfl rfl (client.connection.aim_receive channel) (.refl _)
  | hangUp channel => exact .of_aim rfl rfl (client.connection.aim_hangUp channel) (.refl _)
  | observe observer =>
      dsimp only [applyOutside]
      split
      · exact .of_aim rfl rfl rfl (.refl _)
      · exact .refl client
  | _ => exact .of_aim rfl rfl rfl (.refl _)

theorem stays_applyTask (action : Action) (waits : action.resumes = false) :
    Stays client (client.applyTask action).2 := by
  cases action with
  | start call => exact client.stays_start call
  | wake call => exact client.stays_wake call
  | resume teardown => cases waits
  | linkOpened link => exact client.stays_linkOpened link
  | linkFailed link cause => exact client.stays_linkFailed link cause
  | received link item => exact client.stays_received link item
  | tick => exact client.stays_tick
  | _ => exact client.stays_applyOutside _

theorem stays_applyHeld (action : Action) (calm : action.intervenes = false)
    (waits : action.resumes = false) : Stays client (client.applyHeld action).2 := by
  cases action with
  | connect url => cases calm
  | close => cases calm
  | startRefresh interval calls => cases calm
  | inbound text => exact client.stays_inbound text
  | stopRefresh => exact ⟨rfl, fun _ => rfl, fun _ => rfl, rfl⟩
  | call method params => exact .of_aim rfl rfl rfl (.refl _)
  | setGap gap => exact .of_aim rfl rfl rfl (.refl _)
  | subscribe => exact .of_aim rfl rfl rfl (.refl _)
  | watch => exact .of_aim rfl rfl rfl (.refl _)
  | drop => exact .of_aim rfl rfl rfl (.refl _)
  | _ => exact client.stays_applyTask _ waits

theorem stays_step (action : Action) (calm : action.intervenes = false)
    (waits : action.resumes = false) : Stays client (client.step action) := by
  rw [step_eq]
  refine Stays.trans ?_ (stays_dissolve _)
  split
  · exact client.stays_applyHeld action calm waits
  · split
    · exact client.stays_applyTask action waits
    · exact client.stays_applyOutside action

end Operations

theorem step_resume (client : Client) (number : Nat) :
    client.step (.resume number) = (client.resume number).dissolve := by
  rw [step_eq]
  split
  · rfl
  · split
    · rfl
    · rename_i dead
      have alone : client.teardowns = [] := by
        simp only [isAlive, Bool.or_eq_true, not_or] at dead
        simpa using dead.1.2
      simp [resume, alone, applyOutside]


end Client

end GatewayLink
