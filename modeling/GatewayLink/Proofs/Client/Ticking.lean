import GatewayLink.Proofs.Client.Sending

/-!
# What one step does to the ticker

Only a start, a stop and a close that are carried out, and the ticker itself, touch the ticker of a
client that is kept, and only the ticker makes calls in its own name.  Whatever else happens leaves
the ticker, its calls and the time that has passed as they are.
-/

namespace GatewayLink

/-- What can be asked of tickers. -/
inductive TickerCommand where
  | start (interval : Nat) (calls : List RepeatedCall)
  | stop
  /-- To begin, or to make the round that is due. -/
  | goOn

namespace Ticker

/-- A ticker that goes on at some time. -/
def goOn (ticker : Ticker) (now : Nat) : Ticker :=
  match ticker.due with
  | none => { ticker with due := some (now + ticker.interval) }
  | some due => if due ≤ now then { ticker with due := some (ticker.next due now) } else ticker

/-- The calls that a ticker makes when it goes on at some time. -/
def batch (ticker : Ticker) (now : Nat) : List Call :=
  match ticker.due with
  | none => []
  | some due => if due ≤ now then ticker.round else []

/-- The ticker that is there after a command. -/
def commanded (ticker : Option Ticker) (now : Nat) : Option TickerCommand → Option Ticker
  | some (.start interval calls) => some ⟨interval, calls, none⟩
  | some .stop => none
  | some .goOn => ticker.map (·.goOn now)
  | none => ticker

/-- The calls that are made on a command. -/
def madeOn (ticker : Option Ticker) (now : Nat) : Option TickerCommand → List Call
  | some .goOn => (ticker.map (·.batch now)).getD []
  | _ => []

section GoOn

variable (ticker : Ticker) (now : Nat)

@[simp] theorem interval_goOn : (ticker.goOn now).interval = ticker.interval := by
  unfold goOn
  split
  · rfl
  · split <;> rfl

@[simp] theorem calls_goOn : (ticker.goOn now).calls = ticker.calls := by
  unfold goOn
  split
  · rfl
  · split <;> rfl

/-- A round is never due earlier than it was. -/
theorem le_of_due_goOn {bound due : Nat} (begun : bound ≤ now)
    (later : ∀ due, ticker.due = some due → bound + ticker.interval ≤ due)
    (next : (ticker.goOn now).due = some due) : bound + ticker.interval ≤ due := by
  unfold goOn at next
  split at next
  · obtain rfl := Option.some.inj next
    exact Nat.add_le_add_right begun _
  · rename_i before was_due
    have earlier := later before was_due
    split at next
    · obtain rfl := Option.some.inj next
      unfold Ticker.next
      split <;> omega
    · rw [was_due] at next
      obtain rfl := Option.some.inj next
      exact earlier

theorem batch_eq :
    ticker.batch now = if ticker.due.any (· ≤ now) then ticker.round else [] := by
  unfold batch
  cases ticker.due <;> simp

theorem filter_batch :
    ((ticker.batch now).map Call.unbegun).filter (·.caller == .ticker) = ticker.batch now := by
  have own : (ticker.round.map Call.unbegun).filter (·.caller == .ticker) = ticker.round := by
    simp [Ticker.round, Call.unbegun, List.filter_eq_self.mpr]
  rw [batch_eq]
  split
  · exact own
  · rfl

end GoOn

end Ticker

namespace Client

/-- What a task that goes on asks of the ticker. -/
def Action.taskCommand? : Action → Option TickerCommand
  | .tick => some .goOn
  | _ => none

/-- What somebody who holds a client asks of its ticker; a start needs time between rounds. -/
def Action.command? : Action → Option TickerCommand
  | .startRefresh interval calls => if interval = 0 then none else some (.start interval calls)
  | .stopRefresh | .close => some .stop
  | action => action.taskCommand?

/-- What an action asks of the ticker of a client. -/
def command? (client : Client) (action : Action) : Option TickerCommand :=
  if client.isHeld then action.command?
  else if client.isAlive then action.taskCommand?
  else none

/-- The calls that tickers have made, oldest first, as they were made. -/
def ticked (client : Client) : List Call :=
  client.roster.filter (·.caller == .ticker)

/-- The ticker, the time that has passed, and the calls that tickers have made. -/
def pace (client : Client) : Option Ticker × Nat × List Call :=
  (client.ticker, client.clock.uptime, client.ticked)

/-! ## Operations that have nothing to do with the ticker -/

section Operations

variable (client : Client) (number : Nat)

theorem pace_setStage (stage : CallStage) :
    (client.setStage number stage).pace = client.pace := by
  rw [pace, ticked, roster_setStage]
  rfl

theorem pace_addCalls {calls : List Call} (others : ∀ call ∈ calls, call.caller ≠ .ticker) :
    (client.addCalls calls).pace = client.pace := by
  have none_ticked : (calls.map Call.unbegun).filter (·.caller == .ticker) = [] := by
    simpa [Call.unbegun] using others
  simp [pace, ticked, roster, addCalls, none_ticked]

theorem pace_start : (client.start number).pace = client.pace := by
  obtain ⟨call, -, -, began⟩ | ⟨-, unchanged⟩ := client.start_cases number
  · generalize client.start number = after at began
    cases began with
    | issued pacing after issued => cases issued <;> exact pace_setStage ..
    | _ => exact pace_setStage ..
  · rw [unchanged]

theorem pace_wake : (client.wake number).pace = client.pace := by
  obtain ⟨call, id, handle, since, -, -, woke⟩ | ⟨-, unchanged⟩ := client.wake_cases number
  · generalize client.wake number = after at woke
    cases woke with
    | unchanged => rfl
    | _ => exact pace_setStage ..
  · rw [unchanged]

theorem pace_inbound (text : String) : (client.inbound text).pace = client.pace := by
  obtain ⟨response, -, taken⟩ | ⟨-, event, taken⟩ | ⟨-, taken⟩ := client.inbound_cases text <;>
    rw [taken] <;> rfl

theorem pace_generationRefused (generation : Nat) (cause : TransportError) :
    (client.generationRefused generation cause).pace = client.pace := by
  obtain ⟨-, lost⟩ | ⟨-, lost⟩ := client.generationRefused_cases generation cause <;> rw [lost]
  rfl

theorem pace_generationLost (generation : Nat) (reason : String) :
    (client.generationLost generation reason).pace = client.pace := by
  obtain ⟨-, lost⟩ | ⟨-, lost⟩ := client.generationLost_cases generation reason <;> rw [lost]
  rfl

theorem pace_linkOpened : (client.linkOpened number).pace = client.pace := by
  obtain ⟨generation, url, -, -, opened⟩ | ⟨generation, url, -, -, opened⟩ | ⟨-, opened⟩ :=
    client.linkOpened_cases number
  · rw [opened]
    exact pace_addCalls _ (by simp [handshakeCall])
  · rw [opened]
    rfl
  · rw [opened]

theorem pace_linkFailed (cause : TransportError) :
    (client.linkFailed number cause).pace = client.pace := by
  obtain ⟨generation, url, -, failed⟩ | ⟨-, failed⟩ := client.linkFailed_cases number cause
  · rw [failed]
    exact pace_generationRefused ..
  · rw [failed]

theorem pace_received (item : Option StreamItem) :
    (client.received number item).pace = client.pace := by
  obtain ⟨text, -, -, received⟩ | ⟨-, generation, url, channel, reason, -, -, received⟩ |
    ⟨-, -, received⟩ := client.received_cases number item
  · rw [received]
    exact client.pace_inbound text
  · rw [received]
    exact pace_generationLost ..
  · rw [received]

theorem pace_runLink : (client.runLink number).pace = client.pace := by
  obtain ⟨-, ran⟩ | ⟨other, -, ran⟩ := client.runLink_cases number <;> rw [ran] <;> rfl

theorem pace_carryOut (purpose : Purpose) : (client.carryOut purpose).pace = client.pace := by
  cases purpose with
  | close => rfl
  | reopen url => exact pace_runLink ..

theorem pace_tearDown (purpose : Purpose) : (client.tearDown purpose).pace = client.pace := by
  obtain ⟨-, torn⟩ | ⟨link, -, -, torn⟩ := client.tearDown_cases purpose
  · rw [torn]
    exact pace_carryOut ..
  · rw [torn]
    rfl

theorem pace_resume : (client.resume number).pace = client.pace := by
  obtain ⟨-, resumed⟩ | ⟨purpose, -, resumed⟩ := client.resume_cases number
  · rw [resumed]
  · rw [resumed]
    exact pace_carryOut ..

end Operations

/-! ## Steps -/

/-- What a command does to a client while some time may pass. -/
structure Paced (command : Option TickerCommand) (before after : Client) : Prop where
  uptime_le : before.clock.uptime ≤ after.clock.uptime
  ticker : after.ticker = Ticker.commanded before.ticker before.clock.uptime command
  ticked : after.ticked = before.ticked ++ Ticker.madeOn before.ticker before.clock.uptime command

theorem paced_of_pace {before after : Client} (same : after.pace = before.pace) :
    Paced none before after := by
  obtain ⟨ticker, rest⟩ := Prod.mk.inj same
  obtain ⟨uptime, ticked⟩ := Prod.mk.inj rest
  exact ⟨Nat.le_of_eq uptime.symm, ticker, by rw [ticked]; exact (List.append_nil _).symm⟩

section Steps

variable (client : Client)

theorem paced_tick : Paced (some .goOn) client client.tick := by
  unfold tick
  split
  · rename_i none_there
    exact ⟨Nat.le_refl _, by simp [Ticker.commanded, none_there],
      by simp [Ticker.madeOn, none_there]⟩
  · rename_i ticker there
    have made := ticker.filter_batch client.clock.uptime
    dsimp only
    split
    · rename_i not_begun
      exact ⟨Nat.le_refl _, by simp [Ticker.commanded, there, Ticker.goOn, not_begun],
        by simp [Ticker.madeOn, there, Ticker.batch, not_begun, Client.ticked, roster]⟩
    · rename_i due was_due
      split
      · rename_i reached
        simp only [Ticker.batch, was_due, reached, if_true] at made
        exact ⟨Nat.le_refl _,
          by simp [Ticker.commanded, there, Ticker.goOn, was_due, reached, addCalls],
          by simp [Ticker.madeOn, there, Ticker.batch, was_due, reached, Client.ticked, roster,
            addCalls, made]⟩
      · rename_i early
        exact ⟨Nat.le_refl _, by simp [Ticker.commanded, there, Ticker.goOn, was_due, early],
          by simp [Ticker.madeOn, there, Ticker.batch, was_due, early]⟩

theorem paced_applyOutside (action : Action) : Paced none client (client.applyOutside action).2 := by
  cases action with
  | pass milliseconds => exact ⟨Nat.le_add_right .., rfl, (List.append_nil _).symm⟩
  | observe observer =>
      dsimp only [applyOutside]
      split <;> exact paced_of_pace rfl
  | _ => exact paced_of_pace rfl

theorem paced_applyTask (action : Action) :
    Paced action.taskCommand? client (client.applyTask action).2 := by
  cases action with
  | tick => exact client.paced_tick
  | start call => exact paced_of_pace (client.pace_start call)
  | wake call => exact paced_of_pace (client.pace_wake call)
  | resume teardown => exact paced_of_pace (client.pace_resume teardown)
  | linkOpened link => exact paced_of_pace (client.pace_linkOpened link)
  | linkFailed link cause => exact paced_of_pace (client.pace_linkFailed link cause)
  | received link item => exact paced_of_pace (client.pace_received link item)
  | _ => exact client.paced_applyOutside _

theorem paced_applyHeld (action : Action) :
    Paced action.command? client (client.applyHeld action).2 := by
  have as_task := client.paced_applyTask action
  cases action with
  | startRefresh interval calls =>
      by_cases zero : interval = 0
      · simpa [Action.command?, applyHeld, startRefresh, zero] using paced_of_pace rfl
      · simpa [Action.command?, applyHeld, startRefresh, zero] using
          (⟨Nat.le_refl _, rfl, (List.append_nil _).symm⟩ :
            Paced (some (.start interval calls)) client
              { client with ticker := some ⟨interval, calls, none⟩ })
  | stopRefresh => exact ⟨Nat.le_refl _, rfl, (List.append_nil _).symm⟩
  | close =>
      have torn_down := paced_of_pace (pace_tearDown { client with ticker := none } .close)
      exact ⟨torn_down.uptime_le, torn_down.ticker, torn_down.ticked⟩
  | connect url => exact paced_of_pace (client.pace_tearDown (.reopen url))
  | inbound text => exact paced_of_pace (client.pace_inbound text)
  | call method params => exact paced_of_pace (client.pace_addCalls (by simp))
  | setGap gap => exact paced_of_pace rfl
  | subscribe => exact paced_of_pace rfl
  | watch => exact paced_of_pace rfl
  | drop => exact paced_of_pace rfl
  | _ => exact as_task

theorem pace_dissolve :
    client.dissolve.pace =
      (if client.isAlive then client.ticker else none, client.clock.uptime, client.ticked) := by
  unfold dissolve
  cases client.isAlive with
  | true => rfl
  | false => cases task : client.connection.task <;> simp [Connection.unassign, task] <;> rfl

/-- What a step does to the ticker: what was asked of it, unless the client comes to its end. -/
theorem paced_step (action : Action) :
    client.clock.uptime ≤ (client.step action).clock.uptime ∧
      (client.step action).ticker =
        (if (client.step action).isAlive then
          Ticker.commanded client.ticker client.clock.uptime (client.command? action)
        else none) ∧
      (client.step action).ticked =
        client.ticked ++
          Ticker.madeOn client.ticker client.clock.uptime (client.command? action) := by
  obtain ⟨after, carried, step⟩ : ∃ after, Paced (client.command? action) client after ∧
      client.step action = after.dissolve := by
    refine ⟨_, ?_, client.step_eq action⟩
    unfold command?
    split
    · exact client.paced_applyHeld action
    · split
      · exact client.paced_applyTask action
      · exact client.paced_applyOutside action
  obtain ⟨ticker, rest⟩ := Prod.mk.inj after.pace_dissolve
  obtain ⟨uptime, ticked⟩ := Prod.mk.inj rest
  rw [step, ticker, uptime, ticked, isAlive_dissolve, carried.ticker]
  exact ⟨carried.uptime_le, rfl, carried.ticked⟩

end Steps

end Client

end GatewayLink
