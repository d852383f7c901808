import GatewayLink.Proofs.Client.Fate
import GatewayLink.Proofs.Client.Ledger

/-!
# Calls that can be forgotten

A call that is over has no part in what the client does any more.  Once it is struck off the list,
the calls after it move up by one place, and under their new numbers everything goes on as it would
have done with the call still there.
-/

namespace GatewayLink

namespace Client

/-- The client without one of its calls. -/
def forget (client : Client) (number : Nat) : Client :=
  { client with calls := client.calls.eraseIdx number }

/-- The number of another call once a call has been struck off. -/
def movedUp (number other : Nat) : Nat :=
  if other < number then other else other - 1

/-- An action under the numbers that the calls have once a call has been struck off. -/
def Action.movedUp (number : Nat) : Action → Action
  | .start other => .start (Client.movedUp number other)
  | .wake other => .wake (Client.movedUp number other)
  | action => action

/-- A run without a call: the steps of the call are left out, and the later calls have moved up. -/
def without (number : Nat) (actions : List Action) : List Action :=
  (actions.filter (·.mover? != some number)).map (Action.movedUp number)

/-- A call is over. -/
def IsOver (client : Client) (number : Nat) : Prop :=
  ∃ call, client.calls[number]? = some call ∧ call.isActive = false

variable {client : Client} {number other : Nat}

/-! ## What is left -/

section Frame

variable (client number)

@[simp] theorem connection_forget : (client.forget number).connection = client.connection := rfl

@[simp] theorem inFlight_forget : (client.forget number).inFlight = client.inFlight := rfl

@[simp] theorem pacing_forget : (client.forget number).pacing = client.pacing := rfl

@[simp] theorem issued_forget : (client.forget number).issued = client.issued := rfl

@[simp] theorem minGap_forget : (client.forget number).minGap = client.minGap := rfl

@[simp] theorem now_forget : (client.forget number).now = client.now := rfl

@[simp] theorem clock_forget : (client.forget number).clock = client.clock := rfl

@[simp] theorem ticker_forget : (client.forget number).ticker = client.ticker := rfl

@[simp] theorem links_forget : (client.forget number).links = client.links := rfl

@[simp] theorem teardowns_forget : (client.forget number).teardowns = client.teardowns := rfl

@[simp] theorem isHeld_forget : (client.forget number).isHeld = client.isHeld := rfl

end Frame

theorem getElem?_forget (apart : other ≠ number) :
    (client.forget number).calls[movedUp number other]? = client.calls[other]? := by
  unfold forget movedUp
  rw [List.getElem?_eraseIdx]
  by_cases before : other < number
  · simp [before]
  · have ahead : ¬other - 1 < number := by omega
    have next : other - 1 + 1 = other := by omega
    simp [before, ahead, next]

theorem forget_setStage (apart : other ≠ number) (stage : CallStage) :
    (client.setStage other stage).forget number =
      (client.forget number).setStage (movedUp number other) stage := by
  unfold forget movedUp setStage
  by_cases before : other < number
  · simp [before, List.eraseIdx_modify_of_gt _ _ _ _ before]
  · have after : number < other := by omega
    simp [before, List.eraseIdx_modify_of_lt _ _ _ _ after]

theorem forget_setStage_self (stage : CallStage) :
    (client.setStage number stage).forget number = client.forget number := by
  simp [forget, setStage, List.eraseIdx_modify_of_eq]

theorem forget_addCalls (known : number < client.calls.length) (fresh : List Call) :
    (client.addCalls fresh).forget number = (client.forget number).addCalls fresh := by
  simp [forget, addCalls, List.eraseIdx_append_of_lt_length known]

theorem IsOver.known (finished : client.IsOver number) : number < client.calls.length :=
  finished.elim fun _ found => (List.getElem?_eq_some_iff.mp found.1).1

/-- A call that is over does not keep the client. -/
theorem isAlive_forget (finished : client.IsOver number) :
    (client.forget number).isAlive = client.isAlive := by
  obtain ⟨call, found, inactive⟩ := finished
  obtain ⟨known, call_eq⟩ := List.getElem?_eq_some_iff.mp found
  have split : client.calls =
      client.calls.take number ++ call :: client.calls.drop (number + 1) := by
    rw [← call_eq, List.getElem_cons_drop, List.take_append_drop]
  have same_any : (client.calls.eraseIdx number).any Call.isActive =
      client.calls.any Call.isActive := by
    rw [congrArg (List.any · Call.isActive) split, List.eraseIdx_eq_take_drop_succ]
    simp [inactive]
  unfold isAlive forget
  rw [same_any]

theorem forget_dissolve (finished : client.IsOver number) :
    client.dissolve.forget number = (client.forget number).dissolve := by
  unfold dissolve
  rw [isAlive_forget finished]
  split
  · rfl
  · cases task : client.connection.task with
    | none => simp [forget, Connection.unassign, task]
    | some link => simp [forget, Connection.unassign, task, setLink]

/-! ## Operations of other tasks -/

section Operations

variable (client number)

theorem forget_inbound (text : String) :
    (client.inbound text).forget number = (client.forget number).inbound text := by
  unfold inbound
  split <;> rfl

theorem forget_generationRefused (generation : Nat) (cause : TransportError) :
    (client.generationRefused generation cause).forget number =
      (client.forget number).generationRefused generation cause := by
  unfold generationRefused
  rw [connection_forget]
  split <;> rfl

theorem forget_generationLost (generation : Nat) (reason : String) :
    (client.generationLost generation reason).forget number =
      (client.forget number).generationLost generation reason := by
  unfold generationLost
  rw [connection_forget]
  split <;> rfl

theorem forget_linkOpened (known : number < client.calls.length) (link : Nat) :
    (client.linkOpened link).forget number = (client.forget number).linkOpened link := by
  unfold linkOpened
  rw [links_forget, connection_forget]
  split
  · split
    · refine forget_addCalls ?_ _
      exact known
    · rfl
  · rfl

theorem forget_linkFailed (link : Nat) (cause : TransportError) :
    (client.linkFailed link cause).forget number =
      (client.forget number).linkFailed link cause := by
  unfold linkFailed
  rw [links_forget]
  split
  · exact forget_generationRefused (client.setLink link .ended) number _ cause
  · rfl

theorem forget_received (link : Nat) (item : Option StreamItem) :
    (client.received link item).forget number = (client.forget number).received link item := by
  unfold received
  rw [links_forget]
  split
  · split
    · rfl
    · exact client.forget_inbound number _
    · split
      · rfl
      · exact forget_generationLost (client.setLink link .ended) number ..
  · rfl

theorem forget_runLink (link : Nat) :
    (client.runLink link).forget number = (client.forget number).runLink link := by
  unfold runLink Connection.assign
  rw [connection_forget]
  cases client.connection.task <;> rfl

theorem forget_carryOut (purpose : Purpose) :
    (client.carryOut purpose).forget number = (client.forget number).carryOut purpose := by
  cases purpose with
  | close => rfl
  | reopen url => exact forget_runLink _ number _

theorem forget_tearDown (purpose : Purpose) :
    (client.tearDown purpose).forget number = (client.forget number).tearDown purpose := by
  unfold tearDown Connection.unassign
  rw [connection_forget]
  cases client.connection.task with
  | none => exact forget_carryOut _ number purpose
  | some link =>
      have same_runs (connection : Connection) :
          linkRuns { client.forget number with connection } link =
            linkRuns { client with connection } link := rfl
      dsimp only
      rw [same_runs]
      split
      · rfl
      · exact forget_carryOut _ number purpose

theorem forget_resume (teardown : Nat) :
    (client.resume teardown).forget number = (client.forget number).resume teardown := by
  unfold resume
  rw [teardowns_forget]
  split
  · rfl
  · exact forget_carryOut _ number _

theorem forget_tick (known : number < client.calls.length) :
    client.tick.forget number = (client.forget number).tick := by
  unfold tick
  rw [ticker_forget, clock_forget]
  split
  · rfl
  · split
    · rfl
    · dsimp only
      split
      · refine forget_addCalls ?_ _
        exact known
      · rfl

end Operations

/-! ## Other calls -/

section Calls

variable (apart : other ≠ number)

include apart

theorem forget_refuse (cause : ClientError) (method : String) (status : CallStatus)
    (duration : Option UInt64) (text : String) (severity : Severity) :
    (client.refuse other cause method status duration text severity).forget number =
      (client.forget number).refuse (movedUp number other) cause method status duration text
        severity :=
  forget_setStage apart _

theorem forget_fail (id method : String) (since : Nat) (text : String) (cause : ClientError) :
    (client.fail other id method since text cause).forget number =
      (client.forget number).fail (movedUp number other) id method since text cause :=
  forget_setStage apart _

theorem forget_sendRequest (request : Request) (handle : Handle) :
    (client.sendRequest other request handle).forget number =
      (client.forget number).sendRequest (movedUp number other) request handle := by
  have sent : (client.forget number).transmit request =
      ((client.transmit request).1, (client.transmit request).2.forget number) := rfl
  unfold sendRequest
  rw [sent]
  cases client.transmit request with
  | mk result after =>
      cases result with
      | ok value => exact forget_setStage apart _
      | error cause => exact forget_fail apart ..

theorem forget_issue (method : String) (params : Json) :
    (client.issue other method params).forget number =
      (client.forget number).issue (movedUp number other) method params := by
  have taken : (client.forget number).takeId =
      (client.takeId.1, client.takeId.2.forget number) := rfl
  have registered (client : Client) (id : String) : (client.forget number).register id method =
      ((client.register id method).1, (client.register id method).2.forget number) := rfl
  unfold issue
  rw [taken]
  dsimp only
  rw [registered]
  cases client.takeId.2.register client.takeId.1 method with
  | mk result after =>
      cases result with
      | ok handle => exact forget_sendRequest apart ..
      | error cause => exact forget_setStage apart _

theorem forget_attempt (method : String) (params : Json) :
    (client.attempt other method params).forget number =
      (client.forget number).attempt (movedUp number other) method params := by
  unfold attempt
  rw [connection_forget, pacing_forget, minGap_forget, now_forget]
  split
  · exact forget_refuse apart ..
  · split
    · exact forget_issue apart ..
    · split
      · exact forget_setStage apart _
      · exact forget_refuse apart ..

theorem forget_handshake (generation : Nat) (method : String) (params : Json) :
    (client.handshake other generation method params).forget number =
      (client.forget number).handshake (movedUp number other) generation method params := by
  unfold handshake
  rw [connection_forget]
  split
  · exact forget_issue apart ..
  · exact forget_setStage apart _

theorem forget_start :
    (client.start other).forget number = (client.forget number).start (movedUp number other) := by
  unfold start
  rw [getElem?_forget apart]
  split
  · exact forget_handshake apart ..
  · exact forget_attempt apart ..
  · rfl

theorem forget_conclude (caller : Caller) (id method : String) (since : Nat)
    (response : Response) :
    (client.conclude other caller id method since response).forget number =
      (client.forget number).conclude (movedUp number other) caller id method since response := by
  have entered (client : Client) (payload : Json) :
      (client.enterSession caller payload).forget number =
        (client.forget number).enterSession caller payload := by
    unfold enterSession
    split <;> rfl
  unfold conclude
  split
  · dsimp only
    rw [entered, forget_setStage apart]
    rfl
  · exact forget_fail apart ..

theorem forget_wake :
    (client.wake other).forget number = (client.forget number).wake (movedUp number other) := by
  unfold wake
  rw [getElem?_forget apart, inFlight_forget]
  split
  · split
    · exact forget_conclude apart ..
    · exact forget_fail apart ..
    · rfl
  · rfl

end Calls

/-! ## Steps -/

theorem forget_applyOutside (finished : client.IsOver number) (action : Action) :
    (client.applyOutside action).2.forget number =
      ((client.forget number).applyOutside action).2 := by
  cases action with
  | observe observer =>
      dsimp only [applyOutside]
      rw [isAlive_forget finished]
      split <;> rfl
  | _ => rfl

theorem forget_applyTask (finished : client.IsOver number) {action : Action}
    (apart : action.mover? ≠ some number) :
    (client.applyTask action).2.forget number =
      ((client.forget number).applyTask (action.movedUp number)).2 := by
  cases action with
  | start other => exact forget_start fun same => apart (congrArg some same)
  | wake other => exact forget_wake fun same => apart (congrArg some same)
  | resume teardown => exact client.forget_resume number teardown
  | linkOpened link => exact client.forget_linkOpened number finished.known link
  | linkFailed link cause => exact client.forget_linkFailed number link cause
  | received link item => exact client.forget_received number link item
  | tick => exact client.forget_tick number finished.known
  | _ => exact forget_applyOutside finished _

theorem forget_applyHeld (finished : client.IsOver number) {action : Action}
    (apart : action.mover? ≠ some number) :
    (client.applyHeld action).2.forget number =
      ((client.forget number).applyHeld (action.movedUp number)).2 := by
  cases action with
  | call method params => exact forget_addCalls finished.known _
  | connect url => exact client.forget_tearDown number (.reopen url)
  | close => exact forget_tearDown _ number .close
  | inbound text => exact client.forget_inbound number text
  | startRefresh interval calls =>
      dsimp only [applyHeld, startRefresh, Action.movedUp]
      split <;> rfl
  | setGap gap => rfl
  | stopRefresh => rfl
  | subscribe => rfl
  | watch => rfl
  | drop => rfl
  | _ => exact forget_applyTask finished apart

/-- With a call that has just been made forgotten, the client is as it was before. -/
theorem forget_step_call (held : client.isHeld = true) (method : String) (params : Json) :
    (client.step (.call method params)).forget client.calls.length = client := by
  have kept (fresh : List Call) : (client.addCalls fresh).dissolve = client.addCalls fresh :=
    dissolve_of_isAlive _ (isAlive_of_isHeld held)
  rw [step_eq, if_pos held]
  dsimp only [applyHeld]
  rw [kept]
  simp [forget, addCalls, List.eraseIdx_append_of_length_le]

theorem IsOver.step (finished : client.IsOver number) (action : Action) :
    (client.step action).IsOver number :=
  finished.elim fun call found => ⟨call, getElem?_step_of_returned found.1 found.2 action, found.2⟩

/-- A call that is over has no part in what others do. -/
theorem forget_step (finished : client.IsOver number) {action : Action}
    (apart : action.mover? ≠ some number) :
    (client.step action).forget number =
      (client.forget number).step (action.movedUp number) := by
  have finished_after := finished.step action
  simp only [step_eq, IsOver, calls_dissolve] at finished_after
  rw [step_eq, step_eq, isHeld_forget, isAlive_forget finished, forget_dissolve finished_after]
  refine congrArg dissolve ?_
  split
  · exact forget_applyHeld finished apart
  · split
    · exact forget_applyTask finished apart
    · rw [forget_applyOutside finished]
      cases action <;> rfl

/-- A call that is over does nothing any more. -/
theorem step_of_isOver (done : client.dissolve = client) (finished : client.IsOver number)
    {action : Action} (own : action.mover? = some number) : client.step action = client := by
  obtain ⟨call, found, inactive⟩ := finished
  cases action with
  | start other =>
      obtain rfl : other = number := Option.some.inj own
      have begun : call.stage ≠ .ready := fun ready => by simp [Call.isActive, ready] at inactive
      rw [step_start, start_of_not_ready found begun, done]
  | wake other =>
      obtain rfl : other = number := Option.some.inj own
      have settled : call.stage.isWaiting = false := by
        cases stage : call.stage <;> simp_all [Call.isActive, CallStage.isWaiting]
      rw [step_wake, wake_of_not_isWaiting found settled, done]
  | _ => cases own

/-- Once a call is over, the client goes on as it would do without it. -/
theorem forget_run (done : client.dissolve = client) (finished : client.IsOver number)
    (actions : List Action) :
    (client.run actions).forget number =
      (client.forget number).run (without number actions) := by
  induction actions generalizing client with
  | nil => rfl
  | cons action rest induction =>
      have later := induction (client.dissolve_step action) (finished.step action)
      by_cases own : action.mover? = some number
      · rw [step_of_isOver done finished own] at later
        simpa [without, own, step_of_isOver done finished own] using later
      · rw [run_cons, later, forget_step finished own]
        simp [without, own]

end Client

end GatewayLink
