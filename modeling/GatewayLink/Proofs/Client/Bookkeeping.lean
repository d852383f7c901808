import GatewayLink.Client.Settle

/-!
# Clients that differ in their logbooks

What a client does never depends on its logbook.  So two clients that agree but for their logbooks
go on to agree, whatever is done to both, and their logbooks stay in every relation that is kept
when the same thing is entered in both.
-/

namespace GatewayLink

/-- Logbooks that are related stay so when the same thing is entered in both. -/
def Logbook.IsKept (related : Logbook → Logbook → Prop) : Prop :=
  ∀ one other, related one other →
    ∀ operation, related (one.apply operation).2 (other.apply operation).2

namespace Client

/-- Two clients agree but for their logbooks, which are related. -/
def Twins (related : Logbook → Logbook → Prop) (one other : Client) : Prop :=
  ∃ logbook, other = { one with logbook } ∧ related one.logbook logbook

namespace Twins

variable {related : Logbook → Logbook → Prop} {one other : Client} {number : Nat}

theorem related_logbook (twins : Twins related one other) : related one.logbook other.logbook := by
  obtain ⟨logbook, rfl, held⟩ := twins
  exact held

/-! ## What enters nothing -/

theorem dissolve (twins : Twins related one other) : Twins related one.dissolve other.dissolve := by
  obtain ⟨logbook, rfl, held⟩ := twins
  have same_alive : ({ one with logbook } : Client).isAlive = one.isAlive := rfl
  unfold Client.dissolve
  rw [same_alive]
  cases one.isAlive with
  | true => exact ⟨logbook, rfl, held⟩
  | false =>
      cases task : one.connection.task with
      | none =>
          simp only [Connection.unassign, task]
          exact ⟨logbook, rfl, held⟩
      | some link =>
          simp only [Connection.unassign, task]
          exact ⟨logbook, rfl, held⟩

theorem setStage (twins : Twins related one other) (stage : CallStage) :
    Twins related (one.setStage number stage) (other.setStage number stage) := by
  obtain ⟨logbook, rfl, held⟩ := twins
  exact ⟨logbook, rfl, held⟩

theorem enterSession (twins : Twins related one other) (caller : Caller) (payload : Json) :
    Twins related (one.enterSession caller payload) (other.enterSession caller payload) := by
  obtain ⟨logbook, rfl, held⟩ := twins
  unfold Client.enterSession
  split <;> exact ⟨logbook, rfl, held⟩

theorem setLink (twins : Twins related one other) (stage : LinkStage) :
    Twins related (one.setLink number stage) (other.setLink number stage) := by
  obtain ⟨logbook, rfl, held⟩ := twins
  exact ⟨logbook, rfl, held⟩

theorem linkOpened (twins : Twins related one other) :
    Twins related (one.linkOpened number) (other.linkOpened number) := by
  obtain ⟨logbook, rfl, held⟩ := twins
  unfold Client.linkOpened
  dsimp only
  split
  · split <;> exact ⟨logbook, rfl, held⟩
  · exact ⟨logbook, rfl, held⟩

theorem runLink (twins : Twins related one other) :
    Twins related (one.runLink number) (other.runLink number) := by
  obtain ⟨logbook, rfl, held⟩ := twins
  unfold Client.runLink
  cases replaced : one.connection.task with
  | none =>
      simp only [Connection.assign, replaced]
      exact ⟨logbook, rfl, held⟩
  | some link =>
      simp only [Connection.assign, replaced]
      exact ⟨logbook, rfl, held⟩

theorem carryOut (twins : Twins related one other) (purpose : Purpose) :
    Twins related (one.carryOut purpose) (other.carryOut purpose) := by
  obtain ⟨logbook, rfl, held⟩ := twins
  cases purpose with
  | close => exact ⟨logbook, rfl, held⟩
  | reopen url =>
      unfold Client.carryOut
      refine Twins.runLink ?_
      exact ⟨logbook, rfl, held⟩

theorem tearDown (twins : Twins related one other) (purpose : Purpose) :
    Twins related (one.tearDown purpose) (other.tearDown purpose) := by
  obtain ⟨logbook, rfl, held⟩ := twins
  have unassigned : Twins related { one with connection := { one.connection with task := none } }
      { one with connection := { one.connection with task := none }, logbook } :=
    ⟨logbook, rfl, held⟩
  unfold Client.tearDown
  cases task : one.connection.task with
  | none =>
      simp only [Connection.unassign, task]
      exact unassigned.carryOut purpose
  | some link =>
      simp only [Connection.unassign, task]
      have same_runs :
          ({ one with connection := { one.connection with task := none }, logbook } : Client).linkRuns
              link =
            ({ one with connection := { one.connection with task := none } } : Client).linkRuns link :=
        rfl
      rw [same_runs]
      split
      · exact ⟨logbook, rfl, held⟩
      · exact unassigned.carryOut purpose

theorem resume (twins : Twins related one other) :
    Twins related (one.resume number) (other.resume number) := by
  obtain ⟨logbook, rfl, held⟩ := twins
  unfold Client.resume
  dsimp only
  split
  · exact ⟨logbook, rfl, held⟩
  · refine Twins.carryOut ?_ _
    exact ⟨logbook, rfl, held⟩

theorem tick (twins : Twins related one other) : Twins related one.tick other.tick := by
  obtain ⟨logbook, rfl, held⟩ := twins
  unfold Client.tick
  dsimp only
  split
  · exact ⟨logbook, rfl, held⟩
  · split
    · exact ⟨logbook, rfl, held⟩
    · split <;> exact ⟨logbook, rfl, held⟩

theorem applyOutside (twins : Twins related one other) (action : Action) :
    Twins related (one.applyOutside action).2 (other.applyOutside action).2 := by
  obtain ⟨logbook, rfl, held⟩ := twins
  cases action with
  | observe observer =>
      have same_alive : ({ one with logbook } : Client).isAlive = one.isAlive := rfl
      dsimp only [Client.applyOutside]
      rw [same_alive]
      split <;> exact ⟨logbook, rfl, held⟩
  | _ => exact ⟨logbook, rfl, held⟩

variable (kept : Logbook.IsKept related)

include kept

/-! ## Calls -/

theorem refuse (twins : Twins related one other) (cause : ClientError) (method : String)
    (status : CallStatus) (duration : Option UInt64) (text : String) (severity : Severity) :
    Twins related (one.refuse number cause method status duration text severity)
      (other.refuse number cause method status duration text severity) := by
  obtain ⟨logbook, rfl, held⟩ := twins
  have attempted := kept _ _ held (.attempt one.clock.wall none method status duration)
  exact ⟨_, rfl, kept _ _ attempted (.post method text severity)⟩

theorem fail (twins : Twins related one other) (id method : String) (since : Nat) (text : String)
    (cause : ClientError) :
    Twins related (one.fail number id method since text cause)
      (other.fail number id method since text cause) := by
  obtain ⟨logbook, rfl, held⟩ := twins
  have settled := kept _ _ held (.settle id .error (one.elapsedSince since))
  exact ⟨_, rfl, kept _ _ settled (.post method text .error)⟩

theorem sendRequest (twins : Twins related one other) (request : Request) (handle : Handle) :
    Twins related (one.sendRequest number request handle)
      (other.sendRequest number request handle) := by
  obtain ⟨logbook, rfl, held⟩ := twins
  unfold Client.sendRequest Client.transmit
  dsimp only
  cases one.connection.send (Outgoing.request request).text with
  | mk result connection =>
      cases result with
      | ok value => exact ⟨logbook, rfl, held⟩
      | error cause =>
          refine Twins.fail kept ?_ ..
          exact ⟨logbook, rfl, held⟩

theorem issue (twins : Twins related one other) (method : String) (params : Json) :
    Twins related (one.issue number method params) (other.issue number method params) := by
  obtain ⟨logbook, rfl, held⟩ := twins
  unfold Client.issue Client.takeId Client.register
  dsimp only
  cases one.inFlight.enter (one.issued + 1).repr method with
  | mk result inFlight =>
      cases result with
      | error cause => exact ⟨logbook, rfl, held⟩
      | ok handle =>
          refine Twins.sendRequest kept ?_ ..
          exact ⟨_, rfl,
            kept _ _ held (.attempt one.clock.wall (some (one.issued + 1).repr) method .sent none)⟩

theorem attempt (twins : Twins related one other) (method : String) (params : Json) :
    Twins related (one.attempt number method params) (other.attempt number method params) := by
  have whole := twins
  obtain ⟨logbook, rfl, held⟩ := twins
  unfold Client.attempt
  dsimp only
  split
  · exact whole.refuse kept ..
  · have same_now : ({ one with logbook } : Client).now = one.now := rfl
    rw [same_now]
    cases one.pacing.attempt method one.now one.minGap with
    | mk admitted pacing =>
        cases admitted with
        | true =>
            refine Twins.issue kept ?_ ..
            exact ⟨logbook, rfl, held⟩
        | false =>
            dsimp only
            cases one.pacing.timeLeft? method one.now one.minGap with
            | none => exact whole.setStage .overflowed
            | some remaining => exact whole.refuse kept ..

theorem handshake (twins : Twins related one other) (generation : Nat) (method : String)
    (params : Json) :
    Twins related (one.handshake number generation method params)
      (other.handshake number generation method params) := by
  have whole := twins
  obtain ⟨logbook, rfl, held⟩ := twins
  unfold Client.handshake
  dsimp only
  split
  · exact whole.issue kept method params
  · exact whole.setStage .lapsed

theorem start (twins : Twins related one other) :
    Twins related (one.start number) (other.start number) := by
  have whole := twins
  obtain ⟨logbook, rfl, held⟩ := twins
  unfold Client.start
  dsimp only
  split
  · exact whole.handshake kept ..
  · exact whole.attempt kept ..
  · exact whole

theorem conclude (twins : Twins related one other) (caller : Caller) (id method : String)
    (since : Nat) (response : Response) :
    Twins related (one.conclude number caller id method since response)
      (other.conclude number caller id method since response) := by
  obtain ⟨logbook, rfl, held⟩ := twins
  unfold Client.conclude
  dsimp only
  split
  · have settled := kept _ _ held (.settle id .ok (one.elapsedSince since))
    have noted := kept _ _ settled (.noteSuccess one.clock.wall method)
    refine Twins.enterSession (Twins.setStage ?_ _) ..
    exact ⟨_, rfl, kept _ _ noted (.post method _ .info)⟩
  · refine Twins.fail kept ?_ ..
    exact ⟨_, rfl, kept _ _ held (.noteFailure one.clock.wall method response.refusalText)⟩

theorem wake (twins : Twins related one other) :
    Twins related (one.wake number) (other.wake number) := by
  have whole := twins
  obtain ⟨logbook, rfl, held⟩ := twins
  unfold Client.wake
  dsimp only
  split
  · split
    · refine Twins.conclude kept ?_ ..
      exact ⟨logbook, rfl, held⟩
    · exact whole.fail kept ..
    · exact whole
  · exact whole

/-! ## Links -/

theorem record (event : Event) {book twin : Logbook} (held : related book twin) :
    related (event.record book) (event.record twin) := by
  unfold Event.record
  dsimp only
  split
  · exact kept _ _ (kept _ _ held (.post ..)) (.subscription ..)
  · exact kept _ _ held (.post ..)

theorem inbound (twins : Twins related one other) (text : String) :
    Twins related (one.inbound text) (other.inbound text) := by
  obtain ⟨logbook, rfl, held⟩ := twins
  unfold Client.inbound
  split
  · exact ⟨logbook, rfl, held⟩
  · rename_i event _
    exact ⟨_, rfl, record kept event held⟩
  · exact ⟨logbook, rfl, held⟩

theorem generationRefused (twins : Twins related one other) (generation : Nat)
    (cause : TransportError) :
    Twins related (one.generationRefused generation cause)
      (other.generationRefused generation cause) := by
  obtain ⟨logbook, rfl, held⟩ := twins
  unfold Client.generationRefused
  dsimp only
  split
  · exact ⟨logbook, rfl, held⟩
  · exact ⟨_, rfl, kept _ _ held (.post ..)⟩

theorem generationLost (twins : Twins related one other) (generation : Nat) (reason : String) :
    Twins related (one.generationLost generation reason)
      (other.generationLost generation reason) := by
  obtain ⟨logbook, rfl, held⟩ := twins
  unfold Client.generationLost
  dsimp only
  split
  · exact ⟨logbook, rfl, held⟩
  · exact ⟨_, rfl, kept _ _ held (.post ..)⟩

theorem linkFailed (twins : Twins related one other) (cause : TransportError) :
    Twins related (one.linkFailed number cause) (other.linkFailed number cause) := by
  have whole := twins
  obtain ⟨logbook, rfl, held⟩ := twins
  unfold Client.linkFailed
  dsimp only
  split
  · exact (whole.setLink .ended).generationRefused kept ..
  · exact whole

theorem received (twins : Twins related one other) (item : Option StreamItem) :
    Twins related (one.received number item) (other.received number item) := by
  have whole := twins
  obtain ⟨logbook, rfl, held⟩ := twins
  unfold Client.received
  dsimp only
  split
  · split
    · exact whole
    · exact whole.inbound kept ..
    · split
      · exact whole
      · exact (whole.setLink .ended).generationLost kept ..
  · exact whole

/-! ## Steps -/

theorem applyTask (twins : Twins related one other) (action : Action) :
    Twins related (one.applyTask action).2 (other.applyTask action).2 := by
  cases action with
  | start call => exact twins.start kept
  | wake call => exact twins.wake kept
  | resume teardown => exact twins.resume
  | linkOpened link => exact twins.linkOpened
  | linkFailed link cause => exact twins.linkFailed kept cause
  | received link item => exact twins.received kept item
  | tick => exact twins.tick
  | _ => exact twins.applyOutside _

theorem applyHeld (twins : Twins related one other) (action : Action) :
    Twins related (one.applyHeld action).2 (other.applyHeld action).2 := by
  have whole := twins
  obtain ⟨logbook, rfl, held⟩ := twins
  cases action with
  | connect url => exact whole.tearDown (.reopen url)
  | close =>
      refine Twins.tearDown ?_ .close
      exact ⟨logbook, rfl, held⟩
  | inbound text => exact whole.inbound kept text
  | startRefresh interval calls =>
      dsimp only [Client.applyHeld, startRefresh]
      split <;> exact ⟨logbook, rfl, held⟩
  | call method params => exact ⟨logbook, rfl, held⟩
  | setGap gap => exact ⟨logbook, rfl, held⟩
  | stopRefresh => exact ⟨logbook, rfl, held⟩
  | subscribe => exact ⟨logbook, rfl, held⟩
  | watch => exact ⟨logbook, rfl, held⟩
  | drop => exact ⟨logbook, rfl, held⟩
  | _ => exact whole.applyTask kept _

theorem step (twins : Twins related one other) (action : Action) :
    Twins related (one.step action) (other.step action) := by
  have same_held : other.isHeld = one.isHeld := by
    obtain ⟨logbook, rfl, -⟩ := twins
    rfl
  have same_alive : other.isAlive = one.isAlive := by
    obtain ⟨logbook, rfl, -⟩ := twins
    rfl
  unfold Client.step Client.apply
  rw [same_held, same_alive]
  refine Twins.dissolve ?_
  split
  · exact twins.applyHeld kept action
  · split
    · exact twins.applyTask kept action
    · exact twins.applyOutside action

theorem run (twins : Twins related one other) (actions : List Action) :
    Twins related (one.run actions) (other.run actions) := by
  induction actions generalizing one other with
  | nil => exact twins
  | cons action rest induction => exact induction (twins.step kept action)

/-! ## Coming to rest -/

omit kept in
theorem nextStep?_eq (twins : Twins related one other) (network : Network) :
    nextStep? network other = nextStep? network one := by
  obtain ⟨logbook, rfl, -⟩ := twins
  rfl

theorem settleWithin (twins : Twins related one other) (network : Network) (steps : Nat) :
    Twins related (Client.settleWithin network steps one)
      (Client.settleWithin network steps other) := by
  induction steps generalizing one other with
  | zero => exact twins
  | succ steps induction =>
      simp only [Client.settleWithin, twins.nextStep?_eq network]
      cases nextStep? network one with
      | none => exact twins
      | some action => exact induction (twins.step kept action)

theorem settle (twins : Twins related one other) (network : Network) :
    Twins related (one.settle network) (other.settle network) := by
  have same_bound : other.restBound = one.restBound := by
    obtain ⟨logbook, rfl, -⟩ := twins
    rfl
  unfold Client.settle
  rw [same_bound]
  exact twins.settleWithin kept network _

end Twins

end Client

end GatewayLink
