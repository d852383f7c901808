import GatewayLink.Client.Settle
import GatewayLink.Proofs.Client.Granting
import GatewayLink.Proofs.Client.Reordering

/-!
# Deliveries of responses

A delivery hands responses to a client one after another.  In between and afterwards calls go on, in
any order, and the clocks move.  Two deliveries of the same responses, in whatever order, lead to
clients that agree once every call has gone on that can, and these clients go on to agree.
-/

namespace GatewayLink

namespace Client

/-- Responses are handed to a client one after another, while calls go on and the clocks move. -/
inductive Delivery : Client → List Response → Client → Prop where
  | done (client : Client) : Delivery client [] client
  | response {client after : Client} {action : Action} {response : Response}
      {rest : List Response} (handed : client.response? action = some response)
      (later : Delivery (client.step action) rest after) : Delivery client (response :: rest) after
  | wake {client after : Client} {responses : List Response} (number : Nat)
      (later : Delivery (client.step (.wake number)) responses after) :
      Delivery client responses after
  | setWall {client after : Client} {responses : List Response} (wall : Timestamp)
      (later : Delivery (client.step (.setWall wall)) responses after) :
      Delivery client responses after
  | pass {client after : Client} {responses : List Response} (milliseconds : Nat)
      (later : Delivery (client.step (.pass milliseconds)) responses after) :
      Delivery client responses after

/-! ## Drained clients and clients that agree -/

/-- Every call that waits has to wait: no answer has come that it has not taken. -/
def Drained (client : Client) : Prop :=
  ∀ call ∈ client.calls, call.stage.isWaiting = true → client.canGoOn call = false

instance (client : Client) : Decidable client.Drained :=
  inferInstanceAs (Decidable (∀ call ∈ client.calls, _ → _))

/-- Two clients agree on their calls and what these have returned, on the pending requests and on
the calls that the history lists. -/
structure Agree (one other : Client) : Prop where
  calls : one.calls = other.calls
  pending : one.inFlight.pending = other.inFlight.pending
  listed : one.logbook.listed = other.logbook.listed

theorem Alike.agree {one other : Client} (alike : Alike one other) : Agree one other where
  calls := alike.calls_eq.symm
  pending := by rw [alike.inFlight_eq]
  listed := alike.listed_eq.symm

/-- Alike clients with the same clock go on to agree, whatever is done to both. -/
theorem Alike.agree_run {one other : Client} (alike : Alike one other)
    (clock : one.clock = other.clock) (more : List Action) (network : Network) :
    Agree (one.run more) (other.run more) ∧
      Agree ((one.run more).settle network) ((other.run more).settle network) := by
  have kept : Logbook.IsKept fun book twin => book.outline = twin.outline :=
    fun _ _ => Logbook.outline_apply
  have twins := (alike.twins clock).run kept more
  exact ⟨(Alike.of_twins twins).agree, (Alike.of_twins (twins.settle kept network)).agree⟩

theorem Departing.canGoOn {client : Client} {number : Nat} (departing : client.Departing number) :
    client.canGoOn departing.call = true := by
  obtain ⟨cell, seen, shown⟩ := departing.exists_cell
  cases cell with
  | answered response => simp [Client.canGoOn, departing.waiting, InFlight.glance?, seen]
  | closed => simp [Client.canGoOn, departing.waiting, InFlight.glance?, seen]
  | _ => cases shown

/-- A call that waits and can go on sees on its handle what has ended its wait. -/
theorem nonempty_departing {client : Client} {number : Nat} {call : Call}
    (found : client.calls[number]? = some call) (waits : call.stage.isWaiting = true)
    (able : client.canGoOn call = true) : Nonempty (client.Departing number) := by
  cases stage : call.stage with
  | waiting id handle since =>
      cases seen : client.inFlight.cells[handle]? with
      | none => simp [canGoOn, stage, InFlight.glance?, seen] at able
      | some cell =>
          have departs (departure : Departure) (shown : cell.departure? = some departure) :
              Nonempty (client.Departing number) :=
            ⟨⟨call, id, handle, since, departure, found, stage, by rw [seen]; exact shown⟩⟩
          cases cell with
          | answered response => exact departs (.answered response) rfl
          | closed => exact departs .abandoned rfl
          | _ => simp [canGoOn, stage, InFlight.glance?, seen] at able
  | _ => simp [stage, CallStage.isWaiting] at waits

theorem Drained.wake {client : Client} (drained : client.Drained) (number : Nat) :
    client.wake number = client := by
  refine wake_of_isEmpty ⟨fun departing => ?_⟩
  have waits : departing.call.stage.isWaiting = true := by rw [departing.waiting]; rfl
  have stuck := drained departing.call (List.mem_of_getElem? departing.found) waits
  rw [departing.canGoOn] at stuck
  cases stuck

/-! ## Steps of a delivery -/

section Step

variable {client : Client} {number : Nat}

theorem step_setWall (client : Client) (wall : Timestamp) :
    client.step (.setWall wall) = { client with clock := { client.clock with wall } }.dissolve := by
  rw [step_eq]
  split
  · rfl
  · split <;> rfl

theorem step_pass (client : Client) (milliseconds : Nat) :
    client.step (.pass milliseconds) =
      { client with
        clock := { client.clock with uptime := client.clock.uptime + milliseconds } }.dissolve := by
  rw [step_eq]
  split
  · rfl
  · split <;> rfl

theorem pending_step_wake (client : Client) (number : Nat) :
    (client.step (.wake number)).inFlight.pending = client.inFlight.pending := by
  rw [step_wake, inFlight_dissolve]
  rcases isEmpty_or_nonempty (client.Departing number) with idle | able
  · rw [wake_of_isEmpty idle]
  · obtain ⟨departing⟩ := able
    rw [departing.wake_eq]
    rfl

theorem Awaiting.step {call : Call} {id : String} {handle : Handle}
    (awaiting : client.Awaiting number call id handle) (correlated : client.IsCorrelated)
    {action : Action}
    (pending : (client.step action).inFlight.pending = client.inFlight.pending) :
    (client.step action).Awaiting number call id handle where
  found := awaiting.found_step correlated action
  waiting := awaiting.waiting
  awaited := by simpa [InFlight.awaits, InFlight.find?, pending] using awaiting.awaited

end Step

/-! ## What calls return in a delivery -/

namespace Delivery

variable {client after : Client} {responses : List Response} {number : Nat} {call : Call}
  {id : String} {handle : Handle} {result : Except ClientError Json}

/-- A delivery is a run. -/
theorem exists_run (delivery : Delivery client responses after) :
    ∃ actions, after = client.run actions := by
  have prepend {client after : Client} {action : Action}
      (reached : ∃ actions, after = (client.step action).run actions) :
      ∃ actions, after = client.run actions :=
    reached.elim fun actions same => ⟨action :: actions, same⟩
  induction delivery with
  | done => exact ⟨[], rfl⟩
  | response _ _ induction => exact prepend induction
  | wake _ _ induction => exact prepend induction
  | setWall _ _ induction => exact prepend induction
  | pass _ _ induction => exact prepend induction

theorem getElem?_of_returned (delivery : Delivery client responses after)
    (found : client.calls[number]? = some call) (settled : call.isActive = false) :
    after.calls[number]? = some call := by
  obtain ⟨actions, rfl⟩ := delivery.exists_run
  exact getElem?_run_of_returned found settled actions

theorem decided (delivery : Delivery client responses after) (correlated : client.IsCorrelated)
    (decided : client.Decided number call id handle result) :
    after.Decided number call id handle result := by
  obtain ⟨actions, rfl⟩ := delivery.exists_run
  exact decided.run correlated actions

/-- In a delivery a call returns the response that carries its id, and without one it waits on. -/
theorem fate (delivery : Delivery client responses after) (correlated : client.IsCorrelated)
    (awaiting : client.Awaiting number call id handle) :
    match responses.find? (·.id == id) with
    | some answer => after.Decided number call id handle (verdict call.method answer)
    | none => after.Awaiting number call id handle := by
  induction delivery with
  | done => exact awaiting
  | @response _ _ _ answer rest handed later induction =>
      have next := isCorrelated_step correlated
      by_cases same : answer.id = id
      · have decided := awaiting.decided_of_response correlated handed same
        simpa [same] using later.decided (next _) decided
      · have awaited := (awaiting.step_of_response correlated handed).2 same
        simpa [same] using
          induction (next _) ⟨awaiting.found_step correlated _, awaiting.waiting, awaited⟩
  | wake other _ induction =>
      exact induction (isCorrelated_step correlated _)
        (awaiting.step correlated (pending_step_wake _ other))
  | setWall wall _ induction =>
      exact induction (isCorrelated_step correlated _)
        (awaiting.step correlated (by rw [step_setWall, inFlight_dissolve]))
  | pass milliseconds _ induction =>
      exact induction (isCorrelated_step correlated _)
        (awaiting.step correlated (by rw [step_pass, inFlight_dissolve]))

end Delivery

theorem Drained.returned {client : Client} (drained : client.Drained) {number : Nat} {call : Call}
    {id : String} {handle : Handle} {result : Except ClientError Json}
    (decided : client.Decided number call id handle result) :
    client.calls[number]? = some { call with stage := .returned result } := by
  rcases decided.stands with returned | ⟨found, -⟩
  · exact returned
  · obtain ⟨since, waiting⟩ := decided.waiting
    have stuck := drained call (List.mem_of_getElem? found) (by rw [waiting]; rfl)
    rw [decided.canGoOn found] at stuck
    cases stuck

/-! ## Deliveries as responses that come first -/

/-- A client that has been handed responses, with the calls that have gone on meanwhile: up to times
it is as if all responses had come before the first of these calls went on. -/
structure Handled (client : Client) (responses : List Response) (numbers : List Nat)
    (after : Client) : Prop where
  returned : ∀ number ∈ numbers, ∃ call,
    after.calls[number]? = some call ∧ call.stage.isWaiting = false
  alike : Alike after ((client.answerAll responses).wakeEach numbers).dissolve

namespace Handled

variable {client after : Client} {responses : List Response} {numbers : List Nat} {number : Nat}

theorem wake (handled : Handled (client.step (.wake number)) responses numbers after)
    (orderly : client.Orderly) (departing : client.Departing number)
    (returned : ∃ call, after.calls[number]? = some call ∧ call.stage.isWaiting = false) :
    Handled client responses (number :: numbers) after where
  returned := List.forall_mem_cons.mpr ⟨returned, handled.returned⟩
  alike := by
    have alike := handled.alike
    rw [step_wake, dissolve_answerAll, dissolve_wakeEach_dissolve] at alike
    rw [wakeEach_cons, departing.wake_answerAll orderly]
    exact alike

theorem append (handled : Handled client responses numbers after) {more : List Nat}
    (idle : ∀ number ∈ more, after.wake number = after) :
    Alike after ((client.answerAll responses).wakeEach (numbers ++ more)).dissolve := by
  have once := handled.alike.dissolve
  have again := (handled.alike.wakeEach more).dissolve
  rw [dissolve_dissolve] at once
  rw [wakeEach_eq_self idle, dissolve_wakeEach_dissolve, ← wakeEach_append] at again
  exact handled.alike.trans (once.symm.trans again)

theorem of_alike {other : Client} (handled : Handled other responses numbers after)
    (same : Alike client other) : Handled client responses numbers after where
  returned := handled.returned
  alike := handled.alike.trans ((same.answerAll responses).wakeEach numbers).dissolve.symm

end Handled

theorem alike_step_of_clock {client : Client} (ended : client.dissolve = client) (action : Action)
    (clock : Clock) (moves : client.step action = { client with clock }.dissolve) :
    Alike client (client.step action) := by
  have moved : Alike client { client with clock } := ⟨_, clock, rfl, rfl⟩
  have alike := moved.dissolve
  rw [ended] at alike
  rwa [moves]

/-- In a delivery the calls might as well go on after all responses have come. -/
theorem Delivery.handled {client after : Client} {responses : List Response}
    (delivery : Delivery client responses after) (orderly : client.Orderly)
    (ended : client.dissolve = client) : ∃ numbers, Handled client responses numbers after := by
  induction delivery with
  | done client =>
      refine ⟨[], by simp, ?_⟩
      have unmoved : (client.answerAll []).wakeEach [] = client := rfl
      rw [unmoved, ended]
      exact .refl client
  | response handed later induction =>
      have next := step_eq_of_response handed
      obtain ⟨numbers, handled⟩ :=
        induction (by rw [next]; exact orderly.answer _) (dissolve_step _ _)
      rw [next] at handled
      exact ⟨numbers, handled.returned, handled.alike⟩
  | wake number later induction =>
      obtain ⟨numbers, handled⟩ := induction
        (by rw [step_wake]; exact (orderly.wake number).dissolve) (dissolve_step _ _)
      rcases isEmpty_or_nonempty (Departing _ number) with idle | able
      · rw [step_wake, wake_of_isEmpty idle, ended] at handled
        exact ⟨numbers, handled⟩
      · obtain ⟨departing⟩ := able
        have returned := departing.returned
        rw [← calls_dissolve, ← step_wake] at returned
        exact ⟨number :: numbers, handled.wake orderly departing
          ⟨_, later.getElem?_of_returned returned rfl, rfl⟩⟩
  | setWall wall later induction =>
      have alike := alike_step_of_clock ended _ _ (step_setWall _ wall)
      obtain ⟨numbers, handled⟩ := induction (alike.orderly orderly) (dissolve_step _ _)
      exact ⟨numbers, handled.of_alike alike⟩
  | pass milliseconds later induction =>
      have alike := alike_step_of_clock ended _ _ (step_pass _ milliseconds)
      obtain ⟨numbers, handled⟩ := induction (alike.orderly orderly) (dissolve_step _ _)
      exact ⟨numbers, handled.of_alike alike⟩

/-! ## The end of a delivery -/

theorem Delivery.wakeLast {client after : Client} {responses : List Response}
    (delivery : Delivery client responses after) (number : Nat) :
    Delivery client responses (after.step (.wake number)) := by
  induction delivery with
  | done client => exact .wake number (.done _)
  | response handed _ induction => exact .response handed induction
  | wake other _ induction => exact .wake other induction
  | setWall wall _ induction => exact .setWall wall induction
  | pass milliseconds _ induction => exact .pass milliseconds induction

section Step

variable {client : Client} {number : Nat}

theorem isEmpty_departing_step (still : IsEmpty (client.Departing number)) (other : Nat) :
    IsEmpty ((client.step (.wake other)).Departing number) := by
  rw [step_wake]
  exact ⟨fun departing => (isEmpty_departing_wake still other).false
    (departing.transfer (by rw [calls_dissolve]) (by rw [inFlight_dissolve]))⟩

/-- A call that has gone on cannot go on again. -/
theorem isEmpty_departing_step_self (client : Client) (number : Nat) :
    IsEmpty ((client.step (.wake number)).Departing number) := by
  rcases isEmpty_or_nonempty (client.Departing number) with idle | able
  · exact isEmpty_departing_step idle number
  · obtain ⟨departing⟩ := able
    have returned := departing.returned
    rw [← calls_dissolve, ← step_wake] at returned
    refine ⟨fun again => ?_⟩
    have waiting := again.waiting
    rw [Option.some.inj (again.found.symm.trans returned)] at waiting
    cases waiting

theorem length_calls_step_wake (client : Client) (number : Nat) :
    (client.step (.wake number)).calls.length = client.calls.length := by
  have lengths := congrArg List.length (client.roster_wake number)
  rw [step_wake, calls_dissolve]
  simpa [roster] using lengths

theorem drained_of_isEmpty (idle : ∀ number < client.calls.length, IsEmpty (client.Departing number)) :
    client.Drained := by
  intro call member waits
  obtain ⟨number, found⟩ := List.getElem?_of_mem member
  have stuck := idle number (List.getElem?_eq_some_iff.mp found).1
  rw [Bool.eq_false_iff]
  intro able
  obtain ⟨departing⟩ := nonempty_departing found waits able
  exact stuck.false departing

end Step

/-- Every delivery can be brought to an end: calls go on until none can any more. -/
theorem Delivery.exists_drained {client after : Client} {responses : List Response}
    (delivery : Delivery client responses after) :
    ∃ drained, Delivery client responses drained ∧ drained.Drained := by
  -- The calls go on one after another, and those that have gone on stay as they are.
  have woken (count : Nat) : ∃ later, Delivery client responses later ∧
      later.calls.length = after.calls.length ∧ ∀ number < count, IsEmpty (later.Departing number) := by
    induction count with
    | zero => exact ⟨after, delivery, rfl, by simp⟩
    | succ count induction =>
        obtain ⟨later, reached, length, idle⟩ := induction
        refine ⟨later.step (.wake count), reached.wakeLast count,
          (later.length_calls_step_wake count).trans length, fun number below => ?_⟩
        rcases Nat.lt_succ_iff_lt_or_eq.mp below with earlier | rfl
        · exact isEmpty_departing_step (idle number earlier) count
        · exact later.isEmpty_departing_step_self number
  obtain ⟨drained, reached, length, idle⟩ := woken after.calls.length
  exact ⟨drained, reached, drained_of_isEmpty (length ▸ idle)⟩

/-! ## Two deliveries -/

/-- Two deliveries of the same responses lead to alike clients, if no call that has gone on in one
of them can still go on in the other. -/
theorem Handled.alike_of_idle {client one other : Client} {first second : List Response}
    {numbers otherNumbers : List Nat} (handled : Handled client first numbers one)
    (otherHandled : Handled client second otherNumbers other) (orderly : client.Orderly)
    (same : first.Perm second) (apart : (first.map Response.id).Nodup)
    (idle : ∀ number ∈ otherNumbers, one.wake number = one)
    (other_idle : ∀ number ∈ numbers, other.wake number = other) : Alike one other := by
  have same_answers : client.answerAll first = client.answerAll second := by
    simp only [answerAll, InFlight.answers_perm orderly.isSeparate same apart]
  have woken := (orderly.answerAll first).wakeEach_perm
    (List.perm_append_comm : (numbers ++ otherNumbers).Perm (otherNumbers ++ numbers))
  have other_alike := otherHandled.append other_idle
  rw [← same_answers] at other_alike
  exact (handled.append idle).trans (woken.dissolve.trans other_alike.symm)

/-- Two clients that are handed the same responses in different orders agree on results, requests
and history, as soon as every call has gone on that can. -/
theorem responses_agree_in_any_order (settings : Settings) (limits : Limits) (wall : Timestamp)
    (actions : List Action) {one other : Client} {first second : List Response}
    (delivery : Delivery ((new settings limits wall).run actions) first one)
    (otherDelivery : Delivery ((new settings limits wall).run actions) second other)
    (same : first.Perm second) (apart : (first.map Response.id).Nodup) :
    (∀ number call id handle,
        ((new settings limits wall).run actions).Awaiting number call id handle →
        match first.find? (·.id == id) with
        | some response =>
          one.inFlight.awaits id = false ∧
            (one.Drained → one.calls[number]? =
              some { call with stage := .returned (verdict call.method response) })
        | none => one.Awaiting number call id handle) ∧
      (one.Drained → other.Drained → Agree one other) ∧
      (one.calls = other.calls → Agree one other ∧
        (one.clock = other.clock → ∀ more network,
          Agree (one.run more) (other.run more) ∧
            Agree ((one.run more).settle network) ((other.run more).settle network))) := by
  have orderly := orderly_run settings limits wall actions
  have ended := dissolve_run settings limits wall actions
  obtain ⟨numbers, handled⟩ := delivery.handled orderly ended
  obtain ⟨otherNumbers, otherHandled⟩ := otherDelivery.handled orderly ended
  refine ⟨fun number call id handle awaiting => ?_, fun drained other_drained => ?_,
    fun same_calls => ?_⟩
  · have fate := delivery.fate orderly.correlated awaiting
    cases answered : first.find? (·.id == id) with
    | none =>
        rw [answered] at fate
        exact fate
    | some response =>
        rw [answered] at fate
        exact ⟨fate.spent.gone, fun drained => drained.returned fate⟩
  · exact (handled.alike_of_idle otherHandled orderly same apart
      (fun number _ => drained.wake number) (fun number _ => other_drained.wake number)).agree
  · have alike : Alike one other := by
      refine handled.alike_of_idle otherHandled orderly same apart ?_ ?_
      · intro number member
        obtain ⟨call, found, settled⟩ := otherHandled.returned number member
        exact wake_of_not_isWaiting (same_calls ▸ found) settled
      · intro number member
        obtain ⟨call, found, settled⟩ := handled.returned number member
        exact wake_of_not_isWaiting (same_calls ▸ found) settled
    exact ⟨alike.agree, alike.agree_run⟩

theorem response?_inbound_granted {client : Client} (held : client.isHeld = true) {payload : Json}
    (portable : payload.Portable) (shallow : payload.depth < Json.nestingLimit) (id : String) :
    client.response? (.inbound (Incoming.response (.granted id payload)).text) =
      some (.grantedAsRead id payload) := by
  simp only [response?, heard?, held, if_true, Option.bind_some]
  exact Response.responseOf?_granted portable shallow id

/-- Two calls are granted in either order, and go on at different times. -/
theorem two_granted_calls_agree_in_either_order :
    let client := (new .default .standard ⟨0, 0⟩).run
      [.connect "ws://gateway", .linkOpened 0, .start 0, .call "feeds.list" (.object []), .start 1,
        .call "feeds.stop" (.object []), .start 2]
    let grant (id : String) (payload : Bool) : Action :=
      .inbound (Incoming.response (.granted id (.bool payload))).text
    let one := client.run [grant "2" true, grant "3" false, .wake 1, .wake 2]
    let other := client.run [grant "3" false, .wake 2, .pass 5, grant "2" true, .wake 1]
    one.clock ≠ other.clock ∧ Agree one other ∧
      one.logbook.listed =
        [⟨"3", "feeds.stop", .ok⟩, ⟨"2", "feeds.list", .ok⟩, ⟨"1", openingMethod, .sent⟩] := by
  intro client grant one other
  have handed (client : Client) (held : client.isHeld = true) (id : String) (payload : Bool) :
      client.response? (grant id payload) = some (.grantedAsRead id (.bool payload)) := by
    have portable : (Json.bool payload).Portable := ⟨trivial, trivial⟩
    exact response?_inbound_granted held portable (by cases payload <;> decide) id
  have delivery : Delivery client [.grantedAsRead "2" (.bool true), .grantedAsRead "3" (.bool false)]
      one :=
    .response (handed _ (by decide +kernel) _ _) <| .response (handed _ (by decide +kernel) _ _) <|
      .wake 1 <| .wake 2 <| .done _
  have otherDelivery : Delivery client
      [.grantedAsRead "3" (.bool false), .grantedAsRead "2" (.bool true)] other :=
    .response (handed _ (by decide +kernel) _ _) <| .wake 2 <| .pass 5 <|
      .response (handed _ (by decide +kernel) _ _) <| .wake 1 <| .done _
  have agree := (responses_agree_in_any_order .default .standard ⟨0, 0⟩ _ delivery otherDelivery
    (.swap ..) (by decide)).2.1 (by decide +kernel) (by decide +kernel)
  exact ⟨by decide +kernel, agree, by decide +kernel⟩

end Client

end GatewayLink
