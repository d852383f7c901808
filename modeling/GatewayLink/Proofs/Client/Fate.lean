import GatewayLink.Proofs.Client.Correlation

/-!
# What becomes of a call

A call that waits returns with the first response that carries its id, or it is given up together
with all other calls that wait, whichever comes first.  It returns once; afterwards its id is never
pending again, so a late or repeated response finds nothing to do.
-/

namespace GatewayLink

namespace Client

/-! ## What a step leaves alone -/

section Frame

variable {client : Client} {number : Nat} {call : Call}

/-- Only its own steps move a call. -/
theorem getElem?_step_of_ne {action : Action} (found : client.calls[number]? = some call)
    (not_start : action ≠ .start number) (not_wake : action ≠ .wake number) :
    (client.step action).calls[number]? = some call := by
  have kept_by_modify {other : Nat} (apart : other ≠ number) (stage : CallStage) :
      (client.calls.modify other ({ · with stage }))[number]? = some call := by
    simp [apart, found]
  cases moves : action.movesCall with
  | false =>
      obtain ⟨fresh, -, calls⟩ := (client.aside_step action moves).calls
      have known : number < client.calls.length := (List.getElem?_eq_some_iff.mp found).1
      rw [calls, List.getElem?_append_left known, found]
  | true =>
      cases action with
      | start other =>
          have apart : other ≠ number := fun same => not_start (same ▸ rfl)
          simp only [step_start, calls_dissolve]
          obtain ⟨_, -, -, began⟩ | ⟨-, unchanged⟩ := client.start_cases other
          · generalize client.start other = after at began
            cases began with
            | issued pacing after issued => cases issued <;> exact kept_by_modify apart _
            | _ => exact kept_by_modify apart _
          · rw [unchanged, found]
      | wake other =>
          have apart : other ≠ number := fun same => not_wake (same ▸ rfl)
          simp only [step_wake, calls_dissolve]
          obtain ⟨_, _, _, _, -, -, woke⟩ | ⟨-, unchanged⟩ := client.wake_cases other
          · generalize client.wake other = after at woke
            cases woke with
            | unchanged seen => exact found
            | _ => exact kept_by_modify apart _
          · rw [unchanged, found]
      | _ => simp [Action.movesCall] at moves

theorem start_of_not_ready (found : client.calls[number]? = some call)
    (begun : call.stage ≠ .ready) : client.start number = client := by
  obtain ⟨other, other_found, ready, -⟩ | ⟨-, unchanged⟩ := client.start_cases number
  · rw [found, Option.some.injEq] at other_found
    exact absurd (other_found ▸ ready) begun
  · exact unchanged

theorem wake_of_not_isWaiting (found : client.calls[number]? = some call)
    (settled : call.stage.isWaiting = false) : client.wake number = client := by
  obtain ⟨other, id, handle, since, other_found, waiting, -⟩ | ⟨-, unchanged⟩ :=
    client.wake_cases number
  · rw [found, Option.some.injEq] at other_found
    rw [other_found, waiting] at settled
    cases settled
  · exact unchanged

/-- A call that has returned stays as it is. -/
theorem getElem?_step_of_returned (found : client.calls[number]? = some call)
    (settled : call.isActive = false) (action : Action) :
    (client.step action).calls[number]? = some call := by
  by_cases is_start : action = .start number
  · subst is_start
    rw [step_start, calls_dissolve, start_of_not_ready found, found]
    intro ready
    simp [Call.isActive, ready] at settled
  · by_cases is_wake : action = .wake number
    · subst is_wake
      rw [step_wake, calls_dissolve, wake_of_not_isWaiting found, found]
      cases stage : call.stage <;> simp_all [Call.isActive, CallStage.isWaiting]
    · exact getElem?_step_of_ne found is_start is_wake

theorem getElem?_run_of_returned (found : client.calls[number]? = some call)
    (settled : call.isActive = false) (actions : List Action) :
    (client.run actions).calls[number]? = some call := by
  induction actions generalizing client with
  | nil => exact found
  | cons action rest induction =>
      exact induction (getElem?_step_of_returned found settled action)

/-- A call that has begun is not ready again. -/
theorem begun_step (found : client.calls[number]? = some call) (begun : call.stage ≠ .ready)
    (action : Action) :
    ∃ later, (client.step action).calls[number]? = some later ∧ later.stage ≠ .ready := by
  have moved {stage : CallStage} (on : stage ≠ .ready) :
      ∃ later, (client.calls.modify number ({ · with stage }))[number]? = some later ∧
        later.stage ≠ .ready :=
    ⟨{ call with stage }, by simp [found], on⟩
  by_cases is_start : action = .start number
  · subst is_start
    rw [step_start, calls_dissolve, start_of_not_ready found begun]
    exact ⟨call, found, begun⟩
  · by_cases is_wake : action = .wake number
    · subst is_wake
      rw [step_wake, calls_dissolve]
      obtain ⟨_, _, _, _, -, -, woke⟩ | ⟨-, unchanged⟩ := client.wake_cases number
      · generalize client.wake number = after at woke
        cases woke with
        | concluded => exact moved (by simp)
        | abandoned => exact moved (by simp)
        | unchanged => exact ⟨call, found, begun⟩
      · rw [unchanged]
        exact ⟨call, found, begun⟩
    · exact ⟨call, getElem?_step_of_ne found is_start is_wake, begun⟩

theorem begun_run (found : client.calls[number]? = some call) (begun : call.stage ≠ .ready)
    (actions : List Action) :
    ∃ later, (client.run actions).calls[number]? = some later ∧ later.stage ≠ .ready := by
  induction actions generalizing client call with
  | nil => exact ⟨call, found, begun⟩
  | cons action rest induction =>
      obtain ⟨next, next_found, next_begun⟩ := begun_step found begun action
      exact induction next_found next_begun

/-- A call that begins is not ready again. -/
theorem begun_of_start (found : client.calls[number]? = some call) (ready : call.stage = .ready)
    (actions : List Action) :
    ∃ later, ((client.step (.start number)).run actions).calls[number]? = some later ∧
      later.stage ≠ .ready := by
  have moved {stage : CallStage} (on : stage ≠ .ready) :
      ∃ later, (client.calls.modify number ({ · with stage }))[number]? = some later ∧
        later.stage ≠ .ready :=
    ⟨{ call with stage }, by simp [found], on⟩
  have began : ∃ later, (client.step (.start number)).calls[number]? = some later ∧
      later.stage ≠ .ready := by
    rw [step_start, calls_dissolve]
    obtain ⟨other, other_found, -, began⟩ | ⟨never, -⟩ := client.start_cases number
    · generalize client.start number = after at began
      cases began with
      | issued pacing after issued => cases issued <;> exact moved (by simp)
      | _ => exact moved (by simp)
    · exact absurd ready (never call found)
  obtain ⟨next, next_found, begun⟩ := began
  exact begun_run next_found begun actions

end Frame

/-! ## Requests in flight along a step -/

/-- What a step does to the requests in flight. -/
inductive InFlightStep (client : Client) (action : Action) : InFlight → Prop where
  | kept (silent : client.response? action = none) : InFlightStep client action client.inFlight
  | entered (silent : client.response? action = none) (method : String) :
      InFlightStep client action (client.inFlight.enter (client.issued + 1).repr method).2
  | withdrawn (silent : client.response? action = none) (method : String) :
      InFlightStep client action
        ((client.inFlight.enter (client.issued + 1).repr method).2.withdraw
          (client.issued + 1).repr).2
  | taken (silent : client.response? action = none) (number : Nat) (call : Call) (id : String)
      (handle : Handle) (since : Nat) (is_wake : action = .wake number)
      (found : client.calls[number]? = some call)
      (waiting : call.stage = .waiting id handle since) :
      InFlightStep client action
        { client.inFlight with cells := client.inFlight.cells.set handle .closed }
  | answered (response : Response) (handed : client.response? action = some response) :
      InFlightStep client action (client.inFlight.answer response.id response).2
  | abandoned (silent : client.response? action = none) :
      InFlightStep client action client.inFlight.abandonAll.2

theorem inFlightStep (client : Client) (action : Action) :
    InFlightStep client action (client.step action).inFlight := by
  cases moves : action.movesCall with
  | false =>
      have inFlight := (client.aside_step action moves).inFlight
      generalize handed : client.response? action = handed_over at inFlight
      cases handed_over with
      | some response =>
          rw [show (client.step action).inFlight = _ from inFlight]
          exact .answered response handed
      | none =>
          obtain same | abandoned := inFlight
          · rw [same]
            exact .kept handed
          · rw [abandoned]
            exact .abandoned handed
  | true =>
      cases action with
      | start number =>
          simp only [step_start, inFlight_dissolve]
          obtain ⟨call, -, -, began⟩ | ⟨-, unchanged⟩ := client.start_cases number
          · generalize client.start number = after at began
            cases began with
            | issued pacing after issued =>
                cases issued with
                | duplicate => exact .kept rfl
                | sent => exact .entered rfl call.method
                | unsent => exact .withdrawn rfl call.method
            | _ => exact .kept rfl
          · rw [unchanged]
            exact .kept rfl
      | wake number =>
          simp only [step_wake, inFlight_dissolve]
          obtain ⟨call, id, handle, since, found, waiting, woke⟩ | ⟨-, unchanged⟩ :=
            client.wake_cases number
          · generalize client.wake number = after at woke
            cases woke with
            | concluded => exact .taken rfl number call id handle since rfl found waiting
            | _ => exact .kept rfl
          · rw [unchanged]
            exact .kept rfl
      | _ => simp [Action.movesCall] at moves

theorem issued_le_step (client : Client) (action : Action) :
    client.issued ≤ (client.step action).issued := by
  cases moves : action.movesCall with
  | false => exact Nat.le_of_eq (client.aside_step action moves).issued.symm
  | true =>
      cases action with
      | start number =>
          simp only [step_start, issued_dissolve]
          obtain ⟨call, -, -, began⟩ | ⟨-, unchanged⟩ := client.start_cases number
          · generalize client.start number = after at began
            cases began with
            | issued pacing after issued => cases issued <;> exact Nat.le_succ _
            | _ => exact Nat.le_refl _
          · exact Nat.le_of_eq (by rw [unchanged])
      | wake number =>
          simp only [step_wake, issued_dissolve]
          obtain ⟨_, _, _, _, -, -, woke⟩ | ⟨-, unchanged⟩ := client.wake_cases number
          · generalize client.wake number = after at woke
            cases woke <;> exact Nat.le_refl _
          · exact Nat.le_of_eq (by rw [unchanged])
      | _ => simp [Action.movesCall] at moves

/-- An id that was issued is gone for good once it is not pending. -/
structure IsSpent (client : Client) (id : String) : Prop where
  issued : ∃ serial < client.issued, id = (serial + 1).repr
  gone : client.inFlight.awaits id = false

theorem isSpent_step {client : Client} {id : String} (spent : client.IsSpent id)
    (action : Action) : (client.step action).IsSpent id := by
  obtain ⟨⟨serial, earlier, rfl⟩, gone⟩ := spent
  have apart := repr_ne_next earlier
  refine ⟨⟨serial, Nat.lt_of_lt_of_le earlier (client.issued_le_step action), rfl⟩, ?_⟩
  generalize (client.step action).inFlight = inFlight, client.inFlightStep action = step
  cases step with
  | kept => exact gone
  | entered silent method => simp [InFlight.awaits_enter, gone, apart]
  | withdrawn silent method => simp [InFlight.withdraw, InFlight.awaits_remove, InFlight.awaits_enter, gone]
  | taken => exact gone
  | answered response => simp [InFlight.answer, InFlight.awaits_remove, gone]
  | abandoned => rfl

theorem isSpent_run {client : Client} {id : String} (spent : client.IsSpent id)
    (actions : List Action) : (client.run actions).IsSpent id := by
  induction actions generalizing client with
  | nil => exact spent
  | cons action rest induction => exact induction (isSpent_step spent action)

/-! ## While a request is pending -/

/-- A call waits for an answer that may still come. -/
structure Awaiting (client : Client) (number : Nat) (call : Call) (id : String) (handle : Handle) :
    Prop where
  found : client.calls[number]? = some call
  waiting : ∃ since, call.stage = .waiting id handle since
  awaited : client.inFlight.awaits id = true

namespace Awaiting

variable {client : Client} {number : Nat} {call : Call} {id : String} {handle : Handle}

theorem waits (awaiting : client.Awaiting number call id handle) :
    Waits client.calls number id handle call.method :=
  awaiting.waiting.elim fun since waiting => ⟨call, since, awaiting.found, waiting, rfl⟩

theorem pending (awaiting : client.Awaiting number call id handle)
    (correlated : client.IsCorrelated) :
    ⟨id, call.method, handle⟩ ∈ client.inFlight.pending ∧
      client.inFlight.cells[handle]? = some .waiting := by
  rcases correlated.registered awaiting.waits with ⟨member, cell⟩ | ⟨_, _, gone, _⟩ | ⟨gone, _⟩
  · exact ⟨member, cell⟩
  · exact absurd (gone.symm.trans awaiting.awaited) (by decide)
  · exact absurd (gone.symm.trans awaiting.awaited) (by decide)

/-- As long as its answer may come the call does not move. -/
theorem found_step (awaiting : client.Awaiting number call id handle)
    (correlated : client.IsCorrelated) (action : Action) :
    (client.step action).calls[number]? = some call := by
  obtain ⟨since, waiting⟩ := awaiting.waiting
  by_cases is_start : action = .start number
  · subst is_start
    rw [step_start, calls_dissolve, start_of_not_ready awaiting.found, awaiting.found]
    rw [waiting]
    rintro ⟨⟩
  · by_cases is_wake : action = .wake number
    · subst is_wake
      have cell := (awaiting.pending correlated).2
      have asleep : client.wake number = client := by
        obtain ⟨caller, method, params, stage⟩ := call
        obtain rfl : stage = .waiting id handle since := waiting
        simp [wake, awaiting.found, InFlight.poll, InFlight.glance?, cell]
      rw [step_wake, calls_dissolve, asleep, awaiting.found]
    · exact getElem?_step_of_ne awaiting.found is_start is_wake

theorem issued (awaiting : client.Awaiting number call id handle)
    (correlated : client.IsCorrelated) : ∃ serial < client.issued, id = (serial + 1).repr :=
  correlated.numbered awaiting.waits

/-- A response with the id of the call is laid down on its handle; all other ones pass by. -/
theorem step_of_response (awaiting : client.Awaiting number call id handle)
    (correlated : client.IsCorrelated) {action : Action} {response : Response}
    (handed : client.response? action = some response) :
    (response.id = id → (client.step action).inFlight.awaits id = false ∧
        (client.step action).inFlight.cells[handle]? = some (.answered response)) ∧
      (response.id ≠ id → (client.step action).inFlight.awaits id = true) := by
  have inFlight : (client.step action).inFlight =
      (client.inFlight.answer response.id response).2 := by
    generalize (client.step action).inFlight = inFlight, client.inFlightStep action = step
    cases step with
    | answered other other_handed =>
        rw [handed, Option.some.injEq] at other_handed
        rw [other_handed]
    | _ => simp_all
  rw [inFlight, InFlight.answer]
  constructor
  · rintro rfl
    obtain ⟨member, cell⟩ := awaiting.pending correlated
    refine ⟨by simp [InFlight.awaits_remove], ?_⟩
    rw [InFlight.cells_remove (some response) member fun _ => correlated.handle_eq awaiting.waits,
      cell]
    rfl
  · intro apart
    simp [InFlight.awaits_remove, awaiting.awaited, Ne.symm apart]

/-- Without a response the request stays pending, unless all requests are given up. -/
theorem step_of_silent (awaiting : client.Awaiting number call id handle)
    (correlated : client.IsCorrelated) {action : Action}
    (silent : client.response? action = none) :
    (client.step action).inFlight.awaits id = true ∨
      ((client.step action).inFlight.pending = [] ∧
        (client.step action).inFlight.cells[handle]? = some .closed) := by
  obtain ⟨serial, earlier, id_eq⟩ := awaiting.issued correlated
  have apart : id ≠ (client.issued + 1).repr := id_eq ▸ repr_ne_next earlier
  have awaited := awaiting.awaited
  generalize (client.step action).inFlight = inFlight, client.inFlightStep action = step
  cases step with
  | kept => exact .inl awaited
  | entered _ method => exact .inl (by simp [InFlight.awaits_enter, awaited])
  | withdrawn _ method =>
      exact .inl (by
        simp [InFlight.withdraw, InFlight.awaits_remove, InFlight.awaits_enter, awaited, apart])
  | taken => exact .inl awaited
  | answered response handed => exact absurd (handed.symm.trans silent) (Option.some_ne_none _)
  | abandoned =>
      obtain ⟨member, cell⟩ := awaiting.pending correlated
      refine .inr ⟨rfl, ?_⟩
      rw [InFlight.cells_abandonAll member, cell]
      rfl

end Awaiting

/-! ## Once it is decided what a call returns -/

/-- What a call returns once it sees its handle. -/
def cellResult? (id method : String) : Cell → Option (Except ClientError Json)
  | .answered response => some (verdict method response)
  | .closed => some (.error (.abandoned id method))
  | .waiting | .released => none

/-- A call has returned a result, or will do so when it goes on. -/
structure Decided (client : Client) (number : Nat) (call : Call) (id : String) (handle : Handle)
    (result : Except ClientError Json) : Prop where
  spent : client.IsSpent id
  waiting : ∃ since, call.stage = .waiting id handle since
  stands : client.calls[number]? = some { call with stage := .returned result } ∨
    (client.calls[number]? = some call ∧
      ∃ cell, client.inFlight.cells[handle]? = some cell ∧
        cellResult? id call.method cell = some result)

namespace Decided

variable {client : Client} {number : Nat} {call : Call} {id : String} {handle : Handle}
  {result : Except ClientError Json}

/-- The handle of a call is touched by nobody else once its request is gone. -/
theorem cells_step (correlated : client.IsCorrelated) {method : String}
    (waits : Waits client.calls number id handle method)
    (gone : client.inFlight.awaits id = false) {action : Action} (not_wake : action ≠ .wake number) :
    (client.step action).inFlight.cells[handle]? = client.inFlight.cells[handle]? := by
  have known := (correlated.registered waits).handle_lt
  have free := correlated.next_free
  have apart : ∀ entry ∈ client.inFlight.pending, entry.handle ≠ handle := by
    intro entry member same
    exact InFlight.ne_of_free gone member (correlated.id_eq waits member same)
  generalize (client.step action).inFlight = inFlight, client.inFlightStep action = step
  cases step with
  | kept => rfl
  | entered _ method => simp [InFlight.enter_eq free, List.getElem?_append_left known]
  | withdrawn _ method =>
      rw [InFlight.withdraw, InFlight.cells_remove_of_ne]
      · simp [InFlight.enter_eq free, List.getElem?_append_left known]
      · intro entry member _
        rw [InFlight.enter_eq free] at member
        rcases List.mem_append.mp member with old | latest
        · exact apart entry old
        · obtain rfl := List.mem_singleton.mp latest
          exact Ne.symm (Nat.ne_of_lt known)
  | taken _ other otherCall otherId otherHandle since is_wake found waiting =>
      have other_waits : Waits client.calls other otherId otherHandle otherCall.method :=
        ⟨otherCall, since, found, waiting, rfl⟩
      have handles_apart : otherHandle ≠ handle := by
        intro same
        obtain rfl := correlated.apart other_waits waits (.inr same)
        exact not_wake is_wake
      simp [handles_apart]
  | answered response handed =>
      exact InFlight.cells_remove_of_ne _ fun entry member _ => apart entry member
  | abandoned => exact InFlight.cells_abandonAll_of_ne apart

/-- When the call goes on it returns. -/
theorem wake (decided : client.Decided number call id handle result) :
    (client.step (.wake number)).calls[number]? = some { call with stage := .returned result } := by
  rcases decided.stands with returned | ⟨found, cell, seen, shown⟩
  · exact getElem?_step_of_returned returned rfl _
  · obtain ⟨since, waiting⟩ := decided.waiting
    rw [step_wake, calls_dissolve]
    obtain ⟨other, otherId, otherHandle, otherSince, other_found, other_waiting, woke⟩ | ⟨asleep, -⟩ :=
      client.wake_cases number
    · rw [found, Option.some.injEq] at other_found
      subst other_found
      rw [waiting] at other_waiting
      obtain ⟨rfl, rfl, rfl⟩ := CallStage.waiting.inj other_waiting
      generalize client.wake number = after at woke
      cases woke with
      | concluded response answered connection welcomed =>
          obtain rfl : cell = .answered response := Option.some.inj (seen.symm.trans answered)
          obtain rfl : verdict call.method response = result := Option.some.inj shown
          simp [found]
      | abandoned closed =>
          obtain rfl : cell = .closed := Option.some.inj (seen.symm.trans closed)
          obtain rfl : .error (.abandoned id call.method) = result := Option.some.inj shown
          simp [fail, found]
      | unchanged undecided =>
          rcases undecided cell seen with rfl | rfl <;> cases shown
    · exact absurd waiting (asleep call id handle since found)

/-- The decision is kept along a run. -/
theorem step (decided : client.Decided number call id handle result)
    (correlated : client.IsCorrelated) (action : Action) :
    (client.step action).Decided number call id handle result where
  spent := isSpent_step decided.spent action
  waiting := decided.waiting
  stands := by
    by_cases is_wake : action = .wake number
    · subst is_wake
      exact .inl decided.wake
    · rcases decided.stands with returned | ⟨found, cell, seen, shown⟩
      · exact .inl (getElem?_step_of_returned returned rfl action)
      · obtain ⟨since, waiting⟩ := decided.waiting
        have waits : Waits client.calls number id handle call.method :=
          ⟨call, since, found, waiting, rfl⟩
        refine .inr ⟨?_, cell, ?_, shown⟩
        · by_cases is_start : action = .start number
          · subst is_start
            rw [step_start, calls_dissolve, start_of_not_ready found, found]
            rw [waiting]
            rintro ⟨⟩
          · exact getElem?_step_of_ne found is_start is_wake
        · rw [cells_step correlated waits decided.spent.gone is_wake, seen]

theorem run (decided : client.Decided number call id handle result)
    (correlated : client.IsCorrelated) (actions : List Action) :
    (client.run actions).Decided number call id handle result := by
  induction actions generalizing client with
  | nil => exact decided
  | cons action rest induction =>
      exact induction (decided.step correlated action) (isCorrelated_step correlated action)

end Decided

/-! ## The fate of a call -/

/-- What ends the wait for an answer. -/
inductive Departure where
  | answered (response : Response)
  /-- All requests are given up. -/
  | abandoned

/-- What ends the wait for an answer first along a run: a response with the id, or that no request
is pending any more. -/
def departure? (client : Client) (id : String) : List Action → Option Departure
  | [] => none
  | action :: rest =>
    match client.response? action with
    | some response =>
      if response.id = id then some (.answered response)
      else departure? (client.step action) id rest
    | none =>
      if (client.step action).inFlight.pending.isEmpty then some .abandoned
      else departure? (client.step action) id rest

/-- What a call returns after its wait has ended. -/
def Departure.result (id method : String) : Departure → Except ClientError Json
  | .answered response => verdict method response
  | .abandoned => .error (.abandoned id method)

variable {client : Client} {number : Nat} {call : Call} {id : String} {handle : Handle}

theorem Awaiting.issued_step (awaiting : client.Awaiting number call id handle)
    (correlated : client.IsCorrelated) (action : Action) :
    ∃ serial < (client.step action).issued, id = (serial + 1).repr :=
  (awaiting.issued correlated).imp fun _ ⟨earlier, same⟩ =>
    ⟨Nat.lt_of_lt_of_le earlier (client.issued_le_step action), same⟩

theorem Awaiting.decided_of_response (awaiting : client.Awaiting number call id handle)
    (correlated : client.IsCorrelated) {action : Action} {response : Response}
    (handed : client.response? action = some response) (same : response.id = id) :
    (client.step action).Decided number call id handle (verdict call.method response) := by
  obtain ⟨gone, cell⟩ := (awaiting.step_of_response correlated handed).1 same
  exact ⟨⟨awaiting.issued_step correlated action, gone⟩, awaiting.waiting,
    .inr ⟨awaiting.found_step correlated action, _, cell, rfl⟩⟩

/-- A call still waits as long as nothing has ended the wait, and whatever ends it first decides
what the call returns. -/
theorem fate_of_awaiting (awaiting : client.Awaiting number call id handle)
    (correlated : client.IsCorrelated) (actions : List Action) :
    match client.departure? id actions with
    | none => (client.run actions).Awaiting number call id handle
    | some departure =>
      (∀ response, departure = .answered response → response.id = id) ∧
        (client.run actions).Decided number call id handle (departure.result id call.method) := by
  induction actions generalizing client with
  | nil => exact awaiting
  | cons action rest induction =>
      have next := isCorrelated_step correlated action
      have found := awaiting.found_step correlated action
      simp only [departure?, run_cons]
      cases handed : client.response? action with
      | some response =>
          by_cases same : response.id = id
          · have decided := awaiting.decided_of_response correlated handed same
            simp only [same, if_true, Departure.answered.injEq]
            exact ⟨fun _ first => first ▸ same, decided.run next rest⟩
          · have awaited := (awaiting.step_of_response correlated handed).2 same
            simp only [same, if_false]
            exact induction ⟨found, awaiting.waiting, awaited⟩ next
      | none =>
          rcases awaiting.step_of_silent correlated handed with awaited | ⟨empty, cell⟩
          · have pending : (client.step action).inFlight.pending.isEmpty = false := by
              obtain ⟨entry, member, -⟩ := (InFlight.awaits_iff _ _).mp awaited
              exact List.isEmpty_eq_false_iff.mpr (List.ne_nil_of_mem member)
            simp only [pending, Bool.false_eq_true, if_false]
            exact induction ⟨found, awaiting.waiting, awaited⟩ next
          · have gone : (client.step action).inFlight.awaits id = false := by
              simp [InFlight.awaits, InFlight.find?, empty]
            have decided : (client.step action).Decided number call id handle
                (.error (.abandoned id call.method)) :=
              ⟨⟨awaiting.issued_step correlated action, gone⟩, awaiting.waiting,
                .inr ⟨found, _, cell, rfl⟩⟩
            simp only [empty, List.isEmpty_nil, if_true]
            exact ⟨by simp, decided.run next rest⟩

/-- A text on a link that receives is handed to the client. -/
theorem received_of_heard? {link : Nat} {item : Option StreamItem} {text : String}
    (heard : client.heard? (.received link item) = some text) :
    client.received link item = client.inbound text := by
  simp only [heard?, Option.ite_none_right_eq_some] at heard
  obtain ⟨-, heard⟩ := heard
  simp only [received]
  cases found : client.links[link]? with
  | none => simp [found] at heard
  | some there =>
      obtain ⟨generation, url, stage⟩ := there
      cases stage <;> simp only [found, reduceCtorEq] at heard ⊢
      cases reading : item.elim (some StreamItem.Reading.finished) StreamItem.reading? with
      | none => simp [reading] at heard
      | some what =>
          cases what <;> simp only [reading, reduceCtorEq, Option.some.injEq] at heard ⊢
          rw [heard]

/-- A response that is handed to a client does nothing but settle the request with its id. -/
theorem step_eq_of_response {action : Action} {response : Response}
    (handed : client.response? action = some response) :
    client.step action =
      { client with inFlight := (client.inFlight.answer response.id response).2 } := by
  have taken {text : String} (read : responseOf? text = some response) :
      client.inbound text =
        { client with inFlight := (client.inFlight.answer response.id response).2 } := by
    unfold responseOf? at read
    unfold inbound
    split at read
    · rename_i parsed
      rw [parsed, ← Option.some.inj read]
    · cases read
  have kept (alive : client.isAlive = true) :
      { client with inFlight := (client.inFlight.answer response.id response).2 }.dissolve =
        { client with inFlight := (client.inFlight.answer response.id response).2 } :=
    dissolve_of_isAlive _ alive
  cases action with
  | inbound text =>
      have held : client.isHeld = true := by
        refine (Bool.eq_false_or_eq_true _).resolve_right fun let_go => ?_
        simp [response?, heard?, let_go] at handed
      have read : responseOf? text = some response := by
        simpa [response?, heard?, held] using handed
      rw [step_eq, if_pos held]
      dsimp only [applyHeld]
      rw [taken read, kept (isAlive_of_isHeld held)]
  | received link item =>
      cases alive : client.isAlive with
      | false => simp [response?, heard?, alive] at handed
      | true =>
          obtain ⟨text, heard, read⟩ := Option.bind_eq_some_iff.1 handed
          have received_eq : client.received link item =
              { client with inFlight := (client.inFlight.answer response.id response).2 } := by
            rw [received_of_heard? heard]
            exact taken read
          have passed_on : (client.applyHeld (.received link item)).2 = client.received link item ∧
              (client.applyTask (.received link item)).2 = client.received link item := ⟨rfl, rfl⟩
          rw [step_eq, if_pos alive]
          split
          · rw [passed_on.1, received_eq, kept alive]
          · rw [passed_on.2, received_eq, kept alive]
  | _ => cases handed

end Client

end GatewayLink
