import GatewayLink.Proofs.Client.Expiring

/-!
# Calls whose result is decided

Once the request of a call is not pending any more, its handle shows what the call will return.  The
call returns it as soon as it waits and is woken; but a call that has not sent its request yet must
still do so, and returns the failure if it cannot.
-/

namespace GatewayLink

namespace Client

/-- How far a call has come whose request is registered. -/
inductive IsRegistered (id : String) (handle : Handle) : CallStage → Prop where
  | registered : IsRegistered id handle (.underway (.registered id handle))
  | recorded (since : Nat) : IsRegistered id handle (.underway (.recorded id handle since))
  | unsent (since : Nat) (cause : TransportError) :
      IsRegistered id handle (.underway (.unsent id handle since cause))
  | waiting (since : Nat) : IsRegistered id handle (.waiting id handle since)

/-- How a call stands that will return a result: it has returned, or its handle shows the result;
if it was early, it may still fail to send its request. -/
inductive Heading (inFlight : InFlight) (id method : String) (handle : Handle)
    (result : Except ClientError Json) (sent : Bool) : CallStage → Prop where
  | returned : Heading inFlight id method handle result sent (.returned result)
  | shown {stage : CallStage} (there : IsRegistered id handle stage)
      (on_time : sent = true → stage.isWaiting = true) (cell : Cell)
      (seen : inFlight.cells[handle]? = some cell)
      (shown : cellResult? id method cell = some result) :
      Heading inFlight id method handle result sent stage
  | withdrawn (early : sent = false) (since : Nat) (cause : TransportError) :
      Heading inFlight id method handle result sent (.underway (.withdrawn id since cause))
  | failed (early : sent = false) (cause : TransportError) :
      Heading inFlight id method handle result sent (.returned (.error (.transport cause)))

/-- The failure for which an action withdraws the request with an id. -/
def withdraws? (client : Client) (id : String) : Action → Option TransportError
  | .start number =>
    match client.calls[number]? with
    | some ⟨_, _, _, .underway (.unsent other _ _ cause)⟩ => if other = id then some cause else none
    | _ => none
  | _ => none

section Heading

variable {client : Client} {number : Nat} {call : Call} {id : String} {handle : Handle}

theorem isRegistered_of_holds (holds : Holds client.calls number call ⟨id, some handle⟩)
    (active : call.isActive = true) : IsRegistered id handle call.stage := by
  have held := holds.2
  cases stage : call.stage with
  | underway progress =>
      rw [stage] at held
      cases progress <;> simp only [CallStage.ticket?, Progress.ticket?, Option.some.injEq,
        Ticket.mk.injEq, reduceCtorEq, and_false] at held
      · obtain ⟨rfl, rfl⟩ := held
        exact .registered
      · obtain ⟨rfl, rfl⟩ := held
        exact .recorded _
      · obtain ⟨rfl, rfl⟩ := held
        exact .unsent _ _
  | waiting other otherHandle since =>
      rw [stage] at held
      simp only [CallStage.ticket?, Option.some.injEq, Ticket.mk.injEq] at held
      obtain ⟨rfl, rfl⟩ := held
      exact .waiting since
  | dropped ticket => simp [Call.isActive, stage] at active
  | _ => simp [CallStage.ticket?, stage] at held

/-- Once its request is not pending any more, only the call itself touches its handle. -/
theorem cells_move (attributed : client.IsAttributed)
    (holds : Holds client.calls number call ⟨id, some handle⟩)
    (gone : client.inFlight.awaits id = false) {move : Move}
    (not_wake : move ≠ .act (.wake number))
    (not_giveUp : move = .giveUp number → call.caller ≠ .holder) :
    (client.move move).inFlight.cells[handle]? = client.inFlight.cells[handle]? := by
  have no_entry : ∀ entry ∈ client.inFlight.pending, entry.handle ≠ handle := by
    intro entry member same
    have own := attributed.entry_eq holds member (.inr same)
    exact InFlight.ne_of_free gone member (by rw [own])
  have handle_ne {other otherHandle : Nat} {otherCall : Call} {otherId : String}
      (other_holds : Holds client.calls other otherCall ⟨otherId, some otherHandle⟩)
      (apart : other ≠ number) : otherHandle ≠ handle := by
    rintro rfl
    exact apart (attributed.apart other_holds holds (.inr ⟨rfl, rfl⟩))
  have moved := client.move_cases move
  generalize client.move move = after at moved
  cases moved with
  | advanced other otherCall other_found ahead after advanced =>
      rw [inFlight_dissolve]
      cases advanced with
      | registered otherId stage free =>
          have known := (attributed.kept holds).handle_lt
          rw [inFlight_setStage, InFlight.enter_eq free, List.getElem?_append_left known]
      | withdrawn otherId otherHandle since cause stage =>
          exact InFlight.cells_remove_of_ne none fun entry member _ => no_entry entry member
      | _ => rfl
  | woke other otherCall otherId otherHandle since other_found waiting after woke =>
      have apart : other ≠ number := by
        rintro rfl
        exact not_wake rfl
      have other_holds : Holds client.calls other otherCall ⟨otherId, some otherHandle⟩ :=
        ⟨other_found, by rw [waiting]; rfl⟩
      rw [inFlight_dissolve]
      cases woke with
      | concluded => exact List.getElem?_set_ne (handle_ne other_holds apart)
      | _ => rfl
  | dropped other otherCall other_found holder active =>
      have apart : other ≠ number := by
        rintro rfl
        obtain rfl : otherCall = call := Option.some.inj (other_found.symm.trans holds.1)
        exact not_giveUp rfl holder
      rw [inFlight_dissolve, inFlight_setStage, letGo]
      dsimp only
      cases held : otherCall.stage.ticket? with
      | none => rfl
      | some ticket =>
          obtain ⟨otherId, otherHandle⟩ := ticket
          cases otherHandle with
          | none => rfl
          | some otherHandle =>
              dsimp only [Option.bind_some]
              unfold InFlight.release
              split
              · rfl
              · exact List.getElem?_set_ne (handle_ne ⟨other_found, held⟩ apart)
  | aside action others =>
      have inFlight := (client.aside_step action others).inFlight
      generalize client.response? action = response at inFlight
      cases response with
      | some response =>
          rw [show (client.step action).inFlight = _ from inFlight]
          exact InFlight.cells_remove_of_ne _ fun entry member _ => no_entry entry member
      | none =>
          obtain same | abandoned := inFlight
          · rw [same]
          · rw [abandoned]
            exact InFlight.cells_abandonAll_of_ne no_entry
  | still _ silent => rw [inFlight_dissolve]

/-- What a call that is registered comes to by its next step: it goes on with its registration, or
withdraws a request that could not be sent. -/
theorem calls_move_start {stage : CallStage}
    (found : client.calls[number]? = some { call with stage })
    (there : IsRegistered id handle stage) :
    ∃ next, (client.move (.act (.start number))).calls[number]? = some { call with stage := next } ∧
      ((IsRegistered id handle next ∧ (stage.isWaiting = true → next.isWaiting = true) ∧
          (stage.isWaiting = false → next.work < stage.work) ∧
          client.withdraws? id (.start number) = none ∧
          (client.move (.act (.start number))).inFlight = client.inFlight) ∨
        ∃ since cause, stage = .underway (.unsent id handle since cause) ∧
          next = .underway (.withdrawn id since cause) ∧
          client.withdraws? id (.start number) = some cause ∧
          (client.move (.act (.start number))).inFlight =
            (client.inFlight.withdraw id).2) := by
  have moved (next : CallStage) : (client.calls.modify number ({ · with stage := next }))[number]? =
      some { call with stage := next } := by
    simp [found]
  rw [move_start, calls_dissolve, inFlight_dissolve]
  cases there with
  | registered =>
      rw [advance_of_underway found rfl]
      exact ⟨_, moved _, .inl ⟨.recorded client.clock.uptime, by simp [CallStage.isWaiting],
        by simp [CallStage.work, Progress.work], by simp [withdraws?, found], rfl⟩⟩
  | recorded since =>
      have unwithdrawn : client.withdraws? id (.start number) = none := by simp [withdraws?, found]
      rw [advance_of_underway found rfl, proceed]
      obtain ⟨connection, -, transmitted⟩ | ⟨cause, -, transmitted⟩ :=
        client.transmit_cases ⟨id, call.method, call.params⟩
      · rw [transmitted]
        exact ⟨_, moved _, .inl ⟨.waiting since, by simp [CallStage.isWaiting],
          by simp [CallStage.work, Progress.work], unwithdrawn, rfl⟩⟩
      · rw [transmitted]
        exact ⟨_, moved _,
          .inl ⟨.unsent since cause, by simp [CallStage.isWaiting],
            by simp [CallStage.work, Progress.work], unwithdrawn, rfl⟩⟩
  | unsent since cause =>
      rw [advance_of_underway found rfl]
      exact ⟨_, moved _, .inr ⟨since, cause, rfl, rfl, by simp [withdraws?, found], rfl⟩⟩
  | waiting since =>
      have still : client.advance number = client := by simp [advance, found]
      rw [still]
      exact ⟨_, found, .inl ⟨.waiting since, fun waits => waits, by simp [CallStage.isWaiting],
        by simp [withdraws?, found], rfl⟩⟩

/-- A call whose handle shows its result sends its request or fails to. -/
theorem heading_move_start {result : Except ClientError Json} {sent : Bool} {stage : CallStage}
    (attributed : client.IsAttributed) (used : client.IsUsedUp id)
    (found : client.calls[number]? = some { call with stage })
    (there : IsRegistered id handle stage)
    (on_time : sent = true → stage.isWaiting = true) {cell : Cell}
    (seen : client.inFlight.cells[handle]? = some cell)
    (shown : cellResult? id call.method cell = some result) :
    ∃ next, (client.move (.act (.start number))).calls[number]? = some { call with stage := next } ∧
      Heading (client.move (.act (.start number))).inFlight id call.method handle result sent next ∧
      (stage.isWaiting = false → next.work < stage.work) := by
  have holds : Holds client.calls number { call with stage } ⟨id, some handle⟩ :=
    ⟨found, by cases there <;> rfl⟩
  have same_cell := @cells_move client number _ id handle attributed holds used.gone
    (.act (.start number)) (by rintro ⟨⟩) (by rintro ⟨⟩)
  obtain ⟨next, next_found, ⟨next_there, waits, less, -⟩ | ⟨since, cause, rfl, rfl, -⟩⟩ :=
    calls_move_start found there
  · exact ⟨next, next_found, .shown next_there (fun on => waits (on_time on)) cell
      (same_cell.trans seen) shown, less⟩
  · have early : sent = false := by
      cases sent with
      | false => rfl
      | true => cases on_time rfl
    exact ⟨_, next_found, .withdrawn early since cause, fun _ => Nat.lt_succ_self _⟩

theorem step_wake_of_shown {result : Except ClientError Json} {stage : CallStage}
    (used : client.IsUsedUp id) (found : client.calls[number]? = some { call with stage })
    (there : IsRegistered id handle stage) (waits : stage.isWaiting = true) {cell : Cell}
    (seen : client.inFlight.cells[handle]? = some cell)
    (shown : cellResult? id call.method cell = some result) :
    (client.step (.wake number)).calls[number]? = some { call with stage := .returned result } := by
  cases there <;> cases waits
  have decided : client.Decided number { call with stage := .waiting id handle _ } id handle
      result :=
    ⟨⟨used.issued, used.gone⟩, ⟨_, rfl⟩, .inr ⟨found, cell, seen, shown⟩⟩
  exact decided.wake

theorem step_start_of_withdrawn {since : Nat} {cause : TransportError}
    (found : client.calls[number]? =
      some { call with stage := .underway (.withdrawn id since cause) }) :
    (client.move (.act (.start number))).calls[number]? =
      some { call with stage := .returned (.error (.transport cause)) } := by
  rw [move_start, calls_dissolve, advance_of_underway found rfl, proceed]
  simp [failToSend, fail, found]

/-- A call whose result is decided comes closer to it and to no other one. -/
theorem heading_move {result : Except ClientError Json} {sent : Bool} {stage : CallStage}
    (attributed : client.IsAttributed) (used : client.IsUsedUp id)
    (found : client.calls[number]? = some { call with stage })
    (heading : Heading client.inFlight id call.method handle result sent stage) {move : Move}
    (kept : move = .giveUp number → call.caller ≠ .holder) :
    ∃ next, (client.move move).calls[number]? = some { call with stage := next } ∧
      Heading (client.move move).inFlight id call.method handle result sent next := by
  have still (settled : ({ call with stage } : Call).isActive = false) :
      (client.move move).calls[number]? = some { call with stage } :=
    getElem?_move_of_inactive found settled move
  cases heading with
  | returned => exact ⟨_, still rfl, .returned⟩
  | failed early cause => exact ⟨_, still rfl, .failed early cause⟩
  | withdrawn early since cause =>
      by_cases is_start : move = .act (.start number)
      · rw [is_start]
        exact ⟨_, step_start_of_withdrawn found, .failed early cause⟩
      · exact ⟨_, getElem?_move found (absurd · is_start) (fun _ => rfl)
            fun own holder => absurd holder (kept own),
          .withdrawn early since cause⟩
  | shown there on_time cell seen shown =>
      by_cases is_start : move = .act (.start number)
      · rw [is_start]
        obtain ⟨next, next_found, next_heading, -⟩ :=
          heading_move_start attributed used found there on_time seen shown
        exact ⟨next, next_found, next_heading⟩
      · by_cases is_wake : move = .act (.wake number)
        · subst is_wake
          cases waits : stage.isWaiting with
          | true => exact ⟨_, step_wake_of_shown used found there waits seen shown, .returned⟩
          | false =>
              have asleep : client.wake number = client := wake_of_not_isWaiting found waits
              rw [move_wake, step_wake, calls_dissolve, inFlight_dissolve, asleep]
              exact ⟨stage, found, .shown there on_time cell seen shown⟩
        · have holds : Holds client.calls number { call with stage } ⟨id, some handle⟩ :=
            ⟨found, by cases there <;> rfl⟩
          have same_cell := cells_move attributed holds used.gone is_wake kept
          exact ⟨stage, getElem?_move found (absurd · is_start) (absurd · is_wake)
              fun own holder => absurd holder (kept own),
            .shown there on_time cell (same_cell.trans seen) shown⟩

/-- A call heads for its result until it has returned it. -/
theorem heading_weave {result : Except ClientError Json} {sent : Bool} {stage : CallStage}
    (attributed : client.IsAttributed) (used : client.IsUsedUp id)
    (found : client.calls[number]? = some { call with stage })
    (heading : Heading client.inFlight id call.method handle result sent stage) {moves : List Move}
    (kept : ∀ move ∈ moves, move = .giveUp number → call.caller ≠ .holder) :
    ∃ next, (client.weave moves).calls[number]? = some { call with stage := next } ∧
      Heading (client.weave moves).inFlight id call.method handle result sent next := by
  induction moves generalizing client stage with
  | nil => exact ⟨stage, found, heading⟩
  | cons move rest induction =>
      obtain ⟨kept_now, kept_later⟩ := List.forall_mem_cons.mp kept
      obtain ⟨next, next_found, next_heading⟩ :=
        heading_move attributed used found heading kept_now
      exact induction (isAttributed_move attributed move) (isUsedUp_move used move) next_found
        next_heading kept_later

end Heading

end Client

end GatewayLink
