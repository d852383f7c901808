import GatewayLink.Proofs.Client.Clearing
import GatewayLink.Proofs.Client.Heading

/-!
# What becomes of interleaved calls

As long as the request of a call is pending the call has not returned.  The request stops pending
when a response with its id comes, when all requests are given up, or when the call itself withdraws
it because it could not be sent.  Whichever comes first decides what the call returns.
-/

namespace GatewayLink

namespace Client

/-! ## While a request is pending -/

/-- A call is under way with a request that is pending. -/
structure Expects (client : Client) (number : Nat) (call : Call) (id : String) (handle : Handle) :
    Prop where
  holds : Holds client.calls number call ⟨id, some handle⟩
  active : call.isActive = true
  awaited : client.inFlight.awaits id = true

/-- What ends the wait for an answer. -/
inductive Parting where
  | answered (response : Response)
  /-- All requests are given up. -/
  | cleared
  /-- The request could not be sent. -/
  | withdrawn (cause : TransportError)

/-- What a call returns after its wait has ended. -/
def Parting.result (id method : String) : Parting → Except ClientError Json
  | .answered response => verdict method response
  | .cleared => .error (.abandoned id method)
  | .withdrawn cause => .error (.transport cause)

/-- What a move does that ends the wait for the answer to a request. -/
def parts? (client : Client) (id : String) : Move → Option Parting
  | .giveUp _ => none
  | .act action =>
    match client.response? action with
    | some response => if response.id = id then some (.answered response) else none
    | none =>
      if client.clears action then some .cleared
      else (client.withdraws? id action).map .withdrawn

/-- Whether the request with an id was sent by a call that waits for its answer. -/
def hasSent (client : Client) (id : String) : Bool :=
  client.calls.any fun call =>
    match call.stage with
    | .waiting other _ _ => other == id
    | _ => false

/-- What ends the wait for the answer to a request first along some moves, and whether the request
had been sent by then. -/
def parting? (client : Client) (id : String) : List Move → Option (Parting × Bool)
  | [] => none
  | move :: rest =>
    match client.parts? id move with
    | some parting => some (parting, client.hasSent id)
    | none => (client.move move).parting? id rest

section Expecting

variable {client : Client} {number : Nat} {call : Call} {id : String} {handle : Handle}

namespace Expects

theorem stage (expects : client.Expects number call id handle) :
    IsRegistered id handle call.stage :=
  isRegistered_of_holds expects.holds expects.active

/-- The request is pending under the handle of the call. -/
theorem pending (expects : client.Expects number call id handle)
    (attributed : client.IsAttributed) :
    ⟨id, call.method, handle⟩ ∈ client.inFlight.pending ∧
      client.inFlight.cells[handle]? = some .waiting := by
  have apart {gone : client.inFlight.awaits id = false} : False := by
    rw [expects.awaited] at gone
    cases gone
  cases attributed.kept expects.holds with
  | released inactive cell => simp [expects.active] at inactive
  | held active registered =>
      rcases registered with ⟨member, cell⟩ | ⟨_, _, gone, _⟩ | ⟨gone, _⟩
      · exact ⟨member, cell⟩
      · exact (@apart gone).elim
      · exact (@apart gone).elim

end Expects

/-- A call that has come to wait shows so in the list of calls. -/
theorem Expects.hasSent_eq (expects : client.Expects number call id handle)
    (attributed : client.IsAttributed) : client.hasSent id = call.stage.isWaiting := by
  rw [Bool.eq_iff_iff, hasSent, List.any_eq_true]
  constructor
  · rintro ⟨other, member, waits⟩
    obtain ⟨place, found⟩ := List.mem_iff_getElem?.mp member
    cases stage : other.stage with
    | waiting otherId otherHandle since =>
        obtain rfl : otherId = id := by simpa [stage] using waits
        have other_holds : Holds client.calls place other ⟨otherId, some otherHandle⟩ :=
          ⟨found, by rw [stage]; rfl⟩
        obtain rfl := attributed.apart other_holds expects.holds (.inl rfl)
        obtain rfl : other = call := Option.some.inj (found.symm.trans expects.holds.1)
        rw [stage]
        rfl
    | _ => simp [stage] at waits
  · intro waits
    refine ⟨call, List.mem_of_getElem? expects.holds.1, ?_⟩
    cases stage : call.stage with
    | waiting otherId otherHandle since =>
        have held := expects.holds.2
        rw [stage] at held
        simp only [CallStage.ticket?, Option.some.injEq, Ticket.mk.injEq] at held
        simp [held.1]
    | _ => simp [CallStage.isWaiting, stage] at waits

/-- A registered call whose handle shows a result heads for it. -/
theorem Expects.heading_of_shown (expects : client.Expects number call id handle)
    (attributed : client.IsAttributed) {after : Client} (after_attributed : after.IsAttributed)
    (found : after.calls[number]? = some call) (gone : after.inFlight.awaits id = false)
    {result : Except ClientError Json} (cell : Cell)
    (seen : after.inFlight.cells[handle]? = some cell)
    (shown : cellResult? id call.method cell = some result) :
    after.IsUsedUp id ∧ ∃ stage, after.calls[number]? = some { call with stage } ∧
      Heading after.inFlight id call.method handle result (client.hasSent id) stage := by
  have there := expects.stage
  have holds : Holds after.calls number call ⟨id, some handle⟩ := ⟨found, expects.holds.2⟩
  refine ⟨isUsedUp_of_holds after_attributed holds gone ?_, call.stage, found,
    .shown there ?_ cell seen shown⟩
  · intro about
    rw [about] at there
    cases there
  · rw [expects.hasSent_eq attributed]
    exact fun waits => waits

theorem Expects.goOn (expects : client.Expects number call id handle) {after : Client}
    (found : after.calls[number]? = some call) (awaited : after.inFlight.awaits id = true) :
    ∃ stage, after.Expects number { call with stage } id handle :=
  ⟨call.stage, ⟨found, expects.holds.2⟩, expects.active, awaited⟩

/-- What is done aside answers the request, gives it up with all others, or leaves it pending. -/
theorem Expects.move_of_others (expects : client.Expects number call id handle)
    (attributed : client.IsAttributed) {action : Action} (others : action.movesCall = false) :
    match client.parts? id (.act action) with
    | none => ∃ stage, (client.step action).Expects number { call with stage } id handle
    | some parting =>
      (∀ response, parting = .answered response → response.id = id) ∧
        (client.step action).IsUsedUp id ∧
        ∃ stage, (client.step action).calls[number]? = some { call with stage } ∧
          Heading (client.step action).inFlight id call.method handle
            (parting.result id call.method) (client.hasSent id) stage := by
  have stepped := client.move_of_others others
  have after_attributed : (client.step action).IsAttributed :=
    stepped ▸ isAttributed_move attributed (.act action)
  have found : (client.step action).calls[number]? = some call := by
    rw [← stepped]
    refine getElem?_move expects.holds.1 ?_ ?_ ?_ <;> rintro ⟨⟩ <;> cases others
  obtain ⟨member, waiting⟩ := expects.pending attributed
  have unwithdrawn : client.withdraws? id action = none := by
    cases action <;> first | rfl | cases others
  have silent_or := (client.aside_step action others).inFlight
  rw [parts?]
  cases handed : client.response? action with
  | some response =>
      rw [handed] at silent_or
      have inFlight : (client.step action).inFlight =
          (client.inFlight.answer response.id response).2 := silent_or
      dsimp only
      by_cases same : response.id = id
      · subst same
        rw [if_pos rfl]
        refine ⟨fun _ first => (Parting.answered.inj first) ▸ rfl,
          expects.heading_of_shown attributed after_attributed found ?_ (.answered response) ?_ rfl⟩
        · simp [inFlight, InFlight.answer, InFlight.awaits_remove]
        · rw [inFlight, InFlight.answer, InFlight.cells_remove (some response) member, waiting]
          · rfl
          · exact fun entry entry_member same =>
              congrArg Pending.handle (attributed.entry_eq expects.holds entry_member (.inl same))
      · rw [if_neg same]
        refine expects.goOn found ?_
        simp [inFlight, InFlight.answer, InFlight.awaits_remove, expects.awaited, Ne.symm same]
  | none =>
      have inFlight := client.inFlight_step_of_silent others handed
      dsimp only
      rw [unwithdrawn, Option.map_none]
      cases clears : client.clears action with
      | true =>
          have abandoned : (client.step action).inFlight = client.inFlight.abandonAll.2 := by
            rw [inFlight, clears, cond_true]
          rw [if_pos rfl]
          refine ⟨fun _ first => (Parting.noConfusion first),
            expects.heading_of_shown attributed after_attributed found ?_ .closed ?_ rfl⟩
          · rw [abandoned]
            rfl
          · rw [abandoned, InFlight.cells_abandonAll member, waiting]
            rfl
      | false =>
          refine expects.goOn found ?_
          rw [inFlight, clears, cond_false, expects.awaited]

/-- The steps of another call leave a pending request alone. -/
theorem Expects.move_start_of_ne (expects : client.Expects number call id handle)
    (attributed : client.IsAttributed) {other : Nat} (apart : other ≠ number) :
    client.withdraws? id (.start other) = none ∧
      (client.move (.act (.start other))).inFlight.awaits id = true := by
  have id_ne {otherCall : Call} {ticket : Ticket}
      (holds : Holds client.calls other otherCall ticket) : ticket.id ≠ id :=
    fun same => apart (attributed.apart holds expects.holds (.inl same))
  have awaited := expects.awaited
  constructor
  · cases found : client.calls[other]? with
    | none => simp only [withdraws?, found]
    | some otherCall =>
        obtain ⟨caller, method, params, stage⟩ := otherCall
        cases stage with
        | underway progress =>
            cases progress with
            | unsent otherId otherHandle since cause =>
                have holds : Holds client.calls other _ ⟨otherId, some otherHandle⟩ := ⟨found, rfl⟩
                simp only [withdraws?, found, if_neg (id_ne holds)]
            | _ => simp only [withdraws?, found]
        | _ => simp only [withdraws?, found]
  · rw [move_start, inFlight_dissolve]
    obtain ⟨otherCall, found, -, advanced⟩ | ⟨-, unchanged⟩ := client.advance_cases other
    · generalize client.advance other = after at advanced
      cases advanced with
      | registered otherId stage free => simp [InFlight.awaits_enter, awaited]
      | withdrawn otherId otherHandle since cause stage =>
          have holds : Holds client.calls other otherCall ⟨otherId, some otherHandle⟩ :=
            ⟨found, by rw [stage]; rfl⟩
          have id_apart : id ≠ otherId := Ne.symm (id_ne holds)
          simp [Client.withdraw, InFlight.withdraw, InFlight.awaits_remove, awaited, id_apart]
      | _ => exact awaited
    · rw [unchanged, awaited]

/-- A call whose request is pending goes on, or withdraws it because it could not be sent. -/
theorem Expects.move_start_self (expects : client.Expects number call id handle)
    (attributed : client.IsAttributed) :
    match client.withdraws? id (.start number) with
    | none =>
        ∃ stage, (client.move (.act (.start number))).Expects number { call with stage } id handle
    | some cause =>
      (client.move (.act (.start number))).IsUsedUp id ∧
        ∃ stage, (client.move (.act (.start number))).calls[number]? = some { call with stage } ∧
          Heading (client.move (.act (.start number))).inFlight id call.method handle
            (.error (.transport cause)) (client.hasSent id) stage := by
  obtain ⟨next, found, ⟨there, -, -, unwithdrawn, inFlight⟩ |
    ⟨since, cause, stage, rfl, withdrawn, inFlight⟩⟩ :=
    calls_move_start expects.holds.1 expects.stage
  · rw [unwithdrawn]
    refine ⟨next, ⟨found, ?_⟩, ?_, by rw [inFlight, expects.awaited]⟩ <;> cases there <;> rfl
  · rw [withdrawn]
    have early : client.hasSent id = false := by
      rw [expects.hasSent_eq attributed, stage]
      rfl
    have gone : (client.move (.act (.start number))).inFlight.awaits id = false := by
      rw [inFlight]
      simp [InFlight.withdraw, InFlight.awaits_remove]
    have holds : Holds (client.move (.act (.start number))).calls number
        { call with stage := .underway (.withdrawn id since cause) } ⟨id, none⟩ := ⟨found, rfl⟩
    exact ⟨isUsedUp_of_holds (isAttributed_move attributed _) holds gone (by simp), _, found,
      .withdrawn early since cause⟩

theorem Expects.asleep (expects : client.Expects number call id handle)
    (attributed : client.IsAttributed) : client.wake number = client := by
  obtain ⟨-, cell⟩ := expects.pending attributed
  have found := expects.holds.1
  have there := expects.stage
  obtain ⟨caller, method, params, stage⟩ := call
  cases there with
  | waiting since => simp [wake, found, InFlight.poll, InFlight.glance?, cell]
  | _ => exact wake_of_not_isWaiting found rfl

/-- A pending request stays pending until a move ends the wait for its answer, which decides what
the call returns. -/
theorem Expects.move (expects : client.Expects number call id handle)
    (attributed : client.IsAttributed) {move : Move}
    (kept : move = .giveUp number → call.caller ≠ .holder) :
    match client.parts? id move with
    | none => ∃ stage, (client.move move).Expects number { call with stage } id handle
    | some parting =>
      (∀ response, parting = .answered response → response.id = id) ∧
        (client.move move).IsUsedUp id ∧
        ∃ stage, (client.move move).calls[number]? = some { call with stage } ∧
          Heading (client.move move).inFlight id call.method handle
            (parting.result id call.method) (client.hasSent id) stage := by
  have found := expects.holds.1
  cases move with
  | giveUp other =>
      refine expects.goOn (getElem?_move found (by rintro ⟨⟩) (by rintro ⟨⟩)
        fun own holder => absurd holder (kept own)) ?_
      rw [Client.move, inFlight_dissolve]
      obtain ⟨otherCall, -, -, -, dropped⟩ | ⟨-, unchanged⟩ := client.giveUp_cases other
      · rw [dropped, inFlight_setStage, awaits_letGo, expects.awaited]
      · rw [unchanged, expects.awaited]
  | act action =>
      cases others : action.movesCall with
      | false =>
          rw [client.move_of_others others]
          exact expects.move_of_others attributed others
      | true =>
          cases action with
          | start other =>
              have parts : client.parts? id (.act (.start other)) =
                  (client.withdraws? id (.start other)).map .withdrawn := rfl
              rw [parts]
              by_cases own : other = number
              · subst own
                have moved := expects.move_start_self attributed
                cases withdrawn : client.withdraws? id (.start other) with
                | none =>
                    rw [withdrawn] at moved
                    exact moved
                | some cause =>
                    rw [withdrawn] at moved
                    exact ⟨fun _ first => (Parting.noConfusion first), moved⟩
              · obtain ⟨unwithdrawn, awaited⟩ := expects.move_start_of_ne attributed own
                rw [unwithdrawn]
                refine expects.goOn (getElem?_move found ?_ (by rintro ⟨⟩) (by rintro ⟨⟩)) awaited
                rintro ⟨⟩
                exact absurd rfl own
          | wake other =>
              refine expects.goOn ?_ ?_
              · by_cases own : other = number
                · subst own
                  rw [move_wake, step_wake, calls_dissolve, expects.asleep attributed, found]
                · refine getElem?_move found (by rintro ⟨⟩) ?_ (by rintro ⟨⟩)
                  rintro ⟨⟩
                  exact absurd rfl own
              · rw [move_wake, step_wake, inFlight_dissolve]
                obtain ⟨otherCall, otherId, otherHandle, since, -, -, woke⟩ | ⟨-, unchanged⟩ :=
                  client.wake_cases other
                · generalize client.wake other = after at woke
                  cases woke <;> exact expects.awaited
                · rw [unchanged, expects.awaited]
          | _ => cases others

/-! ## The fate of a call -/

/-- A pending request is still pending, or what has ended the wait for its answer first decides what
the call returns. -/
theorem Expects.weave (expects : client.Expects number call id handle)
    (attributed : client.IsAttributed) {moves : List Move}
    (kept : ∀ move ∈ moves, move = .giveUp number → call.caller ≠ .holder) :
    match client.parting? id moves with
    | none => ∃ stage, (client.weave moves).Expects number { call with stage } id handle
    | some (parting, sent) =>
      (∀ response, parting = .answered response → response.id = id) ∧
        (client.weave moves).IsUsedUp id ∧
        ∃ stage, (client.weave moves).calls[number]? = some { call with stage } ∧
          Heading (client.weave moves).inFlight id call.method handle
            (parting.result id call.method) sent stage := by
  induction moves generalizing client call with
  | nil => exact ⟨call.stage, expects⟩
  | cons move rest induction =>
      obtain ⟨kept_now, kept_later⟩ := List.forall_mem_cons.mp kept
      have moved := expects.move attributed kept_now
      have next_attributed := isAttributed_move attributed move
      rw [parting?]
      cases parts : client.parts? id move with
      | none =>
          rw [parts] at moved
          obtain ⟨stage, next⟩ := moved
          have later := induction next next_attributed kept_later
          exact later
      | some parting =>
          rw [parts] at moved
          obtain ⟨same_id, used, stage, found, heading⟩ := moved
          exact ⟨same_id, isUsedUp_weave used rest,
            heading_weave next_attributed used found heading kept_later⟩

end Expecting

end Client

end GatewayLink
