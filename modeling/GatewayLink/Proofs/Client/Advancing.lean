import GatewayLink.Client.Interleaving
import GatewayLink.Proofs.Client.Step

/-!
# What one move can do

A move lets a call make one step, lets a call that waits go on, drops a call, or does something
else.  The first three touch one call each; everything else is done aside, as in a run of whole
steps.  A call that makes all its steps in a row does what it does when it begins at once, so the
runs of whole steps are those interleaved runs in which nothing comes between the steps of a call.
-/

namespace GatewayLink

/-- Whether a call in a stage has a step to make before it waits. -/
def CallStage.goesOn : CallStage → Bool
  | .ready | .underway _ => true
  | _ => false

/-- How many steps a call that has begun and does not wait still has at most. -/
def Progress.work : Progress → Nat
  | .checked .. => 7
  | .numbered _ => 6
  | .registered .. => 5
  | .recorded .. => 4
  | .unsent .. => 3
  | .withdrawn .. => 2
  | .skipped | .heldBack .. => 1

/-- How many steps a call in a stage still has at most. -/
def CallStage.work : CallStage → Nat
  | .ready => 8
  | .underway progress => progress.work
  | .waiting .. => 1
  | _ => 0

namespace Client

/-- What one step of a call does that does not wait. -/
inductive Advanced (client : Client) (number : Nat) (call : Call) : Client → Prop where
  | lapsed (generation : Nat) (caller : call.caller = .handshake generation)
      (ready : call.stage = .ready) (late : client.connection.stands generation = false) :
      Advanced client number call (client.setStage number .lapsed)
  | began (ready : call.stage = .ready) :
      Advanced client number call (client.setStage number (.underway client.outset))
  | numbered (bare : call.stage.ticket? = none) (early : 6 < call.stage.work) (pacing : Pacing) :
      Advanced client number call
        ({ client with pacing, issued := client.issued + 1 }.setStage number
          (.underway (.numbered (client.issued + 1).repr)))
  | overflowed (bare : call.stage.ticket? = none) :
      Advanced client number call (client.setStage number .overflowed)
  | heldBack (bare : call.stage.ticket? = none) (early : 1 < call.stage.work)
      (gap remaining : Int64) :
      Advanced client number call (client.setStage number (.underway (.heldBack gap remaining)))
  | refused (bare : call.stage.ticket? = none) (cause : ClientError) (status : CallStatus)
      (duration : Option UInt64) (text : String) (severity : Severity)
      (own : isAnswer (.error cause) = false) :
      Advanced client number call
        (client.refuse number cause call.method status duration text severity)
  | duplicate (id : String) (stage : call.stage = .underway (.numbered id))
      (awaited : client.inFlight.awaits id = true) :
      Advanced client number call
        (client.setStage number (.returned (.error (.duplicateId id))))
  | registered (id : String) (stage : call.stage = .underway (.numbered id))
      (free : client.inFlight.awaits id = false) :
      Advanced client number call
        ({ client with inFlight := (client.inFlight.enter id call.method).2 }.setStage number
          (.underway (.registered id client.inFlight.cells.length)))
  | recorded (id : String) (handle : Handle)
      (stage : call.stage = .underway (.registered id handle)) :
      Advanced client number call
        ((client.recordSent id call.method).setStage number
          (.underway (.recorded id handle client.clock.uptime)))
  | sent (id : String) (handle : Handle) (since : Nat)
      (stage : call.stage = .underway (.recorded id handle since)) (connection : Connection)
      (sends : client.connection.send (Outgoing.request ⟨id, call.method, call.params⟩).text =
        (.ok (), connection)) :
      Advanced client number call
        ({ client with connection }.setStage number (.waiting id handle since))
  | unsent (id : String) (handle : Handle) (since : Nat)
      (stage : call.stage = .underway (.recorded id handle since)) (cause : TransportError)
      (fails : (client.connection.send
        (Outgoing.request ⟨id, call.method, call.params⟩).text).1 = .error cause) :
      Advanced client number call
        (client.setStage number (.underway (.unsent id handle since cause)))
  | withdrawn (id : String) (handle : Handle) (since : Nat) (cause : TransportError)
      (stage : call.stage = .underway (.unsent id handle since cause)) :
      Advanced client number call
        ((client.withdraw id).setStage number (.underway (.withdrawn id since cause)))
  | failed (id : String) (since : Nat) (cause : TransportError)
      (stage : call.stage = .underway (.withdrawn id since cause)) :
      Advanced client number call (client.failToSend number id call.method since cause)

theorem Advanced.calls_eq {client after : Client} {number : Nat} {call : Call}
    (advanced : Advanced client number call after) :
    ∃ stage, after.calls = client.calls.modify number ({ · with stage }) := by
  cases advanced <;> exact ⟨_, rfl⟩

@[simp] theorem ticket?_outset (client : Client) : client.outset.ticket? = none := by
  rw [outset]
  split <;> rfl

section Cases

variable (client : Client) (number : Nat)

theorem proceed_cases (call : Call) {progress : Progress}
    (stage : call.stage = .underway progress) :
    Advanced client number call (client.proceed number call.method call.params progress) := by
  cases progress with
  | skipped => exact .refused (by rw [stage]; rfl) _ _ _ _ _ rfl
  | checked now gap =>
      have bare : call.stage.ticket? = none := by rw [stage]; rfl
      have early : call.stage.work = 7 := by rw [stage]; rfl
      rw [proceed]
      cases client.pacing.attempt call.method now gap with
      | mk admitted pacing =>
          cases admitted with
          | true => exact .numbered bare (by omega) pacing
          | false =>
              cases client.pacing.timeLeft? call.method now gap with
              | none => exact .overflowed bare
              | some remaining => exact .heldBack bare (by omega) gap remaining
  | heldBack gap remaining => exact .refused (by rw [stage]; rfl) _ _ _ _ _ rfl
  | numbered id =>
      rw [proceed]
      cases awaited : client.inFlight.awaits id with
      | true =>
          rw [register_of_awaits awaited]
          exact .duplicate id stage awaited
      | false =>
          rw [register_of_free awaited]
          exact .registered id stage awaited
  | registered id handle => exact .recorded id handle stage
  | recorded id handle since =>
      rw [proceed]
      obtain ⟨connection, sends, transmitted⟩ | ⟨cause, fails, transmitted⟩ :=
        client.transmit_cases ⟨id, call.method, call.params⟩
      · rw [transmitted]
        exact .sent id handle since stage connection sends
      · rw [transmitted]
        exact .unsent id handle since stage cause fails
  | unsent id handle since cause => exact .withdrawn id handle since cause stage
  | withdrawn id since cause => exact .failed id since cause stage

theorem advance_of_underway {client : Client} {number : Nat} {call : Call} {progress : Progress}
    (found : client.calls[number]? = some call) (stage : call.stage = .underway progress) :
    client.advance number = client.proceed number call.method call.params progress := by
  obtain ⟨caller, method, params, _⟩ := call
  obtain rfl := stage
  simp only [advance, found]

/-- A call makes a step just if it has not come to wait. -/
theorem advance_cases :
    (∃ call, client.calls[number]? = some call ∧ call.stage.goesOn = true ∧
        Advanced client number call (client.advance number)) ∨
      ((∀ call, client.calls[number]? = some call → call.stage.goesOn = false) ∧
        client.advance number = client) := by
  cases found : client.calls[number]? with
  | none => exact .inr ⟨by simp, by simp [advance, found]⟩
  | some call =>
      obtain ⟨caller, method, params, stage⟩ := call
      cases stage with
      | ready =>
          refine .inl ⟨_, rfl, rfl, ?_⟩
          cases caller with
          | handshake generation =>
              simp only [advance, found]
              split
              · exact .numbered rfl (Nat.lt_add_of_pos_right (Nat.succ_pos 1)) client.pacing
              · rename_i late
                exact .lapsed generation rfl rfl (by simpa using late)
          | _ =>
              simp only [advance, found]
              exact .began rfl
      | underway progress =>
          refine .inl ⟨_, rfl, rfl, ?_⟩
          simpa only [advance, found] using
            client.proceed_cases number ⟨caller, method, params, .underway progress⟩ rfl
      | _ => exact .inr ⟨by simp [CallStage.goesOn], by simp [advance, found]⟩

/-- A call is dropped just if somebody who holds the client has made it and it is under way. -/
theorem giveUp_cases :
    (∃ call, client.calls[number]? = some call ∧ call.caller = .holder ∧ call.isActive = true ∧
        client.giveUp number =
          (client.letGo call.stage.ticket?).setStage number (.dropped call.stage.ticket?)) ∨
      ((∀ call, client.calls[number]? = some call → call.caller = .holder →
          call.isActive = false) ∧
        client.giveUp number = client) := by
  cases found : client.calls[number]? with
  | none => exact .inr ⟨by simp, by simp [giveUp, found]⟩
  | some call =>
      obtain ⟨caller, method, params, stage⟩ := call
      cases caller with
      | holder =>
          cases active : (Call.mk .holder method params stage).isActive with
          | true => exact .inl ⟨_, rfl, rfl, active, by simp [giveUp, found, active]⟩
          | false => exact .inr ⟨by simpa using active, by simp [giveUp, found, active]⟩
      | _ => exact .inr ⟨by simp, by simp [giveUp, found]⟩

end Cases

/-! ## Moves -/

/-- What a move does. -/
inductive Moved (client : Client) : Move → Client → Prop where
  | advanced (number : Nat) (call : Call) (found : client.calls[number]? = some call)
      (ahead : call.stage.goesOn = true) (after : Client)
      (advanced : Advanced client number call after) :
      Moved client (.act (.start number)) after.dissolve
  | woke (number : Nat) (call : Call) (id : String) (handle : Handle) (since : Nat)
      (found : client.calls[number]? = some call) (waiting : call.stage = .waiting id handle since)
      (after : Client) (woke : Woke client number call id handle since after) :
      Moved client (.act (.wake number)) after.dissolve
  | dropped (number : Nat) (call : Call) (found : client.calls[number]? = some call)
      (holder : call.caller = .holder) (active : call.isActive = true) :
      Moved client (.giveUp number)
        ((client.letGo call.stage.ticket?).setStage number (.dropped call.stage.ticket?)).dissolve
  | aside (action : Action) (others : action.movesCall = false) :
      Moved client (.act action) (client.step action)
  | still (move : Move) (silent : ∀ action, move = .act action → action.movesCall = true) :
      Moved client move client.dissolve

theorem move_cases (client : Client) (move : Move) : Moved client move (client.move move) := by
  cases move with
  | giveUp number =>
      rw [Client.move]
      obtain ⟨call, found, holder, active, dropped⟩ | ⟨-, unchanged⟩ := client.giveUp_cases number
      · rw [dropped]
        exact .dropped number call found holder active
      · rw [unchanged]
        exact .still _ (by simp)
  | act action =>
      cases action with
      | start number =>
          rw [Client.move]
          obtain ⟨call, found, ahead, advanced⟩ | ⟨-, unchanged⟩ := client.advance_cases number
          · exact .advanced number call found ahead _ advanced
          · rw [unchanged]
            exact .still _ (by rintro _ ⟨⟩; rfl)
      | wake number =>
          rw [Client.move, step_wake]
          · obtain ⟨call, id, handle, since, found, waiting, woke⟩ | ⟨-, unchanged⟩ :=
              client.wake_cases number
            · exact .woke number call id handle since found waiting _ woke
            · rw [unchanged]
              exact .still _ (by rintro _ ⟨⟩; rfl)
          · rintro _ ⟨⟩
      | _ => exact .aside _ rfl

theorem move_of_others (client : Client) {action : Action} (others : action.movesCall = false) :
    client.move (.act action) = client.step action := by
  cases action <;> first | rfl | simp [Action.movesCall] at others

@[simp] theorem move_start (client : Client) (number : Nat) :
    client.move (.act (.start number)) = (client.advance number).dissolve := rfl

@[simp] theorem move_wake (client : Client) (number : Nat) :
    client.move (.act (.wake number)) = client.step (.wake number) := rfl

@[simp] theorem weave_nil (client : Client) : client.weave [] = client := rfl

@[simp] theorem weave_cons (client : Client) (move : Move) (rest : List Move) :
    client.weave (move :: rest) = (client.move move).weave rest := rfl

theorem weave_append (client : Client) (first second : List Move) :
    client.weave (first ++ second) = (client.weave first).weave second :=
  List.foldl_append ..

/-! ## Whole steps -/

/-- One client comes to be the other while a call makes its steps in a row. -/
def Reaches (number : Nat) (client after : Client) : Prop :=
  ∃ steps, client.weave (List.replicate steps (.act (.start number))) = after

theorem Reaches.refl (number : Nat) (client : Client) : Reaches number client client := ⟨0, rfl⟩

theorem Reaches.of_advance {number : Nat} {client after : Client}
    (reached : Reaches number (client.advance number).dissolve after) :
    Reaches number client after := by
  obtain ⟨steps, rfl⟩ := reached
  exact ⟨steps + 1, rfl⟩

/-- A step does not depend on how far the call had come before. -/
theorem proceed_setStage (client : Client) (number : Nat) (stage : CallStage) (method : String)
    (params : Json) (progress : Progress) :
    (client.setStage number stage).proceed number method params progress =
      client.proceed number method params progress := by
  have overwritten (calls : List Call) (next : CallStage) :
      (calls.modify number ({ · with stage })).modify number ({ · with stage := next }) =
        calls.modify number ({ · with stage := next }) := by
    rw [List.modify_modify_eq]
    rfl
  cases progress with
  | checked now gap =>
      simp only [proceed, setStage]
      split
      · simp only [assignId, takeId, setStage, overwritten]
      · split <;> rw [overwritten]
  | numbered id =>
      simp only [proceed]
      cases awaited : client.inFlight.awaits id with
      | true =>
          rw [register_of_awaits awaited, @register_of_awaits (client.setStage number stage) _ awaited]
          simp only [setStage, overwritten]
      | false =>
          rw [register_of_free awaited, @register_of_free (client.setStage number stage) _ awaited]
          simp only [setStage, overwritten]
  | recorded id handle since =>
      have sent : (client.setStage number stage).transmit ⟨id, method, params⟩ =
          ((client.transmit ⟨id, method, params⟩).1,
            (client.transmit ⟨id, method, params⟩).2.setStage number stage) := rfl
      simp only [proceed]
      rw [sent]
      cases client.transmit ⟨id, method, params⟩ with
      | mk result after => cases result <;> simp only [setStage, overwritten]
  | skipped => simp only [proceed, skip, refuse, setStage, overwritten]
  | heldBack gap remaining => simp only [proceed, holdBack, refuse, setStage, overwritten]
  | registered id handle => simp only [proceed, recordSent, setStage, overwritten]
  | unsent id handle since cause => simp only [proceed, withdraw, setStage, overwritten]
  | withdrawn id since cause =>
      simp only [proceed, failToSend, fail, elapsedSince, setStage, overwritten]

section Row

variable {client after : Client} {number : Nat} {caller : Caller} {method : String} {params : Json}
  (found : client.calls[number]? = some ⟨caller, method, params, .ready⟩)

include found

theorem dissolve_setStage_underway (progress : Progress) :
    (client.setStage number (.underway progress)).dissolve =
      client.setStage number (.underway progress) := by
  have there : (client.setStage number (.underway progress)).calls[number]? =
      some ⟨caller, method, params, .underway progress⟩ := by
    simp [found]
  exact dissolve_of_isAlive _ (isAlive_of_isActive there rfl)

theorem Reaches.of_proceed {progress : Progress}
    (reached : Reaches number (client.proceed number method params progress).dissolve after) :
    Reaches number (client.setStage number (.underway progress)) after := by
  have there : (client.setStage number (.underway progress)).calls[number]? =
      some ⟨caller, method, params, .underway progress⟩ := by
    simp [found]
  have advanced : (client.setStage number (.underway progress)).advance number =
      client.proceed number method params progress := by
    rw [← client.proceed_setStage number (.underway progress)]
    simp only [advance, there]
  exact .of_advance (by rwa [advanced])

theorem reaches_sendRequest (id : String) (handle : Handle) :
    Reaches number
      (client.setStage number (.underway (.recorded id handle client.clock.uptime)))
      (client.sendRequest number ⟨id, method, params⟩ handle).dissolve := by
  refine .of_proceed found ?_
  rw [proceed, sendRequest]
  obtain ⟨connection, -, transmitted⟩ | ⟨cause, -, transmitted⟩ :=
    client.transmit_cases ⟨id, method, params⟩
  · rw [transmitted]
    exact .refl ..
  · rw [transmitted]
    dsimp only
    rw [dissolve_setStage_underway found]
    refine .of_proceed found ?_
    rw [proceed, @dissolve_setStage_underway (client.withdraw id) _ _ _ _ found]
    exact @Reaches.of_proceed (client.withdraw id) _ _ _ _ _ found _ (.refl ..)

theorem reaches_issue :
    Reaches number (client.assignId number) (client.issue number method params).dissolve := by
  rw [assignId, issue, takeId]
  dsimp only
  refine @Reaches.of_proceed { client with issued := client.issued + 1 } _ _ _ _ _ found _ ?_
  rw [proceed]
  cases awaited : client.inFlight.awaits (client.issued + 1).repr with
  | true =>
      rw [@register_of_awaits { client with issued := client.issued + 1 } _ awaited]
      exact .refl ..
  | false =>
      rw [@register_of_free { client with issued := client.issued + 1 } _ awaited]
      dsimp only
      generalize entered : Client.mk .. = middle
      have still : middle.calls[number]? = some ⟨caller, method, params, .ready⟩ := by
        rw [← entered]
        exact found
      rw [dissolve_setStage_underway still]
      refine .of_proceed still ?_
      rw [proceed, @dissolve_setStage_underway (middle.recordSent _ method) _ _ _ _ still]
      exact @reaches_sendRequest (middle.recordSent _ method) _ _ _ _ still _ _

theorem reaches_attempt :
    Reaches number (client.setStage number (.underway client.outset))
      (client.attempt number method params).dissolve := by
  rw [outset, attempt]
  split
  · exact .of_proceed found (.refl ..)
  · refine .of_proceed found ?_
    rw [proceed]
    cases client.pacing.attempt method client.now client.minGap with
    | mk admitted pacing =>
        cases admitted with
        | true =>
            have still : ({ client with pacing } : Client).calls[number]? =
                some ⟨caller, method, params, .ready⟩ := found
            dsimp only
            rw [assignId, takeId]
            dsimp only
            rw [@dissolve_setStage_underway { client with pacing, issued := client.issued + 1 }
              _ _ _ _ found]
            exact reaches_issue still
        | false =>
            dsimp only
            cases client.pacing.timeLeft? method client.now client.minGap with
            | none => exact .refl ..
            | some remaining =>
                dsimp only
                rw [dissolve_setStage_underway found]
                exact .of_proceed found (.refl ..)

end Row

/-- A call that begins makes its steps in a row. -/
theorem reaches_step_start {client : Client} (kept : client.dissolve = client) (number : Nat) :
    Reaches number client (client.step (.start number)) := by
  rw [step_start]
  obtain ⟨⟨caller, method, params, stage⟩, found, rfl, -⟩ | ⟨-, unchanged⟩ :=
    client.start_cases number
  · refine .of_advance ?_
    cases caller with
    | handshake generation =>
        simp only [start, advance, handshake, found]
        split
        · rw [assignId, takeId]
          dsimp only
          rw [@dissolve_setStage_underway { client with issued := client.issued + 1 } _ _ _ _ found]
          exact reaches_issue found
        · exact .refl ..
    | _ =>
        simp only [start, advance, found]
        rw [dissolve_setStage_underway found]
        exact reaches_attempt found
  · rw [unchanged, kept]
    exact .refl ..

/-- What a run of whole steps reaches is reached by moves, too. -/
theorem exists_weave_eq_run {client : Client} (kept : client.dissolve = client)
    (actions : List Action) : ∃ moves, client.weave moves = client.run actions := by
  induction actions generalizing client with
  | nil => exact ⟨[], rfl⟩
  | cons action rest induction =>
      obtain ⟨moves, later⟩ := induction (client.dissolve_step action)
      have first : ∃ front, client.weave front = client.step action := by
        cases action with
        | start number =>
            obtain ⟨steps, same⟩ := reaches_step_start kept number
            exact ⟨_, same⟩
        | wake number => exact ⟨[.act (.wake number)], rfl⟩
        | _ => exact ⟨[.act _], move_of_others client rfl⟩
      obtain ⟨front, same⟩ := first
      exact ⟨front ++ moves, by rw [weave_append, same, later, run_cons]⟩

end Client

end GatewayLink
