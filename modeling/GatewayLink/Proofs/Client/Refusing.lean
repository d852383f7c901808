import GatewayLink.Proofs.Client.Bookkeeping
import GatewayLink.Proofs.Client.Forgetting
import GatewayLink.Proofs.Client.Publishing
import GatewayLink.Proofs.Client.Sending
import GatewayLink.Proofs.Client.Standing

/-!
# Calls that are refused

A call that is skipped or held back is entered in the history and in a bulletin, and leaves no
other trace.  Apart from these two entries the client goes on as if the call had never been made.
-/

namespace GatewayLink

/-- Whether a call comes back for this reason before it is given an id. -/
def ClientError.isRefusal : ClientError → Bool
  | .notConnected _ | .rateLimited .. => true
  | _ => false

namespace Logbook

/-- A logbook in which a refused call has been entered. -/
def refused (logbook : Logbook) (now : Timestamp) (method : String) (status : CallStatus)
    (duration : Option UInt64) (text : String) (severity : Severity) : Logbook :=
  { logbook with
    history := logbook.history.push
      ⟨generatedId logbook.generated, method, status, duration, now⟩
    activity := logbook.activity.push
      ⟨generatedId (logbook.generated + 1), method, text, severity⟩
    generated := logbook.generated + 2 }

/-- Since two logbooks were as given, the same has been entered in both. -/
def InStep (start otherStart one other : Logbook) : Prop :=
  ∃ operations, one = start.run operations ∧ other = otherStart.run operations

theorem isKept_inStep (start otherStart : Logbook) : IsKept (InStep start otherStart) := by
  rintro _ _ ⟨operations, rfl, rfl⟩ operation
  exact ⟨operations ++ [operation], by simp [run], by simp [run]⟩

theorem standing_apply {one other : Logbook} (same : one.standing = other.standing)
    (operation : Operation) :
    (one.apply operation).2.standing = (other.apply operation).2.standing := by
  cases operation with
  | attempt now id method status duration => simpa [apply] using same
  | settle id status duration => simpa [apply] using same
  | post title content severity => exact same
  | subscription action subscription => exact same
  | noteSuccess now method => simp [apply, noteSuccess, updateStanding, standing?, same]
  | noteFailure now method text => simp [apply, noteFailure, updateStanding, standing?, same]

theorem standing_of_inStep {start otherStart one other : Logbook}
    (same : start.standing = otherStart.standing) (inStep : InStep start otherStart one other) :
    one.standing = other.standing := by
  obtain ⟨operations, rfl, rfl⟩ := inStep
  induction operations generalizing start otherStart with
  | nil => exact same
  | cons operation rest induction => exact induction (standing_apply same operation)

end Logbook

namespace Client

variable {client : Client} {number : Nat} {method : String} {cause : ClientError}

/-- A call that comes back refused has been refused when it began. -/
theorem start_of_refusal
    (returned : client.outcome? (.start number) = some (method, .error cause))
    (refusal : cause.isRefusal = true) :
    ∃ call status duration text severity, client.calls[number]? = some call ∧
      Refusal client method cause status duration severity ∧
      client.start number = client.refuse number cause method status duration text severity := by
  obtain ⟨call, found, ready, began⟩ | ⟨-, unchanged⟩ := client.start_cases number
  · have outcome (stage : CallStage)
        (moved : (client.start number).calls = client.calls.modify number ({ · with stage })) :
        ({ call with stage } : Call).result?.map ((call.method, ·)) =
          some (method, .error cause) := by
      rw [← returned]
      exact (outcome?_eq rfl found (by simp [Call.isActive, ready]) (by simp [moved])).symm
    generalize client.start number = after at began outcome
    cases began with
    | lapsed => cases outcome .lapsed rfl
    | overflowed => cases outcome .overflowed rfl
    | refused own status duration text severity own_refusal =>
        cases outcome (.returned (.error own)) rfl
        exact ⟨call, status, duration, text, severity, found, own_refusal, rfl⟩
    | issued pacing after issued =>
        cases issued with
        | duplicate =>
            cases outcome (.returned (.error (.duplicateId _))) rfl
            cases refusal
        | sent => cases outcome (.waiting ..) rfl
        | unsent free own =>
            cases outcome (.returned (.error (.transport own))) rfl
            cases refusal
  · have still : (client.step (.start number)).calls = client.calls := by simp [unchanged]
    simp [outcome?_of_unmoved still] at returned

/-- Of a call that has been refused nothing is left but what was entered. -/
theorem forget_refuse_self (status : CallStatus) (duration : Option UInt64) (text : String)
    (severity : Severity) :
    (client.refuse number cause method status duration text severity).forget number =
      { client.forget number with
        logbook :=
          client.logbook.refused client.clock.wall method status duration text severity } :=
  forget_setStage_self _

/-- A client without a call and the client in which that call has been refused agree but for their
logbooks, and whatever is entered later is entered in both. -/
theorem twins_of_refused {call : Call} (found : client.calls[number]? = some call)
    {status : CallStatus} {duration : Option UInt64} {text : String} {severity : Severity}
    (refused : client.start number =
      client.refuse number cause method status duration text severity) (more : List Action) :
    let after := client.step (.start number)
    Twins (Logbook.InStep client.logbook after.logbook)
      ((client.forget number).dissolve.run (without number more))
      ((after.run more).forget number) := by
  intro after
  have finished : (client.start number).IsOver number := by
    rw [refused]
    exact ⟨{ call with stage := .returned (.error cause) }, by simp [refuse, found], rfl⟩
  have finished_after : after.IsOver number := by simpa [after, IsOver] using finished
  rw [forget_run (client.dissolve_step _) finished_after]
  refine Twins.run (Logbook.isKept_inStep _ _) ?_ _
  have forgotten : after.forget number = ((client.start number).forget number).dissolve := by
    rw [← forget_dissolve finished, ← step_start]
  rw [forgotten, refused, forget_refuse_self]
  refine Twins.dissolve ⟨_, rfl, [], rfl, ?_⟩
  simp [after, refused]
  rfl

/-- A call that is skipped or held back leaves one record and one bulletin, and the client goes on
as it would have done without the call. -/
theorem refused_call_leaves_only_its_records (settings : Settings) (limits : Limits)
    (wall : Timestamp) (actions : List Action) {number : Nat} {method : String}
    {cause : ClientError}
    (returned : ((new settings limits wall).run actions).outcome? (.start number) =
      some (method, .error cause))
    (refusal : cause.isRefusal = true) :
    let client := (new settings limits wall).run actions
    let after := client.step (.start number)
    (∃ status duration text severity, Refusal client method cause status duration severity ∧
      after.logbook =
        client.logbook.refused client.clock.wall method status duration text severity ∧
      after =
        ({ client with logbook := after.logbook }.setStage number
          (.returned (.error cause))).dissolve) ∧
    (∀ serial : Nat, generatedId client.logbook.generated ≠ serial.repr) ∧
    after.issued = client.issued ∧ after.inFlight = client.inFlight ∧
    after.pacing = client.pacing ∧ after.logbook.standing = client.logbook.standing ∧
    after.connection.face = client.connection.face ∧
    after.connection.textsOf = client.connection.textsOf ∧
    (∀ earlier params, earlier.isHeld = true → number = earlier.calls.length →
      client = earlier.step (.call method params) → (client.forget number).dissolve = earlier) ∧
    ∀ more,
      let later := after.run more
      let other := (client.forget number).dissolve.run (without number more)
      later.forget number = { other with logbook := later.logbook } ∧
        Logbook.InStep client.logbook after.logbook other.logbook later.logbook ∧
        later.logbook.standing = other.logbook.standing := by
  intro client after
  obtain ⟨call, status, duration, text, severity, found, kind, refused⟩ :=
    start_of_refusal returned refusal
  have after_eq : after =
      (client.refuse number cause method status duration text severity).dissolve := by
    rw [← refused]
    exact step_start ..
  have logbook_eq : after.logbook =
      client.logbook.refused client.clock.wall method status duration text severity := by
    rw [after_eq, logbook_dissolve]
    rfl
  have standing_eq : after.logbook.standing = client.logbook.standing := by
    rw [logbook_eq]
    rfl
  refine ⟨⟨status, duration, text, severity, kind, logbook_eq, ?_⟩, generatedId_ne_repr _,
    ?_, ?_, ?_, standing_eq, ?_, ?_, fun earlier params held last made => ?_, fun more => ?_⟩
  · rw [logbook_eq]
    exact after_eq
  · rw [after_eq, issued_dissolve]
    rfl
  · rw [after_eq, inFlight_dissolve]
    rfl
  · rw [after_eq, pacing_dissolve]
    rfl
  · rw [after_eq, face_dissolve]
    rfl
  · rw [after_eq]
    exact (retains_dissolve _).texts
  · rw [made, last, forget_step_call held]
    exact dissolve_of_isAlive _ (isAlive_of_isHeld held)
  · have twins := twins_of_refused found refused more
    have inStep := twins.related_logbook
    obtain ⟨logbook, same, -⟩ := twins
    refine ⟨?_, inStep, (Logbook.standing_of_inStep standing_eq.symm inStep).symm⟩
    have later_logbook : (after.run more).logbook = logbook := congrArg Client.logbook same
    rw [later_logbook]
    exact same

/-- A call that follows four milliseconds after another of its method is held back; after the
interval the method is called under the next id, as if it had not been tried in between. -/
theorem hasty_call_leaves_only_its_records :
    let client := (new .default .standard ⟨0, 0⟩).run
      [.connect "ws://gateway", .linkOpened 0, .call "feeds.list" (.object []), .start 1,
        .setWall ⟨0, 4000000⟩, .call "feeds.list" (.object [])]
    let after := client.step (.start 2)
    let more : List Action := [.setWall ⟨1, 0⟩, .call "feeds.list" (.object []), .start 3]
    client.outcome? (.start 2) =
        some ("feeds.list", .error (.rateLimited "feeds.list" 496)) ∧
      after.pacing = client.pacing ∧
      without 2 more = [.setWall ⟨1, 0⟩, .call "feeds.list" (.object []), .start 2] ∧
      (after.run more).inFlight =
        ((client.forget 2).dissolve.run (without 2 more)).inFlight ∧
      (after.run more).inFlight.pending = [⟨"1", "feeds.list", 0⟩, ⟨"2", "feeds.list", 1⟩] := by
  have returned : ((new .default .standard ⟨0, 0⟩).run
      [.connect "ws://gateway", .linkOpened 0, .call "feeds.list" (.object []), .start 1,
        .setWall ⟨0, 4000000⟩, .call "feeds.list" (.object [])]).outcome? (.start 2) =
      some ("feeds.list", .error (.rateLimited "feeds.list" 496)) :=
    rfl
  intro client after more
  obtain ⟨-, -, -, -, pacing, -, -, -, -, later⟩ :=
    refused_call_leaves_only_its_records .default .standard ⟨0, 0⟩ _ returned rfl
  have requests := congrArg Client.inFlight (later more).1
  rw [inFlight_forget] at requests
  exact ⟨returned, pacing, rfl, requests, by decide⟩

end Client

end GatewayLink
