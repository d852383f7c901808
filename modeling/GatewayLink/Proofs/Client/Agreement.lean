import GatewayLink.Client.Settle
import GatewayLink.Proofs.Call.Waiting
import GatewayLink.Proofs.Client.Fate
import GatewayLink.Proofs.Client.Linking
import GatewayLink.Proofs.Client.Mirror
import GatewayLink.Proofs.Client.Standing

/-!
# What calls, requests and logs tell

The calls of a client, its requests in flight, its connection and its logs tell the same story.  At
every moment each call has entered what its stage asks for, once.  When no call can go on, the calls
that have not returned are those whose requests are pending, and these are the ones that the history
shows as sent.
-/

namespace GatewayLink

/-- What is entered for a result is final. -/
theorem Fits.isFinal {method content : String} {status : CallStatus} {severity : Severity}
    {result : Except ClientError Json} (fits : Fits method status severity content result) :
    status.isFinal = true := by
  cases result with
  | ok payload => simp [fits.1, CallStatus.isFinal]
  | error cause =>
      cases cause with
      | rejected => simp [fits.2.1, CallStatus.isFinal]
      | abandoned => simp [fits.2.1, CallStatus.isFinal]
      | transport => simp [fits.1, CallStatus.isFinal]
      | rateLimited => simp [fits.2.1, CallStatus.isFinal]
      | notConnected => simp [fits.2.1, CallStatus.isFinal]
      | _ => exact absurd fits id

namespace Client

section Ledger

variable {client : Client} {places posts : Nat → List Nat}

/-- A record that is not final is that of a call that waits. -/
theorem Ledger.waits_of_sent (ledger : Ledger client places posts) {record : CallRecord}
    (member : record ∈ client.logbook.records) (sent : record.status = .sent) :
    ∃ number handle, Waits client.calls number record.id handle record.method := by
  obtain ⟨place, found⟩ := List.mem_iff_getElem?.mp member
  have inside := (List.getElem?_eq_some_iff.mp found).1
  obtain ⟨number, owner⟩ := ledger.owned place inside
  rcases ledger.booked_or_nil number with ⟨call, call_found⟩ | ⟨empty, -⟩
  · have booked := ledger.booked call_found
    generalize stage_eq : call.stage = stage, places number = own_places,
      posts number = own_posts at booked owner
    cases booked with
    | waiting id handle since own own_record own_found id_eq method_eq status =>
        obtain rfl := List.mem_singleton.mp owner
        obtain rfl : record = own_record := Option.some.inj (found.symm.trans own_found)
        exact ⟨number, handle, call, since, call_found, id_eq ▸ stage_eq, method_eq.symm⟩
    | returned result own post own_record bulletin own_found posted method_eq title_eq fits =>
        obtain rfl := List.mem_singleton.mp owner
        obtain rfl : record = own_record := Option.some.inj (found.symm.trans own_found)
        have final := fits.isFinal
        rw [sent] at final
        exact absurd final (by decide)
    | _ => cases owner
  · rw [empty] at owner
    cases owner

/-- A call that waits has a record, which is the only one with its id. -/
theorem Ledger.sent_of_waits (ledger : Ledger client places posts) (correlated : client.IsCorrelated)
    {number : Nat} {id method : String} {handle : Handle}
    (waits : Waits client.calls number id handle method) :
    (∃ record ∈ client.logbook.records,
        record.id = id ∧ record.method = method ∧ record.status = .sent) ∧
      ∀ record ∈ client.logbook.records, record.id = id →
        record.method = method ∧ record.status = .sent := by
  obtain ⟨serial, -, id_serial⟩ := correlated.numbered waits
  obtain ⟨call, since, call_found, stage_eq, rfl⟩ := waits
  have booked := ledger.booked call_found
  rw [stage_eq] at booked
  generalize places number = own_places, posts number = own_posts at booked
  cases booked with
  | waiting _ _ _ place own own_found id_eq method_eq status =>
      refine ⟨⟨own, List.mem_of_getElem? own_found, id_eq, method_eq, status⟩, ?_⟩
      intro record member same_id
      obtain ⟨other, other_found⟩ := List.mem_iff_getElem?.mp member
      have same_place : other = place := by
        refine ledger.distinct.single other place serial ?_ ?_
        · rw [List.getElem?_map, other_found, ← id_serial, ← same_id]
          rfl
        · rw [List.getElem?_map, own_found, ← id_serial, ← id_eq]
          rfl
      subst same_place
      obtain rfl : own = record := Option.some.inj (own_found.symm.trans other_found)
      exact ⟨method_eq, status⟩

end Ledger

/-- A call that is under way and cannot go on waits for a pending request. -/
theorem pending_of_rest {client : Client} (correlated : client.IsCorrelated) {number : Nat}
    {call : Call} (found : client.calls[number]? = some call) (active : call.isActive = true)
    (rest : client.canGoOn call = false) :
    ∃ id handle since, call.stage = .waiting id handle since ∧
      ⟨id, call.method, handle⟩ ∈ client.inFlight.pending := by
  cases stage : call.stage with
  | ready => simp [canGoOn, stage] at rest
  | underway progress => simp [canGoOn, stage] at rest
  | waiting id handle since =>
      refine ⟨id, handle, since, rfl, ?_⟩
      have registered := correlated.registered ⟨call, since, found, stage, rfl⟩
      refine registered.mem_pending (registered.awaits_iff.mpr ?_)
      have seen := registered.glance_isSome
      simp only [canGoOn, stage] at rest
      cases glance : client.inFlight.glance? handle with
      | none => simp [glance] at seen
      | some shown => cases shown <;> simp_all
  | _ => simp [Call.isActive, stage] at active

/-- When no call can go on, the calls that have not returned, the requests that are pending and the
records shown as sent are the same. -/
theorem agreement_at_rest (settings : Settings) (limits : Limits) (wall : Timestamp)
    (actions : List Action)
    (rest : ∀ call ∈ ((new settings limits wall).run actions).calls,
      ((new settings limits wall).run actions).canGoOn call = false) :
    let client := (new settings limits wall).run actions
    let full := (new settings .unlimited wall).run actions
    (client.inFlight.pending ≠ [] → client.connection.current.status = .connected) ∧
    (∀ record ∈ client.logbook.history.items, record.status = .sent →
      ∃ entry ∈ client.inFlight.pending, entry.id = record.id ∧ entry.method = record.method) ∧
    (∀ entry ∈ client.inFlight.pending,
      (∃ record ∈ full.logbook.history.items,
        record.id = entry.id ∧ record.method = entry.method ∧ record.status = .sent) ∧
      ∀ record ∈ client.logbook.history.items, record.id = entry.id →
        record.method = entry.method ∧ record.status = .sent) ∧
    client.logbook.history.items =
      BoundedLog.within limits.history full.logbook.history.items ∧
    ∀ call ∈ client.calls, call.isActive = true →
      ∃ id handle since, call.stage = .waiting id handle since ∧
        ⟨id, call.method, handle⟩ ∈ client.inFlight.pending := by
  intro client full
  have correlated : client.IsCorrelated := isCorrelated_run settings limits wall actions
  have mirrors : Mirrors limits client full := mirrors_run settings limits wall actions
  have window : client.logbook.history.items =
      BoundedLog.within limits.history full.logbook.history.items := mirrors.shown.history.items
  have full_correlated : full.IsCorrelated := isCorrelated_run settings .unlimited wall actions
  have ledger := ledger_run (Ledger.new settings wall) Correlated.new actions
  have same_calls : full.calls = client.calls := by
    obtain ⟨logbook, same, -⟩ := mirrors
    rw [same]
  have shown {record : CallRecord} (member : record ∈ client.logbook.history.items) :
      record ∈ full.logbook.records := by
    rw [window] at member
    exact List.mem_reverse.mpr (BoundedLog.mem_of_mem_within member)
  refine ⟨(linked_run settings limits wall actions).pending, ?_, ?_, window, ?_⟩
  · intro record member sent
    obtain ⟨number, handle, call, since, found, waiting, method_eq⟩ :=
      ledger.waits_of_sent (shown member) sent
    rw [same_calls] at found
    have active : call.isActive = true := by simp [Call.isActive, waiting]
    obtain ⟨id, own, _, own_waiting, pending⟩ := pending_of_rest correlated found active
      (rest call (List.mem_of_getElem? found))
    rw [waiting] at own_waiting
    obtain ⟨rfl, rfl, rfl⟩ := CallStage.waiting.inj own_waiting
    exact ⟨_, pending, rfl, method_eq⟩
  · intro entry member
    obtain ⟨number, waits⟩ := correlated.waited entry member
    rw [← same_calls] at waits
    obtain ⟨⟨record, record_member, recorded⟩, only⟩ := ledger.sent_of_waits full_correlated waits
    exact ⟨⟨record, List.mem_reverse.mp record_member, recorded⟩,
      fun record member => only record (shown member)⟩
  · intro call member active
    obtain ⟨number, found⟩ := List.mem_iff_getElem?.mp member
    exact pending_of_rest correlated found active (rest call member)

/-- While the gateway has not answered the handshake, its request is pending on an open
connection. -/
theorem agreement_at_rest_of_handshake :
    let client := (new .default .standard ⟨0, 0⟩).run
      [.connect "ws://gateway", .linkOpened 0, .start 0]
    client.inFlight.pending = [⟨"1", "gateway.connect", 0⟩] ∧
      client.connection.current.status = .connected := by
  have rest : ∀ call ∈ ((new .default .standard ⟨0, 0⟩).run
      [.connect "ws://gateway", .linkOpened 0, .start 0]).calls,
      ((new .default .standard ⟨0, 0⟩).run
        [.connect "ws://gateway", .linkOpened 0, .start 0]).canGoOn call = false := by
    decide
  exact ⟨by decide, (agreement_at_rest .default .standard ⟨0, 0⟩ _ rest).1 (by decide)⟩

/-- A call comes to nothing only if it is the handshake of a generation that is over, or if the time
that its pacing asks it to wait does not fit a word. -/
theorem reason_of_nothing {client : Client} {number : Nat} {call : Call} {action : Action}
    {stage : CallStage} (found : client.calls[number]? = some call) (changed : call.stage ≠ stage)
    (after : (client.step action).calls[number]? = some { call with stage }) :
    (stage = .lapsed → ∃ generation, call.caller = .handshake generation ∧
        client.connection.stands generation = false) ∧
      (stage = .overflowed →
        ¬ client.pacing.ShortfallFits call.method client.now client.minGap) := by
  have unmoved (still : (client.step action).calls[number]? = some call) : False := by
    rw [after, Option.some.injEq] at still
    exact changed (by rw [← still])
  have moved_to {reached : CallStage} {next : Client}
      (stepped : (client.step action).calls = next.calls)
      (moved : next.calls = client.calls.modify number ({ · with stage := reached })) :
      reached = stage := by
    rw [stepped, moved] at after
    simpa [found] using after
  by_cases is_start : action = .start number
  · subst is_start
    obtain ⟨own, own_found, -, began⟩ | ⟨-, unchanged⟩ := client.start_cases number
    · obtain rfl : call = own := Option.some.inj (found.symm.trans own_found)
      obtain ⟨-, reached, moved, -, lapsed, overflow⟩ := stage_of_began began
      obtain rfl := moved_to (by simp) moved
      exact ⟨lapsed, fun overflowed =>
        Pacing.not_shortfallFits_of_timeLeft?_eq_none (overflow overflowed)⟩
    · exact (unmoved (by simp [unchanged, found])).elim
  · by_cases is_wake : action = .wake number
    · subst is_wake
      obtain ⟨_, _, _, _, -, -, woke⟩ | ⟨-, unchanged⟩ := client.wake_cases number
      · have stepped : (client.step (.wake number)).calls = (client.wake number).calls := by simp
        generalize client.wake number = next at woke stepped
        cases woke with
        | concluded response =>
            obtain rfl := moved_to stepped rfl
            exact ⟨by simp, by simp⟩
        | abandoned =>
            obtain rfl := moved_to stepped rfl
            exact ⟨by simp, by simp⟩
        | unchanged => exact (unmoved (by rw [stepped, found])).elim
      · exact (unmoved (by simp [unchanged, found])).elim
    · exact (unmoved (getElem?_step_of_ne found is_start is_wake)).elim

/-- A call that begins enters one record, and one bulletin when it returns, and both show what it
returns; only a call that comes to nothing enters none. -/
theorem every_call_is_recorded_once (settings : Settings) (limits : Limits) (wall : Timestamp)
    (actions : List Action) :
    let start := new settings .unlimited wall
    let full := start.run actions
    let client := (new settings limits wall).run actions
    client.calls = full.calls ∧
    client.logbook.history.items =
      BoundedLog.within limits.history full.logbook.history.items ∧
    client.logbook.activity.items =
      BoundedLog.within limits.activity full.logbook.activity.items ∧
    (∀ number call, full.calls[number]? = some call →
      Booked full.logbook call.method call.stage (recordsBy number start actions)
        (bulletinsBy number start actions)) ∧
    (∀ place < full.logbook.history.items.length,
      ∃ number, ∀ other, place ∈ recordsBy other start actions ↔ other = number) ∧
    (∀ number call, client.calls[number]? = some call → call.stage = .ready → ∀ more,
      ∃ later, ((client.step (.start number)).run more).calls[number]? = some later ∧
        later.stage ≠ .ready) ∧
    (∀ (action : Action) (number : Nat) (call : Call) (stage : CallStage),
      client.calls[number]? = some call → call.stage ≠ stage →
      (client.step action).calls[number]? = some { call with stage } →
        (stage = .lapsed → ∃ generation, call.caller = .handshake generation ∧
          client.connection.stands generation = false) ∧
        (stage = .overflowed →
          ¬ client.pacing.ShortfallFits call.method client.now client.minGap)) ∧
    (∀ action method,
      (client.step action).logbook.standing? method ≠ client.logbook.standing? method →
        ∃ result, client.outcome? action = some (method, result) ∧ isAnswer result = true) ∧
    ∀ method, (client.logbook.standing? method).bind MethodStanding.lastErrorText =
      (((new settings limits wall).outcomes actions).filterMap (rejection? method)).getLast? := by
  intro start full client
  have mirrors : Mirrors limits client full := mirrors_run settings limits wall actions
  have ledger : Ledger full (fun number => [] ++ recordsBy number start actions)
      (fun number => [] ++ bulletinsBy number start actions) :=
    ledger_run (Ledger.new settings wall) Correlated.new actions
  simp only [List.nil_append] at ledger
  have same_calls : client.calls = full.calls := by
    obtain ⟨logbook, same, -⟩ := mirrors
    rw [same]
  refine ⟨same_calls, mirrors.shown.history.items, mirrors.shown.activity.items,
    fun number call found => ledger.booked found, ?_,
    fun number call found ready => begun_of_start found ready,
    fun action number call stage found changed => reason_of_nothing found changed, ?_, ?_⟩
  · intro place inside
    obtain ⟨number, owner⟩ := ledger.owned place (by simpa [Logbook.records] using inside)
    exact ⟨number, fun other => ⟨fun member => ledger.apart member owner, fun same => same ▸ owner⟩⟩
  · intro action method changed
    rcases client.standing?_step action method with ⟨response, returned, -⟩ | ⟨same, -⟩
    · refine ⟨_, returned, ?_⟩
      cases ok : response.ok <;> simp [verdict, ok, isAnswer]
    · exact absurd same changed
  · intro method
    have last := lastErrorText_run (new settings limits wall) actions method
    have unknown : (new settings limits wall).logbook.standing? method = none := rfl
    rwa [unknown, Option.bind_none, Option.or_none] at last

/-- Once the clock has been set back a call may begin that enters nothing. -/
theorem begun_call_is_not_recorded :
    let client := (new .default .standard ⟨0, 5000000⟩).run
      [.connect "ws://gateway", .linkOpened 0, .call "feeds.list" .null, .start 1,
        .setWall ⟨0, 4000000⟩, .setGap 9223372036854775807, .call "feeds.list" .null]
    let later := client.step (.start 2)
    client.calls[2]?.map Call.isReady = some true ∧
      later.calls[2]?.map Call.isReady = some false ∧
      later.calls[2]?.map Call.isActive = some false ∧
      later.logbook.history.items = client.logbook.history.items ∧
      later.logbook.activity.items = client.logbook.activity.items := by
  decide

end Client

end GatewayLink
