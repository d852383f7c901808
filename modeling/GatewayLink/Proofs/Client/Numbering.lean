import GatewayLink.Proofs.Client.Ledger

/-!
# The ids of requests

A step leaves the history of calls alone, or it adds one record at its end, or it gives the record
of the call that it lets go on an outcome.  Only a call that is given an id adds a record of a
request, and the id is the next number.  So the ids of the requests in a history that forgets
nothing are the numbers from one on, and a record keeps its id for good.
-/

namespace GatewayLink

/-- Whether a call with a status was given an id. -/
def CallStatus.isNumbered : CallStatus → Bool
  | .skipped | .debounced => false
  | .sent | .ok | .error => true

/-- The ids of the requests among some records. -/
def requestIds (records : List CallRecord) : List String :=
  (records.filter (·.status.isNumbered)).map CallRecord.id

/-- The first ids that a client issues. -/
def serials (count : Nat) : List String :=
  (List.range count).map fun serial => (serial + 1).repr

theorem serials_succ (count : Nat) : serials (count + 1) = serials count ++ [(count + 1).repr] := by
  simp [serials, List.range_succ]

section Records

variable {records : List CallRecord} {place : Nat} {record changed : CallRecord}

/-- A record of a request that is changed in its place stays the same request. -/
theorem requestIds_set (found : records[place]? = some record) (same_id : changed.id = record.id)
    (same_kind : changed.status.isNumbered = record.status.isNumbered) :
    requestIds (records.set place changed) = requestIds records := by
  induction records generalizing place with
  | nil => rfl
  | cons first rest induction =>
      cases place with
      | zero =>
          obtain rfl : first = record := by simpa using found
          cases numbered : first.status.isNumbered <;>
            simp [requestIds, same_kind, numbered, same_id]
      | succ place =>
          have kept : requestIds (rest.set place changed) = requestIds rest :=
            induction (by simpa using found)
          unfold requestIds at kept ⊢
          cases numbered : first.status.isNumbered <;> simp [numbered, kept]

end Records

namespace Client

/-- What a step does to the count of ids and to a history that forgets nothing. -/
inductive Recorded (client : Client) (places : Nat → List Nat) (action : Action) :
    Nat → List CallRecord → Prop where
  | kept : Recorded client places action client.issued client.logbook.records
  | refused (number : Nat) (is_start : action = .start number) (method : String)
      (status : CallStatus) (duration : Option UInt64) (unnumbered : status.isNumbered = false) :
      Recorded client places action client.issued
        (client.logbook.records ++
          [⟨generatedId client.logbook.generated, method, status, duration, client.clock.wall⟩])
  | numbered (number : Nat) (is_start : action = .start number) (method : String)
      (status : CallStatus) (duration : Option UInt64) (numbered : status.isNumbered = true) :
      Recorded client places action (client.issued + 1)
        (client.logbook.records ++
          [⟨(client.issued + 1).repr, method, status, duration, client.clock.wall⟩])
  | settled (number : Nat) (is_wake : action = .wake number) (place : Nat) (record : CallRecord)
      (own : places number = [place]) (found : client.logbook.records[place]? = some record)
      (sent : record.status = .sent) (status : CallStatus) (outcome : status = .ok ∨ status = .error)
      (duration : UInt64) :
      Recorded client places action client.issued
        (client.logbook.records.set place { record with status, duration := some duration })

section Step

variable {client : Client} {places posts : Nat → List Nat} {number : Nat} {call : Call}

theorem recorded_began (ledger : Ledger client places posts) (correlated : client.IsCorrelated)
    {after : Client} (began : Began client number call after) :
    Recorded client places (.start number) after.issued after.logbook.records := by
  cases began with
  | lapsed => exact .kept
  | overflowed => exact .kept
  | refused cause status duration text severity refusal =>
      have records := Logbook.records_attempt_none ledger.unlimited client.clock.wall call.method
        status duration
      have unnumbered : status.isNumbered = false := by cases refusal <;> rfl
      have recorded := @Recorded.refused client places _ number rfl call.method status duration
        unnumbered
      rw [← records] at recorded
      exact recorded
  | issued pacing after issued =>
      cases issued with
      | duplicate awaited =>
          have free : client.inFlight.awaits (client.issued + 1).repr = false := correlated.next_free
          rw [show client.inFlight.awaits (client.issued + 1).repr = true from awaited] at free
          cases free
      | sent free connection sends =>
          have records := Logbook.records_attempt_some ledger.unlimited client.clock.wall
            (client.issued + 1).repr call.method .sent none
          have recorded := @Recorded.numbered client places _ number rfl call.method .sent none rfl
          rw [← records] at recorded
          exact recorded
      | unsent free cause fails =>
          have records := ledger.records_settle_next call.method
            (client.elapsedSince client.clock.uptime)
          have recorded := @Recorded.numbered client places _ number rfl call.method .error
            (some (client.elapsedSince client.clock.uptime)) rfl
          rw [← records] at recorded
          exact recorded

theorem recorded_woke (ledger : Ledger client places posts) (correlated : client.IsCorrelated)
    (found : client.calls[number]? = some call) {id : String} {handle : Handle} {since : Nat}
    (waiting : call.stage = .waiting id handle since) {after : Client}
    (woke : Woke client number call id handle since after) :
    Recorded client places (.wake number) after.issued after.logbook.records := by
  have settled {noted : Logbook} (noted_records : noted.records = client.logbook.records)
      {status : CallStatus} (outcome : status = .ok ∨ status = .error) (duration : UInt64) :
      Recorded client places (.wake number) client.issued
        (noted.settle id status duration).2.records := by
    obtain ⟨place, record, own, -, place_found, -, -, sent, records⟩ :=
      ledger.records_settle correlated found waiting noted_records outcome duration
    rw [records]
    exact .settled number rfl place record own place_found sent status outcome duration
  cases woke with
  | unchanged => exact .kept
  | abandoned => exact settled rfl (.inr rfl) _
  | concluded response seen connection welcomed =>
      cases ok : response.ok with
      | true =>
          have logbook : (client.concluded id call.method since response).records =
              (client.logbook.settle id .ok (client.elapsedSince since)).2.records := by
            simp [concluded, ok]
          simp only [issued_setStage, logbook_setStage, logbook]
          exact settled rfl (.inl rfl) _
      | false =>
          have logbook : (client.concluded id call.method since response).records =
              ((client.logbook.noteFailure client.clock.wall call.method
                response.refusalText).settle id .error (client.elapsedSince since)).2.records := by
            simp [concluded, ok]
          simp only [issued_setStage, logbook_setStage, logbook]
          exact settled rfl (.inr rfl) _

theorem recorded_step (ledger : Ledger client places posts) (correlated : client.IsCorrelated)
    (action : Action) :
    Recorded client places action (client.step action).issued
      (client.step action).logbook.records := by
  cases moves : action.movesCall with
  | false =>
      have aside := client.aside_step action moves
      have records : (client.step action).logbook.records = client.logbook.records := by
        simp [Logbook.records, aside.logbook.history]
      rw [aside.issued, records]
      exact .kept
  | true =>
      cases action with
      | start number =>
          simp only [step_start, issued_dissolve, logbook_dissolve]
          obtain ⟨call, -, -, began⟩ | ⟨-, unchanged⟩ := client.start_cases number
          · exact recorded_began ledger correlated began
          · rw [unchanged]
            exact .kept
      | wake number =>
          simp only [step_wake, issued_dissolve, logbook_dissolve]
          obtain ⟨call, id, handle, since, found, waiting, woke⟩ | ⟨-, unchanged⟩ :=
            client.wake_cases number
          · exact recorded_woke ledger correlated found waiting woke
          · rw [unchanged]
            exact .kept
      | _ => cases moves

end Step

namespace Recorded

variable {client : Client} {places : Nat → List Nat} {action : Action} {issued : Nat}
  {records : List CallRecord}

/-- A record stays in its place, and a record of a request stays one. -/
theorem stays (recorded : Recorded client places action issued records) {place : Nat}
    {record : CallRecord} (found : client.logbook.records[place]? = some record) :
    ∃ after, records[place]? = some after ∧ after.id = record.id ∧
      after.status.isNumbered = record.status.isNumbered := by
  have inside := (List.getElem?_eq_some_iff.mp found).1
  cases recorded with
  | kept => exact ⟨record, found, rfl, rfl⟩
  | refused => exact ⟨record, by rwa [List.getElem?_append_left inside], rfl, rfl⟩
  | numbered => exact ⟨record, by rwa [List.getElem?_append_left inside], rfl, rfl⟩
  | settled number is_wake other own own_place own_found sent status outcome duration =>
      by_cases same : other = place
      · subst same
        obtain rfl : own = record := Option.some.inj (own_found.symm.trans found)
        refine ⟨_, List.getElem?_set_self inside, rfl, ?_⟩
        rcases outcome with rfl | rfl <;> simp [sent, CallStatus.isNumbered]
      · exact ⟨record, by rwa [List.getElem?_set_ne same], rfl, rfl⟩

/-- The ids of the requests are the numbers that were issued. -/
theorem requestIds_eq (recorded : Recorded client places action issued records)
    (before : requestIds client.logbook.records = serials client.issued) :
    requestIds records = serials issued := by
  cases recorded with
  | kept => exact before
  | refused number is_start method status duration unnumbered =>
      rw [← before]
      simp [requestIds, unnumbered]
  | numbered number is_start method status duration numbered =>
      rw [serials_succ, ← before]
      simp [requestIds, numbered]
  | settled number is_wake place record own found sent status outcome =>
      refine (requestIds_set found ?_ ?_).trans before
      · rfl
      · rcases outcome with rfl | rfl <;> simp [sent, CallStatus.isNumbered]

theorem owner_of_changed (recorded : Recorded client places action issued records) {place : Nat}
    (inside : place < client.logbook.records.length)
    (changed : records[place]? ≠ client.logbook.records[place]?) :
    ∃ number, action = .wake number ∧ places number = [place] := by
  cases recorded with
  | kept => exact absurd rfl changed
  | refused => exact absurd (List.getElem?_append_left inside) changed
  | numbered => exact absurd (List.getElem?_append_left inside) changed
  | settled number is_wake other record own =>
      by_cases same : other = place
      · exact ⟨number, is_wake, same ▸ own⟩
      · exact absurd (List.getElem?_set_ne same) changed

end Recorded

/-! ## Runs -/

section Run

variable {client : Client} {places posts : Nat → List Nat}

theorem requestIds_run (ledger : Ledger client places posts) (correlated : client.IsCorrelated)
    (before : requestIds client.logbook.records = serials client.issued) (actions : List Action) :
    requestIds (client.run actions).logbook.records = serials (client.run actions).issued := by
  induction actions generalizing client places posts with
  | nil => exact before
  | cons action rest induction =>
      exact induction (ledger_step ledger correlated action) (isCorrelated_step correlated action)
        ((recorded_step ledger correlated action).requestIds_eq before)

end Run

end Client

end GatewayLink
