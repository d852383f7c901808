import GatewayLink.Proofs.Activity.Aging
import GatewayLink.Proofs.Client.Mirror
import GatewayLink.Proofs.Client.Numbering

/-!
# The history of calls over a run

Every record that a client enters is well formed, and what a client does to it later leaves it well
formed.  In a history that forgets nothing a record keeps its place, and of all the steps of a run
at most one changes it: the one that gives a call that was sent its outcome.
-/

namespace GatewayLink

namespace Client

/-! ## The shape of records -/

section Shape

variable {client after : Client} {number : Nat} {call : Call}

theorem isWellFormed_fail (formed : client.logbook.IsWellFormed) (id method : String) (since : Nat)
    (text : String) (cause : ClientError) :
    (client.fail number id method since text cause).logbook.IsWellFormed :=
  (formed.settle id .error (client.elapsedSince since)).post method text .error

theorem isWellFormed_issued (formed : client.logbook.IsWellFormed)
    (issued : Issued client number call after) : after.logbook.IsWellFormed := by
  have sent := formed.attempt client.clock.wall (some (client.issued + 1).repr) call.method .sent
    none fun _ => rfl
  cases issued with
  | duplicate awaited => exact formed
  | sent free connection sends => exact sent
  | unsent free cause fails => exact isWellFormed_fail sent ..

theorem isWellFormed_began (formed : client.logbook.IsWellFormed)
    (began : Began client number call after) : after.logbook.IsWellFormed := by
  cases began with
  | lapsed => exact formed
  | overflowed => exact formed
  | refused cause status duration text severity refusal =>
      refine (formed.attempt client.clock.wall none call.method status duration fun _ => ?_).post ..
      cases refusal <;> rfl
  | issued pacing after issued =>
      have paced : ({ client with pacing } : Client).logbook.IsWellFormed := formed
      exact isWellFormed_issued paced issued

theorem isWellFormed_concluded (formed : client.logbook.IsWellFormed) (id method : String)
    (since : Nat) (response : Response) :
    (client.concluded id method since response).IsWellFormed := by
  unfold concluded
  split
  · have settled := formed.settle id .ok (client.elapsedSince since)
    exact settled.of_history rfl
  · have noted : (client.logbook.noteFailure client.clock.wall method
        response.refusalText).IsWellFormed := formed.of_history rfl
    exact (noted.settle ..).post ..

theorem isWellFormed_woke {id : String} {handle : Handle} {since : Nat}
    (formed : client.logbook.IsWellFormed)
    (woke : Woke client number call id handle since after) : after.logbook.IsWellFormed := by
  cases woke with
  | concluded response => exact isWellFormed_concluded formed id call.method since response
  | abandoned => exact isWellFormed_fail formed ..
  | unchanged => exact formed

theorem isWellFormed_step (formed : client.logbook.IsWellFormed) (action : Action) :
    (client.step action).logbook.IsWellFormed := by
  cases moves : action.movesCall with
  | false => exact formed.of_history (client.aside_step action moves).logbook.history
  | true =>
      cases action with
      | start number =>
          rw [step_start, logbook_dissolve]
          obtain ⟨call, -, -, began⟩ | ⟨-, unchanged⟩ := client.start_cases number
          · exact isWellFormed_began formed began
          · rw [unchanged]
            exact formed
      | wake number =>
          rw [step_wake, logbook_dissolve]
          obtain ⟨call, id, handle, since, -, -, woke⟩ | ⟨-, unchanged⟩ := client.wake_cases number
          · exact isWellFormed_woke formed woke
          · rw [unchanged]
            exact formed
      | _ => cases moves

theorem isWellFormed_run (formed : client.logbook.IsWellFormed) (actions : List Action) :
    (client.run actions).logbook.IsWellFormed := by
  induction actions generalizing client with
  | nil => exact formed
  | cons action rest induction => exact induction (isWellFormed_step formed action)

end Shape

/-! ## The changes of records -/

/-- A record stays in its place, and only the record of a call that was sent is changed. -/
theorem Recorded.becomes {client : Client} {places : Nat → List Nat} {action : Action} {issued : Nat}
    {records : List CallRecord} (recorded : Recorded client places action issued records)
    {place : Nat} {record : CallRecord} (found : client.logbook.records[place]? = some record) :
    ∃ after, records[place]? = some after ∧ record.Becomes after := by
  have inside := (List.getElem?_eq_some_iff.mp found).1
  cases recorded with
  | kept => exact ⟨record, found, .unchanged⟩
  | refused => exact ⟨record, by rwa [List.getElem?_append_left inside], .unchanged⟩
  | numbered => exact ⟨record, by rwa [List.getElem?_append_left inside], .unchanged⟩
  | settled number is_wake other own own_place own_found sent status outcome duration =>
      by_cases same : other = place
      · subst same
        obtain rfl : own = record := Option.some.inj (own_found.symm.trans found)
        exact ⟨_, List.getElem?_set_self inside, .settled sent status outcome duration⟩
      · exact ⟨record, by rwa [List.getElem?_set_ne same], .unchanged⟩

theorem becomes_run {client : Client} {places posts : Nat → List Nat}
    (ledger : Ledger client places posts) (correlated : client.IsCorrelated)
    {place : Nat} {record : CallRecord} (found : client.logbook.records[place]? = some record)
    (actions : List Action) :
    ∃ after, (client.run actions).logbook.records[place]? = some after ∧ record.Becomes after := by
  induction actions generalizing client places posts record with
  | nil => exact ⟨record, found, .unchanged⟩
  | cons action rest induction =>
      obtain ⟨next, next_found, becomes⟩ := (recorded_step ledger correlated action).becomes found
      obtain ⟨last, last_found, later⟩ := induction (ledger_step ledger correlated action)
        (isCorrelated_step correlated action) next_found
      exact ⟨last, last_found, becomes.trans later⟩

/-- A record keeps its place, its id, its method and its time; it is changed at most once, and only
from sent to an outcome. -/
theorem records_are_settled_once (settings : Settings) (limits : Limits) (wall : Timestamp)
    (actions more further : List Action) :
    let start := new settings .unlimited wall
    let client := (new settings limits wall).run actions
    let records := fun actions => (start.run actions).logbook.records
    client.logbook.history.items = BoundedLog.within limits.history (records actions).reverse ∧
    (∀ record ∈ client.logbook.history.items, record.IsWellFormed) ∧
    (∀ record ∈ records actions, record.IsWellFormed) ∧
    ∀ (place : Nat) (record : CallRecord), (records actions)[place]? = some record →
      ∃ later last, (records (actions ++ more))[place]? = some later ∧
        (records (actions ++ (more ++ further)))[place]? = some last ∧
        record.Becomes later ∧ later.Becomes last ∧ (record = later ∨ later = last) := by
  intro start client records
  have shown : client.logbook.history.items =
      BoundedLog.within limits.history (records actions).reverse := by
    simpa [records, start, Logbook.records] using
      (mirrors_run settings limits wall actions).shown.history.items
  have becomes (before after : List Action) {place : Nat} {record : CallRecord}
      (found : (records before)[place]? = some record) :
      ∃ later, (records (before ++ after))[place]? = some later ∧ record.Becomes later := by
    have ledger := ledger_run (Ledger.new settings wall) Correlated.new before
    simp only [records, run_append]
    exact becomes_run ledger (isCorrelated_run settings .unlimited wall before) found after
  refine ⟨shown, (isWellFormed_run (.new limits) actions).records, ?_, ?_⟩
  · intro record member
    exact (isWellFormed_run (.new .unlimited) actions).records record (List.mem_reverse.mp member)
  · intro place record found
    obtain ⟨later, later_found, first⟩ := becomes actions more found
    obtain ⟨last, last_found, second⟩ := becomes (actions ++ more) further later_found
    rw [List.append_assoc] at last_found
    exact ⟨later, last, later_found, last_found, first, second, first.once second⟩

end Client

end GatewayLink
