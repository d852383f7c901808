import Mathlib.Logic.IsEmpty.Basic
import GatewayLink.Proofs.Activity.Outline
import GatewayLink.Proofs.Client.Fate
import GatewayLink.Proofs.Client.Opening
import GatewayLink.Proofs.Client.Publishing

/-!
# Calls that go on

A call goes on once its wait has ended, and what it does then depends on what its handle shows.
Calls that can go on may do so in either order: each keeps what it needs, and the clients that they
leave behind differ only in times, in bulletins and in the standing of methods.
-/

namespace GatewayLink

namespace InFlight

/-- The requests in flight once a handle holds nothing any more. -/
def close (inFlight : InFlight) (handle : Handle) : InFlight :=
  { inFlight with cells := inFlight.cells.set handle .closed }

theorem close_of_closed {inFlight : InFlight} {handle : Handle}
    (closed : inFlight.cells[handle]? = some .closed) : inFlight.close handle = inFlight := by
  obtain ⟨inside, shown⟩ := List.getElem?_eq_some_iff.mp closed
  simp [close, ← shown]

theorem close_comm (inFlight : InFlight) {first second : Handle} (apart : first ≠ second) :
    (inFlight.close first).close second = (inFlight.close second).close first := by
  simp [close, List.set_comm _ _ apart]

end InFlight

namespace Connection

/-- The connection once a session has been entered, if one is opened. -/
def entered (connection : Connection) : Option (Nat × Welcome) → Connection
  | some (generation, welcome) => (connection.welcome generation welcome).2
  | none => connection

/-- Sessions of different generations may be entered in either order. -/
theorem entered_comm (connection : Connection) {first second : Option (Nat × Welcome)}
    (apart : ∀ one ∈ first, ∀ other ∈ second, one.1 ≠ other.1) :
    (connection.entered first).entered second = (connection.entered second).entered first := by
  rcases first with _ | ⟨generation, welcome⟩
  · rfl
  · rcases second with _ | ⟨other, otherWelcome⟩
    · rfl
    · have generations_apart : generation ≠ other := apart _ rfl _ rfl
      simp only [entered]
      by_cases stands : connection.stands generation = true
      · have late : connection.stands other = false := by
          rw [(connection.stands_iff generation).mp stands] at generations_apart
          simpa [Connection.stands] using Ne.symm generations_apart
        have still_late : (connection.welcome generation welcome).2.stands other = false := by
          simpa [Connection.stands] using late
        rw [welcome_of_not_stands late, welcome_of_not_stands still_late]
      · have late : connection.stands generation = false := by simpa using stands
        have still_late : (connection.welcome other otherWelcome).2.stands generation = false := by
          simpa [Connection.stands] using late
        rw [welcome_of_not_stands late, welcome_of_not_stands still_late]

end Connection

/-- What has ended the wait of a call, as its handle shows it. -/
def Cell.departure? : Cell → Option Client.Departure
  | .answered response => some (.answered response)
  | .closed => some .abandoned
  | .waiting | .released => none

namespace Client

namespace Departure

/-- The status that a call has in the history after its wait has ended. -/
def status : Departure → CallStatus
  | .answered response => if response.ok then .ok else .error
  | .abandoned => .error

/-- The session that is opened by what has ended a wait. -/
def opening? (caller : Caller) : Departure → Option (Nat × Welcome)
  | .answered response => Client.opening? caller response
  | .abandoned => none

theorem caller_of_opening? {departure : Departure} {caller : Caller} {opening : Nat × Welcome}
    (opens : departure.opening? caller = some opening) : caller = .handshake opening.1 := by
  cases departure with
  | answered response => exact (opening?_eq_some_iff.mp opens).1
  | abandoned => cases opens

/-- The logbook once a call has gone on. -/
def recorded (client : Client) (id method : String) (since : Nat) : Departure → Logbook
  | .answered response => client.concluded id method since response
  | .abandoned =>
    (client.logbook.settle id .error (client.elapsedSince since)).2.post method abandonedText .error

theorem outline_recorded (departure : Departure) (client : Client) (id method : String)
    (since : Nat) :
    (departure.recorded client id method since).outline =
      (client.logbook.outline.finish id departure.status).draw := by
  cases departure with
  | answered response => cases ok : response.ok <;> simp [recorded, concluded, status, ok]
  | abandoned => simp [recorded, status]

end Departure

/-- A call that waits, together with what its handle shows. -/
structure Departing (client : Client) (number : Nat) where
  call : Call
  id : String
  handle : Handle
  since : Nat
  departure : Departure
  found : client.calls[number]? = some call
  waiting : call.stage = .waiting id handle since
  shown : client.inFlight.cells[handle]?.bind Cell.departure? = some departure

namespace Departing

variable {client : Client} {number other : Nat}

theorem waits (departing : client.Departing number) :
    Waits client.calls number departing.id departing.handle departing.call.method :=
  ⟨departing.call, departing.since, departing.found, departing.waiting, rfl⟩

theorem exists_cell (departing : client.Departing number) :
    ∃ cell, client.inFlight.cells[departing.handle]? = some cell ∧
      cell.departure? = some departing.departure :=
  Option.bind_eq_some_iff.mp departing.shown

theorem gone (departing : client.Departing number) (correlated : client.IsCorrelated) :
    client.inFlight.awaits departing.id = false := by
  obtain ⟨cell, seen, shown⟩ := departing.exists_cell
  refine (correlated.registered departing.waits).gone_of_seen seen ?_
  rintro rfl
  cases shown

/-- The client once the call has gone on. -/
def after (departing : client.Departing number) : Client :=
  { client with
    connection := client.connection.entered (departing.departure.opening? departing.call.caller)
    inFlight := client.inFlight.close departing.handle
    logbook := departing.departure.recorded client departing.id departing.call.method
      departing.since }.setStage number
    (.returned (departing.departure.result departing.id departing.call.method))

theorem wake_eq (departing : client.Departing number) : client.wake number = departing.after := by
  obtain ⟨⟨caller, method, params, stage⟩, id, handle, since, departure, found, waiting, shown⟩ :=
    departing
  obtain rfl : stage = .waiting id handle since := waiting
  obtain ⟨cell, seen, shown⟩ := Option.bind_eq_some_iff.mp shown
  cases cell with
  | waiting => cases shown
  | released => cases shown
  | answered response =>
      obtain rfl := Option.some.inj shown
      have woken : client.wake number =
          ({ client with inFlight := client.inFlight.close handle } : Client).conclude number caller
            id method since response := by
        simp [wake, found, InFlight.poll, InFlight.glance?, seen, InFlight.close]
      obtain ⟨connection, -, concluded⟩ := conclude_eq
        { client with inFlight := client.inFlight.close handle } number caller id method since response
      have entered := connection_conclude
        { client with inFlight := client.inFlight.close handle } number caller id method since response
      rw [concluded] at entered
      obtain rfl : connection = client.connection.entered (Client.opening? caller response) := entered
      rw [woken, concluded]
      rfl
  | closed =>
      obtain rfl := Option.some.inj shown
      have woken : client.wake number =
          client.fail number id method since abandonedText (.abandoned id method) := by
        simp [wake, found, InFlight.poll, InFlight.glance?, seen]
      rw [woken, after, InFlight.close_of_closed seen]
      rfl

theorem returned (departing : client.Departing number) :
    (client.wake number).calls[number]? =
      some { departing.call with
        stage := .returned (departing.departure.result departing.id departing.call.method) } := by
  simp [departing.wake_eq, after, departing.found]

theorem outline_wake (departing : client.Departing number) :
    (client.wake number).logbook.outline =
      (client.logbook.outline.finish departing.id departing.departure.status).draw := by
  rw [departing.wake_eq]
  exact departing.departure.outline_recorded ..

/-- Only the call itself and its handle count. -/
def transfer (departing : client.Departing number) {later : Client}
    (found : later.calls[number]? = client.calls[number]?)
    (kept : later.inFlight.cells[departing.handle]? = client.inFlight.cells[departing.handle]?) :
    later.Departing number :=
  { departing with
    found := found.trans departing.found
    shown := kept ▸ departing.shown }

theorem calls_of_ne (departing : client.Departing number) (apart : other ≠ number) :
    (client.wake number).calls[other]? = client.calls[other]? := by
  simp [departing.wake_eq, after, Ne.symm apart]

theorem cells_of_ne (departing : client.Departing number) {handle : Handle}
    (apart : handle ≠ departing.handle) :
    (client.wake number).inFlight.cells[handle]? = client.inFlight.cells[handle]? := by
  simp [departing.wake_eq, after, InFlight.close, Ne.symm apart]

/-- A call that can go on still can after another one has gone on. -/
def afterOther (departing : client.Departing number) (first : client.Departing other)
    (correlated : client.IsCorrelated) (apart : number ≠ other) :
    (client.wake other).Departing number :=
  departing.transfer (first.calls_of_ne apart) <| first.cells_of_ne fun same =>
    apart (correlated.apart departing.waits first.waits (.inr same))

/-- The client once two calls have gone on, one after the other. -/
theorem wake_wake (first : client.Departing number) (second : client.Departing other)
    (correlated : client.IsCorrelated) (apart : number ≠ other) :
    ∃ logbook, logbook.outline =
        ((client.logbook.outline.finish first.id first.departure.status).finish second.id
          second.departure.status).draw.draw ∧
      (client.wake number).wake other =
        { client with
          connection := (client.connection.entered (first.departure.opening? first.call.caller)).entered
            (second.departure.opening? second.call.caller)
          inFlight := (client.inFlight.close first.handle).close second.handle
          logbook
          calls := (client.calls.modify number ({ · with
            stage := .returned (first.departure.result first.id first.call.method) })).modify other
              ({ · with stage := .returned (second.departure.result second.id second.call.method) }) } := by
  have woken := (second.afterOther first correlated apart.symm).wake_eq
  have outline := (second.afterOther first correlated apart.symm).outline_wake
  rw [first.outline_wake] at outline
  refine ⟨((client.wake number).wake other).logbook, outline, ?_⟩
  rw [woken]
  dsimp only [after, afterOther, transfer]
  rw [first.wake_eq]
  rfl

end Departing

variable {client : Client} {number : Nat}

/-- A call that cannot go on does nothing. -/
theorem wake_of_isEmpty (still : IsEmpty (client.Departing number)) : client.wake number = client := by
  obtain ⟨call, id, handle, since, found, waiting, woke⟩ | ⟨-, unchanged⟩ := client.wake_cases number
  · have hidden (departure : Departure) :
        client.inFlight.cells[handle]?.bind Cell.departure? ≠ some departure := fun shown =>
      still.false ⟨call, id, handle, since, departure, found, waiting, shown⟩
    generalize client.wake number = after at woke
    cases woke with
    | concluded response seen => exact absurd (by rw [seen]; rfl) (hidden (.answered response))
    | abandoned seen => exact absurd (by rw [seen]; rfl) (hidden .abandoned)
    | unchanged => rfl
  · exact unchanged

@[simp] theorem roster_wake (client : Client) (number : Nat) :
    (client.wake number).roster = client.roster := by
  rcases isEmpty_or_nonempty (client.Departing number) with idle | able
  · rw [wake_of_isEmpty idle]
  · obtain ⟨departing⟩ := able
    rw [departing.wake_eq]
    exact roster_setStage _ _ _

/-- No call can go on because another one has done so. -/
theorem isEmpty_departing_wake (still : IsEmpty (client.Departing number)) (other : Nat) :
    IsEmpty ((client.wake other).Departing number) := by
  rcases isEmpty_or_nonempty (client.Departing other) with idle | able
  · rwa [wake_of_isEmpty idle]
  · obtain ⟨first⟩ := able
    refine ⟨fun departing => ?_⟩
    have apart : number ≠ other := by
      rintro rfl
      exact still.false first
    have found : client.calls[number]? = some departing.call :=
      (first.calls_of_ne apart).symm.trans departing.found
    by_cases same : departing.handle = first.handle
    · exact still.false { first with
        call := departing.call
        id := departing.id
        since := departing.since
        found
        waiting := same ▸ departing.waiting }
    · exact still.false
        (departing.transfer (first.calls_of_ne apart).symm (first.cells_of_ne same).symm)

/-! ## Clients alike -/

/-- Two clients agree but for their clocks and for what their logbooks tell beyond the outline. -/
def Alike (one other : Client) : Prop :=
  ∃ logbook clock, other = { one with logbook, clock } ∧ one.logbook.outline = logbook.outline

namespace Alike

variable {one other third : Client}

theorem refl (client : Client) : Alike client client := ⟨_, _, rfl, rfl⟩

theorem symm (alike : Alike one other) : Alike other one := by
  obtain ⟨logbook, clock, rfl, same⟩ := alike
  exact ⟨_, _, rfl, same.symm⟩

theorem trans (first : Alike one other) (second : Alike other third) : Alike one third := by
  obtain ⟨logbook, clock, rfl, same⟩ := first
  obtain ⟨_, _, rfl, next⟩ := second
  exact ⟨_, _, rfl, same.trans next⟩

theorem calls_eq (alike : Alike one other) : other.calls = one.calls := by
  obtain ⟨logbook, clock, rfl, -⟩ := alike
  rfl

theorem inFlight_eq (alike : Alike one other) : other.inFlight = one.inFlight := by
  obtain ⟨logbook, clock, rfl, -⟩ := alike
  rfl

theorem listed_eq (alike : Alike one other) : other.logbook.listed = one.logbook.listed := by
  obtain ⟨logbook, clock, rfl, same⟩ := alike
  rw [Logbook.listed_eq, Logbook.listed_eq, same]

theorem dissolve (alike : Alike one other) : Alike one.dissolve other.dissolve := by
  obtain ⟨logbook, clock, rfl, same⟩ := alike
  have same_alive : ({ one with logbook, clock } : Client).isAlive = one.isAlive := rfl
  unfold Client.dissolve
  rw [same_alive]
  cases one.isAlive with
  | true => exact ⟨logbook, clock, rfl, same⟩
  | false =>
      cases task : one.connection.task with
      | none =>
          simp only [Connection.unassign, task]
          exact ⟨logbook, clock, rfl, same⟩
      | some link =>
          simp only [Connection.unassign, task]
          exact ⟨logbook, clock, rfl, same⟩

/-- What a call that goes on does to the outline depends on the outline alone. -/
theorem wake (alike : Alike one other) (number : Nat) :
    Alike (one.wake number) (other.wake number) := by
  have whole := alike
  obtain ⟨logbook, clock, rfl, same⟩ := alike
  rcases isEmpty_or_nonempty (one.Departing number) with idle | able
  · have idle_too : IsEmpty (({ one with logbook, clock } : Client).Departing number) :=
      ⟨fun departing => idle.false (departing.transfer rfl rfl)⟩
    rw [wake_of_isEmpty idle, wake_of_isEmpty idle_too]
    exact whole
  · obtain ⟨departing⟩ := able
    have woken := departing.wake_eq
    have woken_too :=
      (departing.transfer rfl rfl : ({ one with logbook, clock } : Client).Departing number).wake_eq
    rw [woken, woken_too]
    refine ⟨_, _, rfl, ?_⟩
    exact (departing.departure.outline_recorded ..).trans
      (same ▸ (departing.departure.outline_recorded { one with logbook, clock } ..).symm)

end Alike

/-! ## Calls that go on one after the other -/

/-- Each call waits for an answer of its own, and each generation has one handshake at most. -/
structure Orderly (client : Client) : Prop where
  correlated : client.IsCorrelated
  single : ∀ {first second : Nat} {call other : Call} {generation : Nat},
    client.roster[first]? = some call → call.caller = .handshake generation →
      client.roster[second]? = some other → other.caller = .handshake generation → first = second

theorem orderly_run (settings : Settings) (limits : Limits) (wall : Timestamp)
    (actions : List Action) : ((new settings limits wall).run actions).Orderly where
  correlated := isCorrelated_run settings limits wall actions
  single := (introduced_run settings limits wall actions).unique

namespace Orderly

theorem wake (orderly : client.Orderly) (number : Nat) : (client.wake number).Orderly where
  correlated := isCorrelated_wake orderly.correlated number
  single := by
    rw [roster_wake]
    exact @orderly.single

/-- At most one of two calls that can go on opens the session of a generation. -/
theorem openings_apart (orderly : client.Orderly) {other : Nat}
    (first : client.Departing number) (second : client.Departing other) (apart : number ≠ other) :
    ∀ opening ∈ first.departure.opening? first.call.caller,
      ∀ otherOpening ∈ second.departure.opening? second.call.caller,
        opening.1 ≠ otherOpening.1 := by
  intro opening opens otherOpening other_opens same
  have caller := Departure.caller_of_opening? opens
  have other_caller := Departure.caller_of_opening? other_opens
  rw [← same] at other_caller
  exact apart (orderly.single (getElem?_roster first.found) caller (getElem?_roster second.found)
    other_caller)

/-- Two calls that can go on may do so in either order. -/
theorem wake_comm_of_departing (orderly : client.Orderly) {other : Nat}
    (first : client.Departing number) (second : client.Departing other) (apart : number ≠ other) :
    Alike ((client.wake number).wake other) ((client.wake other).wake number) := by
  have handles_apart : first.handle ≠ second.handle := fun same =>
    apart (orderly.correlated.apart first.waits second.waits (.inr same))
  have ids_apart : first.id ≠ second.id := fun same =>
    apart (orderly.correlated.apart first.waits second.waits (.inl same))
  obtain ⟨logbook, outline, woken⟩ := first.wake_wake second orderly.correlated apart
  obtain ⟨otherLogbook, other_outline, other_woken⟩ :=
    second.wake_wake first orderly.correlated (Ne.symm apart)
  refine ⟨otherLogbook, client.clock, ?_, ?_⟩
  · rw [woken, other_woken,
      client.connection.entered_comm (orderly.openings_apart first second apart),
      client.inFlight.close_comm handles_apart, List.modify_modify_ne _ _ _ apart]
  · rw [woken, outline, other_outline, client.logbook.outline.finish_comm ids_apart]

/-- Calls may go on in either order. -/
theorem wake_comm (orderly : client.Orderly) (first second : Nat) :
    Alike ((client.wake first).wake second) ((client.wake second).wake first) := by
  by_cases apart : first = second
  · rw [apart]
    exact .refl _
  · rcases isEmpty_or_nonempty (client.Departing first) with idle | able
    · rw [wake_of_isEmpty idle, wake_of_isEmpty (isEmpty_departing_wake idle second)]
      exact .refl _
    · rcases isEmpty_or_nonempty (client.Departing second) with other_idle | other_able
      · rw [wake_of_isEmpty other_idle, wake_of_isEmpty (isEmpty_departing_wake other_idle first)]
        exact .refl _
      · obtain ⟨departing⟩ := able
        obtain ⟨otherDeparting⟩ := other_able
        exact orderly.wake_comm_of_departing departing otherDeparting apart

end Orderly

end Client

end GatewayLink
