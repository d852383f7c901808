import GatewayLink.Proofs.Client.Bookkeeping
import GatewayLink.Proofs.Client.Waking

/-!
# Responses in any order

Responses with different ids may be handed to a client in any order, and the calls that they let go
on may do so in any order, in between or afterwards.  As soon as all of them have gone on, the calls,
the pending requests and the history are the same, durations and times aside; so is whatever follows.
-/

namespace GatewayLink

/-! ## Responses and requests in flight -/

namespace InFlight

variable {inFlight : InFlight}

/-- Pending requests under different ids have different handles. -/
def IsSeparate (inFlight : InFlight) : Prop :=
  ∀ entry ∈ inFlight.pending, ∀ other ∈ inFlight.pending,
    entry.handle = other.handle → entry.id = other.id

/-- The requests in flight after responses were handed over one after another. -/
def answers (inFlight : InFlight) (responses : List Response) : InFlight :=
  responses.foldl (fun inFlight response => (inFlight.answer response.id response).2) inFlight

@[simp] theorem answers_cons (inFlight : InFlight) (response : Response) (rest : List Response) :
    inFlight.answers (response :: rest) =
      (inFlight.answer response.id response).2.answers rest := rfl

theorem isSeparate_answer (separate : inFlight.IsSeparate) (response : Response) :
    (inFlight.answer response.id response).2.IsSeparate := by
  intro entry member other other_member
  rw [answer, pending_remove] at member other_member
  exact separate entry (List.mem_filter.mp member).1 other (List.mem_filter.mp other_member).1

theorem remove_of_none {id : String} (absent : inFlight.find? id = none)
    (answer : Option Response) : (inFlight.remove id answer).2 = inFlight := by
  simp [remove, absent]

theorem remove_of_some {id : String} {entry : Pending} (found : inFlight.find? id = some entry)
    (answer : Option Response) :
    (inFlight.remove id answer).2 =
      { pending := inFlight.pending.filter (·.id != id)
        cells := inFlight.cells.modify entry.handle (Cell.settle answer) } := by
  simp [remove, found]

theorem find?_remove_of_ne (inFlight : InFlight) {id other : String} (apart : other ≠ id)
    (answer : Option Response) : (inFlight.remove id answer).2.find? other = inFlight.find? other := by
  rw [find?, pending_remove, List.find?_filter, find?]
  congr 1
  funext entry
  by_cases same : entry.id = other <;> simp [same, apart]

/-- Responses with different ids may be handed over in either order. -/
theorem answer_comm (separate : inFlight.IsSeparate) {first second : Response}
    (apart : first.id ≠ second.id) :
    ((inFlight.answer first.id first).2.answer second.id second).2 =
      ((inFlight.answer second.id second).2.answer first.id first).2 := by
  have second_kept := inFlight.find?_remove_of_ne (Ne.symm apart) (some first)
  have first_kept := inFlight.find?_remove_of_ne apart (some second)
  simp only [answer]
  cases found : inFlight.find? first.id with
  | none => rw [remove_of_none (first_kept.trans found), remove_of_none found]
  | some entry =>
      cases other_found : inFlight.find? second.id with
      | none => rw [remove_of_none (second_kept.trans other_found), remove_of_none other_found]
      | some other =>
          have handles_apart : entry.handle ≠ other.handle := by
            intro same
            have same_id := separate entry (List.mem_of_find?_eq_some found) other
              (List.mem_of_find?_eq_some other_found) same
            have entry_id : entry.id = first.id := by simpa using List.find?_some found
            have other_id : other.id = second.id := by simpa using List.find?_some other_found
            exact apart (entry_id.symm.trans (same_id.trans other_id))
          rw [remove_of_some (second_kept.trans other_found),
            remove_of_some (first_kept.trans found), remove_of_some found,
            remove_of_some other_found, List.modify_modify_ne _ _ _ handles_apart]
          simp only [List.filter_filter, Bool.and_comm]

/-- Responses with different ids may be handed over in any order. -/
theorem answers_perm (separate : inFlight.IsSeparate) {first second : List Response}
    (same : first.Perm second) (apart : (first.map Response.id).Nodup) :
    inFlight.answers first = inFlight.answers second := by
  induction same generalizing inFlight with
  | nil => rfl
  | cons response _ induction =>
      exact induction (isSeparate_answer separate response) (List.nodup_cons.mp apart).2
  | swap response other rest =>
      have ids_apart : other.id ≠ response.id := fun same =>
        (List.nodup_cons.mp apart).1 (by simp [same])
      simp only [answers_cons, answer_comm separate ids_apart]
  | trans first_same _ first_induction second_induction =>
      have still_apart := ((first_same.map Response.id).nodup_iff).mp apart
      exact (first_induction separate apart).trans (second_induction separate still_apart)

/-- A handle that belongs to no request of an id may be closed before or after a response. -/
theorem close_answer {handle : Handle} {response : Response}
    (apart : ∀ entry ∈ inFlight.pending, entry.id = response.id → entry.handle ≠ handle) :
    ((inFlight.close handle).answer response.id response).2 =
      (inFlight.answer response.id response).2.close handle := by
  simp only [answer]
  cases found : inFlight.find? response.id with
  | none =>
      have closed_found : (inFlight.close handle).find? response.id = none := found
      rw [remove_of_none closed_found, remove_of_none found]
  | some entry =>
      have closed_found : (inFlight.close handle).find? response.id = some entry := found
      have handles_apart : entry.handle ≠ handle :=
        apart entry (List.mem_of_find?_eq_some found) (by simpa using List.find?_some found)
      rw [remove_of_some closed_found, remove_of_some found]
      simp only [close, InFlight.mk.injEq, true_and]
      refine List.ext_getElem? fun other => ?_
      simp only [List.getElem?_set, List.getElem?_modify, List.length_modify]
      by_cases here : handle = other
      · simp [here, here ▸ handles_apart]
      · simp [here]

end InFlight

namespace Client

variable {client : Client} {number : Nat}

/-! ## Ends of clients -/

theorem dissolve_wake_dissolve (client : Client) (number : Nat) :
    (client.dissolve.wake number).dissolve = (client.wake number).dissolve := by
  cases alive : client.isAlive with
  | true => rw [client.dissolve_of_isAlive alive]
  | false =>
      rw [wake_of_not_isAlive alive, wake_of_not_isAlive (client.isAlive_dissolve.trans alive),
        dissolve_dissolve]

/-! ## Responses and calls that go on -/

/-- The client after responses were handed over one after another. -/
def answerAll (client : Client) (responses : List Response) : Client :=
  { client with inFlight := client.inFlight.answers responses }

/-- The client after calls have gone on one after another. -/
def wakeEach (client : Client) (numbers : List Nat) : Client :=
  numbers.foldl wake client

@[simp] theorem wakeEach_cons (client : Client) (number : Nat) (rest : List Nat) :
    client.wakeEach (number :: rest) = (client.wake number).wakeEach rest := rfl

theorem wakeEach_append (client : Client) (first second : List Nat) :
    client.wakeEach (first ++ second) = (client.wakeEach first).wakeEach second :=
  List.foldl_append ..

theorem dissolve_answerAll (client : Client) (responses : List Response) :
    client.dissolve.answerAll responses = (client.answerAll responses).dissolve := by
  have same_alive : (client.answerAll responses).isAlive = client.isAlive := rfl
  unfold dissolve
  rw [same_alive]
  cases client.isAlive with
  | true => rfl
  | false =>
      cases task : client.connection.task with
      | none =>
          simp only [Connection.unassign, answerAll, task]
          rfl
      | some link =>
          simp only [Connection.unassign, answerAll, task]
          rfl

theorem dissolve_wakeEach_dissolve (client : Client) (numbers : List Nat) :
    (client.dissolve.wakeEach numbers).dissolve = (client.wakeEach numbers).dissolve := by
  induction numbers generalizing client with
  | nil => exact client.dissolve_dissolve
  | cons number rest induction =>
      calc ((client.dissolve.wake number).wakeEach rest).dissolve
          = ((client.dissolve.wake number).dissolve.wakeEach rest).dissolve := (induction _).symm
        _ = ((client.wake number).dissolve.wakeEach rest).dissolve := by
            rw [dissolve_wake_dissolve]
        _ = ((client.wake number).wakeEach rest).dissolve := induction _

theorem wakeEach_eq_self {numbers : List Nat}
    (idle : ∀ number ∈ numbers, client.wake number = client) :
    client.wakeEach numbers = client := by
  induction numbers with
  | nil => rfl
  | cons number rest induction =>
      rw [wakeEach_cons, idle number List.mem_cons_self]
      exact induction fun other member => idle other (List.mem_cons_of_mem number member)

namespace Alike

variable {one other : Client}

theorem answerAll (alike : Alike one other) (responses : List Response) :
    Alike (one.answerAll responses) (other.answerAll responses) := by
  obtain ⟨logbook, clock, rfl, same⟩ := alike
  exact ⟨logbook, clock, rfl, same⟩

theorem wakeEach (alike : Alike one other) (numbers : List Nat) :
    Alike (one.wakeEach numbers) (other.wakeEach numbers) := by
  induction numbers generalizing one other with
  | nil => exact alike
  | cons number rest induction => exact induction (alike.wake number)

theorem orderly (alike : Alike one other) (order : one.Orderly) : other.Orderly := by
  obtain ⟨logbook, clock, rfl, -⟩ := alike
  exact ⟨order.correlated, order.single⟩

theorem of_twins (twins : Twins (fun book twin => book.outline = twin.outline) one other) :
    Alike one other := by
  obtain ⟨logbook, rfl, same⟩ := twins
  exact ⟨logbook, one.clock, rfl, same⟩

theorem twins (alike : Alike one other) (clock : one.clock = other.clock) :
    Twins (fun book twin => book.outline = twin.outline) one other := by
  obtain ⟨logbook, otherClock, rfl, same⟩ := alike
  obtain rfl : one.clock = otherClock := clock
  exact ⟨logbook, rfl, same⟩

end Alike

namespace Orderly

theorem answer (orderly : client.Orderly) (response : Response) :
    (client.answerAll [response]).Orderly :=
  ⟨orderly.correlated.answer response, orderly.single⟩

theorem answerAll (orderly : client.Orderly) (responses : List Response) :
    (client.answerAll responses).Orderly := by
  induction responses generalizing client with
  | nil => exact orderly
  | cons response rest induction => exact induction (orderly.answer response)

theorem dissolve (orderly : client.Orderly) : client.dissolve.Orderly where
  correlated := by simpa [IsCorrelated] using orderly.correlated
  single := by
    have roster : client.dissolve.roster = client.roster := by simp [roster]
    rw [roster]
    exact @orderly.single

theorem isSeparate (orderly : client.Orderly) : client.inFlight.IsSeparate := by
  intro entry member other other_member same
  obtain ⟨number, waits⟩ := orderly.correlated.waited entry member
  exact (orderly.correlated.id_eq waits other_member same.symm).symm

theorem wakeEach_perm (orderly : client.Orderly) {first second : List Nat}
    (same : first.Perm second) : Alike (client.wakeEach first) (client.wakeEach second) := by
  induction same generalizing client with
  | nil => exact .refl client
  | cons number _ induction => exact induction (orderly.wake number)
  | swap number other rest => exact (orderly.wake_comm other number).wakeEach rest
  | trans _ _ first_induction second_induction =>
      exact (first_induction orderly).trans (second_induction orderly)

end Orderly

namespace Departing

theorem handle_ne (departing : client.Departing number) (correlated : client.IsCorrelated)
    {entry : Pending} (member : entry ∈ client.inFlight.pending) :
    entry.handle ≠ departing.handle := fun same =>
  InFlight.ne_of_free (departing.gone correlated) member
    (correlated.id_eq departing.waits member same)

/-- A call that can go on still can after a response. -/
def afterAnswer (departing : client.Departing number) (correlated : client.IsCorrelated)
    (response : Response) : (client.answerAll [response]).Departing number :=
  departing.transfer rfl <|
    InFlight.cells_remove_of_ne _ fun _ member _ => departing.handle_ne correlated member

theorem wake_answer (departing : client.Departing number) (correlated : client.IsCorrelated)
    (response : Response) :
    (client.answerAll [response]).wake number = (client.wake number).answerAll [response] := by
  have closed := InFlight.close_answer fun _ member (_ : _ = response.id) =>
    departing.handle_ne correlated member
  rw [(departing.afterAnswer correlated response).wake_eq, departing.wake_eq]
  exact congrArg (fun inFlight => { departing.after with inFlight }) closed.symm

theorem wake_answerAll (departing : client.Departing number) (orderly : client.Orderly)
    (responses : List Response) :
    (client.answerAll responses).wake number = (client.wake number).answerAll responses := by
  induction responses generalizing client with
  | nil => rfl
  | cons response rest induction =>
      have later := induction (departing.afterAnswer orderly.correlated response)
        (orderly.answer response)
      rw [departing.wake_answer orderly.correlated] at later
      exact later

end Departing

end Client

end GatewayLink
