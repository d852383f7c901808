import GatewayLink.Proofs.Client.Attribution
import GatewayLink.Proofs.Client.Fate

/-!
# Ids that are used up

Only its own moves touch a call, and none does once it has returned or was dropped.  Every id is
given to one call, which registers it once; after its request has stopped being pending the id is
used up, and a response with it changes nothing.
-/

namespace GatewayLink

namespace Client

/-! ## What a move leaves alone -/

section Frame

variable {client : Client} {number : Nat} {call : Call}

/-- Only its own moves touch a call, and only where they are possible. -/
theorem getElem?_move (found : client.calls[number]? = some call) {move : Move}
    (start : move = .act (.start number) → call.stage.goesOn = false)
    (wake : move = .act (.wake number) → call.stage.isWaiting = false)
    (giveUp : move = .giveUp number → call.caller = .holder → call.isActive = false) :
    (client.move move).calls[number]? = some call := by
  have same_call {other : Nat} {otherCall : Call}
      (other_found : client.calls[other]? = some otherCall) (same : other = number) :
      otherCall = call := by
    subst same
    exact Option.some.inj (other_found.symm.trans found)
  have others {other : Nat} (apart : other ≠ number) (stage : CallStage) :
      (client.calls.modify other ({ · with stage }))[number]? = some call := by
    simp [apart, found]
  have moved := client.move_cases move
  generalize client.move move = after at moved
  cases moved with
  | advanced other otherCall other_found ahead after advanced =>
      obtain ⟨stage, calls⟩ := advanced.calls_eq
      rw [calls_dissolve, calls]
      refine others (fun same => ?_) stage
      obtain rfl := same_call other_found same
      simp [start (by rw [same])] at ahead
  | woke other otherCall id handle since other_found waiting after woke =>
      have apart : other ≠ number := by
        intro same
        obtain rfl := same_call other_found same
        simpa [waiting, CallStage.isWaiting] using wake (by rw [same])
      rw [calls_dissolve]
      cases woke with
      | unchanged => exact found
      | _ => exact others apart _
  | dropped other otherCall other_found holder active =>
      rw [calls_dissolve]
      refine others (fun same => ?_) _
      obtain rfl := same_call other_found same
      simp [giveUp (by rw [same]) holder] at active
  | aside action moves =>
      obtain ⟨fresh, -, calls⟩ := (client.aside_step action moves).calls
      have known : number < client.calls.length := (List.getElem?_eq_some_iff.mp found).1
      rw [calls, List.getElem?_append_left known, found]
  | still _ silent => rw [calls_dissolve, found]

theorem getElem?_move_of_inactive (found : client.calls[number]? = some call)
    (settled : call.isActive = false) (move : Move) :
    (client.move move).calls[number]? = some call := by
  refine getElem?_move found ?_ ?_ (fun _ _ => settled) <;>
    cases stage : call.stage <;>
    simp_all [Call.isActive, CallStage.goesOn, CallStage.isWaiting]

end Frame

/-- How a call has come to be where it is after a move. -/
inductive Arrived (client : Client) (number : Nat) (move : Move) (call : Call) : Prop where
  | same (found : client.calls[number]? = some call)
      (kept : move = .giveUp number → call.caller = .holder → call.isActive = false)
  | fresh (ready : call.stage = .ready)
  | advanced (is_start : move = .act (.start number)) (before : Call)
      (found : client.calls[number]? = some before) (ahead : before.stage.goesOn = true)
      (after : Client) (advanced : Advanced client number before after)
      (there : after.calls[number]? = some call)
  | woke (is_wake : move = .act (.wake number)) (before : Call) (id : String) (handle : Handle)
      (since : Nat) (found : client.calls[number]? = some before)
      (waiting : before.stage = .waiting id handle since) (after : Client)
      (woke : Woke client number before id handle since after)
      (there : after.calls[number]? = some call)
  | dropped (is_giveUp : move = .giveUp number) (ticket : Option Ticket)
      (stage : call.stage = .dropped ticket)

/-- A call that is moved on to a stage has changed in nothing else. -/
theorem eq_of_modify {calls : List Call} {number : Nat} {before call : Call} {stage : CallStage}
    (found : calls[number]? = some before)
    (there : (calls.modify number ({ · with stage }))[number]? = some call) :
    call = { before with stage } := by
  simpa [found, eq_comm] using there

theorem Woke.stands_or_returned {client after : Client} {number : Nat} {before call : Call}
    {id : String} {handle : Handle} {since : Nat}
    (woke : Woke client number before id handle since after)
    (found : client.calls[number]? = some before) (there : after.calls[number]? = some call) :
    client.calls[number]? = some call ∨
      ∃ result, call = { before with stage := .returned result } := by
  cases woke with
  | unchanged => exact .inl there
  | concluded => exact .inr ⟨_, eq_of_modify found there⟩
  | abandoned => exact .inr ⟨_, eq_of_modify found there⟩

theorem arrived_move {client : Client} {number : Nat} {move : Move} {call : Call}
    (found : (client.move move).calls[number]? = some call) :
    client.Arrived number move call := by
  have others {other : Nat} (apart : other ≠ number) {stage : CallStage}
      (there : (client.calls.modify other ({ · with stage }))[number]? = some call) :
      client.calls[number]? = some call := by
    simpa [apart] using there
  by_cases drops : move = .giveUp number
  · subst drops
    rw [Client.move, calls_dissolve] at found
    obtain ⟨other, other_found, -, -, dropped⟩ | ⟨settled, unchanged⟩ :=
      client.giveUp_cases number
    · rw [dropped] at found
      obtain rfl := eq_of_modify other_found found
      exact .dropped rfl _ rfl
    · rw [unchanged] at found
      exact .same found fun _ => settled call found
  · have kept : move = .giveUp number → call.caller = .holder → call.isActive = false :=
      (absurd · drops)
    have moved := client.move_cases move
    generalize client.move move = after at moved found
    cases moved with
    | advanced other otherCall other_found ahead after advanced =>
        rw [calls_dissolve] at found
        by_cases same : other = number
        · subst same
          exact .advanced rfl otherCall other_found ahead after advanced found
        · obtain ⟨stage, calls⟩ := advanced.calls_eq
          exact .same (others same (calls ▸ found)) kept
    | woke other otherCall id handle since other_found waiting after woke =>
        rw [calls_dissolve] at found
        by_cases same : other = number
        · subst same
          exact .woke rfl otherCall id handle since other_found waiting after woke found
        · refine .same ?_ kept
          cases woke with
          | unchanged => exact found
          | _ => exact others same found
    | dropped other otherCall other_found holder active =>
        rw [calls_dissolve] at found
        exact .same (others (fun same => drops (by rw [same])) found) kept
    | aside action moves =>
        obtain ⟨fresh, ready, calls⟩ := (client.aside_step action moves).calls
        rw [calls, List.getElem?_append] at found
        split at found
        · exact .same found kept
        · exact .fresh (ready call (List.mem_of_getElem? found))
    | still _ silent => exact .same (by rwa [calls_dissolve] at found) kept

/-! ## Ids that are used up -/

/-- An id that was issued is gone for good once it is not pending and no call is about to register
it. -/
structure IsUsedUp (client : Client) (id : String) : Prop where
  issued : ∃ serial < client.issued, id = (serial + 1).repr
  gone : client.inFlight.awaits id = false
  entered : ∀ call ∈ client.calls, call.stage ≠ .underway (.numbered id)

theorem mem_or_stage_eq_of_mem_modify {calls : List Call} {number : Nat} {stage : CallStage}
    {call : Call} (member : call ∈ calls.modify number ({ · with stage })) :
    call ∈ calls ∨ call.stage = stage := by
  obtain ⟨place, found⟩ := List.mem_iff_getElem?.mp member
  rw [List.getElem?_modify] at found
  by_cases same : number = place
  · simp only [same, if_true, Option.map_eq_map, Option.map_eq_some_iff] at found
    obtain ⟨before, -, rfl⟩ := found
    exact .inr rfl
  · simp only [same, if_false, Option.map_eq_map, Option.map_id_fun', id_eq] at found
    exact .inl (List.mem_of_getElem? found)

section UsedUp

variable {client : Client} {id : String}

theorem awaits_letGo (client : Client) (ticket : Option Ticket) (id : String) :
    (client.letGo ticket).inFlight.awaits id = client.inFlight.awaits id := by
  unfold letGo InFlight.release
  dsimp only
  split
  · split <;> rfl
  · rfl

theorem IsUsedUp.of_modify (used : client.IsUsedUp id) {after : Client} {number : Nat}
    {stage : CallStage} (issued : client.issued ≤ after.issued)
    (calls : after.calls = client.calls.modify number ({ · with stage }))
    (other : stage ≠ .underway (.numbered id))
    (gone : after.inFlight.awaits id = client.inFlight.awaits id) : after.IsUsedUp id where
  issued := used.issued.imp fun _ ⟨earlier, same⟩ => ⟨Nat.lt_of_lt_of_le earlier issued, same⟩
  gone := gone.trans used.gone
  entered := by
    intro call member
    rw [calls] at member
    rcases mem_or_stage_eq_of_mem_modify member with earlier | same
    · exact used.entered call earlier
    · rwa [same]

theorem isUsedUp_advanced (used : client.IsUsedUp id) {number : Nat} {call : Call} {after : Client}
    (found : client.calls[number]? = some call) (advanced : Advanced client number call after) :
    after.IsUsedUp id := by
  cases advanced with
  | numbered bare early pacing =>
      refine used.of_modify (Nat.le_succ _) rfl ?_ rfl
      obtain ⟨serial, earlier, id_eq⟩ := used.issued
      rintro ⟨⟩
      exact repr_ne_next earlier id_eq.symm
  | registered other stage free =>
      refine used.of_modify (Nat.le_refl _) rfl (by simp) ?_
      have apart : id ≠ other := by
        rintro rfl
        exact used.entered call (List.mem_of_getElem? found) stage
      simp [InFlight.awaits_enter, apart]
  | withdrawn other handle since cause stage =>
      refine used.of_modify (Nat.le_refl _) rfl (by simp) ?_
      simp [Client.withdraw, InFlight.withdraw, InFlight.awaits_remove, used.gone]
  | began ready =>
      refine used.of_modify (Nat.le_refl _) rfl (fun same => ?_) rfl
      have held : client.outset.ticket? = some ⟨id, none⟩ := congrArg CallStage.ticket? same
      simp at held
  | _ => exact used.of_modify (Nat.le_refl _) rfl (by simp) rfl

theorem isUsedUp_move (used : client.IsUsedUp id) (move : Move) :
    (client.move move).IsUsedUp id := by
  have dissolved {after : Client} (used : after.IsUsedUp id) : after.dissolve.IsUsedUp id :=
    ⟨by simpa using used.issued, by simpa using used.gone, by simpa using used.entered⟩
  have moved := client.move_cases move
  generalize client.move move = after at moved
  cases moved with
  | advanced number call found ahead after advanced =>
      exact dissolved (isUsedUp_advanced used found advanced)
  | woke number call other handle since found waiting after woke =>
      refine dissolved ?_
      cases woke with
      | unchanged => exact used
      | _ => exact used.of_modify (Nat.le_refl _) rfl (by simp) rfl
  | dropped number call found holder active =>
      exact dissolved
        (used.of_modify (Nat.le_refl _) rfl (by simp) (client.awaits_letGo call.stage.ticket? id))
  | aside action moves =>
      have aside := client.aside_step action moves
      obtain ⟨fresh, ready, calls⟩ := aside.calls
      refine ⟨by simpa [aside.issued] using used.issued, ?_, fun call member => ?_⟩
      · have inFlight := aside.inFlight
        generalize client.response? action = response at inFlight
        cases response with
        | some response =>
            rw [show (client.step action).inFlight = _ from inFlight]
            simp [InFlight.answer, InFlight.awaits_remove, used.gone]
        | none =>
            obtain same | abandoned := inFlight
            · rw [same, used.gone]
            · rw [abandoned]
              rfl
      · rw [calls] at member
        rcases List.mem_append.mp member with earlier | latest
        · exact used.entered call earlier
        · simp [ready call latest]
  | still _ silent => exact dissolved used

theorem isUsedUp_weave (used : client.IsUsedUp id) (moves : List Move) :
    (client.weave moves).IsUsedUp id := by
  induction moves generalizing client with
  | nil => exact used
  | cons move rest induction => exact induction (isUsedUp_move used move)

end UsedUp

section Issuing

variable {client : Client} {number : Nat} {call : Call}

/-- The id of a call that is past its registration is used up once it is not pending. -/
theorem isUsedUp_of_holds (attributed : client.IsAttributed) {ticket : Ticket}
    (holds : Holds client.calls number call ticket)
    (gone : client.inFlight.awaits ticket.id = false)
    (entered : call.stage ≠ .underway (.numbered ticket.id)) : client.IsUsedUp ticket.id where
  issued := attributed.numbered holds
  gone := gone
  entered := by
    intro other member about
    obtain ⟨place, found⟩ := List.mem_iff_getElem?.mp member
    have other_holds : Holds client.calls place other ⟨ticket.id, none⟩ :=
      ⟨found, by rw [about]; rfl⟩
    obtain rfl := attributed.apart other_holds holds (.inl rfl)
    obtain rfl : other = call := Option.some.inj (found.symm.trans holds.1)
    exact entered about

end Issuing

end Client

end GatewayLink
