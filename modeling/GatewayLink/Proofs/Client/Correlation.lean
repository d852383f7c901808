import GatewayLink.Proofs.Call.Registration
import GatewayLink.Proofs.Client.Step

/-!
# Calls and the answers that they wait for

Every call that waits has a registration of its own, under an id that no other call was ever given,
and every pending request belongs to a call that waits for it.  So what happens to a call is decided
by the first thing that happens to its id while it is pending: a response with that id, or that all
requests are given up.
-/

namespace GatewayLink

/-- Whether a call in a stage waits for an answer. -/
def CallStage.isWaiting : CallStage → Bool
  | .waiting .. => true
  | _ => false

/-- A call waits on a handle for the answer to a request. -/
def Waits (calls : List Call) (number : Nat) (id : String) (handle : Handle) (method : String) :
    Prop :=
  ∃ call since, calls[number]? = some call ∧ call.stage = .waiting id handle since ∧
    call.method = method

namespace Waits

variable {calls : List Call} {number other : Nat} {id : String} {handle : Handle} {method : String}

/-- Calls that have not begun do not wait. -/
theorem append_iff {fresh : List Call} (ready : ∀ call ∈ fresh, call.stage = .ready) :
    Waits (calls ++ fresh) number id handle method ↔ Waits calls number id handle method := by
  constructor
  · rintro ⟨call, since, found, waiting, same⟩
    rcases Nat.lt_or_ge number calls.length with known | beyond
    · exact ⟨call, since, by rwa [List.getElem?_append_left known] at found, waiting, same⟩
    · rw [List.getElem?_append_right beyond] at found
      have begun := ready call (List.mem_of_getElem? found)
      rw [begun] at waiting
      cases waiting
  · rintro ⟨call, since, found, waiting, same⟩
    have known : number < calls.length := (List.getElem?_eq_some_iff.mp found).1
    exact ⟨call, since, by rwa [List.getElem?_append_left known], waiting, same⟩

theorem of_modify_ne {stage : CallStage} (apart : other ≠ number) :
    Waits (calls.modify number ({ · with stage })) other id handle method ↔
      Waits calls other id handle method := by
  have same : (calls.modify number ({ · with stage }))[other]? = calls[other]? := by
    simp [Ne.symm apart]
  simp only [Waits, same]

/-- A call that has moved on to a stage in which it does not wait waits no more; no other call is
touched. -/
theorem modify_iff {stage : CallStage} (settled : stage.isWaiting = false) :
    Waits (calls.modify number ({ · with stage })) other id handle method ↔
      other ≠ number ∧ Waits calls other id handle method := by
  by_cases apart : other = number
  · subst apart
    simp only [ne_eq, not_true_eq_false, false_and, iff_false]
    rintro ⟨call, since, found, waiting, -⟩
    simp only [List.getElem?_modify, if_true, Option.map_eq_map, Option.map_eq_some_iff] at found
    obtain ⟨before, -, rfl⟩ := found
    simp only at waiting
    rw [waiting] at settled
    cases settled
  · simp [of_modify_ne apart, apart]

/-- A call that was sent waits under its id. -/
theorem modify_waiting_iff {call : Call} {newId : String} {newHandle : Handle} {since : Nat}
    (found : calls[number]? = some call) :
    Waits (calls.modify number ({ · with stage := .waiting newId newHandle since })) other id handle
        method ↔
      (other = number ∧ id = newId ∧ handle = newHandle ∧ method = call.method) ∨
        (other ≠ number ∧ Waits calls other id handle method) := by
  by_cases apart : other = number
  · subst apart
    simp only [Waits, List.getElem?_modify, if_true, found, Option.map_eq_map, Option.map_some,
      Option.some.injEq, true_and, ne_eq, not_true_eq_false, false_and, or_false]
    constructor
    · rintro ⟨_, since, rfl, waiting, rfl⟩
      obtain ⟨rfl, rfl, rfl⟩ := CallStage.waiting.inj waiting
      exact ⟨rfl, rfl, rfl⟩
    · rintro ⟨rfl, rfl, rfl⟩
      exact ⟨_, since, rfl, rfl, rfl⟩
  · simp [of_modify_ne apart, apart]

theorem ne_of_ready {call : Call} (found : calls[number]? = some call) (ready : call.stage = .ready)
    (waits : Waits calls other id handle method) : other ≠ number := by
  rintro rfl
  obtain ⟨waiter, since, waiter_found, waiting, -⟩ := waits
  rw [found, Option.some.injEq] at waiter_found
  subst waiter_found
  rw [ready] at waiting
  cases waiting

theorem unique {otherId otherMethod : String} {otherHandle : Handle}
    (first : Waits calls number id handle method)
    (second : Waits calls number otherId otherHandle otherMethod) :
    id = otherId ∧ handle = otherHandle ∧ method = otherMethod := by
  obtain ⟨call, since, found, waiting, rfl⟩ := first
  obtain ⟨_, _, other_found, other_waiting, rfl⟩ := second
  rw [found, Option.some.injEq] at other_found
  subst other_found
  rw [waiting] at other_waiting
  obtain ⟨rfl, rfl, rfl⟩ := CallStage.waiting.inj other_waiting
  exact ⟨rfl, rfl, rfl⟩

end Waits

/-- Calls, the requests in flight and the ids that were issued agree. -/
structure Correlated (calls : List Call) (inFlight : InFlight) (issued : Nat) : Prop where
  registered : ∀ {number id handle method}, Waits calls number id handle method →
    inFlight.Registered id method handle
  numbered : ∀ {number id handle method}, Waits calls number id handle method →
    ∃ serial < issued, id = (serial + 1).repr
  apart : ∀ {first second id other handle method otherHandle otherMethod},
    Waits calls first id handle method → Waits calls second other otherHandle otherMethod →
    id = other ∨ handle = otherHandle → first = second
  waited : ∀ entry ∈ inFlight.pending,
    ∃ number, Waits calls number entry.id entry.handle entry.method

theorem repr_ne_next {serial issued : Nat} (earlier : serial < issued) :
    (serial + 1).repr ≠ (issued + 1).repr := by
  intro same
  have digits : Nat.toDigits 10 (serial + 1) = Nat.toDigits 10 (issued + 1) := by
    simpa [Nat.repr_eq_ofList_toDigits, String.ofList_inj] using same
  have equal := congrArg (Nat.ofDigitChars 10 · 0) digits
  simp only [Nat.ofDigitChars_toDigits (by decide : 1 < 10) (by decide : 10 ≤ 10)] at equal
  omega

namespace Correlated

variable {calls : List Call} {inFlight : InFlight} {issued : Nat} {number : Nat} {id : String}
  {handle : Handle} {method : String}

theorem new : Correlated [] .new 0 where
  registered := by rintro _ _ _ _ ⟨_, _, found, _⟩; simp at found
  numbered := by rintro _ _ _ _ ⟨_, _, found, _⟩; simp at found
  apart := by rintro _ _ _ _ _ _ _ _ ⟨_, _, found, _⟩; simp at found
  waited := by simp [InFlight.new]

theorem agree (correlated : Correlated calls inFlight issued) {first second : Nat}
    {other otherMethod : String} {otherHandle : Handle} (left : Waits calls first id handle method)
    (right : Waits calls second other otherHandle otherMethod)
    (same : id = other ∨ handle = otherHandle) :
    first = second ∧ id = other ∧ handle = otherHandle ∧ method = otherMethod := by
  obtain rfl := correlated.apart left right same
  exact ⟨rfl, left.unique right⟩

theorem handle_eq (correlated : Correlated calls inFlight issued)
    (waits : Waits calls number id handle method) {entry : Pending}
    (member : entry ∈ inFlight.pending) (same : entry.id = id) : entry.handle = handle := by
  obtain ⟨other, other_waits⟩ := correlated.waited entry member
  exact (correlated.agree other_waits waits (.inl same)).2.2.1

theorem id_eq (correlated : Correlated calls inFlight issued)
    (waits : Waits calls number id handle method) {entry : Pending}
    (member : entry ∈ inFlight.pending) (same : entry.handle = handle) : entry.id = id := by
  obtain ⟨other, other_waits⟩ := correlated.waited entry member
  exact (correlated.agree other_waits waits (.inr same)).2.1

/-- The next id has never been pending. -/
theorem next_free (correlated : Correlated calls inFlight issued) :
    inFlight.awaits (issued + 1).repr = false := by
  rw [Bool.eq_false_iff]
  intro awaited
  obtain ⟨entry, member, same⟩ := (inFlight.awaits_iff _).mp awaited
  obtain ⟨other, waits⟩ := correlated.waited entry member
  obtain ⟨serial, earlier, id_eq⟩ := correlated.numbered waits
  exact repr_ne_next earlier (id_eq.symm.trans same)

/-! ## Calls that begin -/

theorem append (correlated : Correlated calls inFlight issued) {fresh : List Call}
    (ready : ∀ call ∈ fresh, call.stage = .ready) :
    Correlated (calls ++ fresh) inFlight issued where
  registered := fun waits => correlated.registered ((Waits.append_iff ready).mp waits)
  numbered := fun waits => correlated.numbered ((Waits.append_iff ready).mp waits)
  apart := fun left right =>
    correlated.apart ((Waits.append_iff ready).mp left) ((Waits.append_iff ready).mp right)
  waited := fun entry member =>
    (correlated.waited entry member).imp fun _ => (Waits.append_iff ready).mpr

theorem refuse (correlated : Correlated calls inFlight issued) {call : Call}
    (found : calls[number]? = some call) (ready : call.stage = .ready) {stage : CallStage}
    (settled : stage.isWaiting = false) {later : Nat}
    (later_ge : issued ≤ later) :
    Correlated (calls.modify number ({ · with stage })) inFlight later where
  registered := fun waits => correlated.registered ((Waits.modify_iff settled).mp waits).2
  numbered := fun waits => by
    obtain ⟨serial, earlier, same⟩ := correlated.numbered ((Waits.modify_iff settled).mp waits).2
    exact ⟨serial, by omega, same⟩
  apart := fun left right => correlated.apart ((Waits.modify_iff settled).mp left).2
    ((Waits.modify_iff settled).mp right).2
  waited := fun entry member => by
    obtain ⟨other, waits⟩ := correlated.waited entry member
    exact ⟨other, (Waits.modify_iff settled).mpr ⟨waits.ne_of_ready found ready, waits⟩⟩

/-- A call that is sent waits on a new handle under the next id. -/
theorem send (correlated : Correlated calls inFlight issued) {call : Call}
    (found : calls[number]? = some call) (ready : call.stage = .ready) (since : Nat) :
    Correlated
      (calls.modify number
        ({ · with stage := .waiting (issued + 1).repr inFlight.cells.length since }))
      (inFlight.enter (issued + 1).repr call.method).2 (issued + 1) := by
  have free := correlated.next_free
  have sent_iff {other : Nat} {id method : String} {handle : Handle} :=
    @Waits.modify_waiting_iff calls number other id handle method call (issued + 1).repr
      inFlight.cells.length since found
  have id_ne {other : Nat} {id method : String} {handle : Handle}
      (waits : Waits calls other id handle method) : id ≠ (issued + 1).repr := by
    obtain ⟨serial, earlier, rfl⟩ := correlated.numbered waits
    exact repr_ne_next earlier
  have handle_ne {other : Nat} {id method : String} {handle : Handle}
      (waits : Waits calls other id handle method) : handle ≠ inFlight.cells.length :=
    Nat.ne_of_lt (correlated.registered waits).handle_lt
  refine ⟨?_, ?_, ?_, ?_⟩
  · intro other id handle method waits
    obtain ⟨rfl, rfl, rfl, rfl⟩ | ⟨-, waits⟩ := sent_iff.mp waits
    · exact .pending (by simp [InFlight.enter_eq free]) (by simp [InFlight.enter_eq free])
    · exact (correlated.registered waits).enter free (id_ne waits) call.method
  · intro other id handle method waits
    obtain ⟨rfl, rfl, rfl, rfl⟩ | ⟨-, waits⟩ := sent_iff.mp waits
    · exact ⟨issued, Nat.lt_succ_self _, rfl⟩
    · obtain ⟨serial, earlier, same⟩ := correlated.numbered waits
      exact ⟨serial, Nat.lt_succ_of_lt earlier, same⟩
  · intro first second id other handle method otherHandle otherMethod left right same
    obtain ⟨rfl, rfl, rfl, rfl⟩ | ⟨-, left_waits⟩ := sent_iff.mp left
    · obtain ⟨rfl, -⟩ | ⟨-, right_waits⟩ := sent_iff.mp right
      · rfl
      · rcases same with same | same
        · exact absurd same.symm (id_ne right_waits)
        · exact absurd same.symm (handle_ne right_waits)
    · obtain ⟨rfl, rfl, rfl, rfl⟩ | ⟨-, right_waits⟩ := sent_iff.mp right
      · rcases same with same | same
        · exact absurd same (id_ne left_waits)
        · exact absurd same (handle_ne left_waits)
      · exact correlated.apart left_waits right_waits same
  · intro entry member
    rw [InFlight.enter_eq free] at member
    rcases List.mem_append.mp member with earlier | latest
    · obtain ⟨other, waits⟩ := correlated.waited entry earlier
      exact ⟨other, sent_iff.mpr (.inr ⟨waits.ne_of_ready found ready, waits⟩)⟩
    · obtain rfl := List.mem_singleton.mp latest
      exact ⟨number, sent_iff.mpr (.inl ⟨rfl, rfl, rfl, rfl⟩)⟩

theorem pending_withdraw_enter (free : inFlight.awaits id = false) (method : String) :
    ((inFlight.enter id method).2.withdraw id).2.pending = inFlight.pending := by
  have kept : inFlight.pending.filter (·.id != id) = inFlight.pending := by
    refine List.filter_eq_self.mpr fun entry member => ?_
    simpa using InFlight.ne_of_free free member
  simp [InFlight.withdraw, InFlight.pending_remove, InFlight.enter_eq free, kept]

/-- A call whose request could not be sent returns; its id is not used again. -/
theorem unsend (correlated : Correlated calls inFlight issued) {call : Call}
    (found : calls[number]? = some call) (ready : call.stage = .ready) {stage : CallStage}
    (settled : stage.isWaiting = false) :
    Correlated (calls.modify number ({ · with stage }))
      ((inFlight.enter (issued + 1).repr call.method).2.withdraw (issued + 1).repr).2
      (issued + 1) := by
  have free := correlated.next_free
  have refused := correlated.refuse found ready settled (Nat.le_succ issued)
  refine ⟨?_, refused.numbered, refused.apart, ?_⟩
  · intro other id handle method waits
    have registered := refused.registered waits
    obtain ⟨serial, earlier, rfl⟩ :=
      correlated.numbered ((Waits.modify_iff settled).mp waits).2
    have apart := repr_ne_next earlier
    refine (registered.enter free apart call.method).remove_of_ne apart none ?_
    -- The entry that is withdrawn has the newest handle.
    intro entry member same
    rw [InFlight.enter_eq free] at member
    rcases List.mem_append.mp member with old | latest
    · exact absurd same (InFlight.ne_of_free free old)
    · obtain rfl := List.mem_singleton.mp latest
      exact Ne.symm (Nat.ne_of_lt registered.handle_lt)
  · intro entry member
    rw [pending_withdraw_enter free] at member
    exact refused.waited entry member

/-! ## Answers -/

/-- A response is handed to the call that waits for it. -/
theorem answer (correlated : Correlated calls inFlight issued) (response : Response) :
    Correlated calls (inFlight.answer response.id response).2 issued where
  registered := by
    intro number id handle method waits
    have registered := correlated.registered waits
    by_cases same : response.id = id
    · subst same
      exact registered.answer rfl fun _ => correlated.handle_eq waits
    · refine registered.remove_of_ne (Ne.symm same) (some response) ?_
      intro entry member entry_id same_handle
      exact same (entry_id.symm.trans (correlated.id_eq waits member same_handle))
  numbered := correlated.numbered
  apart := correlated.apart
  waited := by
    intro entry member
    rw [InFlight.answer, InFlight.pending_remove] at member
    exact correlated.waited entry (List.mem_filter.mp member).1

theorem abandonAll (correlated : Correlated calls inFlight issued) :
    Correlated calls inFlight.abandonAll.2 issued where
  registered := fun waits =>
    (correlated.registered waits).abandonAll fun _ => correlated.id_eq waits
  numbered := correlated.numbered
  apart := correlated.apart
  waited := by simp [InFlight.abandonAll]

/-! ## Calls that return -/

/-- A call whose registration is gone returns; it may close its own handle. -/
theorem settle (correlated : Correlated calls inFlight issued)
    (waits : Waits calls number id handle method) (gone : inFlight.awaits id = false)
    {stage : CallStage} (settled : stage.isWaiting = false)
    {cells : List Cell}
    (kept : ∀ other, other ≠ handle → cells[other]? = inFlight.cells[other]?) :
    Correlated (calls.modify number ({ · with stage })) { inFlight with cells } issued where
  registered := by
    intro other otherId otherHandle otherMethod other_waits
    obtain ⟨apart, other_waits⟩ := (Waits.modify_iff settled).mp other_waits
    refine (correlated.registered other_waits).of_cell rfl (kept otherHandle ?_)
    exact fun same => apart (correlated.apart other_waits waits (.inr same))
  numbered := fun other => correlated.numbered ((Waits.modify_iff settled).mp other).2
  apart := fun left right => correlated.apart ((Waits.modify_iff settled).mp left).2
    ((Waits.modify_iff settled).mp right).2
  waited := by
    intro entry member
    obtain ⟨other, other_waits⟩ := correlated.waited entry member
    refine ⟨other, (Waits.modify_iff settled).mpr ⟨?_, other_waits⟩⟩
    rintro rfl
    exact InFlight.ne_of_free gone member (other_waits.unique waits).1

end Correlated

namespace Client

variable {client : Client}

/-- The calls of a client agree with its requests in flight. -/
def IsCorrelated (client : Client) : Prop :=
  Correlated client.calls client.inFlight client.issued

/-! ## Steps -/

theorem isCorrelated_issued {number : Nat} {call : Call} {after : Client}
    (correlated : client.IsCorrelated) (found : client.calls[number]? = some call)
    (ready : call.stage = .ready) (issued : Issued client number call after) :
    after.IsCorrelated := by
  cases issued with
  | duplicate awaited => exact correlated.refuse found ready rfl (Nat.le_succ _)
  | sent free connection sends => exact correlated.send found ready client.clock.uptime
  | unsent free cause fails => exact correlated.unsend found ready rfl

theorem isCorrelated_start (correlated : client.IsCorrelated) (number : Nat) :
    (client.start number).IsCorrelated := by
  obtain ⟨call, found, ready, began⟩ | ⟨-, unchanged⟩ := client.start_cases number
  · generalize client.start number = after at began
    cases began with
    | lapsed => exact correlated.refuse found ready rfl (Nat.le_refl _)
    | overflowed => exact correlated.refuse found ready rfl (Nat.le_refl _)
    | refused => exact correlated.refuse found ready rfl (Nat.le_refl _)
    | issued pacing after issued =>
        exact @isCorrelated_issued { client with pacing } number call after correlated found ready
          issued
  · rw [unchanged]
    exact correlated

theorem isCorrelated_wake (correlated : client.IsCorrelated) (number : Nat) :
    (client.wake number).IsCorrelated := by
  obtain ⟨call, id, handle, since, found, waiting, woke⟩ | ⟨-, unchanged⟩ :=
    client.wake_cases number
  · have waits : Waits client.calls number id handle call.method :=
      ⟨call, since, found, waiting, rfl⟩
    have registered := correlated.registered waits
    generalize client.wake number = after at woke
    cases woke with
    | concluded response seen connection welcomed =>
        have gone := registered.gone_of_seen seen (by simp)
        exact correlated.settle waits gone rfl fun other apart => by
          rw [List.getElem?_set_ne (Ne.symm apart)]
    | abandoned seen =>
        have gone := registered.gone_of_seen seen (by simp)
        exact correlated.settle waits gone rfl fun _ _ => rfl
    | unchanged seen => exact correlated
  · rw [unchanged]
    exact correlated

theorem isCorrelated_of_aside {response : Option Response} {after : Client}
    (correlated : client.IsCorrelated) (aside : Aside response client after) :
    after.IsCorrelated := by
  obtain ⟨fresh, ready, calls⟩ := aside.calls
  have added := correlated.append ready
  unfold IsCorrelated
  rw [calls, aside.issued]
  have inFlight := aside.inFlight
  cases response with
  | some response =>
      rw [show after.inFlight = _ from inFlight]
      exact added.answer response
  | none =>
      obtain same | abandoned := inFlight
      · rw [same]
        exact added
      · rw [abandoned]
        exact added.abandonAll

theorem isCorrelated_step (correlated : client.IsCorrelated) (action : Action) :
    (client.step action).IsCorrelated := by
  have dissolved {other : Client} (held : other.IsCorrelated) : other.dissolve.IsCorrelated := by
    simpa [IsCorrelated] using held
  cases moves : action.movesCall with
  | false => exact isCorrelated_of_aside correlated (client.aside_step action moves)
  | true =>
      cases action with
      | start number => simpa using dissolved (isCorrelated_start correlated number)
      | wake number => simpa using dissolved (isCorrelated_wake correlated number)
      | _ => simp [Action.movesCall] at moves

theorem isCorrelated_run (settings : Settings) (limits : Limits) (wall : Timestamp)
    (actions : List Action) : ((new settings limits wall).run actions).IsCorrelated := by
  have kept (client : Client) (correlated : client.IsCorrelated) :
      (client.run actions).IsCorrelated := by
    induction actions generalizing client with
    | nil => exact correlated
    | cons action rest induction => exact induction _ (isCorrelated_step correlated action)
  exact kept _ Correlated.new

end Client

end GatewayLink
