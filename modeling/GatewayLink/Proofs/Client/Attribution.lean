import GatewayLink.Proofs.Client.Advancing
import GatewayLink.Proofs.Client.Correlation

/-!
# Whose a request is

While calls are interleaved every pending request is that of one call, which holds its id and its
handle: the call is on its way to wait for the answer, or waits, or was dropped.  No two calls hold
the same id or the same handle, at whatever step they are.
-/

namespace GatewayLink

/-- A call holds a ticket. -/
def Holds (calls : List Call) (number : Nat) (call : Call) (ticket : Ticket) : Prop :=
  calls[number]? = some call ∧ call.stage.ticket? = some ticket

namespace Holds

variable {calls : List Call} {number other : Nat} {call : Call} {ticket : Ticket}

theorem of_append {fresh : List Call} (ready : ∀ call ∈ fresh, call.stage = .ready)
    (holds : Holds (calls ++ fresh) number call ticket) : Holds calls number call ticket := by
  obtain ⟨found, held⟩ := holds
  rcases Nat.lt_or_ge number calls.length with known | beyond
  · exact ⟨by rwa [List.getElem?_append_left known] at found, held⟩
  · rw [List.getElem?_append_right beyond] at found
    rw [ready call (List.mem_of_getElem? found)] at held
    cases held

theorem append (holds : Holds calls number call ticket) (fresh : List Call) :
    Holds (calls ++ fresh) number call ticket := by
  obtain ⟨found, held⟩ := holds
  have known : number < calls.length := (List.getElem?_eq_some_iff.mp found).1
  exact ⟨by rwa [List.getElem?_append_left known], held⟩

theorem of_modify {stage : CallStage}
    (holds : Holds (calls.modify number ({ · with stage })) other call ticket) :
    (other = number ∧ stage.ticket? = some ticket ∧
        ∃ before, calls[number]? = some before ∧ call = { before with stage }) ∨
      (other ≠ number ∧ Holds calls other call ticket) := by
  obtain ⟨found, held⟩ := holds
  rw [List.getElem?_modify] at found
  by_cases same : number = other
  · subst same
    simp only [if_true, Option.map_eq_map, Option.map_eq_some_iff] at found
    obtain ⟨before, before_found, rfl⟩ := found
    exact .inl ⟨rfl, held, before, before_found, rfl⟩
  · simp only [same, if_false, Option.map_eq_map, Option.map_id_fun', id_eq] at found
    exact .inr ⟨Ne.symm same, found, held⟩

theorem modify (holds : Holds calls other call ticket) (apart : other ≠ number)
    (stage : CallStage) : Holds (calls.modify number ({ · with stage })) other call ticket :=
  ⟨by simpa [Ne.symm apart] using holds.1, holds.2⟩

end Holds

/-- How the registration of a call stands: as any registration while the call is under way, and
without a caller once it is dropped. -/
inductive Kept (inFlight : InFlight) (call : Call) (id : String) (handle : Handle) : Prop where
  | held (active : call.isActive = true) (registered : inFlight.Registered id call.method handle)
  | released (inactive : call.isActive = false)
      (cell : inFlight.cells[handle]? = some .released)

namespace Kept

variable {inFlight after : InFlight} {call : Call} {id other : String} {handle : Handle}

theorem handle_lt (kept : Kept inFlight call id handle) : handle < inFlight.cells.length := by
  cases kept with
  | held active registered => exact registered.handle_lt
  | released inactive cell => exact (List.getElem?_eq_some_iff.mp cell).1

theorem of_cell (kept : Kept inFlight call id handle) (pending : after.pending = inFlight.pending)
    (cell : after.cells[handle]? = inFlight.cells[handle]?) : Kept after call id handle := by
  cases kept with
  | held active registered => exact .held active (registered.of_cell pending cell)
  | released inactive released => exact .released inactive (cell.trans released)

theorem enter (kept : Kept inFlight call id handle) (free : inFlight.awaits other = false)
    (apart : id ≠ other) (method : String) :
    Kept (inFlight.enter other method).2 call id handle := by
  cases kept with
  | held active registered => exact .held active (registered.enter free apart method)
  | released inactive cell =>
      have known := (List.getElem?_eq_some_iff.mp cell).1
      refine .released inactive ?_
      rw [InFlight.enter_eq free, List.getElem?_append_left known, cell]

theorem cells_remove_of_released (released : inFlight.cells[handle]? = some .released)
    (removed : String) (answer : Option Response) :
    (inFlight.remove removed answer).2.cells[handle]? = some .released := by
  unfold InFlight.remove
  split
  · exact released
  · rename_i entry found
    dsimp only
    rw [List.getElem?_modify, released]
    split <;> rfl

theorem remove_of_ne (kept : Kept inFlight call id handle) (apart : id ≠ other)
    (answer : Option Response)
    (handles_apart : ∀ entry ∈ inFlight.pending, entry.id = other → entry.handle ≠ handle) :
    Kept (inFlight.remove other answer).2 call id handle := by
  cases kept with
  | held active registered =>
      exact .held active (registered.remove_of_ne apart answer handles_apart)
  | released inactive cell =>
      exact .released inactive (cells_remove_of_released cell other answer)

theorem answer (kept : Kept inFlight call id handle) {response : Response}
    (same_id : response.id = id)
    (only : ∀ entry ∈ inFlight.pending, entry.id = id → entry.handle = handle) :
    Kept (inFlight.answer response.id response).2 call id handle := by
  cases kept with
  | held active registered => exact .held active (registered.answer same_id only)
  | released inactive cell =>
      exact .released inactive (cells_remove_of_released cell response.id (some response))

theorem abandonAll (kept : Kept inFlight call id handle)
    (only : ∀ entry ∈ inFlight.pending, entry.handle = handle → entry.id = id) :
    Kept inFlight.abandonAll.2 call id handle := by
  cases kept with
  | held active registered => exact .held active (registered.abandonAll only)
  | released inactive cell =>
      refine .released inactive ?_
      rw [InFlight.abandonAll, InFlight.foldl_settle, cell]
      split <;> rfl

end Kept

/-- Calls, the requests in flight and the ids that were issued agree. -/
structure Attributed (calls : List Call) (inFlight : InFlight) (issued : Nat) : Prop where
  numbered : ∀ {number call ticket}, Holds calls number call ticket →
    ∃ serial < issued, ticket.id = (serial + 1).repr
  apart : ∀ {first second call other ticket otherTicket}, Holds calls first call ticket →
    Holds calls second other otherTicket →
    ticket.id = otherTicket.id ∨ (ticket.handle.isSome ∧ ticket.handle = otherTicket.handle) →
    first = second
  kept : ∀ {number call id handle}, Holds calls number call ⟨id, some handle⟩ →
    Kept inFlight call id handle
  owned : ∀ entry ∈ inFlight.pending, ∃ number call,
    Holds calls number call ⟨entry.id, some entry.handle⟩ ∧ call.method = entry.method

namespace Attributed

variable {calls : List Call} {inFlight : InFlight} {issued number : Nat} {call : Call}
  {id : String} {handle : Handle}

theorem new : Attributed [] .new 0 where
  numbered := by rintro _ _ _ ⟨found, -⟩; simp at found
  apart := by rintro _ _ _ _ _ _ ⟨found, -⟩; simp at found
  kept := by rintro _ _ _ _ ⟨found, -⟩; simp at found
  owned := by simp [InFlight.new]

/-- A pending request with the id or the handle of a call is that of the call. -/
theorem entry_eq (attributed : Attributed calls inFlight issued)
    (holds : Holds calls number call ⟨id, some handle⟩) {entry : Pending}
    (member : entry ∈ inFlight.pending) (same : entry.id = id ∨ entry.handle = handle) :
    entry = ⟨id, call.method, handle⟩ := by
  obtain ⟨owner, other, other_holds, method_eq⟩ := attributed.owned entry member
  have here : owner = number :=
    attributed.apart other_holds holds (same.imp_right fun equal => ⟨rfl, congrArg some equal⟩)
  subst here
  obtain rfl : other = call := Option.some.inj (other_holds.1.symm.trans holds.1)
  obtain ⟨entry_id, entry_method, entry_handle⟩ := entry
  have tickets := Option.some.inj (other_holds.2.symm.trans holds.2)
  simp only [Ticket.mk.injEq, Option.some.injEq] at tickets
  obtain ⟨rfl, rfl⟩ := tickets
  rw [method_eq]

theorem id_ne_of_ne (attributed : Attributed calls inFlight issued) {other : Nat}
    {otherCall : Call} {ticket otherTicket : Ticket} (holds : Holds calls number call ticket)
    (other_holds : Holds calls other otherCall otherTicket) (apart : other ≠ number) :
    otherTicket.id ≠ ticket.id :=
  fun same => apart (attributed.apart other_holds holds (.inl same))

/-- The id of a call that is not registered is not pending. -/
theorem free_of_unregistered (attributed : Attributed calls inFlight issued)
    (holds : Holds calls number call ⟨id, none⟩) : inFlight.awaits id = false := by
  rw [Bool.eq_false_iff]
  intro awaited
  obtain ⟨entry, member, same⟩ := (inFlight.awaits_iff id).mp awaited
  obtain ⟨owner, other, other_holds, -⟩ := attributed.owned entry member
  have here : owner = number := attributed.apart other_holds holds (.inl same)
  subst here
  obtain rfl : other = call := Option.some.inj (other_holds.1.symm.trans holds.1)
  have tickets := other_holds.2.symm.trans holds.2
  simp at tickets

/-! ## Steps of a call -/

/-- A call that holds nothing moves on, and may be given the next id. -/
theorem moveOn (attributed : Attributed calls inFlight issued) (found : calls[number]? = some call)
    (bare : call.stage.ticket? = none) {stage : CallStage} {later : Nat} (later_ge : issued ≤ later)
    (own : ∀ ticket, stage.ticket? = some ticket →
      ticket = ⟨(issued + 1).repr, none⟩ ∧ issued < later) :
    Attributed (calls.modify number ({ · with stage })) inFlight later := by
  have fresh {other : Nat} {otherCall : Call} {ticket : Ticket}
      (holds : Holds calls other otherCall ticket) : ticket.id ≠ (issued + 1).repr := by
    obtain ⟨serial, earlier, same⟩ := attributed.numbered holds
    rw [same]
    exact repr_ne_next earlier
  refine ⟨?_, ?_, ?_, ?_⟩
  · intro other otherCall ticket holds
    rcases holds.of_modify with ⟨rfl, held, -⟩ | ⟨-, holds⟩
    · obtain ⟨rfl, less⟩ := own ticket held
      exact ⟨issued, less, rfl⟩
    · obtain ⟨serial, earlier, same⟩ := attributed.numbered holds
      exact ⟨serial, by omega, same⟩
  · intro first second firstCall secondCall ticket otherTicket left right same
    rcases left.of_modify with ⟨rfl, left_held, -⟩ | ⟨-, left_holds⟩ <;>
      rcases right.of_modify with ⟨rfl, right_held, -⟩ | ⟨-, right_holds⟩
    · rfl
    · obtain ⟨rfl, -⟩ := own ticket left_held
      exact absurd (same.resolve_right (by simp)).symm (fresh right_holds)
    · obtain ⟨rfl, -⟩ := own otherTicket right_held
      rcases same with same | ⟨some_handle, same⟩
      · exact absurd same (fresh left_holds)
      · simp [same] at some_handle
    · exact attributed.apart left_holds right_holds same
  · intro other otherCall id handle holds
    rcases holds.of_modify with ⟨rfl, held, -⟩ | ⟨-, holds⟩
    · cases (own _ held).1
    · exact attributed.kept holds
  · intro entry member
    obtain ⟨owner, other, holds, method_eq⟩ := attributed.owned entry member
    refine ⟨owner, other, holds.modify ?_ stage, method_eq⟩
    rintro rfl
    obtain rfl : other = call := Option.some.inj (holds.1.symm.trans found)
    cases bare.symm.trans holds.2

/-- A call that holds a ticket moves on with the same id or with nothing, and no other call is
touched. -/
theorem change (attributed : Attributed calls inFlight issued) {ticket : Ticket}
    (holds : Holds calls number call ticket) {stage : CallStage} {after : InFlight}
    (own : ∀ next, stage.ticket? = some next → next.id = ticket.id ∧
      ∀ handle, next.handle = some handle → Kept after { call with stage } ticket.id handle ∧
        (next.handle = ticket.handle ∨ inFlight.cells.length ≤ handle))
    (others : ∀ {other otherCall id handle}, other ≠ number →
      Holds calls other otherCall ⟨id, some handle⟩ → Kept after otherCall id handle)
    (owned : ∀ entry ∈ after.pending, (entry ∈ inFlight.pending ∧ entry.id ≠ ticket.id) ∨
      (stage.ticket? = some ⟨entry.id, some entry.handle⟩ ∧ call.method = entry.method)) :
    Attributed (calls.modify number ({ · with stage })) after issued := by
  have meets {other : Nat} {otherCall : Call} {next otherTicket : Ticket}
      (held : stage.ticket? = some next) (other_holds : Holds calls other otherCall otherTicket)
      (same : next.id = otherTicket.id ∨ (next.handle.isSome ∧ next.handle = otherTicket.handle)) :
      number = other := by
    obtain ⟨same_id, handles⟩ := own next held
    rcases same with same | ⟨some_handle, same⟩
    · exact attributed.apart holds other_holds (.inl (same_id.symm.trans same))
    · obtain ⟨handle, next_handle⟩ := Option.isSome_iff_exists.mp some_handle
      rcases (handles handle next_handle).2 with as_before | beyond
      · exact attributed.apart holds other_holds
          (.inr ⟨by rw [← as_before, next_handle]; rfl, as_before.symm.trans same⟩)
      · obtain ⟨other_id, other_handle⟩ := otherTicket
        obtain rfl : other_handle = some handle := same.symm.trans next_handle
        exact absurd beyond (Nat.not_le_of_lt (attributed.kept other_holds).handle_lt)
  refine ⟨?_, ?_, ?_, ?_⟩
  · intro other otherCall next holds_after
    rcases holds_after.of_modify with ⟨rfl, held, -⟩ | ⟨-, other_holds⟩
    · rw [(own next held).1]
      exact attributed.numbered holds
    · exact attributed.numbered other_holds
  · intro first second firstCall secondCall left_ticket right_ticket left right same
    rcases left.of_modify with ⟨rfl, left_held, -⟩ | ⟨-, left_holds⟩ <;>
      rcases right.of_modify with ⟨rfl, right_held, -⟩ | ⟨-, right_holds⟩
    · rfl
    · exact meets left_held right_holds same
    · refine (meets right_held left_holds ?_).symm
      exact same.imp Eq.symm fun ⟨some_handle, same⟩ => ⟨same ▸ some_handle, same.symm⟩
    · exact attributed.apart left_holds right_holds same
  · intro other otherCall id handle holds_after
    rcases holds_after.of_modify with ⟨rfl, held, before, before_found, rfl⟩ |
      ⟨apart, other_holds⟩
    · obtain rfl : before = call := Option.some.inj (before_found.symm.trans holds.1)
      obtain ⟨rfl, handles⟩ := own _ held
      exact (handles handle rfl).1
    · exact others apart other_holds
  · intro entry member
    rcases owned entry member with ⟨earlier, apart⟩ | ⟨held, method_eq⟩
    · obtain ⟨owner, other, other_holds, method_eq⟩ := attributed.owned entry earlier
      refine ⟨owner, other, other_holds.modify ?_ stage, method_eq⟩
      rintro rfl
      obtain rfl : other = call := Option.some.inj (other_holds.1.symm.trans holds.1)
      exact apart (congrArg Ticket.id (Option.some.inj (other_holds.2.symm.trans holds.2)))
    · exact ⟨number, { call with stage }, ⟨by simp [holds.1], held⟩, method_eq⟩

section Change

variable (attributed : Attributed calls inFlight issued)

include attributed

/-- A call goes on with what it holds. -/
theorem goOn (holds : Holds calls number call ⟨id, some handle⟩) {stage : CallStage}
    (active : call.isActive = true) (still : ({ call with stage } : Call).isActive = true)
    (same : stage.ticket? = some ⟨id, some handle⟩) :
    Attributed (calls.modify number ({ · with stage })) inFlight issued := by
  refine attributed.change holds ?_ (fun _ other_holds => attributed.kept other_holds) ?_
  · rintro next held
    obtain rfl := Option.some.inj (held.symm.trans same)
    refine ⟨rfl, fun _ next_handle => ?_⟩
    obtain rfl := Option.some.inj next_handle
    cases attributed.kept holds with
    | held _ registered => exact ⟨.held still registered, .inl rfl⟩
    | released inactive _ => simp [active] at inactive
  · intro entry member
    by_cases own : entry.id = id
    · obtain rfl := attributed.entry_eq holds member (.inl own)
      exact .inr ⟨same, rfl⟩
    · exact .inl ⟨member, own⟩

theorem leave (holds : Holds calls number call ⟨id, none⟩) {stage : CallStage}
    (settled : stage.ticket? = none) :
    Attributed (calls.modify number ({ · with stage })) inFlight issued := by
  have free := attributed.free_of_unregistered holds
  exact attributed.change holds (by simp [settled])
    (fun _ other_holds => attributed.kept other_holds)
    fun entry member => .inl ⟨member, InFlight.ne_of_free free member⟩

/-- A call registers its request under its id. -/
theorem register (holds : Holds calls number call ⟨id, none⟩)
    (free : inFlight.awaits id = false) :
    Attributed
      (calls.modify number
        ({ · with stage := .underway (.registered id inFlight.cells.length) }))
      (inFlight.enter id call.method).2 issued := by
  refine attributed.change holds ?_ ?_ ?_
  · rintro next held
    obtain rfl := Option.some.inj held
    refine ⟨rfl, fun _ next_handle => ?_⟩
    obtain rfl := Option.some.inj next_handle
    refine ⟨.held rfl (.pending ?_ ?_), .inr (Nat.le_refl _)⟩ <;> simp [InFlight.enter_eq free]
  · intro other otherCall otherId otherHandle apart other_holds
    exact (attributed.kept other_holds).enter free
      (attributed.id_ne_of_ne holds other_holds apart) call.method
  · intro entry member
    rw [InFlight.enter_eq free] at member
    rcases List.mem_append.mp member with earlier | latest
    · exact .inl ⟨earlier, InFlight.ne_of_free free earlier⟩
    · obtain rfl := List.mem_singleton.mp latest
      exact .inr ⟨rfl, rfl⟩

/-- A call withdraws its request. -/
theorem withdraw (holds : Holds calls number call ⟨id, some handle⟩) (since : Nat)
    (cause : TransportError) :
    Attributed (calls.modify number ({ · with stage := .underway (.withdrawn id since cause) }))
      (inFlight.withdraw id).2 issued := by
  refine attributed.change holds ?_ ?_ ?_
  · rintro next held
    obtain rfl := Option.some.inj held
    exact ⟨rfl, by simp⟩
  · intro other otherCall otherId otherHandle apart other_holds
    have id_ne := attributed.id_ne_of_ne holds other_holds apart
    refine (attributed.kept other_holds).remove_of_ne id_ne none
      fun entry member same_id same_handle => id_ne ?_
    have same_entry := attributed.entry_eq other_holds member (.inr same_handle)
    exact (congrArg Pending.id same_entry).symm.trans same_id
  · intro entry member
    rw [InFlight.withdraw, InFlight.pending_remove] at member
    obtain ⟨earlier, apart⟩ := List.mem_filter.mp member
    exact .inl ⟨earlier, by simpa using apart⟩

theorem settle (holds : Holds calls number call ⟨id, some handle⟩)
    (gone : inFlight.awaits id = false) {stage : CallStage} (settled : stage.ticket? = none)
    {cells : List Cell}
    (same_cells : ∀ other, other ≠ handle → cells[other]? = inFlight.cells[other]?) :
    Attributed (calls.modify number ({ · with stage })) { inFlight with cells } issued := by
  refine attributed.change holds (by simp [settled]) ?_ ?_
  · intro other otherCall otherId otherHandle apart other_holds
    refine (attributed.kept other_holds).of_cell rfl (same_cells otherHandle ?_)
    rintro rfl
    exact apart (attributed.apart other_holds holds (.inr ⟨rfl, rfl⟩))
  · exact fun entry member => .inl ⟨member, InFlight.ne_of_free gone member⟩

/-- A call is dropped, and its handle is released. -/
theorem drop (holds : Holds calls number call ⟨id, some handle⟩) :
    Attributed
      (calls.modify number ({ · with stage := .dropped (some ⟨id, some handle⟩) }))
      (inFlight.release handle).2 issued := by
  have others {other : Nat} {otherCall : Call} {otherId : String} {otherHandle : Handle}
      (apart : other ≠ number)
      (other_holds : Holds calls other otherCall ⟨otherId, some otherHandle⟩) :
      (inFlight.release handle).2.cells[otherHandle]? = inFlight.cells[otherHandle]? := by
    have handle_ne : handle ≠ otherHandle := by
      rintro rfl
      exact apart (attributed.apart other_holds holds (.inr ⟨rfl, rfl⟩))
    unfold InFlight.release
    split
    · rfl
    · exact List.getElem?_set_ne handle_ne
  have pending : (inFlight.release handle).2.pending = inFlight.pending := by
    unfold InFlight.release
    split <;> rfl
  have released : (inFlight.release handle).2.cells[handle]? = some .released := by
    have known := (attributed.kept holds).handle_lt
    unfold InFlight.release InFlight.glance?
    cases seen : inFlight.cells[handle]? with
    | none => exact absurd (List.getElem?_eq_none_iff.mp seen) (Nat.not_le_of_lt known)
    | some cell =>
        cases cell with
        | released => exact seen
        | _ => exact List.getElem?_set_self known
  refine attributed.change holds ?_ ?_ ?_
  · rintro next held
    obtain rfl := Option.some.inj held
    refine ⟨rfl, fun _ next_handle => ?_⟩
    obtain rfl := Option.some.inj next_handle
    exact ⟨.released rfl released, .inl rfl⟩
  · exact fun apart other_holds =>
      (attributed.kept other_holds).of_cell pending (others apart other_holds)
  · intro entry member
    rw [pending] at member
    by_cases own : entry.id = id
    · obtain rfl := attributed.entry_eq holds member (.inl own)
      exact .inr ⟨rfl, rfl⟩
    · exact .inl ⟨member, own⟩

/-! ## Everything else -/

theorem append {fresh : List Call} (ready : ∀ call ∈ fresh, call.stage = .ready) :
    Attributed (calls ++ fresh) inFlight issued where
  numbered := fun holds => attributed.numbered (holds.of_append ready)
  apart := fun left right =>
    attributed.apart (left.of_append ready) (right.of_append ready)
  kept := fun holds => attributed.kept (holds.of_append ready)
  owned := fun entry member => by
    obtain ⟨owner, other, holds, method_eq⟩ := attributed.owned entry member
    exact ⟨owner, other, holds.append fresh, method_eq⟩

/-- A response is handed to the call that waits for it. -/
theorem answer (response : Response) :
    Attributed calls (inFlight.answer response.id response).2 issued where
  numbered := attributed.numbered
  apart := attributed.apart
  kept := by
    intro other otherCall id handle holds
    by_cases same : response.id = id
    · subst same
      refine (attributed.kept holds).answer rfl fun entry member entry_id => ?_
      exact congrArg Pending.handle (attributed.entry_eq holds member (.inl entry_id))
    · refine (attributed.kept holds).remove_of_ne (Ne.symm same) (some response)
        fun entry member entry_id entry_handle => same ?_
      exact entry_id.symm.trans
        (congrArg Pending.id (attributed.entry_eq holds member (.inr entry_handle)))
  owned := by
    intro entry member
    rw [InFlight.answer, InFlight.pending_remove] at member
    exact attributed.owned entry (List.mem_filter.mp member).1

theorem abandonAll : Attributed calls inFlight.abandonAll.2 issued where
  numbered := attributed.numbered
  apart := attributed.apart
  kept := fun holds => (attributed.kept holds).abandonAll fun _ member same =>
    congrArg Pending.id (attributed.entry_eq holds member (.inr same))
  owned := by simp [InFlight.abandonAll]

end Change

end Attributed

namespace Client

variable {client : Client}

/-- The calls of a client agree with its requests in flight. -/
def IsAttributed (client : Client) : Prop :=
  Attributed client.calls client.inFlight client.issued

theorem isAttributed_advanced {number : Nat} {call : Call} {after : Client}
    (attributed : client.IsAttributed) (found : client.calls[number]? = some call)
    (ahead : call.stage.goesOn = true) (advanced : Advanced client number call after) :
    after.IsAttributed := by
  have active : call.isActive = true := by
    cases stage : call.stage <;> simp_all [CallStage.goesOn, Call.isActive]
  cases advanced with
  | lapsed generation caller ready late =>
      exact attributed.moveOn found (by rw [ready]; rfl) (Nat.le_refl _)
        (by simp [CallStage.ticket?])
  | began ready =>
      exact attributed.moveOn found (by rw [ready]; rfl) (Nat.le_refl _)
        (by simp [CallStage.ticket?])
  | numbered bare early pacing =>
      refine attributed.moveOn found bare (Nat.le_succ _) fun ticket held => ?_
      obtain rfl := Option.some.inj held
      exact ⟨rfl, Nat.lt_succ_self _⟩
  | overflowed bare =>
      exact attributed.moveOn found bare (Nat.le_refl _) (by simp [CallStage.ticket?])
  | heldBack bare early gap remaining =>
      exact attributed.moveOn found bare (Nat.le_refl _)
        (by simp [CallStage.ticket?, Progress.ticket?])
  | refused bare cause status duration text severity own =>
      exact attributed.moveOn found bare (Nat.le_refl _) (by simp [CallStage.ticket?])
  | duplicate id stage awaited => exact attributed.leave ⟨found, by rw [stage]; rfl⟩ rfl
  | registered id stage free => exact attributed.register ⟨found, by rw [stage]; rfl⟩ free
  | recorded id handle stage =>
      exact attributed.goOn ⟨found, by rw [stage]; rfl⟩ active rfl rfl
  | sent id handle since stage connection sends =>
      exact attributed.goOn ⟨found, by rw [stage]; rfl⟩ active rfl rfl
  | unsent id handle since stage cause fails =>
      exact attributed.goOn ⟨found, by rw [stage]; rfl⟩ active rfl rfl
  | withdrawn id handle since cause stage =>
      exact attributed.withdraw ⟨found, by rw [stage]; rfl⟩ since cause
  | failed id since cause stage => exact attributed.leave ⟨found, by rw [stage]; rfl⟩ rfl

theorem isAttributed_woke {number : Nat} {call : Call} {id : String} {handle : Handle}
    {since : Nat} {after : Client} (attributed : client.IsAttributed)
    (found : client.calls[number]? = some call) (waiting : call.stage = .waiting id handle since)
    (woke : Woke client number call id handle since after) : after.IsAttributed := by
  have holds : Holds client.calls number call ⟨id, some handle⟩ := ⟨found, by rw [waiting]; rfl⟩
  have gone {cell : Cell} (seen : client.inFlight.cells[handle]? = some cell)
      (shown : cell ≠ .waiting) : client.inFlight.awaits id = false := by
    cases attributed.kept holds with
    | held active registered => exact registered.gone_of_seen seen shown
    | released inactive cell => simp [Call.isActive, waiting] at inactive
  cases woke with
  | concluded response seen connection welcomed =>
      exact attributed.settle holds (gone seen (by simp)) rfl fun other apart => by
        rw [List.getElem?_set_ne (Ne.symm apart)]
  | abandoned seen => exact attributed.settle holds (gone seen (by simp)) rfl fun _ _ => rfl
  | unchanged seen => exact attributed

theorem isAttributed_dropped {number : Nat} {call : Call} (attributed : client.IsAttributed)
    (found : client.calls[number]? = some call) :
    ((client.letGo call.stage.ticket?).setStage number
      (.dropped call.stage.ticket?)).IsAttributed := by
  cases held : call.stage.ticket? with
  | none => exact attributed.moveOn found held (Nat.le_refl _) (by simp [CallStage.ticket?])
  | some ticket =>
      obtain ⟨id, handle⟩ := ticket
      cases handle with
      | some handle => exact attributed.drop ⟨found, held⟩
      | none =>
          have free := attributed.free_of_unregistered ⟨found, held⟩
          refine attributed.change ⟨found, held⟩ ?_ (fun _ holds => attributed.kept holds)
            fun entry member => .inl ⟨member, InFlight.ne_of_free free member⟩
          rintro next same
          obtain rfl := Option.some.inj same
          exact ⟨rfl, by simp⟩

theorem isAttributed_of_aside {response : Option Response} {after : Client}
    (attributed : client.IsAttributed) (aside : Aside response client after) :
    after.IsAttributed := by
  obtain ⟨fresh, ready, calls⟩ := aside.calls
  have added := attributed.append ready
  unfold IsAttributed
  rw [calls, aside.issued]
  have inFlight := aside.inFlight
  cases response with
  | some response =>
      rw [show after.inFlight = _ from inFlight]
      exact added.answer response
  | none =>
      obtain same | abandoned := inFlight
      · rw [same]
        exact added
      · rw [abandoned]
        exact added.abandonAll

theorem isAttributed_move (attributed : client.IsAttributed) (move : Move) :
    (client.move move).IsAttributed := by
  have dissolved {other : Client} (held : other.IsAttributed) : other.dissolve.IsAttributed := by
    simpa [IsAttributed] using held
  have moved := client.move_cases move
  generalize client.move move = after at moved
  cases moved with
  | advanced number call found ahead after advanced =>
      exact dissolved (isAttributed_advanced attributed found ahead advanced)
  | woke number call id handle since found waiting after woke =>
      exact dissolved (isAttributed_woke attributed found waiting woke)
  | dropped number call found holder active =>
      exact dissolved (isAttributed_dropped attributed found)
  | aside action others => exact isAttributed_of_aside attributed (client.aside_step action others)
  | still _ silent => exact dissolved attributed

theorem IsAttributed.weave (attributed : client.IsAttributed) (moves : List Move) :
    (client.weave moves).IsAttributed := by
  induction moves generalizing client with
  | nil => exact attributed
  | cons move rest induction => exact induction (isAttributed_move attributed move)

end Client

end GatewayLink
