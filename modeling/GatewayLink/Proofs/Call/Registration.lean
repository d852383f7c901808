import GatewayLink.Call.InFlight

/-!
# Registrations and their handles

A registration ties an id to a handle.  Each operation on the requests in flight is described by
what it does to the pending entries and to the handles.  A registration that was made stands in one
of three ways: it is pending and its handle waits, or it is gone and its handle holds the answer,
or it is gone without an answer.
-/

namespace GatewayLink

namespace InFlight

variable {inFlight : InFlight} {id method : String} {handle : Handle}

/-! ## What the operations do -/

theorem awaits_of_mem {entry : Pending} (member : entry ∈ inFlight.pending) :
    inFlight.awaits entry.id = true :=
  (inFlight.awaits_iff entry.id).mpr ⟨entry, member, rfl⟩

theorem ne_of_free (free : inFlight.awaits id = false) {entry : Pending}
    (member : entry ∈ inFlight.pending) : entry.id ≠ id := by
  rintro rfl
  simp [awaits_of_mem member] at free

theorem enter_eq (free : inFlight.awaits id = false) (method : String) :
    inFlight.enter id method =
      (.ok inFlight.cells.length,
        { pending := inFlight.pending ++ [⟨id, method, inFlight.cells.length⟩]
          cells := inFlight.cells ++ [.waiting] }) := by
  simp [enter, free]

theorem pending_remove (inFlight : InFlight) (id : String) (answer : Option Response) :
    (inFlight.remove id answer).2.pending = inFlight.pending.filter (·.id != id) := by
  cases found : inFlight.find? id with
  | none =>
      simp only [remove, found]
      refine (List.filter_eq_self.mpr ?_).symm
      intro entry member
      simpa using List.find?_eq_none.mp found entry member
  | some entry => simp [remove, found]

theorem cells_remove_of_ne (answer : Option Response)
    (apart : ∀ entry ∈ inFlight.pending, entry.id = id → entry.handle ≠ handle) :
    (inFlight.remove id answer).2.cells[handle]? = inFlight.cells[handle]? := by
  cases found : inFlight.find? id with
  | none => simp [remove, found]
  | some entry =>
      have member : entry ∈ inFlight.pending := List.mem_of_find?_eq_some found
      have same_id : entry.id = id := by simpa using List.find?_some found
      have other : entry.handle ≠ handle := apart entry member same_id
      simp [remove, found, other]

/-- The handle of the only entry under an id is settled. -/
theorem cells_remove (answer : Option Response)
    (member : ⟨id, method, handle⟩ ∈ inFlight.pending)
    (only : ∀ entry ∈ inFlight.pending, entry.id = id → entry.handle = handle) :
    (inFlight.remove id answer).2.cells[handle]? =
      inFlight.cells[handle]?.map (Cell.settle answer) := by
  cases found : inFlight.find? id with
  | none =>
      have absent := List.find?_eq_none.mp found ⟨id, method, handle⟩ member
      simp at absent
  | some entry =>
      have entry_member : entry ∈ inFlight.pending := List.mem_of_find?_eq_some found
      have same_id : entry.id = id := by simpa using List.find?_some found
      have same_handle : entry.handle = handle := only entry entry_member same_id
      simp [remove, found, same_handle]

@[simp] theorem pending_abandonAll (inFlight : InFlight) :
    inFlight.abandonAll.2.pending = [] := rfl

theorem settle_settle (cell : Cell) :
    Cell.settle none (Cell.settle none cell) = Cell.settle none cell := by
  cases cell <;> rfl

theorem foldl_settle (entries : List Pending) (cells : List Cell) :
    (entries.foldl (fun cells entry => cells.modify entry.handle (Cell.settle none))
        cells)[handle]? =
      if ∃ entry ∈ entries, entry.handle = handle then cells[handle]?.map (Cell.settle none)
      else cells[handle]? := by
  induction entries generalizing cells with
  | nil => simp
  | cons first rest induction =>
      rw [List.foldl_cons, induction]
      by_cases here : first.handle = handle
      · by_cases later : ∃ entry ∈ rest, entry.handle = handle
        · simp only [here, later, List.mem_cons, exists_eq_or_imp, true_or, if_true,
            List.getElem?_modify]
          cases cells[handle]? with
          | none => rfl
          | some cell => exact congrArg some (settle_settle cell)
        · simp [here, later]
      · simp [here]

theorem cells_abandonAll {entry : Pending} (member : entry ∈ inFlight.pending) :
    inFlight.abandonAll.2.cells[entry.handle]? =
      inFlight.cells[entry.handle]?.map (Cell.settle none) := by
  rw [abandonAll, foldl_settle, if_pos ⟨entry, member, rfl⟩]

theorem cells_abandonAll_of_ne (apart : ∀ entry ∈ inFlight.pending, entry.handle ≠ handle) :
    inFlight.abandonAll.2.cells[handle]? = inFlight.cells[handle]? := by
  rw [abandonAll, foldl_settle, if_neg]
  rintro ⟨entry, member, same⟩
  exact apart entry member same

/-! ## How a registration stands -/

/-- How the registration of an id under a handle stands. -/
inductive Registered (inFlight : InFlight) (id method : String) (handle : Handle) : Prop where
  | pending (member : ⟨id, method, handle⟩ ∈ inFlight.pending)
      (cell : inFlight.cells[handle]? = some .waiting)
  | answered (response : Response) (same_id : response.id = id)
      (gone : inFlight.awaits id = false) (cell : inFlight.cells[handle]? = some (.answered response))
  | closed (gone : inFlight.awaits id = false) (cell : inFlight.cells[handle]? = some .closed)

namespace Registered

theorem handle_lt (registered : inFlight.Registered id method handle) :
    handle < inFlight.cells.length := by
  rcases registered with ⟨_, cell⟩ | ⟨_, _, _, cell⟩ | ⟨_, cell⟩ <;>
    exact (List.getElem?_eq_some_iff.mp cell).1

theorem awaits_iff (registered : inFlight.Registered id method handle) :
    inFlight.awaits id = true ↔ inFlight.glance? handle = some .waiting := by
  rcases registered with ⟨member, cell⟩ | ⟨response, _, gone, cell⟩ | ⟨gone, cell⟩
  · simp [awaits_of_mem member, glance?, cell]
  · simp [gone, glance?, cell]
  · simp [gone, glance?, cell]

theorem glance_isSome (registered : inFlight.Registered id method handle) :
    (inFlight.glance? handle).isSome := by
  rcases registered with ⟨_, cell⟩ | ⟨_, _, _, cell⟩ | ⟨_, cell⟩ <;> simp [glance?, cell]

theorem gone_of_seen (registered : inFlight.Registered id method handle) {cell : Cell}
    (seen : inFlight.cells[handle]? = some cell) (shown : cell ≠ .waiting) :
    inFlight.awaits id = false := by
  rcases registered with ⟨-, waiting⟩ | ⟨-, -, gone, -⟩ | ⟨gone, -⟩
  · exact absurd (Option.some.inj (seen.symm.trans waiting)) shown
  · exact gone
  · exact gone

theorem mem_pending (registered : inFlight.Registered id method handle)
    (waits : inFlight.awaits id = true) : ⟨id, method, handle⟩ ∈ inFlight.pending := by
  rcases registered with ⟨member, _⟩ | ⟨_, _, gone, _⟩ | ⟨gone, _⟩
  · exact member
  · rw [gone] at waits
    exact absurd waits (by decide)
  · rw [gone] at waits
    exact absurd waits (by decide)

theorem of_cell (registered : inFlight.Registered id method handle) {after : InFlight}
    (pending : after.pending = inFlight.pending)
    (kept : after.cells[handle]? = inFlight.cells[handle]?) :
    after.Registered id method handle := by
  have awaited : after.awaits id = inFlight.awaits id := by
    simp [awaits, find?, pending]
  rcases registered with ⟨member, cell⟩ | ⟨response, same_id, gone, cell⟩ | ⟨gone, cell⟩
  · exact .pending (pending ▸ member) (kept.trans cell)
  · exact .answered response same_id (awaited.trans gone) (kept.trans cell)
  · exact .closed (awaited.trans gone) (kept.trans cell)

/-- The registration of another id does not touch it. -/
theorem enter (registered : inFlight.Registered id method handle) {other : String}
    (free : inFlight.awaits other = false) (apart : id ≠ other) (otherMethod : String) :
    (inFlight.enter other otherMethod).2.Registered id method handle := by
  have known := registered.handle_lt
  have kept : (inFlight.enter other otherMethod).2.cells[handle]? = inFlight.cells[handle]? := by
    simp [enter_eq free, List.getElem?_append_left known]
  have awaited :
      (inFlight.enter other otherMethod).2.awaits id = inFlight.awaits id := by
    simp [awaits_enter, apart]
  rcases registered with ⟨member, cell⟩ | ⟨response, same_id, gone, cell⟩ | ⟨gone, cell⟩
  · exact .pending (by simp [enter_eq free, member]) (kept.trans cell)
  · exact .answered response same_id (awaited.trans gone) (kept.trans cell)
  · exact .closed (awaited.trans gone) (kept.trans cell)

/-- The removal of another id does not touch it. -/
theorem remove_of_ne (registered : inFlight.Registered id method handle) {other : String}
    (apart : id ≠ other) (answer : Option Response)
    (handles_apart : ∀ entry ∈ inFlight.pending, entry.id = other → entry.handle ≠ handle) :
    (inFlight.remove other answer).2.Registered id method handle := by
  have kept := cells_remove_of_ne answer handles_apart
  have awaited : (inFlight.remove other answer).2.awaits id = inFlight.awaits id := by
    simp [awaits_remove, apart]
  rcases registered with ⟨member, cell⟩ | ⟨response, same_id, gone, cell⟩ | ⟨gone, cell⟩
  · refine .pending ?_ (kept.trans cell)
    rw [pending_remove]
    simp [member, apart]
  · exact .answered response same_id (awaited.trans gone) (kept.trans cell)
  · exact .closed (awaited.trans gone) (kept.trans cell)

/-- An answer that comes while the registration is pending is held by its handle; one that comes
later changes nothing. -/
theorem answer (registered : inFlight.Registered id method handle) {response : Response}
    (same_id : response.id = id)
    (only : ∀ entry ∈ inFlight.pending, entry.id = id → entry.handle = handle) :
    (inFlight.answer response.id response).2.Registered id method handle := by
  subst same_id
  have gone : (inFlight.answer response.id response).2.awaits response.id = false := by
    simp [InFlight.answer, awaits_remove]
  rcases registered with ⟨member, cell⟩ | ⟨earlier, earlier_id, absent, cell⟩ | ⟨absent, cell⟩
  · refine .answered response rfl gone ?_
    rw [InFlight.answer, cells_remove _ member only, cell]
    rfl
  all_goals
    have unchanged : (inFlight.answer response.id response).2 = inFlight := by
      have none_found : inFlight.find? response.id = none := by
        simpa [awaits] using absent
      simp [InFlight.answer, remove, none_found]
    rw [unchanged]
  · exact .answered earlier earlier_id absent cell
  · exact .closed absent cell

/-- After all requests were given up the registration is gone; its handle keeps an answer that had
come before. -/
theorem abandonAll (registered : inFlight.Registered id method handle)
    (only : ∀ entry ∈ inFlight.pending, entry.handle = handle → entry.id = id) :
    inFlight.abandonAll.2.Registered id method handle := by
  have gone : inFlight.abandonAll.2.awaits id = false := rfl
  rcases registered with ⟨member, cell⟩ | ⟨response, same_id, absent, cell⟩ | ⟨absent, cell⟩
  · refine .closed gone ?_
    rw [cells_abandonAll member, cell]
    rfl
  all_goals
    have apart : ∀ entry ∈ inFlight.pending, entry.handle ≠ handle := by
      intro entry member same
      have waits := awaits_of_mem member
      rw [only entry member same, absent] at waits
      exact absurd waits (by decide)
  · exact .answered response same_id gone ((cells_abandonAll_of_ne apart).trans cell)
  · exact .closed gone ((cells_abandonAll_of_ne apart).trans cell)

end Registered

end InFlight

end GatewayLink
