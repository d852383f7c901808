import Mathlib.Data.List.Induction
import Mathlib.Data.List.Nodup
import Mathlib.Data.List.TakeWhile
import Mathlib.Data.String.Basic
import GatewayLink.Proofs.Call.Registration

/-!
# From registration to settlement

A registration is pending until the first operation that ends it, and what that operation leaves on
its handle stays there until the caller takes it or lets go.  Each registration has a handle of its
own, so no operation on a later registration touches it, even if that is made under the same id.
-/

namespace GatewayLink

namespace InFlight

variable {inFlight : InFlight} {entry : Pending} {later : List InFlight.Operation}

/-! ## What an operation does to a registration -/

/-- Whether an operation ends the registration under an id. -/
def Operation.ends (id : String) : Operation → Bool
  | .answer other _ | .withdraw other => other == id
  | .abandonAll => true
  | .enter .. | .awaits _ | .poll _ | .release _ => false

/-- Whether the caller looks at a handle. -/
def Operation.polls (handle : Handle) : Operation → Bool
  | .poll other => other == handle
  | _ => false

/-- Whether the caller lets go of a handle. -/
def Operation.releases (handle : Handle) : Operation → Bool
  | .release other => other == handle
  | _ => false

/-- What the handle of a registration shows after an operation has ended it. -/
def Operation.leaves : Operation → Glance
  | .answer _ response => .response response
  | _ => .closed

/-- What a handle shows after the operations that followed the registration of its id: nothing once
it was released; else what the first operation that ended the registration has left, until that is
taken. -/
def shown? (id : String) (handle : Handle) (later : List Operation) : Option Glance :=
  if later.any (·.releases handle) then none
  else
    match later.dropWhile (!·.ends id) with
    | [] => some .waiting
    | ending :: rest => some (if rest.any (·.polls handle) then .closed else ending.leaves)

/-- What one more operation makes of what a handle shows. -/
def Operation.turns (operation : Operation) (id : String) (handle : Handle) (glance : Glance) :
    Option Glance :=
  if operation.releases handle then none
  else if glance = .waiting then some (if operation.ends id then operation.leaves else .waiting)
  else some (if operation.polls handle then .closed else glance)

theorem leaves_ne_waiting (operation : Operation) : operation.leaves ≠ .waiting := by
  cases operation <;> simp [Operation.leaves]

theorem shown?_append_singleton (id : String) (handle : Handle) (later : List Operation)
    (operation : Operation) :
    shown? id handle (later ++ [operation]) =
      (shown? id handle later).bind (operation.turns id handle) := by
  simp only [shown?, List.any_append, List.any_cons, List.any_nil, Bool.or_false]
  by_cases released : later.any (·.releases handle) = true
  · simp [released]
  · rw [List.dropWhile_append]
    cases ended : later.dropWhile (!·.ends id) with
    | nil =>
        by_cases ends : operation.ends id <;> by_cases releases : operation.releases handle <;>
          simp [released, Operation.turns, ends, releases]
    | cons ending rest =>
        have settled := leaves_ne_waiting ending
        by_cases polled : rest.any (·.polls handle) = true <;>
          by_cases releases : operation.releases handle <;>
          by_cases polls : operation.polls handle <;>
          simp [released, Operation.turns, polled, releases, polls, settled]

/-- A handle that still waits belongs to a registration that was not ended. -/
theorem not_ends_of_shown? {id : String} {handle : Handle}
    (waits : shown? id handle later = some .waiting) :
    ∀ operation ∈ later, operation.ends id = false := by
  unfold shown? at waits
  split at waits
  · cases waits
  · split at waits
    next none_ends =>
      simpa using List.dropWhile_eq_nil_iff.mp none_ends
    next ending rest _ =>
      have settled := leaves_ne_waiting ending
      split at waits <;> simp_all

/-- The entry that an operation makes. -/
def entered? (inFlight : InFlight) : Operation → Option Pending
  | .enter id method =>
    if inFlight.awaits id then none else some ⟨id, method, inFlight.cells.length⟩
  | _ => none

/-- An operation takes away the entries that it ends and adds the one that it makes. -/
theorem pending_apply (inFlight : InFlight) (operation : Operation) :
    (inFlight.apply operation).2.pending =
      inFlight.pending.filter (fun entry => !operation.ends entry.id) ++
        (inFlight.entered? operation).toList := by
  cases operation with
  | enter id method =>
      by_cases awaited : inFlight.awaits id <;>
        simp [apply, enter, awaited, Operation.ends, entered?]
  | answer id response =>
      simp [apply, answer, pending_remove, Operation.ends, entered?, bne, BEq.comm]
  | withdraw id =>
      simp [apply, withdraw, pending_remove, Operation.ends, entered?, bne, BEq.comm]
  | abandonAll => simp [apply, Operation.ends, entered?]
  | awaits id => simp [apply, Operation.ends, entered?]
  | poll handle =>
      have kept : (inFlight.poll handle).2.pending = inFlight.pending := by
        unfold poll
        split <;> rfl
      simp [apply, kept, Operation.ends, entered?]
  | release handle =>
      have kept : (inFlight.release handle).2.pending = inFlight.pending := by
        unfold release
        split <;> rfl
      simp [apply, kept, Operation.ends, entered?]

/-- A handle that was issued stays so. -/
theorem issued_apply {handle : Handle} (issued : handle < inFlight.cells.length)
    (operation : Operation) : handle < (inFlight.apply operation).2.cells.length := by
  cases operation with
  | enter id method =>
      simp only [apply, enter]
      split
      · exact issued
      · exact Nat.lt_of_lt_of_le issued (by simp)
  | answer id response =>
      simp only [apply, answer, remove]
      split <;> simpa using issued
  | withdraw id =>
      simp only [apply, withdraw, remove]
      split <;> simpa using issued
  | abandonAll =>
      have held : inFlight.abandonAll.2.cells[handle]?.isSome = true := by
        rw [abandonAll, foldl_settle]
        split <;> simpa using issued
      simpa [apply] using held
  | awaits id => exact issued
  | poll other =>
      simp only [apply, poll]
      split <;> simpa using issued
  | release other =>
      simp only [apply, release]
      split <;> simpa using issued

/-! ## What an operation does to a handle -/

/-- What a handle shows for what it holds. -/
def Cell.glance? : Cell → Option Glance
  | .waiting => some .waiting
  | .answered response => some (.response response)
  | .closed => some .closed
  | .released => none

theorem glance?_eq_bind (inFlight : InFlight) (handle : Handle) :
    inFlight.glance? handle = inFlight.cells[handle]?.bind Cell.glance? := by
  unfold InFlight.glance?
  split <;> simp_all [Cell.glance?]

@[simp] theorem poll_fst (inFlight : InFlight) (handle : Handle) :
    (inFlight.poll handle).1 = inFlight.glance? handle := by
  unfold poll
  split <;> simp_all

/-- What is put on a handle that is held is shown by that handle and by no other. -/
theorem glance?_set {other : Handle} (held : (inFlight.glance? other).isSome = true) (cell : Cell)
    (handle : Handle) :
    InFlight.glance? { inFlight with cells := inFlight.cells.set other cell } handle =
      if other = handle then Cell.glance? cell else inFlight.glance? handle := by
  have issued : other < inFlight.cells.length := by
    rw [glance?_eq_bind, Option.isSome_bind] at held
    by_contra unknown
    rw [List.getElem?_eq_none (Nat.le_of_not_lt unknown)] at held
    simp at held
  rw [glance?_eq_bind, glance?_eq_bind, List.getElem?_set]
  by_cases same : other = handle
  · simp [same, same ▸ issued]
  · simp [same]

/-- Once a caller has seen how a request ended, its handle is empty. -/
theorem glance?_poll (inFlight : InFlight) (other handle : Handle) :
    (inFlight.poll other).2.glance? handle =
      if other = handle then
        (inFlight.glance? handle).map fun glance => if glance = .waiting then glance else .closed
      else inFlight.glance? handle := by
  unfold poll
  split
  next response shown =>
    rw [glance?_set (by rw [shown]; rfl)]
    by_cases here : other = handle
    · subst here
      simp [shown, Cell.glance?]
    · simp [here]
  next no_response =>
    by_cases here : other = handle
    · subst here
      cases shown : inFlight.glance? other with
      | none => simp
      | some glance =>
          cases glance with
          | response response => exact absurd shown (no_response response)
          | _ => simp
    · simp [here]

theorem glance?_release (inFlight : InFlight) (other handle : Handle) :
    (inFlight.release other).2.glance? handle =
      if other = handle then none else inFlight.glance? handle := by
  unfold release
  split
  next unheld =>
    by_cases here : other = handle
    · subst here
      simp [unheld]
    · simp [here]
  next held => rw [glance?_set (by rw [held]; rfl)]; rfl

/-- A glance of a handle that was settled in the meantime. -/
def Glance.settled (left : Glance) (glance : Glance) : Glance :=
  if glance = .waiting then left else glance

theorem glance?_of_settle {after : InFlight} {handle : Handle} {operation : Operation}
    {answer : Option Response}
    (settled : after.cells[handle]? = inFlight.cells[handle]?.map (Cell.settle answer))
    (left : operation.leaves = answer.elim .closed .response) :
    after.glance? handle = (inFlight.glance? handle).map (Glance.settled operation.leaves) := by
  rw [glance?_eq_bind, glance?_eq_bind, settled, left]
  cases inFlight.cells[handle]? with
  | none => rfl
  | some cell => cases cell <;> cases answer <;> rfl

/-- An operation that has to do neither with a registration nor with its handle changes nothing of
what the handle shows. -/
theorem bind_turns_of_kept {operation : Operation} {id : String} {handle : Handle}
    {shown : Option Glance} (not_released : operation.releases handle = false)
    (not_polled : operation.polls handle = false)
    (not_ended : shown = some .waiting → operation.ends id = false) :
    shown.bind (operation.turns id handle) = shown := by
  cases shown with
  | none => rfl
  | some glance =>
      by_cases waits : glance = .waiting
      · subst waits
        simp [Operation.turns, not_released, not_ended]
      · simp [Operation.turns, not_released, not_polled, waits]

theorem bind_turns_of_ended {operation : Operation} {id : String} {handle : Handle}
    {shown : Option Glance} (not_released : operation.releases handle = false)
    (not_polled : operation.polls handle = false) (ends : operation.ends id = true) :
    shown.bind (operation.turns id handle) = shown.map (Glance.settled operation.leaves) := by
  cases shown with
  | none => rfl
  | some glance =>
      by_cases waits : glance = .waiting <;>
        simp [Operation.turns, Glance.settled, not_released, not_polled, ends, waits]

/-- The requests in flight have ids and handles of their own. -/
structure Distinct (inFlight : InFlight) : Prop where
  ids : (inFlight.pending.map Pending.id).Nodup
  issued : ∀ entry ∈ inFlight.pending, entry.handle < inFlight.cells.length

/-- A registration that was made has a handle that no other pending request shares, and while the
handle waits the registration is pending. -/
structure Owns (inFlight : InFlight) (entry : Pending) : Prop where
  issued : entry.handle < inFlight.cells.length
  only : ∀ other ∈ inFlight.pending, other.handle = entry.handle → other = entry
  pending : inFlight.glance? entry.handle = some .waiting → entry ∈ inFlight.pending

/-- What a removal does to the handle of a registration: it is settled if it is the registration
under that id, and kept otherwise, also if another registration is removed under the same id. -/
theorem glance?_remove (distinct : inFlight.Distinct) (owns : inFlight.Owns entry)
    {operation : Operation} {id : String} {answer : Option Response}
    (left : operation.leaves = answer.elim .closed .response)
    (not_released : operation.releases entry.handle = false)
    (not_polled : operation.polls entry.handle = false)
    (ends_iff : operation.ends entry.id = (id == entry.id)) :
    (inFlight.remove id answer).2.glance? entry.handle =
      (inFlight.glance? entry.handle).bind (operation.turns entry.id entry.handle) := by
  by_cases ended : entry ∈ inFlight.pending ∧ id = entry.id
  · obtain ⟨member, rfl⟩ := ended
    rw [bind_turns_of_ended not_released not_polled (by simpa using ends_iff)]
    refine glance?_of_settle (cells_remove answer member fun other other_member same => ?_) left
    rw [List.inj_on_of_nodup_map distinct.ids other_member member same]
  · -- Another registration may have the id by now, but none has the handle.
    rw [bind_turns_of_kept not_released not_polled]
    · rw [glance?_eq_bind, glance?_eq_bind, cells_remove_of_ne answer]
      intro other member same same_handle
      obtain rfl := owns.only other member same_handle
      exact ended ⟨member, same.symm⟩
    · intro waits
      rw [ends_iff, beq_eq_false_iff_ne]
      exact fun same => ended ⟨owns.pending waits, same⟩

/-- What an operation does to the handle of a registration: it is settled if the registration is
pending and ends, emptied if it is polled, and gone if it is released. -/
theorem glance?_apply (distinct : inFlight.Distinct) (owns : inFlight.Owns entry)
    (operation : Operation) :
    (inFlight.apply operation).2.glance? entry.handle =
      (inFlight.glance? entry.handle).bind (operation.turns entry.id entry.handle) := by
  cases operation with
  | enter id method =>
      rw [bind_turns_of_kept rfl rfl fun _ => rfl]
      simp only [apply, enter]
      split
      · rfl
      · simp [glance?_eq_bind, List.getElem?_append_left owns.issued]
  | answer id response => exact glance?_remove distinct owns rfl rfl rfl rfl
  | withdraw id => exact glance?_remove distinct owns rfl rfl rfl rfl
  | abandonAll =>
      by_cases member : entry ∈ inFlight.pending
      · rw [bind_turns_of_ended rfl rfl rfl]
        exact glance?_of_settle (cells_abandonAll member) rfl
      · rw [bind_turns_of_kept rfl rfl fun waits => absurd (owns.pending waits) member]
        simp only [apply, glance?_eq_bind]
        rw [cells_abandonAll_of_ne]
        intro other other_member same
        exact member (owns.only other other_member same ▸ other_member)
  | awaits id => rw [bind_turns_of_kept rfl rfl fun _ => rfl]; rfl
  | poll other =>
      simp only [apply, glance?_poll]
      by_cases here : other = entry.handle
      · subst here
        cases inFlight.glance? entry.handle with
        | none => simp
        | some glance =>
            by_cases waits : glance = .waiting <;>
              simp [Operation.turns, Operation.releases, Operation.polls, Operation.ends, waits]
      · rw [if_neg here, bind_turns_of_kept rfl (by simpa [Operation.polls] using here)
          fun _ => rfl]
  | release other =>
      simp only [apply, glance?_release]
      by_cases here : other = entry.handle
      · subst here
        cases inFlight.glance? entry.handle <;> simp [Operation.turns, Operation.releases]
      · rw [if_neg here, bind_turns_of_kept (by simpa [Operation.releases] using here) rfl
          fun _ => rfl]

/-! ## Sequences of operations -/

theorem run_append (inFlight : InFlight) (first second : List Operation) :
    inFlight.run (first ++ second) = (inFlight.run first).run second :=
  List.foldl_append ..

theorem run_append_singleton (inFlight : InFlight) (before : List Operation)
    (operation : Operation) :
    inFlight.run (before ++ [operation]) = ((inFlight.run before).apply operation).2 :=
  inFlight.run_append before [operation]

theorem of_entered? {operation : Operation} (made : inFlight.entered? operation = some entry) :
    operation = .enter entry.id entry.method ∧ inFlight.awaits entry.id = false ∧
      entry.handle = inFlight.cells.length := by
  cases operation with
  | enter id method =>
      simp only [entered?, Option.ite_none_left_eq_some, Bool.not_eq_true,
        Option.some.injEq] at made
      obtain ⟨free, rfl⟩ := made
      exact ⟨rfl, free, rfl⟩
  | _ => cases made

theorem mem_pending_apply {operation : Operation}
    (member : entry ∈ (inFlight.apply operation).2.pending) :
    (entry ∈ inFlight.pending ∧ operation.ends entry.id = false) ∨
      inFlight.entered? operation = some entry := by
  rw [pending_apply] at member
  simpa [List.mem_append, List.mem_filter] using member

theorem distinct_new : new.Distinct where
  ids := List.nodup_nil
  issued := by simp [new]

theorem Distinct.apply (distinct : inFlight.Distinct) (operation : Operation) :
    (inFlight.apply operation).2.Distinct where
  ids := by
    have kept := distinct.ids.sublist
      ((List.filter_sublist (p := fun entry => !operation.ends entry.id)).map Pending.id)
    rw [pending_apply, List.map_append]
    cases made : inFlight.entered? operation with
    | none => simpa using kept
    | some entry =>
        obtain ⟨-, free, -⟩ := of_entered? made
        refine List.nodup_append.mpr ⟨kept, List.nodup_singleton _, ?_⟩
        intro id member latest is_latest
        obtain ⟨other, other_member, rfl⟩ := List.mem_map.mp member
        obtain rfl : latest = entry.id := by simpa using is_latest
        exact ne_of_free free (List.mem_filter.mp other_member).1
  issued := by
    intro entry member
    rcases mem_pending_apply member with ⟨earlier, -⟩ | made
    · exact issued_apply (distinct.issued entry earlier) operation
    · obtain ⟨rfl, free, handle_eq⟩ := of_entered? made
      simp [InFlight.apply, enter_eq free, handle_eq]

theorem distinct_run (operations : List Operation) : (new.run operations).Distinct := by
  induction operations using List.reverseRecOn with
  | nil => exact distinct_new
  | append_singleton before operation induction =>
      rw [run_append_singleton]
      exact induction.apply operation

/-- How a registration stands after the operations that followed it. -/
structure Stands (inFlight : InFlight) (entry : Pending) (later : List Operation) : Prop where
  issued : entry.handle < inFlight.cells.length
  only : ∀ other ∈ inFlight.pending, other.handle = entry.handle → other = entry
  pending_iff : entry ∈ inFlight.pending ↔ ∀ operation ∈ later, operation.ends entry.id = false
  shown : inFlight.glance? entry.handle = shown? entry.id entry.handle later

namespace Stands

theorem owns (stands : inFlight.Stands entry later) : inFlight.Owns entry where
  issued := stands.issued
  only := stands.only
  pending := fun waits => stands.pending_iff.mpr (not_ends_of_shown? (stands.shown ▸ waits))

/-- A registration that was just made. -/
theorem enter (distinct : inFlight.Distinct) {id method : String} {handle : Handle}
    (entered : (inFlight.enter id method).1 = .ok handle) :
    (inFlight.enter id method).2.Stands ⟨id, method, handle⟩ [] := by
  have free : inFlight.awaits id = false := by
    cases awaited : inFlight.awaits id with
    | false => rfl
    | true => simp [InFlight.enter, awaited] at entered
  rw [enter_eq free] at entered ⊢
  obtain rfl : inFlight.cells.length = handle := by simpa using entered
  refine ⟨by simp, ?_, by simp, by simp [glance?, shown?]⟩
  intro other member same
  rcases List.mem_append.mp member with earlier | latest
  · exact absurd same (Nat.ne_of_lt (distinct.issued other earlier))
  · exact List.mem_singleton.mp latest

theorem apply (stands : inFlight.Stands entry later) (distinct : inFlight.Distinct)
    (operation : Operation) :
    (inFlight.apply operation).2.Stands entry (later ++ [operation]) where
  issued := issued_apply stands.issued operation
  only := by
    intro other member same
    rcases mem_pending_apply member with ⟨earlier, -⟩ | made
    · exact stands.only other earlier same
    · obtain ⟨-, -, handle_eq⟩ := of_entered? made
      exact absurd (same.symm.trans handle_eq) (Nat.ne_of_lt stands.issued)
  pending_iff := by
    have other_handle : inFlight.entered? operation ≠ some entry := fun made =>
      Nat.ne_of_lt stands.issued (of_entered? made).2.2
    rw [pending_apply]
    simp [List.mem_filter, stands.pending_iff, other_handle, or_imp, forall_and]
  shown := by
    rw [glance?_apply distinct stands.owns, shown?_append_singleton, stands.shown]

end Stands

/-- In a sequence of operations a request was registered and got its handle; these operations
followed. -/
def Entered (operations : List Operation) (entry : Pending) (later : List Operation) : Prop :=
  ∃ before, operations = before ++ .enter entry.id entry.method :: later ∧
    ((new.run before).enter entry.id entry.method).1 = .ok entry.handle

namespace Entered

variable {operations : List Operation}

theorem append (entered : Entered operations entry later) (more : List Operation) :
    Entered (operations ++ more) entry (later ++ more) := by
  obtain ⟨before, rfl, made⟩ := entered
  exact ⟨before, by simp, made⟩

theorem stands (entered : Entered operations entry later) :
    (new.run operations).Stands entry later := by
  obtain ⟨before, rfl, made⟩ := entered
  induction later using List.reverseRecOn with
  | nil =>
      rw [run_append_singleton]
      exact Stands.enter (distinct_run before) made
  | append_singleton earlier operation induction =>
      rw [← List.cons_append, ← List.append_assoc, run_append_singleton]
      exact induction.apply (distinct_run _) operation

/-- Every pending request was registered. -/
theorem of_mem (member : entry ∈ (new.run operations).pending) :
    ∃ later, Entered operations entry later := by
  induction operations using List.reverseRecOn with
  | nil => simp [run, new] at member
  | append_singleton before operation induction =>
      rw [run_append_singleton] at member
      rcases mem_pending_apply member with ⟨earlier, -⟩ | made
      · obtain ⟨later, entered⟩ := induction earlier
        exact ⟨later ++ [operation], entered.append [operation]⟩
      · obtain ⟨rfl, free, handle_eq⟩ := of_entered? made
        exact ⟨[], before, rfl, by simp [enter_eq free, handle_eq]⟩

end Entered

/-! ## The listing -/

theorem mem_listing (inFlight : InFlight) (id method : String) :
    (id, method) ∈ inFlight.listing ↔ ∃ handle, ⟨id, method, handle⟩ ∈ inFlight.pending := by
  simp only [listing, List.mem_mergeSort, List.mem_map, Prod.mk.injEq]
  constructor
  · rintro ⟨⟨_, _, handle⟩, member, rfl, rfl⟩
    exact ⟨handle, member⟩
  · rintro ⟨handle, member⟩
    exact ⟨_, member, rfl, rfl⟩

/-- Whether one request is listed before another: by id, and by method under the same id. -/
def listedBefore (left right : String × String) : Bool :=
  decide (left.1 < right.1) || (left.1 == right.1 && decide (left.2 ≤ right.2))

theorem listedBefore_iff (left right : String × String) :
    listedBefore left right = true ↔ left.1 < right.1 ∨ left.1 = right.1 ∧ left.2 ≤ right.2 := by
  simp [listedBefore]

theorem listedBefore_trans (first second third : String × String)
    (below : listedBefore first second = true) (above : listedBefore second third = true) :
    listedBefore first third = true := by
  rw [listedBefore_iff] at below above ⊢
  rcases below with below | ⟨same, below⟩ <;> rcases above with above | ⟨equal, above⟩
  · exact .inl (lt_trans below above)
  · exact .inl (equal ▸ below)
  · exact .inl (same ▸ above)
  · exact .inr ⟨same.trans equal, le_trans below above⟩

theorem listedBefore_total (first second : String × String) :
    (listedBefore first second || listedBefore second first) = true := by
  rw [Bool.or_eq_true, listedBefore_iff, listedBefore_iff]
  rcases lt_trichotomy first.1 second.1 with below | same | above
  · exact .inl (.inl below)
  · rcases le_total first.2 second.2 with ordered | ordered
    · exact .inl (.inr ⟨same, ordered⟩)
    · exact .inr (.inr ⟨same.symm, ordered⟩)
  · exact .inr (.inl above)

/-- Requests with ids of their own are listed by increasing id. -/
theorem listing_increases (distinct : inFlight.Distinct) :
    (inFlight.listing.map Prod.fst).Pairwise (· < ·) := by
  have ids : (inFlight.listing.map Prod.fst).Nodup := by
    refine ((List.mergeSort_perm _ _).map Prod.fst).nodup_iff.mpr ?_
    rw [List.map_map]
    exact distinct.ids
  have sorted : inFlight.listing.Pairwise fun left right => listedBefore left right = true :=
    List.pairwise_mergeSort listedBefore_trans listedBefore_total _
  rw [List.nodup_iff_pairwise_ne, List.pairwise_map] at ids
  rw [List.pairwise_map]
  refine (ids.and sorted).imp ?_
  rintro left right ⟨apart, ordered⟩
  simpa [listedBefore_iff, apart] using ordered

/-! ## All runs -/

/-- In every run, with ids used again at will, what first ends a registration decides what its
caller sees, once. -/
theorem registrations_are_settled_once (operations : List Operation) :
    let inFlight := new.run operations
    let ids := inFlight.pending.map Pending.id
    (∀ id method,
      (id ∈ ids → inFlight.enter id method = (.error (.duplicateId id), inFlight)) ∧
        (id ∉ ids → ∃ handle, (inFlight.enter id method).1 = .ok handle ∧
          ∀ entry later, Entered operations entry later → entry.handle ≠ handle)) ∧
    (∀ entry, entry ∈ inFlight.pending ↔
      ∃ later, Entered operations entry later ∧
        ∀ operation ∈ later, operation.ends entry.id = false) ∧
    (∀ entry later, Entered operations entry later →
      (inFlight.poll entry.handle).1 = shown? entry.id entry.handle later ∧
        (entry ∉ inFlight.pending → ∀ more, entry ∉ (inFlight.run more).pending)) ∧
    (∀ id response, (inFlight.answer id response).1 = decide (id ∈ ids) ∧
      (inFlight.answer id response).2.pending = inFlight.pending.filter (·.id != id)) ∧
    (∀ id, (inFlight.withdraw id).1 = decide (id ∈ ids) ∧
      (inFlight.withdraw id).2.pending = inFlight.pending.filter (·.id != id)) ∧
    inFlight.abandonAll.1 = inFlight.pending.length ∧ inFlight.abandonAll.2.pending = [] ∧
    ids.Nodup ∧
    (inFlight.listing.map Prod.fst).Pairwise (· < ·) ∧
    ∀ id method, (id, method) ∈ inFlight.listing ↔
      ∃ handle, ⟨id, method, handle⟩ ∈ inFlight.pending := by
  intro inFlight ids
  have distinct : inFlight.Distinct := distinct_run operations
  have awaits_eq (id : String) : inFlight.awaits id = decide (id ∈ ids) := by
    rw [Bool.eq_iff_iff, awaits_iff]
    simp [ids]
  have remove_eq (id : String) (answer : Option Response) :
      (inFlight.remove id answer).1 = decide (id ∈ ids) ∧
        (inFlight.remove id answer).2.pending = inFlight.pending.filter (·.id != id) := by
    rw [remove_fst, pending_remove, awaits_eq]
    exact ⟨rfl, rfl⟩
  refine ⟨?entered, ?pending, ?shown, fun id response => remove_eq id (some response),
    fun id => remove_eq id none, rfl, rfl, distinct.ids, listing_increases distinct,
    mem_listing inFlight⟩
  case entered =>
    intro id method
    constructor
    · intro member
      simp [enter, awaits_eq, member]
    · intro absent
      have free : inFlight.awaits id = false := by simpa [awaits_eq] using absent
      exact ⟨inFlight.cells.length, by rw [enter_eq free], fun entry later entered =>
        Nat.ne_of_lt entered.stands.issued⟩
  case pending =>
    intro entry
    constructor
    · intro member
      obtain ⟨later, entered⟩ := Entered.of_mem member
      exact ⟨later, entered, entered.stands.pending_iff.mp member⟩
    · rintro ⟨later, entered, unended⟩
      exact entered.stands.pending_iff.mpr unended
  case shown =>
    intro entry later entered
    refine ⟨by rw [poll_fst, entered.stands.shown], fun gone more member => ?_⟩
    rw [← run_append] at member
    have unended := (entered.append more).stands.pending_iff.mp member
    exact gone (entered.stands.pending_iff.mpr fun operation earlier =>
      unended operation (List.mem_append_left more earlier))

/-- An answer under an id that was given up and used again reaches the later caller only. -/
example :
    let response : Response := ⟨"1", true, none, none⟩
    let inFlight := new.run [.enter "1" "health", .abandonAll, .enter "1" "models.list",
      .answer "1" response, .answer "1" response]
    inFlight.glance? 0 = some .closed ∧ inFlight.glance? 1 = some (.response response) := by
  decide

end InFlight

end GatewayLink
