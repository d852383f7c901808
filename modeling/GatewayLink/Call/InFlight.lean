import GatewayLink.Failure
import GatewayLink.Frame.Basic

/-!
# Requests and their answers

A request is registered under its id before it is sent, and the caller holds a handle on which the
answer arrives.  Each registration has a handle of its own, so an id may be registered again once
its earlier registration is gone.
-/

namespace GatewayLink

/-- A handle, numbered in the order of registration. -/
abbrev Handle := Nat

/-- A registered request that has no answer yet. -/
structure Pending where
  id : String
  method : String
  handle : Handle
  deriving DecidableEq

/-- What a handle holds. -/
inductive Cell where
  /-- The answer may still come. -/
  | waiting
  /-- The answer has come and has not been taken. -/
  | answered (response : Response)
  /-- The answer was taken, or none will come. -/
  | closed
  /-- The caller has let go of the handle. -/
  | released
  deriving DecidableEq

/-- The requests that await an answer, and every handle that was ever issued. -/
structure InFlight where
  pending : List Pending
  cells : List Cell
  deriving DecidableEq

namespace InFlight

/-- Nothing is registered. -/
def new : InFlight := ⟨[], []⟩

/-- The registration under an id. -/
def find? (inFlight : InFlight) (id : String) : Option Pending :=
  inFlight.pending.find? (·.id == id)

/-- Whether an id awaits its answer. -/
def awaits (inFlight : InFlight) (id : String) : Bool :=
  (inFlight.find? id).isSome

theorem awaits_iff (inFlight : InFlight) (id : String) :
    inFlight.awaits id = true ↔ ∃ entry ∈ inFlight.pending, entry.id = id := by
  simp [awaits, find?, List.find?_isSome]

@[simp] theorem awaits_new (id : String) : new.awaits id = false := rfl

/-- Registers a request and issues its handle, unless the id is pending already. -/
def enter (inFlight : InFlight) (id method : String) :
    Except ClientError Handle × InFlight :=
  if inFlight.awaits id then (.error (.duplicateId id), inFlight)
  else
    let handle := inFlight.cells.length
    (.ok handle,
      { pending := inFlight.pending ++ [⟨id, method, handle⟩]
        cells := inFlight.cells ++ [.waiting] })

/-- What a handle holds once its registration is gone: the answer, if it is still wanted. -/
def Cell.settle (answer : Option Response) : Cell → Cell
  | .waiting =>
    match answer with
    | some response => .answered response
    | none => .closed
  | cell => cell

/-- Removes the registration under an id, with the answer for its handle; whether there was one. -/
def remove (inFlight : InFlight) (id : String) (answer : Option Response) :
    Bool × InFlight :=
  match inFlight.find? id with
  | none => (false, inFlight)
  | some entry =>
    (true,
      { pending := inFlight.pending.filter (·.id != id)
        cells := inFlight.cells.modify entry.handle (Cell.settle answer) })

theorem awaits_enter (inFlight : InFlight) (id method other : String) :
    (inFlight.enter id method).2.awaits other = (inFlight.awaits other || other == id) := by
  by_cases pending : inFlight.awaits id
  · by_cases same : other = id <;> simp [enter, pending, same]
  · have entered : (inFlight.enter id method).2.pending =
        inFlight.pending ++ [⟨id, method, inFlight.cells.length⟩] := by
      simp [enter, pending]
    rw [Bool.eq_iff_iff, Bool.or_eq_true, awaits_iff, awaits_iff, entered]
    simp [or_and_right, exists_or, @eq_comm _ id other]

@[simp] theorem remove_fst (inFlight : InFlight) (id : String) (answer : Option Response) :
    (inFlight.remove id answer).1 = inFlight.awaits id := by
  cases found : inFlight.find? id <;> simp [remove, awaits, found]

/-- What is removed awaits no answer any more, and no other registration is touched. -/
theorem awaits_remove (inFlight : InFlight) (id other : String) (answer : Option Response) :
    (inFlight.remove id answer).2.awaits other = (inFlight.awaits other && other != id) := by
  cases found : inFlight.find? id with
  | none =>
      by_cases same : other = id
      · simp [remove, found, awaits, same]
      · simp [remove, found, same]
  | some entry =>
      rw [Bool.eq_iff_iff, Bool.and_eq_true, awaits_iff, awaits_iff]
      simp only [remove, found, List.mem_filter, bne_iff_ne, ne_eq]
      constructor
      · rintro ⟨entry, ⟨member, apart⟩, rfl⟩
        exact ⟨⟨entry, member, rfl⟩, apart⟩
      · rintro ⟨⟨entry, member, rfl⟩, apart⟩
        exact ⟨entry, ⟨member, apart⟩, rfl⟩

/-- Delivers an answer; whether its id was pending. -/
def answer (inFlight : InFlight) (id : String) (response : Response) : Bool × InFlight :=
  inFlight.remove id (some response)

/-- Gives up a request without an answer; whether its id was pending. -/
def withdraw (inFlight : InFlight) (id : String) : Bool × InFlight :=
  inFlight.remove id none

/-- Gives up all requests; how many there were. -/
def abandonAll (inFlight : InFlight) : Nat × InFlight :=
  (inFlight.pending.length,
    { pending := []
      cells := inFlight.pending.foldl
        (fun cells entry => cells.modify entry.handle (Cell.settle none)) inFlight.cells })

/-- What a caller sees when it looks at its handle. -/
inductive Glance where
  | waiting
  | response (response : Response)
  | closed
  deriving DecidableEq

/-- What a handle shows; nothing for one that was released or never issued. -/
def glance? (inFlight : InFlight) (handle : Handle) : Option Glance :=
  match inFlight.cells[handle]? with
  | some .waiting => some .waiting
  | some (.answered response) => some (.response response)
  | some .closed => some .closed
  | some .released | none => none

/-- Looks at a handle and takes the answer that it holds. -/
def poll (inFlight : InFlight) (handle : Handle) : Option Glance × InFlight :=
  match inFlight.glance? handle with
  | some (.response response) =>
    (some (.response response), { inFlight with cells := inFlight.cells.set handle .closed })
  | seen => (seen, inFlight)

/-- Lets go of a handle; whether it was held. -/
def release (inFlight : InFlight) (handle : Handle) : Bool × InFlight :=
  match inFlight.glance? handle with
  | none => (false, inFlight)
  | some _ => (true, { inFlight with cells := inFlight.cells.set handle .released })

/-- The ids and methods of the pending requests, sorted. -/
def listing (inFlight : InFlight) : List (String × String) :=
  (inFlight.pending.map fun entry => (entry.id, entry.method)).mergeSort fun left right =>
    decide (left.1 < right.1) || (left.1 == right.1 && decide (left.2 ≤ right.2))

/-- What can be asked of the requests in flight. -/
inductive Operation where
  | enter (id method : String)
  | answer (id : String) (response : Response)
  | withdraw (id : String)
  | abandonAll
  | awaits (id : String)
  | poll (handle : Handle)
  | release (handle : Handle)

/-- The answer to an operation. -/
inductive Outcome where
  | entered (result : Except ClientError Handle)
  | truth (value : Bool)
  | count (value : Nat)
  | seen (glance : Option Glance)

/-- Carries out an operation. -/
def apply (inFlight : InFlight) : Operation → Outcome × InFlight
  | .enter id method =>
    let (result, after) := inFlight.enter id method
    (.entered result, after)
  | .answer id response =>
    let (removed, after) := inFlight.answer id response
    (.truth removed, after)
  | .withdraw id =>
    let (removed, after) := inFlight.withdraw id
    (.truth removed, after)
  | .abandonAll =>
    let (count, after) := inFlight.abandonAll
    (.count count, after)
  | .awaits id => (.truth (inFlight.awaits id), inFlight)
  | .poll handle =>
    let (glance, after) := inFlight.poll handle
    (.seen glance, after)
  | .release handle =>
    let (held, after) := inFlight.release handle
    (.truth held, after)

/-- The requests in flight after a sequence of operations. -/
def run (inFlight : InFlight) (operations : List Operation) : InFlight :=
  operations.foldl (fun inFlight operation => (inFlight.apply operation).2) inFlight

end InFlight

end GatewayLink
