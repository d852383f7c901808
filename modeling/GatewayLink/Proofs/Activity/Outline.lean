import GatewayLink.Proofs.Activity.Window

/-!
# Outlines of logbooks

The outline of a logbook tells which calls the history lists, in which order, under which ids and
with which statuses, and how many ids were generated.  Times, durations, bulletins, subscriptions
and the standing of methods are left out.  Whatever is entered changes the outline in a way that
depends on the outline alone, and the outcomes of two calls may come in either order.
-/

namespace GatewayLink

namespace BoundedLog

variable {α β : Type}

/-- A log with each entry replaced by what a function makes of it. -/
def map (image : α → β) (log : BoundedLog α) : BoundedLog β :=
  ⟨log.items.map image, log.capacity⟩

theorem map_push (image : α → β) (log : BoundedLog α) (item : α) :
    (log.push item).map image = (log.map image).push (image item) := by
  cases capacity : log.capacity with
  | none => simp [push, map, capacity]
  | some most => simp [push, map, capacity, within, List.map_take]

theorem map_changedFirst (image : α → β) (property : α → Bool) (change : α → α)
    (imageProperty : β → Bool) (imageChange : β → β)
    (same_property : ∀ item, imageProperty (image item) = property item)
    (same_change : ∀ item, imageChange (image item) = image (change item)) (items : List α) :
    (changedFirst property change items).map image =
      changedFirst imageProperty imageChange (items.map image) := by
  induction items with
  | nil => rfl
  | cons item rest induction =>
      by_cases here : property item <;>
        simp [changedFirst_cons, same_property, same_change, here, induction]

/-- Two changes may come in either order, if neither makes or takes away a place for the other. -/
theorem changedFirst_comm {property other : α → Bool} {change otherChange : α → α}
    (apart : ∀ item, property item = true → other item = false)
    (changed_apart : ∀ item, property item = true → other (change item) = false)
    (other_changed_apart : ∀ item, other item = true → property (otherChange item) = false)
    (items : List α) :
    changedFirst property change (changedFirst other otherChange items) =
      changedFirst other otherChange (changedFirst property change items) := by
  induction items with
  | nil => rfl
  | cons item rest induction =>
      by_cases here : property item = true
      · simp [changedFirst_cons, here, apart item here, changed_apart item here]
      · by_cases there : other item = true
        · simp [changedFirst_cons, here, there, other_changed_apart item there]
        · simp [changedFirst_cons, here, there, induction]

end BoundedLog

/-- What the outline of a logbook tells of a call. -/
structure CallOutline where
  id : String
  method : String
  status : CallStatus
  deriving DecidableEq

/-- A call that was recorded, but for its time and duration. -/
def CallRecord.outline (record : CallRecord) : CallOutline :=
  ⟨record.id, record.method, record.status⟩

/-- What a logbook tells of the calls, and how many ids it has generated. -/
structure Outline where
  history : BoundedLog CallOutline
  generated : Nat
  deriving DecidableEq

namespace Outline

/-- Whether an entry is an unfinished call with an id. -/
def awaits (id : String) (entry : CallOutline) : Bool :=
  entry.id == id && !entry.status.isFinal

/-- Puts a call in front. -/
def enter (outline : Outline) (call : CallOutline) : Outline :=
  { outline with history := outline.history.push call }

/-- Gives the newest unfinished call with an id its outcome. -/
def finish (outline : Outline) (id : String) (status : CallStatus) : Outline :=
  { outline with
    history := { outline.history with
      items := BoundedLog.changedFirst (awaits id) ({ · with status }) outline.history.items } }

/-- Generates an id. -/
def draw (outline : Outline) : Outline :=
  { outline with generated := outline.generated + 1 }

/-- The outcomes of two calls may come in either order. -/
theorem finish_comm (outline : Outline) {first second : String} (apart : first ≠ second)
    (status otherStatus : CallStatus) :
    (outline.finish first status).finish second otherStatus =
      (outline.finish second otherStatus).finish first status := by
  have elsewhere {id other : String} (ids_apart : id ≠ other) (entry : CallOutline)
      (status : CallStatus) (here : awaits id entry = true) :
      awaits other entry = false ∧ awaits other { entry with status } = false := by
    have same : entry.id = id := by
      simp only [awaits, Bool.and_eq_true, beq_iff_eq] at here
      exact here.1
    simp [awaits, same, ids_apart]
  have commutes := BoundedLog.changedFirst_comm
    (fun entry here => (elsewhere apart.symm entry otherStatus here).1)
    (fun entry here => (elsewhere apart.symm entry otherStatus here).2)
    (fun entry here => (elsewhere apart entry status here).2) outline.history.items
  simp only [finish, commutes]

end Outline

namespace Logbook

/-- The calls that the history lists, newest first, but for their times and durations. -/
def listed (logbook : Logbook) : List CallOutline :=
  logbook.history.items.map CallRecord.outline

/-- The outline of a logbook. -/
def outline (logbook : Logbook) : Outline :=
  ⟨logbook.history.map CallRecord.outline, logbook.generated⟩

theorem listed_eq (logbook : Logbook) : logbook.listed = logbook.outline.history.items := rfl

section Entering

variable (logbook : Logbook)

@[simp] theorem outline_post (title content : String) (severity : Severity) :
    (logbook.post title content severity).outline = logbook.outline.draw := rfl

@[simp] theorem outline_subscription (action : String) (subscription : Option String) :
    (logbook.subscription action subscription).outline = logbook.outline.draw := rfl

@[simp] theorem outline_noteSuccess (now : Timestamp) (method : String) :
    (logbook.noteSuccess now method).outline = logbook.outline := rfl

@[simp] theorem outline_noteFailure (now : Timestamp) (method text : String) :
    (logbook.noteFailure now method text).outline = logbook.outline := rfl

theorem outline_attempt_some (now : Timestamp) (id method : String) (status : CallStatus)
    (duration : Option UInt64) :
    (logbook.attempt now (some id) method status duration).2.outline =
      logbook.outline.enter ⟨id, method, status⟩ := by
  simp [attempt, outline, Outline.enter, BoundedLog.map_push, CallRecord.outline]

theorem outline_attempt_none (now : Timestamp) (method : String) (status : CallStatus)
    (duration : Option UInt64) :
    (logbook.attempt now none method status duration).2.outline =
      logbook.outline.draw.enter ⟨generatedId logbook.outline.generated, method, status⟩ := by
  simp [attempt, Logbook.draw, outline, Outline.enter, Outline.draw, BoundedLog.map_push,
    CallRecord.outline]

@[simp] theorem outline_settle (id : String) {status : CallStatus} (duration : UInt64)
    (outcome : status = .ok ∨ status = .error) :
    (logbook.settle id status duration).2.outline = logbook.outline.finish id status := by
  have same_items := BoundedLog.map_changedFirst CallRecord.outline (awaits id)
    (fun entry => { entry with status, duration := some duration }) (Outline.awaits id)
    ({ · with status }) (fun _ => rfl) (fun _ => rfl) logbook.history.items
  simp only [settle_of_outcome logbook id status duration outcome, outline, Outline.finish,
    BoundedLog.map, same_items]

end Entering

/-- Logbooks with the same outline go on to have the same outline. -/
theorem outline_apply {one other : Logbook} (same : one.outline = other.outline)
    (operation : Operation) : (one.apply operation).2.outline = (other.apply operation).2.outline := by
  cases operation with
  | attempt now id method status duration =>
      cases id with
      | some id =>
          exact (one.outline_attempt_some ..).trans
            (same ▸ (other.outline_attempt_some now id method status duration).symm)
      | none =>
          exact (one.outline_attempt_none ..).trans
            (same ▸ (other.outline_attempt_none now method status duration).symm)
  | settle id status duration =>
      by_cases outcome : status = .ok ∨ status = .error
      · exact (one.outline_settle id duration outcome).trans
          (same ▸ (other.outline_settle id duration outcome).symm)
      · simpa only [apply, settle_of_no_outcome _ id status duration outcome] using same
  | post title content severity => exact congrArg Outline.draw same
  | subscription action subscription => exact congrArg Outline.draw same
  | noteSuccess now method => exact same
  | noteFailure now method text => exact same

end Logbook

end GatewayLink
