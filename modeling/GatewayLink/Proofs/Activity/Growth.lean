import GatewayLink.Proofs.Activity.Window

/-!
# Logbooks that forget nothing

Read from the oldest entry on, a log that forgets nothing only grows at its end, so an entry keeps
its place.  An outcome changes the entry of its call in its place.
-/

namespace GatewayLink

/-- A generated id is no decimal number. -/
theorem generatedId_ne_repr (serial number : Nat) : generatedId serial ≠ number.repr := by
  intro same
  have dash : '-' ∈ (generatedId serial).toList := by simp [generatedId]
  have digits : '-' ∈ Nat.toDigits 10 number := by
    rw [same, Nat.repr_eq_ofList_toDigits] at dash
    simpa using dash
  have digit := Nat.isDigit_of_mem_toDigits (by decide : 0 < 10) (by decide) digits
  exact absurd digit (by decide)

theorem BoundedLog.foldl_push {α : Type} {log : BoundedLog α} (unlimited : log.capacity = none)
    (more : List α) :
    (more.foldl push log).capacity = none ∧
      (more.foldl push log).items.reverse = log.items.reverse ++ more := by
  refine ⟨(capacity_foldl_push log more).trans unlimited, ?_⟩
  rw [items_foldl_push (by rw [unlimited, within_none]), unlimited, within_none]
  simp

theorem ids_set {records : List CallRecord} {place : Nat} {record changed : CallRecord}
    (found : records[place]? = some record) (same_id : changed.id = record.id) :
    (records.set place changed).map CallRecord.id = records.map CallRecord.id := by
  obtain ⟨inside, rfl⟩ := List.getElem?_eq_some_iff.mp found
  have known : place < (records.map CallRecord.id).length := by simpa using inside
  rw [List.map_set, same_id, ← List.getElem_map CallRecord.id]
  exact List.set_getElem_self known

namespace Logbook

/-- The records of calls, oldest first. -/
def records (logbook : Logbook) : List CallRecord :=
  logbook.history.items.reverse

/-- The bulletins, oldest first. -/
def bulletins (logbook : Logbook) : List Bulletin :=
  logbook.activity.items.reverse

/-- Neither the records of calls nor the bulletins are limited. -/
structure IsUnlimited (logbook : Logbook) : Prop where
  history : logbook.history.capacity = none
  activity : logbook.activity.capacity = none

theorem isUnlimited_new : (new .unlimited).IsUnlimited := ⟨rfl, rfl⟩

section Unlimited

variable {logbook : Logbook}

theorem isUnlimited_attempt (unlimited : logbook.IsUnlimited) (now : Timestamp)
    (id : Option String) (method : String) (status : CallStatus) (duration : Option UInt64) :
    (logbook.attempt now id method status duration).2.IsUnlimited := by
  cases id <;> exact ⟨unlimited.history, unlimited.activity⟩

theorem isUnlimited_post (unlimited : logbook.IsUnlimited) (title content : String)
    (severity : Severity) : (logbook.post title content severity).IsUnlimited :=
  ⟨unlimited.history, unlimited.activity⟩

theorem isUnlimited_settle (unlimited : logbook.IsUnlimited) (id : String) (status : CallStatus)
    (duration : UInt64) : (logbook.settle id status duration).2.IsUnlimited := by
  by_cases outcome : status = .ok ∨ status = .error
  · rw [settle_of_outcome logbook id status duration outcome]
    exact ⟨unlimited.history, unlimited.activity⟩
  · rw [settle_of_no_outcome logbook id status duration outcome]
    exact unlimited

@[simp] theorem records_post (logbook : Logbook) (title content : String) (severity : Severity) :
    (logbook.post title content severity).records = logbook.records := rfl

theorem bulletins_post (unlimited : logbook.IsUnlimited) (title content : String)
    (severity : Severity) :
    (logbook.post title content severity).bulletins =
      logbook.bulletins ++ [⟨generatedId logbook.generated, title, content, severity⟩] := by
  simp [bulletins, post, draw, BoundedLog.push, unlimited.activity]

theorem records_attempt_some (unlimited : logbook.IsUnlimited) (now : Timestamp) (id : String)
    (method : String) (status : CallStatus) (duration : Option UInt64) :
    (logbook.attempt now (some id) method status duration).2.records =
      logbook.records ++ [⟨id, method, status, duration, now⟩] := by
  simp [records, attempt, BoundedLog.push, unlimited.history]

theorem records_attempt_none (unlimited : logbook.IsUnlimited) (now : Timestamp)
    (method : String) (status : CallStatus) (duration : Option UInt64) :
    (logbook.attempt now none method status duration).2.records =
      logbook.records ++ [⟨generatedId logbook.generated, method, status, duration, now⟩] := by
  simp [records, attempt, draw, BoundedLog.push, unlimited.history]

@[simp] theorem bulletins_attempt (logbook : Logbook) (now : Timestamp) (id : Option String)
    (method : String) (status : CallStatus) (duration : Option UInt64) :
    (logbook.attempt now id method status duration).2.bulletins = logbook.bulletins := by
  cases id <;> rfl

@[simp] theorem bulletins_settle (logbook : Logbook) (id : String) (status : CallStatus)
    (duration : UInt64) : (logbook.settle id status duration).2.bulletins = logbook.bulletins := by
  by_cases outcome : status = .ok ∨ status = .error
  · rw [settle_of_outcome logbook id status duration outcome]
    rfl
  · rw [settle_of_no_outcome logbook id status duration outcome]

@[simp] theorem records_noteSuccess (logbook : Logbook) (now : Timestamp) (method : String) :
    (logbook.noteSuccess now method).records = logbook.records := rfl

@[simp] theorem records_noteFailure (logbook : Logbook) (now : Timestamp) (method text : String) :
    (logbook.noteFailure now method text).records = logbook.records := rfl

@[simp] theorem bulletins_noteSuccess (logbook : Logbook) (now : Timestamp) (method : String) :
    (logbook.noteSuccess now method).bulletins = logbook.bulletins := rfl

@[simp] theorem bulletins_noteFailure (logbook : Logbook) (now : Timestamp)
    (method text : String) :
    (logbook.noteFailure now method text).bulletins = logbook.bulletins := rfl

@[simp] theorem standing_attempt (logbook : Logbook) (now : Timestamp) (id : Option String)
    (method : String) (status : CallStatus) (duration : Option UInt64) :
    (logbook.attempt now id method status duration).2.standing = logbook.standing := by
  cases id <;> rfl

@[simp] theorem standing_settle (logbook : Logbook) (id : String) (status : CallStatus)
    (duration : UInt64) : (logbook.settle id status duration).2.standing = logbook.standing := by
  by_cases outcome : status = .ok ∨ status = .error
  · rw [settle_of_outcome logbook id status duration outcome]
  · rw [settle_of_no_outcome logbook id status duration outcome]

@[simp] theorem standing_post (logbook : Logbook) (title content : String) (severity : Severity) :
    (logbook.post title content severity).standing = logbook.standing := rfl

/-- Where only one entry with an id is unfinished, an outcome changes that entry in its place. -/
theorem records_settle {id : String} {place : Nat} {record : CallRecord}
    (found : logbook.records[place]? = some record) (same_id : record.id = id)
    (unfinished : record.status.isFinal = false)
    (only : ∀ other entry, logbook.records[other]? = some entry → entry.id = id → other = place)
    {status : CallStatus} (outcome : status = .ok ∨ status = .error) (duration : UInt64) :
    (logbook.settle id status duration).2.records =
      logbook.records.set place { record with status, duration := some duration } := by
  obtain ⟨inside, record_eq⟩ := List.getElem?_eq_some_iff.mp found
  have split : logbook.records =
      logbook.records.take place ++ record :: logbook.records.drop (place + 1) := by
    rw [← record_eq, List.getElem_cons_drop, List.take_append_drop]
  have items_eq : logbook.history.items =
      (logbook.records.drop (place + 1)).reverse ++ record :: (logbook.records.take place).reverse := by
    have reversed := congrArg List.reverse split
    simpa [records] using reversed
  have newest : NewestAwaiting logbook.history.items id (logbook.records.drop (place + 1)).reverse
      record (logbook.records.take place).reverse := by
    refine ⟨items_eq, same_id, unfinished, fun entry member entry_id => ?_⟩
    obtain ⟨offset, offset_found⟩ := List.mem_iff_getElem?.mp (List.mem_reverse.mp member)
    rw [List.getElem?_drop] at offset_found
    have here := only _ entry offset_found entry_id
    omega
  rw [settle_of_outcome logbook id status duration outcome,
    List.set_eq_take_append_cons_drop, if_pos inside]
  simp only [newest.changedFirst_eq, records]
  simp

end Unlimited

end Logbook

end GatewayLink
