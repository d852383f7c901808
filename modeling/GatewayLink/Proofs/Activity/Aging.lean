import GatewayLink.Proofs.Activity.Window

/-!
# How records of calls age

The status of a record decides whether it has a duration.  A record is entered in one of five shapes
and then stands as it is, unless it is the record of a call that was sent: that one is given an
outcome and a duration, once.
-/

namespace GatewayLink

namespace CallRecord

/-- A record has the duration that its status asks for. -/
def IsWellFormed (record : CallRecord) : Prop :=
  match record.status with
  | .sent | .skipped => record.duration = none
  | .debounced => record.duration = some 0
  | .ok | .error => record.duration.isSome = true

/-- What a record may become: it stays, or the call that was sent is given its outcome. -/
inductive Becomes (record : CallRecord) : CallRecord → Prop where
  | unchanged : Becomes record record
  | settled (sent : record.status = .sent) (status : CallStatus)
      (outcome : status = .ok ∨ status = .error) (duration : UInt64) :
      Becomes record { record with status, duration := some duration }

theorem isWellFormed_settled (record : CallRecord) {status : CallStatus}
    (outcome : status = .ok ∨ status = .error) (duration : UInt64) :
    IsWellFormed { record with status, duration := some duration } := by
  rcases outcome with rfl | rfl <;> rfl

namespace Becomes

variable {first second third : CallRecord}

theorem eq_of_ne_sent (becomes : first.Becomes second) (final : first.status ≠ .sent) :
    second = first := by
  cases becomes with
  | unchanged => rfl
  | settled sent => exact absurd sent final

theorem once (becomes : first.Becomes second) (next : second.Becomes third) :
    first = second ∨ second = third := by
  cases becomes with
  | unchanged => exact .inl rfl
  | settled sent status outcome duration =>
      refine .inr (next.eq_of_ne_sent ?_).symm
      rcases outcome with rfl | rfl <;> simp

theorem trans (becomes : first.Becomes second) (next : second.Becomes third) :
    first.Becomes third := by
  obtain rfl | rfl := becomes.once next
  · exact next
  · exact becomes

end Becomes

end CallRecord

namespace BoundedLog

variable {α : Type} {property : α → Bool}

theorem mem_of_mem_push {log : BoundedLog α} {item other : α}
    (member : other ∈ (log.push item).items) : other = item ∨ other ∈ log.items :=
  List.mem_cons.mp (mem_of_mem_within member)

/-- Every entry of a changed log was there before, or it is the entry that was changed. -/
theorem mem_changedFirst {change : α → α} {items : List α} {item : α}
    (member : item ∈ changedFirst property change items) :
    item ∈ items ∨ ∃ before ∈ items, property before = true ∧ item = change before := by
  induction items with
  | nil => exact .inl member
  | cons head rest induction =>
      rw [changedFirst_cons] at member
      split at member
      · rename_i here
        rcases List.mem_cons.mp member with rfl | later
        · exact .inr ⟨head, List.mem_cons_self, here, rfl⟩
        · exact .inl (List.mem_cons_of_mem head later)
      · rcases List.mem_cons.mp member with rfl | later
        · exact .inl List.mem_cons_self
        · exact (induction later).imp (List.mem_cons_of_mem head) fun ⟨before, known, changed⟩ =>
            ⟨before, List.mem_cons_of_mem head known, changed⟩

end BoundedLog

namespace Logbook

/-- All records of calls that a logbook lists are well formed. -/
structure IsWellFormed (logbook : Logbook) : Prop where
  records : ∀ record ∈ logbook.history.items, record.IsWellFormed

namespace IsWellFormed

variable {logbook : Logbook}

theorem new (limits : Limits) : (new limits).IsWellFormed := ⟨by simp [Logbook.new]⟩

theorem of_history {after : Logbook} (formed : logbook.IsWellFormed)
    (history : after.history = logbook.history) : after.IsWellFormed :=
  ⟨history ▸ formed.records⟩

/-- A well-formed record may be entered. -/
theorem attempt (formed : logbook.IsWellFormed) (now : Timestamp) (id : Option String)
    (method : String) (status : CallStatus) (duration : Option UInt64)
    (shape : ∀ id, CallRecord.IsWellFormed ⟨id, method, status, duration, now⟩) :
    (logbook.attempt now id method status duration).2.IsWellFormed := by
  constructor
  intro record member
  cases id with
  | none =>
      rcases BoundedLog.mem_of_mem_push member with rfl | known
      · exact shape _
      · exact formed.records record known
  | some id =>
      rcases BoundedLog.mem_of_mem_push member with rfl | known
      · exact shape id
      · exact formed.records record known

theorem settle (formed : logbook.IsWellFormed) (id : String) (status : CallStatus)
    (duration : UInt64) : (logbook.settle id status duration).2.IsWellFormed := by
  by_cases outcome : status = .ok ∨ status = .error
  · rw [settle_of_outcome logbook id status duration outcome]
    constructor
    intro record member
    rcases BoundedLog.mem_changedFirst member with known | ⟨before, -, -, rfl⟩
    · exact formed.records record known
    · exact before.isWellFormed_settled outcome duration
  · rw [settle_of_no_outcome logbook id status duration outcome]
    exact formed

theorem post (formed : logbook.IsWellFormed) (title content : String) (severity : Severity) :
    (logbook.post title content severity).IsWellFormed :=
  formed.of_history rfl

end IsWellFormed

end Logbook

end GatewayLink
