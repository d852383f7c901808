import GatewayLink.Proofs.Activity.Aging

/-!
# What a history tells of a request

As far as it reaches back, a history tells of a request by one record.  What is entered or settled
under other ids does not touch that record, and an outcome under its own id is what it then shows.
-/

namespace GatewayLink

/-- The records with an id: one at most, with a method and a status. -/
structure Tells (records : List CallRecord) (id method : String) (status : CallStatus) : Prop where
  single : (records.map CallRecord.id).count id ≤ 1
  fits : ∀ record ∈ records, record.id = id → record.method = method ∧ record.status = status

/-- The records with an id are still the same ones, or some of them. -/
structure Spares (id : String) (before after : List CallRecord) : Prop where
  known : ∀ record ∈ after, record.id = id → record ∈ before
  count_le : (after.map CallRecord.id).count id ≤ (before.map CallRecord.id).count id

theorem Spares.refl (id : String) (records : List CallRecord) : Spares id records records :=
  ⟨fun _ member _ => member, Nat.le_refl _⟩

theorem Tells.of_spares {before after : List CallRecord} {id method : String} {status : CallStatus}
    (tells : Tells before id method status) (spares : Spares id before after) :
    Tells after id method status :=
  ⟨Nat.le_trans spares.count_le tells.single,
    fun record member same => tells.fits record (spares.known record member same) same⟩

namespace Logbook

variable {logbook : Logbook} {id method : String} {status : CallStatus}

theorem sublist_within (capacity : Option Nat) (records : List CallRecord) :
    (BoundedLog.within capacity records).Sublist records := by
  cases capacity with
  | none => exact .refl _
  | some most => exact List.take_sublist most records

theorem spares_push (log : BoundedLog CallRecord) (record : CallRecord) (apart : record.id ≠ id) :
    Spares id log.items (log.push record).items where
  known := by
    intro other member same
    rcases List.mem_cons.mp (BoundedLog.mem_of_mem_within member) with rfl | earlier
    · exact absurd same apart
    · exact earlier
  count_le := by
    have shown := ((sublist_within log.capacity (record :: log.items)).map CallRecord.id).count_le id
    rwa [List.map_cons, List.count_cons_of_ne apart] at shown

/-- Where an id is absent, a record with it is the only one. -/
theorem tells_push {record : CallRecord} {log : BoundedLog CallRecord}
    (absent : ∀ other ∈ log.items, other.id ≠ record.id) :
    Tells (log.push record).items record.id record.method record.status where
  single := by
    have shown := ((sublist_within log.capacity (record :: log.items)).map CallRecord.id).count_le
      record.id
    have none_before : (log.items.map CallRecord.id).count record.id = 0 := by
      refine List.count_eq_zero.mpr fun member => ?_
      obtain ⟨other, other_member, same⟩ := List.mem_map.mp member
      exact absent other other_member same
    rwa [List.map_cons, List.count_cons_self, none_before] at shown
  fits := by
    intro other member same
    rcases List.mem_cons.mp (BoundedLog.mem_of_mem_within member) with rfl | earlier
    · exact ⟨rfl, rfl⟩
    · exact absurd same (absent other earlier)

theorem ids_changedFirst (property : CallRecord → Bool) (duration : UInt64)
    (records : List CallRecord) :
    (BoundedLog.changedFirst property
        (fun entry => { entry with status, duration := some duration }) records).map CallRecord.id =
      records.map CallRecord.id := by
  induction records with
  | nil => rfl
  | cons first rest induction =>
      rw [BoundedLog.changedFirst_cons]
      split
      · rfl
      · rw [List.map_cons, List.map_cons, induction]

/-- An outcome under another id spares an id. -/
theorem spares_settle {other : String} (apart : other ≠ id) (duration : UInt64) :
    Spares id logbook.history.items (logbook.settle other status duration).2.history.items := by
  by_cases outcome : status = .ok ∨ status = .error
  · rw [settle_of_outcome logbook other status duration outcome]
    refine ⟨fun record member same => ?_, Nat.le_of_eq (by rw [ids_changedFirst])⟩
    rcases BoundedLog.mem_changedFirst member with known | ⟨before, -, awaited, rfl⟩
    · exact known
    · have own : before.id = other := by
        simp only [awaits, Bool.and_eq_true, beq_iff_eq] at awaited
        exact awaited.1
      exact absurd (own.symm.trans same) apart
  · rw [settle_of_no_outcome logbook other status duration outcome]
    exact .refl ..

theorem history_settle_noteFailure (logbook : Logbook) (now : Timestamp) (method text : String)
    (id : String) (status : CallStatus) (duration : UInt64) :
    ((logbook.noteFailure now method text).settle id status duration).2.history =
      (logbook.settle id status duration).2.history := by
  unfold settle
  split <;> rfl

end Logbook

end GatewayLink
