import Mathlib.Data.List.Induction
import GatewayLink.Activity.Logbook

/-!
# Bounded logs as windows

A bounded log shows the newest entries of the log that forgets nothing.  The window is kept by
every push, and by every change of the newest entry with a property: such a change either falls
into the window or leaves it as it is.
-/

namespace GatewayLink

namespace BoundedLog

variable {α : Type}

theorem mem_of_mem_within {capacity : Option Nat} {items : List α} {item : α}
    (member : item ∈ within capacity items) : item ∈ items := by
  cases capacity with
  | none => exact member
  | some most => exact List.mem_of_mem_take member

@[simp] theorem within_within (capacity : Option Nat) (items : List α) :
    within capacity (within capacity items) = within capacity items := by
  cases capacity <;> simp [within, List.take_take]

@[simp] theorem capacity_foldl_push (log : BoundedLog α) (more : List α) :
    (more.foldl push log).capacity = log.capacity := by
  induction more generalizing log with
  | nil => rfl
  | cons item rest induction => exact induction (log.push item)

theorem items_foldl_push {log : BoundedLog α} (fits : within log.capacity log.items = log.items)
    (more : List α) :
    (more.foldl push log).items = within log.capacity (more.reverse ++ log.items) := by
  induction more using List.reverseRecOn with
  | nil => exact fits.symm
  | append_singleton earlier item induction =>
      rw [List.foldl_append, List.foldl_cons, List.foldl_nil, push, capacity_foldl_push, induction,
        within_cons_within, List.reverse_append]
      rfl

/-- A list with its first entry of a property changed, if there is one. -/
def changedFirst (property : α → Bool) (change : α → α) (items : List α) : List α :=
  (changeFirst? property change items).getD items

@[simp] theorem changedFirst_nil (property : α → Bool) (change : α → α) :
    changedFirst property change [] = [] := rfl

theorem changedFirst_cons (property : α → Bool) (change : α → α) (item : α) (rest : List α) :
    changedFirst property change (item :: rest) =
      if property item then change item :: rest else item :: changedFirst property change rest := by
  by_cases here : property item
  · simp [changedFirst, changeFirst?, here]
  · cases found : changeFirst? property change rest <;>
      simp [changedFirst, changeFirst?, here, found]

theorem changedFirst_eq_self (property : α → Bool) (change : α → α) (items : List α)
    (absent : ∀ item ∈ items, property item = false) :
    changedFirst property change items = items := by
  induction items with
  | nil => rfl
  | cons item rest induction =>
      have here := absent item (by simp)
      have later := induction fun other member => absent other (by simp [member])
      simp [changedFirst_cons, here, later]

theorem changedFirst_append_cons (property : α → Bool) (change : α → α) (newer older : List α)
    (item : α) (newer_lack : ∀ other ∈ newer, property other = false)
    (here : property item = true) :
    changedFirst property change (newer ++ item :: older) = newer ++ change item :: older := by
  induction newer with
  | nil => simp [changedFirst_cons, here]
  | cons other rest induction =>
      have first := newer_lack other (by simp)
      have later := induction fun entry member => newer_lack entry (by simp [member])
      simp [changedFirst_cons, first, later]

/-- A change and a cut at the end of a list may come in either order. -/
theorem take_changedFirst (property : α → Bool) (change : α → α) (items : List α) (most : Nat) :
    (changedFirst property change items).take most =
      changedFirst property change (items.take most) := by
  induction items generalizing most with
  | nil => simp
  | cons item rest induction =>
      cases most with
      | zero => simp
      | succ most =>
          by_cases here : property item <;> simp [changedFirst_cons, here, induction]

theorem within_changedFirst (property : α → Bool) (change : α → α) (items : List α)
    (capacity : Option Nat) :
    within capacity (changedFirst property change items) =
      changedFirst property change (within capacity items) := by
  cases capacity with
  | none => rfl
  | some most => exact take_changedFirst property change items most

@[simp] theorem patch_fst (log : BoundedLog α) (property : α → Bool) (change : α → α) :
    (log.patch property change).1 = log.items.any property := by
  rw [← isSome_changeFirst? property change, patch]
  cases changeFirst? property change log.items <;> rfl

@[simp] theorem patch_snd (log : BoundedLog α) (property : α → Bool) (change : α → α) :
    (log.patch property change).2 =
      { log with items := changedFirst property change log.items } := by
  rw [patch, changedFirst]
  cases changeFirst? property change log.items <;> rfl

/-- A log shows what a capacity leaves of another one that forgets nothing. -/
structure Shows (capacity : Option Nat) (seen full : BoundedLog α) : Prop where
  unlimited : full.capacity = none
  seen_eq : seen = ⟨within capacity full.items, capacity⟩

theorem shows_new (capacity : Option Nat) :
    Shows capacity (new capacity : BoundedLog α) (new none) where
  unlimited := rfl
  seen_eq := by cases capacity <;> simp [new, within]

namespace Shows

variable {capacity : Option Nat} {seen full : BoundedLog α}

theorem items (shown : Shows capacity seen full) : seen.items = within capacity full.items := by
  rw [shown.seen_eq]

theorem fits (shown : Shows capacity seen full) :
    seen.capacity = capacity ∧ within seen.capacity seen.items = seen.items := by
  rw [shown.seen_eq]
  exact ⟨rfl, within_within capacity full.items⟩

theorem push (shown : Shows capacity seen full) (item : α) :
    Shows capacity (seen.push item) (full.push item) where
  unlimited := shown.unlimited
  seen_eq := by
    simp only [BoundedLog.push, shown.seen_eq, shown.unlimited, within_none,
      within_cons_within]

theorem patch (shown : Shows capacity seen full) (property : α → Bool) (change : α → α) :
    Shows capacity (seen.patch property change).2 (full.patch property change).2 where
  unlimited := by simpa using shown.unlimited
  seen_eq := by
    simp only [patch_snd, shown.seen_eq, within_changedFirst]

theorem run (shown : Shows capacity seen full) (operations : List (Operation α)) :
    Shows capacity (seen.run operations) (full.run operations) := by
  induction operations generalizing seen full with
  | nil => exact shown
  | cons operation rest induction =>
      cases operation with
      | push item => exact induction (shown.push item)
      | replace property replacement =>
          exact induction (shown.patch property fun _ => replacement)

end Shows

end BoundedLog

namespace Logbook

/-- A logbook shows what its limits leave of another one that forgets nothing. -/
structure Shows (limits : Limits) (seen full : Logbook) : Prop where
  history : BoundedLog.Shows limits.history seen.history full.history
  activity : BoundedLog.Shows limits.activity seen.activity full.activity
  subscriptions : BoundedLog.Shows limits.subscriptions seen.subscriptions full.subscriptions
  standing : seen.standing = full.standing
  generated : seen.generated = full.generated

theorem shows_new (limits : Limits) : Shows limits (new limits) (new .unlimited) where
  history := BoundedLog.shows_new limits.history
  activity := BoundedLog.shows_new limits.activity
  subscriptions := BoundedLog.shows_new limits.subscriptions
  standing := rfl
  generated := rfl

theorem settle_of_no_outcome (logbook : Logbook) (id : String) (status : CallStatus)
    (duration : UInt64) (no_outcome : ¬ (status = .ok ∨ status = .error)) :
    logbook.settle id status duration = (false, logbook) := by
  simp [settle, no_outcome]

theorem settle_of_outcome (logbook : Logbook) (id : String) (status : CallStatus)
    (duration : UInt64) (outcome : status = .ok ∨ status = .error) :
    logbook.settle id status duration =
      (logbook.history.items.any (awaits id),
        { logbook with
          history := { logbook.history with
            items := BoundedLog.changedFirst (awaits id)
              (fun entry => { entry with status, duration := some duration })
              logbook.history.items } }) := by
  simp [settle, outcome]

namespace Shows

variable {limits : Limits} {seen full : Logbook}

theorem draw (shown : Shows limits seen full) :
    seen.draw.1 = full.draw.1 ∧ Shows limits seen.draw.2 full.draw.2 := by
  refine ⟨by simp [Logbook.draw, shown.generated], ?_⟩
  exact ⟨shown.history, shown.activity, shown.subscriptions, shown.standing,
    by simp [Logbook.draw, shown.generated]⟩

theorem attempt (shown : Shows limits seen full) (now : Timestamp) (id : Option String)
    (method : String) (status : CallStatus) (duration : Option UInt64) :
    Shows limits (seen.attempt now id method status duration).2
      (full.attempt now id method status duration).2 := by
  cases id with
  | some id => exact { shown with history := shown.history.push ⟨id, method, status, duration, now⟩ }
  | none =>
      obtain ⟨same_id, drawn⟩ := shown.draw
      simp only [Logbook.attempt, same_id]
      exact { drawn with history := drawn.history.push ⟨full.draw.1, method, status, duration, now⟩ }

theorem settle (shown : Shows limits seen full) (id : String) (status : CallStatus)
    (duration : UInt64) :
    Shows limits (seen.settle id status duration).2 (full.settle id status duration).2 := by
  by_cases outcome : status = .ok ∨ status = .error
  · simp only [Logbook.settle, outcome, if_true]
    exact { shown with history := shown.history.patch _ _ }
  · simpa only [settle_of_no_outcome _ id status duration outcome] using shown

theorem post (shown : Shows limits seen full) (title content : String) (severity : Severity) :
    Shows limits (seen.post title content severity) (full.post title content severity) := by
  obtain ⟨same_id, drawn⟩ := shown.draw
  simp only [Logbook.post, same_id]
  exact { drawn with activity := drawn.activity.push ⟨full.draw.1, title, content, severity⟩ }

theorem subscription (shown : Shows limits seen full) (action : String)
    (subscription : Option String) :
    Shows limits (seen.subscription action subscription)
      (full.subscription action subscription) := by
  obtain ⟨same_id, drawn⟩ := shown.draw
  simp only [Logbook.subscription, same_id]
  exact { drawn with subscriptions := drawn.subscriptions.push ⟨full.draw.1, action, subscription⟩ }

theorem updateStanding (shown : Shows limits seen full) (method : String)
    (update : MethodStanding → MethodStanding) :
    Shows limits (seen.updateStanding method update) (full.updateStanding method update) :=
  { shown with
    standing := by
      simp only [Logbook.updateStanding, Logbook.standing?, shown.standing] }

theorem noteSuccess (shown : Shows limits seen full) (now : Timestamp) (method : String) :
    Shows limits (seen.noteSuccess now method) (full.noteSuccess now method) :=
  shown.updateStanding method _

theorem noteFailure (shown : Shows limits seen full) (now : Timestamp) (method text : String) :
    Shows limits (seen.noteFailure now method text) (full.noteFailure now method text) :=
  shown.updateStanding method _

theorem apply (shown : Shows limits seen full) (operation : Operation) :
    Shows limits (seen.apply operation).2 (full.apply operation).2 := by
  cases operation with
  | attempt now id method status duration => exact shown.attempt now id method status duration
  | settle id status duration => exact shown.settle id status duration
  | post title content severity => exact shown.post title content severity
  | subscription action subscription => exact shown.subscription action subscription
  | noteSuccess now method => exact shown.noteSuccess now method
  | noteFailure now method text => exact shown.noteFailure now method text

theorem run (shown : Shows limits seen full) (operations : List Operation) :
    Shows limits (seen.run operations) (full.run operations) := by
  induction operations generalizing seen full with
  | nil => exact shown
  | cons operation rest induction => exact induction (shown.apply operation)

end Shows

/-- An entry is the newest unfinished call with an id: those in front of it have another id or are
final. -/
structure NewestAwaiting (items : List CallRecord) (id : String) (newer : List CallRecord)
    (entry : CallRecord) (older : List CallRecord) : Prop where
  split : items = newer ++ entry :: older
  id_eq : entry.id = id
  unfinished : entry.status.isFinal = false
  first : ∀ other ∈ newer, other.id = id → other.status.isFinal = true

theorem awaits_eq_false_iff (id : String) (entry : CallRecord) :
    awaits id entry = false ↔ (entry.id = id → entry.status.isFinal = true) := by
  simp [awaits]

namespace NewestAwaiting

variable {items newer older : List CallRecord} {id : String} {entry : CallRecord}

theorem awaits_entry (newest : NewestAwaiting items id newer entry older) :
    awaits id entry = true := by
  simp [awaits, newest.id_eq, newest.unfinished]

theorem newer_lack (newest : NewestAwaiting items id newer entry older) :
    ∀ other ∈ newer, awaits id other = false := fun other member =>
  (awaits_eq_false_iff id other).mpr (newest.first other member)

theorem changedFirst_eq (newest : NewestAwaiting items id newer entry older)
    (change : CallRecord → CallRecord) :
    BoundedLog.changedFirst (awaits id) change items = newer ++ change entry :: older := by
  rw [newest.split]
  exact BoundedLog.changedFirst_append_cons (awaits id) change newer older entry
    newest.newer_lack newest.awaits_entry

/-- A window holds an unfinished entry with the id just if it reaches to the newest one. -/
theorem any_take_iff (newest : NewestAwaiting items id newer entry older) (most : Nat) :
    (items.take most).any (awaits id) = true ↔ newer.length < most := by
  rw [newest.split, List.any_eq_true]
  constructor
  · rintro ⟨other, member, here⟩
    rcases Nat.lt_or_ge newer.length most with reached | beyond
    · exact reached
    · rw [List.take_append_of_le_length beyond] at member
      have lacks := newest.newer_lack other (List.mem_of_mem_take member)
      rw [lacks] at here
      exact absurd here (by decide)
  · intro reached
    refine ⟨entry, ?_, newest.awaits_entry⟩
    obtain ⟨more, most_eq⟩ : ∃ more, most = newer.length + (more + 1) :=
      ⟨most - newer.length - 1, by omega⟩
    simp [most_eq, List.take_append]

end NewestAwaiting

/-- The logs that an operator sees are the newest entries of logs that forget nothing: there every
entry is put in front, and an outcome changes the newest unfinished entry with its id. -/
theorem run_standard_eq_newest (operations : List Operation) :
    let seen := (new .standard).run operations
    let full := (new .unlimited).run operations
    seen.history.items = full.history.items.take 20 ∧
      seen.activity.items = full.activity.items.take 25 ∧
      seen.subscriptions.items = full.subscriptions.items.take 6 ∧
      (∀ id status duration, status ≠ .ok → status ≠ .error →
        full.settle id status duration = (false, full) ∧
          seen.settle id status duration = (false, seen)) ∧
      (∀ id status duration, (status = .ok ∨ status = .error) →
        ((∀ entry ∈ full.history.items, entry.id = id → entry.status.isFinal = true) →
          full.settle id status duration = (false, full) ∧
            seen.settle id status duration = (false, seen)) ∧
        ∀ newer entry older, NewestAwaiting full.history.items id newer entry older →
          full.settle id status duration =
            (true, { full with
              history := { full.history with
                items := newer ++ { entry with status, duration := some duration } :: older } }) ∧
          ((seen.settle id status duration).1 = true ↔ newer.length < 20)) ∧
      (∀ now id method status duration,
        (full.attempt now id method status duration).2.history.items =
          ⟨(full.attempt now id method status duration).1, method, status, duration, now⟩ ::
            full.history.items) ∧
      (∀ title content severity, ∃ id,
        (full.post title content severity).activity.items =
          ⟨id, title, content, severity⟩ :: full.activity.items) ∧
      (∀ action subscription, ∃ id,
        (full.subscription action subscription).subscriptions.items =
          ⟨id, action, subscription⟩ :: full.subscriptions.items) ∧
      (∀ (α : Type) (changes : List (BoundedLog.Operation α)) (item : α),
        ((BoundedLog.new none).run (changes ++ [.push item])).items =
          item :: ((BoundedLog.new none).run changes).items) ∧
      (∀ (α : Type) (capacity : Nat) (changes : List (BoundedLog.Operation α)),
        ((BoundedLog.new (some capacity)).run changes).items =
          ((BoundedLog.new none).run changes).items.take capacity) := by
  intro seen full
  have shown : Shows .standard seen full := (shows_new .standard).run operations
  refine ⟨shown.history.items, shown.activity.items, shown.subscriptions.items, ?_, ?_, ?_,
    fun title content severity => ?_, fun action subscription => ?_, fun α changes item => ?_, ?_⟩
  · intro id status duration not_ok not_error
    have no_outcome : ¬ (status = .ok ∨ status = .error) := by simp [not_ok, not_error]
    exact ⟨settle_of_no_outcome full id status duration no_outcome,
      settle_of_no_outcome seen id status duration no_outcome⟩
  · intro id status duration outcome
    have seen_items : seen.history.items = full.history.items.take 20 := shown.history.items
    rw [settle_of_outcome full id status duration outcome,
      settle_of_outcome seen id status duration outcome]
    constructor
    · intro all_final
      have absent : ∀ entry ∈ full.history.items, awaits id entry = false := fun entry member =>
        (awaits_eq_false_iff id entry).mpr (all_final entry member)
      have seen_absent : ∀ entry ∈ seen.history.items, awaits id entry = false := by
        intro entry member
        rw [seen_items] at member
        exact absent entry (List.mem_of_mem_take member)
      rw [BoundedLog.changedFirst_eq_self _ _ _ absent,
        BoundedLog.changedFirst_eq_self _ _ _ seen_absent, List.any_eq_false.mpr ?_,
        List.any_eq_false.mpr ?_]
      · exact ⟨rfl, rfl⟩
      · simpa using seen_absent
      · simpa using absent
    · intro newer entry older newest
      have found : full.history.items.any (awaits id) = true :=
        List.any_eq_true.mpr ⟨entry, by simp [newest.split], newest.awaits_entry⟩
      refine ⟨by rw [found, newest.changedFirst_eq], ?_⟩
      rw [seen_items]
      exact newest.any_take_iff 20
  · intro now id method status duration
    cases id with
    | some id => exact BoundedLog.items_push_of_unlimited shown.history.unlimited _
    | none => exact BoundedLog.items_push_of_unlimited shown.history.unlimited _
  · exact ⟨_, BoundedLog.items_push_of_unlimited shown.activity.unlimited _⟩
  · exact ⟨_, BoundedLog.items_push_of_unlimited shown.subscriptions.unlimited _⟩
  · have forgets_nothing : ((BoundedLog.new none : BoundedLog α).run changes).capacity = none :=
      ((BoundedLog.shows_new none).run changes).unlimited
    rw [BoundedLog.run, List.foldl_append]
    exact BoundedLog.items_push_of_unlimited forgets_nothing item
  · intro α capacity changes
    exact ((BoundedLog.shows_new (some capacity)).run changes).items

end Logbook

end GatewayLink
