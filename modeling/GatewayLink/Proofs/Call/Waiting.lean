import GatewayLink.Proofs.Call.Spacing

/-!
# Waiting for the next attempt

The time that is left is what an interval still lacks since the method's latest passage, between
nothing and the whole interval.  It is known unless that shortfall exceeds a word, which takes a
clock that has been set back.  An attempt is refused just if some time is left, with one exception:
while the clock stands before the latest passage an attempt without an interval is refused too.
Where the clock has not been set back, every attempt is refused until the time is over, however many
are made, and the first one after it is let through.
-/

namespace GatewayLink

namespace Pacing

variable {pacing : Pacing} {method : String} {start now left : Int64}

/-! ## What an interval lacks -/

/-- What an interval lacks since a passage, as an exact number; negative once it is over. -/
def shortfall (start now gap : Int64) : Int :=
  interval gap - (now.toInt - start.toInt)

theorem interval_nonneg (gap : Int64) : 0 ≤ interval gap :=
  Int.le_max_right ..

theorem interval_le (gap : Int64) : interval gap ≤ 9223372036854775807 := by
  have fits : gap.toInt ≤ 9223372036854775807 := gap.toInt_le
  simp only [interval]
  omega

theorem difference_fits_iff (start now gap : Int64) :
    interval gap - elapsed start now ≤ wordRange.2 ↔ shortfall start now gap ≤ wordRange.2 := by
  have nonneg := interval_nonneg gap
  have fits := interval_le gap
  simp only [shortfall, elapsed, wordRange]
  omega

theorem difference_within (start now gap : Int64) :
    max 0 (min (interval gap - elapsed start now) (interval gap)) =
      max 0 (min (shortfall start now gap) (interval gap)) := by
  have nonneg := interval_nonneg gap
  have fits := interval_le gap
  simp only [shortfall, elapsed, wordRange]
  omega

theorem timeLeft?_eq_some_iff (known : pacing.last? method = some start) (now gap left : Int64) :
    pacing.timeLeft? method now gap = some left ↔
      shortfall start now gap ≤ wordRange.2 ∧
        left.toInt = max 0 (min (shortfall start now gap) (interval gap)) := by
  simp only [timeLeft?, known, difference_fits_iff, difference_within,
    Option.ite_none_right_eq_some, Option.some.injEq]
  refine and_congr_right fun _ => ?_
  have nonneg := interval_nonneg gap
  have fits := interval_le gap
  rw [← Int64.toInt_inj, Int64.toInt_ofInt_of_le (by omega) (by omega), eq_comm]

theorem exists_timeLeft? (known : pacing.last? method = some start) {now gap : Int64}
    (fits : shortfall start now gap ≤ wordRange.2) :
    ∃ left, pacing.timeLeft? method now gap = some left := by
  have nonneg := interval_nonneg gap
  have interval_fits := interval_le gap
  refine ⟨_, (timeLeft?_eq_some_iff known now gap _).2 ⟨fits, Int64.toInt_ofInt_of_le ?_ ?_⟩⟩
  · omega
  · omega

@[simp]
theorem timeLeft?_of_last?_eq_none (unknown : pacing.last? method = none) (now gap : Int64) :
    pacing.timeLeft? method now gap = some 0 := by
  simp [timeLeft?, unknown]

theorem admits_of_last?_eq_none (unknown : pacing.last? method = none) (now gap : Int64) :
    pacing.admits method now gap = true := by
  simp [admits, unknown]

theorem admits_iff_shortfall (known : pacing.last? method = some start) (now gap : Int64) :
    pacing.admits method now gap = true ↔ shortfall start now gap ≤ 0 := by
  simp only [admits_iff, known, Option.some.injEq, forall_eq', shortfall]
  omega

theorem admits_eq_false_iff_shortfall (known : pacing.last? method = some start)
    (now gap : Int64) : pacing.admits method now gap = false ↔ 0 < shortfall start now gap := by
  rw [← Bool.not_eq_true, admits_iff_shortfall known, Int.not_le]

theorem shortfall_le_interval (forward : start ≤ now) (gap : Int64) :
    shortfall start now gap ≤ interval gap := by
  have later : start.toInt ≤ now.toInt := Int64.le_iff_toInt_le.mp forward
  simp only [shortfall]
  omega

theorem exists_timeLeft?_of_forward (known : pacing.last? method = some start)
    (forward : start ≤ now) (gap : Int64) : ∃ left, pacing.timeLeft? method now gap = some left :=
  exists_timeLeft? known (Int.le_trans (shortfall_le_interval forward gap) (interval_le gap))

/-! ## How much time is left -/

/-- What an interval lacks since the method's latest passage, if there is one, fits a word. -/
def ShortfallFits (pacing : Pacing) (method : String) (now gap : Int64) : Prop :=
  ∀ start, pacing.last? method = some start → shortfall start now gap ≤ wordRange.2

theorem not_shortfallFits_of_timeLeft?_eq_none {gap : Int64}
    (overflow : pacing.timeLeft? method now gap = none) :
    ¬ pacing.ShortfallFits method now gap := by
  intro fits
  cases known : pacing.last? method with
  | none => simp [known] at overflow
  | some start =>
      obtain ⟨left, computed⟩ := exists_timeLeft? known (fits start known)
      simp [overflow] at computed

/-- Where the shortfall fits a word, the time that is left is known and lies between nothing and the
interval; elsewhere it is not known. -/
theorem time_left_is_within_interval (pacing : Pacing) (method : String) (now gap : Int64) :
    (pacing.ShortfallFits method now gap →
      ∃ left, pacing.timeLeft? method now gap = some left ∧
        0 ≤ left.toInt ∧ left.toInt ≤ max gap.toInt 0) ∧
    (¬ pacing.ShortfallFits method now gap → pacing.timeLeft? method now gap = none) := by
  cases known : pacing.last? method with
  | none =>
      have fits : pacing.ShortfallFits method now gap := by simp [ShortfallFits, known]
      exact ⟨fun _ => ⟨0, by simp [known], Int.le_refl 0, Int.le_max_right ..⟩, (absurd fits ·)⟩
  | some start =>
      have fits_iff : pacing.ShortfallFits method now gap ↔ shortfall start now gap ≤ wordRange.2 := by
        simp [ShortfallFits, known]
      rw [fits_iff]
      refine ⟨fun fits => ?_, fun exceeds => Option.eq_none_iff_forall_ne_some.mpr ?_⟩
      · obtain ⟨left, computed⟩ := exists_timeLeft? known fits
        obtain ⟨-, left_eq⟩ := (timeLeft?_eq_some_iff known now gap left).1 computed
        have nonneg := interval_nonneg gap
        refine ⟨left, computed, ?_, ?_⟩
        · omega
        · change left.toInt ≤ interval gap
          omega
      · intro left computed
        exact exceeds ((timeLeft?_eq_some_iff known now gap left).1 computed).1

/-- One millisecond before the latest passage the greatest interval but one can still be told, as a
whole; the greatest cannot. -/
theorem time_left_up_to_greatest_word :
    let pacing := new.run [.attempt "feeds.list" 5 1]
    (pacing.ShortfallFits "feeds.list" 4 9223372036854775806 ∧
      ∃ left, pacing.timeLeft? "feeds.list" 4 9223372036854775806 = some left ∧
        0 ≤ left.toInt ∧ left.toInt ≤ 9223372036854775806) ∧
    ¬ pacing.ShortfallFits "feeds.list" 4 9223372036854775807 ∧
      pacing.timeLeft? "feeds.list" 4 9223372036854775807 = none := by
  intro pacing
  have known : pacing.last? "feeds.list" = some 5 := by decide
  have fits : pacing.ShortfallFits "feeds.list" 4 9223372036854775806 := by
    simp only [ShortfallFits, known, Option.some.injEq, forall_eq']
    decide
  have exceeds : ¬ pacing.ShortfallFits "feeds.list" 4 9223372036854775807 := by
    simp only [ShortfallFits, known, Option.some.injEq, forall_eq']
    decide
  exact ⟨⟨fits, (time_left_is_within_interval pacing "feeds.list" 4 9223372036854775806).1 fits⟩,
    exceeds, (time_left_is_within_interval pacing "feeds.list" 4 9223372036854775807).2 exceeds⟩

/-- After a passage at 5 the time left of the greatest interval is not known at 4. -/
theorem time_left_exceeds_word :
    (new.run [.attempt "feeds.list" 5 1]).timeLeft? "feeds.list" 4 9223372036854775807 = none := by
  decide

/-! ## Refusals and the time left -/

/-- The clock stands before the method's latest passage. -/
def IsSetBack (pacing : Pacing) (method : String) (now : Int64) : Prop :=
  ∃ start, pacing.last? method = some start ∧ now < start

/-- An attempt is refused just if some time is left, unless it asks for no interval and the clock
stands before the latest passage; without an interval it is refused in that case and in no other. -/
theorem refused_iff_time_left (pacing : Pacing) (method : String) (now gap : Int64) :
    (∀ left, pacing.timeLeft? method now gap = some left →
      0 < gap ∨ ¬ pacing.IsSetBack method now →
        ((pacing.attempt method now gap).1 = false ↔ 0 < left)) ∧
    (gap ≤ 0 → ((pacing.attempt method now gap).1 = false ↔ pacing.IsSetBack method now)) := by
  rw [attempt_fst]
  cases known : pacing.last? method with
  | none =>
      have admitted := admits_of_last?_eq_none known now gap
      have forward : ¬ pacing.IsSetBack method now := by simp [IsSetBack, known]
      refine ⟨fun left computed _ => ?_, fun _ => by simp [admitted, forward]⟩
      obtain rfl : 0 = left := by simpa [known] using computed
      simp [admitted]
  | some start =>
      have set_back_iff : pacing.IsSetBack method now ↔ now.toInt < start.toInt := by
        simp [IsSetBack, known, Int64.lt_iff_toInt_lt]
      have positive_iff (word : Int64) : 0 < word ↔ 0 < word.toInt := Int64.lt_iff_toInt_lt
      have nonpositive_iff (word : Int64) : word ≤ 0 ↔ word.toInt ≤ 0 := Int64.le_iff_toInt_le
      rw [admits_eq_false_iff_shortfall known, set_back_iff]
      constructor
      · intro left computed apart
        obtain ⟨-, left_eq⟩ := (timeLeft?_eq_some_iff known now gap left).1 computed
        rw [positive_iff] at apart ⊢
        simp only [shortfall, interval] at left_eq ⊢
        omega
      · intro no_interval
        rw [nonpositive_iff] at no_interval
        simp only [shortfall, interval]
        omega

/-- A clock that was set back to before the latest passage, with an interval to keep. -/
theorem refused_iff_time_left_of_set_back :
    let pacing := new.run [.attempt "feeds.list" 500 100]
    pacing.timeLeft? "feeds.list" 400 100 = some 100 ∧ (0 : Int64) < 100 ∧
      ((pacing.attempt "feeds.list" 400 100).1 = false ↔ (0 : Int64) < 100) ∧
    (-5 : Int64) ≤ 0 ∧
      ((pacing.attempt "feeds.list" 400 (-5)).1 = false ↔ pacing.IsSetBack "feeds.list" 400) := by
  intro pacing
  have computed : pacing.timeLeft? "feeds.list" 400 100 = some 100 := by decide
  exact ⟨computed, by decide,
    (refused_iff_time_left pacing "feeds.list" 400 100).1 100 computed (.inl (by decide)), by decide,
    (refused_iff_time_left pacing "feeds.list" 400 (-5)).2 (by decide)⟩

/-- After a passage at 500 an attempt without an interval is refused at 400, with no time left. -/
theorem refused_without_time_left :
    let pacing := new.run [.attempt "feeds.list" 500 100]
    pacing.timeLeft? "feeds.list" 400 0 = some 0 ∧
      (pacing.attempt "feeds.list" 400 0).1 = false := by
  decide

/-! ## Until the time is over -/

/-- An operation, if it is an attempt at the method, is one with the given interval and made before
the time that was left at some point is over. -/
def Operation.IsWithin (method : String) (gap now left : Int64) : Operation → Prop
  | .attempt attempted time asked =>
    attempted = method →
      asked = gap ∧ now.toInt ≤ time.toInt ∧ time.toInt < now.toInt + left.toInt
  | .timeLeft .. | .last _ => True

instance (method : String) (gap now left : Int64) :
    (operation : Operation) → Decidable (operation.IsWithin method gap now left)
  | .attempt .. => inferInstanceAs (Decidable (_ → _))
  | .timeLeft .. | .last _ => .isTrue trivial

/-- An attempt within a time that is no more than what the interval lacks is refused. -/
theorem passage?_eq_none_of_isWithin {gap : Int64} {operation : Operation}
    (known : pacing.last? method = some start)
    (lacking : left.toInt ≤ max 0 (shortfall start now gap))
    (within : operation.IsWithin method gap now left) :
    pacing.passage? method operation = none := by
  cases operation with
  | attempt attempted time asked =>
      by_cases here : attempted = method
      · subst here
        obtain ⟨rfl, not_before, not_over⟩ := within rfl
        have refused : pacing.admits attempted time asked = false := by
          rw [admits_eq_false_iff_shortfall known]
          simp only [shortfall] at lacking ⊢
          omega
        simp [passage?, refused]
      · simp [passage?, here]
  | timeLeft attempted time asked => rfl
  | last asked => rfl

theorem eq_false_of_mem_decision? {operation : Operation} {decision : Bool}
    (refused : pacing.passage? method operation = none)
    (decided : decision ∈ pacing.decision? method operation) : decision = false := by
  cases operation with
  | attempt attempted time asked =>
      simp only [decision?, Option.mem_def, Option.ite_none_right_eq_some,
        Option.some.injEq] at decided
      obtain ⟨here, rfl⟩ := decided
      simpa [passage?, here] using refused
  | timeLeft attempted time asked => simp [decision?] at decided
  | last asked => simp [decision?] at decided

/-- Attempts within such a time are all refused, and leave the latest passage what it was. -/
theorem refused_while_time_is_left {gap : Int64} {operations : List Operation}
    (known : pacing.last? method = some start)
    (lacking : left.toInt ≤ max 0 (shortfall start now gap))
    (within : ∀ operation ∈ operations, operation.IsWithin method gap now left) :
    (∀ decision ∈ pacing.decisions method operations, decision = false) ∧
      (pacing.run operations).last? method = some start := by
  -- Other methods' attempts may be let through meanwhile, so only this method's passage is carried.
  induction operations generalizing pacing with
  | nil => exact ⟨by simp [decisions], known⟩
  | cons operation rest induction =>
      have refused := passage?_eq_none_of_isWithin known lacking (within operation (by simp))
      have still_known : (pacing.apply operation).2.last? method = some start := by
        simp [last?_apply, refused, known]
      obtain ⟨rest_refused, known_after⟩ :=
        induction still_known fun later member => within later (List.mem_cons_of_mem _ member)
      refine ⟨fun decision member => ?_, known_after⟩
      rcases List.mem_append.mp member with first | later
      · exact eq_false_of_mem_decision? refused (Option.mem_toList.mp first)
      · exact rest_refused decision later

/-- Where the clock has not been set back, every attempt before the time that is left is over is
refused, and one at its very end is let through. -/
theorem time_left_is_least_wait (known : pacing.last? method = some start) (forward : start ≤ now)
    (gap : Int64) :
    ∃ left, pacing.timeLeft? method now gap = some left ∧
      ∀ operations, (∀ operation ∈ operations, operation.IsWithin method gap now left) →
        (∀ decision ∈ pacing.decisions method operations, decision = false) ∧
        ∀ later : Int64, later.toInt = now.toInt + left.toInt →
          ((pacing.run operations).attempt method later gap).1 = true := by
  obtain ⟨left, computed⟩ := exists_timeLeft?_of_forward known forward gap
  have left_eq : left.toInt = max 0 (shortfall start now gap) := by
    rw [((timeLeft?_eq_some_iff known now gap left).1 computed).2,
      Int.min_eq_left (shortfall_le_interval forward gap)]
  refine ⟨left, computed, fun operations within => ?_⟩
  obtain ⟨refused, known_after⟩ :=
    refused_while_time_is_left known (Int.le_of_eq left_eq) within
  refine ⟨refused, fun later at_end => ?_⟩
  rw [attempt_fst, admits_iff_shortfall known_after]
  simp only [shortfall] at left_eq ⊢
  omega

/-- After a passage at 1000, with 300 of 500 milliseconds left at 1200, an attempt at 1499 is refused
and one at 1500 is let through. -/
theorem time_left_is_least_wait_of_three_hundred :
    let pacing := new.run [.attempt "feeds.list" 1000 500]
    let retries := [.attempt "feeds.list" 1200 500, .attempt "feeds.get" 1300 500,
      .attempt "feeds.list" 1499 500]
    pacing.last? "feeds.list" = some 1000 ∧ (1000 : Int64) ≤ 1200 ∧
      pacing.timeLeft? "feeds.list" 1200 500 = some 300 ∧
      (∀ operation ∈ retries, operation.IsWithin "feeds.list" 500 1200 300) ∧
      pacing.decisions "feeds.list" retries = [false, false] ∧
      (∀ decision ∈ pacing.decisions "feeds.list" retries, decision = false) ∧
      ((pacing.run retries).attempt "feeds.list" 1500 500).1 = true := by
  intro pacing retries
  have known : pacing.last? "feeds.list" = some 1000 := by decide
  have forward : (1000 : Int64) ≤ 1200 := by decide
  have computed : pacing.timeLeft? "feeds.list" 1200 500 = some 300 := by decide
  have within : ∀ operation ∈ retries, operation.IsWithin "feeds.list" 500 1200 300 := by decide
  obtain ⟨left, left_eq, waits⟩ := time_left_is_least_wait known forward 500
  obtain rfl : 300 = left := Option.some.inj (computed.symm.trans left_eq)
  obtain ⟨refused, admitted⟩ := waits retries within
  exact ⟨known, forward, computed, within, by decide, refused, admitted 1500 (by decide)⟩

end Pacing

end GatewayLink
