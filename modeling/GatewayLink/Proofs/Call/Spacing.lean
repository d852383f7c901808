import Mathlib.Data.List.Chain
import Mathlib.Data.List.Induction
import GatewayLink.Call.Pacing

/-!
# The spacing of attempts

Whether an attempt is let through depends on its method's latest passage and on nothing else.  The
time since then is compared as an exact number, although it is held within a word.  So the passages
of a method keep the intervals that were asked for, whatever the clock does, and they alone decide
on the attempts to come.
-/

namespace GatewayLink

namespace Pacing

variable {pacing other : Pacing} {method : String}

/-! ## One attempt -/

/-- An interval lies within a word, so a difference that is cut off compares as the exact one. -/
theorem interval_le_elapsed_iff (gap start now : Int64) :
    interval gap ≤ elapsed start now ↔ interval gap ≤ now.toInt - start.toInt := by
  have fits : gap.toInt < 2 ^ 63 := gap.toInt_lt
  simp only [interval, elapsed, wordRange]
  omega

theorem admits_iff (pacing : Pacing) (method : String) (now gap : Int64) :
    pacing.admits method now gap = true ↔
      ∀ start, pacing.last? method = some start → interval gap ≤ now.toInt - start.toInt := by
  cases known : pacing.last? method with
  | none => simp [admits, known]
  | some start => simp [admits, known, interval_le_elapsed_iff]

/-- An attempt that was let through. -/
structure Passage where
  now : Int64
  gap : Int64

/-- The operation that makes an attempt like one that was let through. -/
def Passage.again (passage : Passage) (method : String) : Operation :=
  .attempt method passage.now passage.gap

/-- The answer to an attempt at a method. -/
def decision? (pacing : Pacing) (method : String) : Operation → Option Bool
  | .attempt attempted now gap =>
    if attempted = method then some (pacing.attempt attempted now gap).1 else none
  | .timeLeft .. | .last _ => none

/-- The passage of a method on an operation. -/
def passage? (pacing : Pacing) (method : String) : Operation → Option Passage
  | .attempt attempted now gap =>
    if attempted = method ∧ (pacing.attempt attempted now gap).1 = true then some ⟨now, gap⟩
    else none
  | .timeLeft .. | .last _ => none

/-- The time that is kept for a method is that of its latest passage. -/
theorem last?_apply (pacing : Pacing) (method : String) (operation : Operation) :
    (pacing.apply operation).2.last? method =
      ((pacing.passage? method operation).map Passage.now).or (pacing.last? method) := by
  cases operation with
  | attempt attempted now gap =>
      simp only [apply, last?_attempt, passage?, attempt_fst]
      by_cases passes : attempted = method ∧ pacing.admits attempted now gap = true
      · obtain ⟨rfl, admitted⟩ := passes
        simp [admitted]
      · rw [if_neg passes, if_neg fun passed => passes ⟨passed.2.symm, passed.1⟩]
        rfl
  | timeLeft attempted now gap =>
      simp only [apply, passage?]
      split <;> rfl
  | last asked => rfl

theorem interval_le_of_passage? {operation : Operation} {passage : Passage} {start : Int64}
    (passed : pacing.passage? method operation = some passage)
    (known : pacing.last? method = some start) :
    interval passage.gap ≤ passage.now.toInt - start.toInt := by
  cases operation with
  | attempt attempted now gap =>
      simp only [passage?, attempt_fst, Option.ite_none_right_eq_some, Option.some.injEq] at passed
      obtain ⟨⟨rfl, admitted⟩, rfl⟩ := passed
      exact (admits_iff pacing attempted now gap).mp admitted start known
  | timeLeft attempted now gap => simp [passage?] at passed
  | last asked => simp [passage?] at passed

theorem decision?_congr (same : pacing.last? method = other.last? method) (operation : Operation) :
    pacing.decision? method operation = other.decision? method operation := by
  cases operation with
  | attempt attempted now gap =>
      by_cases here : attempted = method
      · subst here
        simp [decision?, admits, same]
      · simp [decision?, here]
  | timeLeft attempted now gap => rfl
  | last asked => rfl

theorem passage?_congr (same : pacing.last? method = other.last? method) (operation : Operation) :
    pacing.passage? method operation = other.passage? method operation := by
  cases operation with
  | attempt attempted now gap =>
      by_cases here : attempted = method
      · subst here
        simp [passage?, admits, same]
      · simp [passage?, here]
  | timeLeft attempted now gap => rfl
  | last asked => rfl

/-- An attempt like one that was let through is let through by a guard that knows the same. -/
theorem passage?_again {operation : Operation} {passage : Passage}
    (passed : pacing.passage? method operation = some passage) :
    pacing.passage? method (passage.again method) = some passage := by
  cases operation with
  | attempt attempted now gap =>
      simp only [passage?, Option.ite_none_right_eq_some, Option.some.injEq] at passed
      obtain ⟨⟨rfl, admitted⟩, rfl⟩ := passed
      simp only [Passage.again, passage?, admitted, and_self, if_true]
  | timeLeft attempted now gap => simp [passage?] at passed
  | last asked => simp [passage?] at passed

/-! ## Sequences of attempts -/

/-- The passages of a method along a sequence of operations, oldest first. -/
def passages (pacing : Pacing) (method : String) : List Operation → List Passage
  | [] => []
  | operation :: rest =>
    (pacing.passage? method operation).toList ++ (pacing.apply operation).2.passages method rest

/-- The answers to the attempts at a method along a sequence of operations. -/
def decisions (pacing : Pacing) (method : String) : List Operation → List Bool
  | [] => []
  | operation :: rest =>
    (pacing.decision? method operation).toList ++ (pacing.apply operation).2.decisions method rest

theorem run_append_singleton (pacing : Pacing) (before : List Operation) (operation : Operation) :
    pacing.run (before ++ [operation]) = ((pacing.run before).apply operation).2 :=
  List.foldl_append ..

theorem passages_append_singleton (pacing : Pacing) (method : String) (before : List Operation)
    (operation : Operation) :
    pacing.passages method (before ++ [operation]) =
      pacing.passages method before ++ ((pacing.run before).passage? method operation).toList := by
  induction before generalizing pacing with
  | nil => simp [passages, run]
  | cons first rest induction =>
      rw [List.cons_append, passages, passages, induction, List.append_assoc]
      rfl

theorem last?_run (method : String) (operations : List Operation) :
    (new.run operations).last? method =
      (new.passages method operations).getLast?.map Passage.now := by
  induction operations using List.reverseRecOn with
  | nil => rfl
  | append_singleton before operation induction =>
      rw [run_append_singleton, passages_append_singleton, last?_apply, induction,
        List.getLast?_append, Option.map_or]
      cases (new.run before).passage? method operation <;> rfl

/-- Each passage keeps its interval from the one before it. -/
theorem isChain_passages (method : String) (operations : List Operation) :
    (new.passages method operations).IsChain fun earlier later =>
      interval later.gap ≤ later.now.toInt - earlier.now.toInt := by
  induction operations using List.reverseRecOn with
  | nil => exact .nil
  | append_singleton before operation induction =>
      rw [passages_append_singleton]
      cases passed : (new.run before).passage? method operation with
      | none => simpa using induction
      | some passage =>
          refine List.isChain_append.mpr ⟨induction, .singleton _, ?_⟩
          intro latest is_latest later is_later
          obtain rfl : passage = later := by simpa using is_later
          refine interval_le_of_passage? passed ?_
          rw [last?_run, is_latest]
          rfl

theorem pairwise_passages (method : String) (operations : List Operation) :
    ((new.passages method operations).map fun passage => passage.now.toInt).Pairwise (· ≤ ·) := by
  refine List.isChain_iff_pairwise.mp ((List.isChain_map _).mpr ?_)
  refine (isChain_passages method operations).imp fun earlier later apart => ?_
  have nonneg : 0 ≤ interval later.gap := Int.le_max_right ..
  omega

/-- The passages of a method, made again by themselves, leave the same time. -/
theorem last?_run_again (method : String) (operations : List Operation) :
    (new.run ((new.passages method operations).map (·.again method))).last? method =
      (new.run operations).last? method := by
  induction operations using List.reverseRecOn with
  | nil => rfl
  | append_singleton before operation induction =>
      rw [passages_append_singleton, run_append_singleton, last?_apply, List.map_append]
      cases passed : (new.run before).passage? method operation with
      | none => simpa using induction
      | some passage =>
          -- The shorter run knows the same time, so it lets the same attempt through.
          have again := passage?_again passed
          rw [← passage?_congr induction] at again
          simp [run_append_singleton, last?_apply, again]

/-- Two guards that know the same of a method decide alike on all attempts to come. -/
theorem decisions_congr (same : pacing.last? method = other.last? method)
    (later : List Operation) : pacing.decisions method later = other.decisions method later := by
  induction later generalizing pacing other with
  | nil => rfl
  | cons operation rest induction =>
      have next : (pacing.apply operation).2.last? method =
          (other.apply operation).2.last? method := by
        rw [last?_apply, last?_apply, passage?_congr same, same]
      rw [decisions, decisions, decision?_congr same, induction next]

/-- An attempt is let through just if the exact time since the latest passage of its method is no
less than the interval. -/
theorem attempts_are_spaced (operations : List Operation) (method : String) :
    let pacing := new.run operations
    let passages := new.passages method operations
    (∀ now gap, (pacing.attempt method now gap).1 = true ↔
      passages = [] ∨ ∃ latest, passages.getLast? = some latest ∧
        max gap.toInt 0 ≤ now.toInt - latest.now.toInt) ∧
    (passages.map fun passage => passage.now.toInt).Pairwise (· ≤ ·) ∧
    (passages.IsChain fun earlier later =>
      max later.gap.toInt 0 ≤ later.now.toInt - earlier.now.toInt) ∧
    ∀ later, pacing.decisions method later =
      (new.run (passages.map (·.again method))).decisions method later := by
  intro pacing passages
  refine ⟨fun now gap => ?_, pairwise_passages method operations,
    isChain_passages method operations,
    decisions_congr (last?_run_again method operations).symm⟩
  have known : pacing.last? method = passages.getLast?.map Passage.now :=
    last?_run method operations
  rw [attempt_fst, admits_iff, known]
  cases found : passages.getLast? with
  | none => simp [List.getLast?_eq_none_iff.mp found]
  | some latest =>
      have some_passed : passages ≠ [] := by
        rintro none_passed
        simp [none_passed] at found
      simp [some_passed, interval]

end Pacing

end GatewayLink
