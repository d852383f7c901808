import GatewayLink.Table

/-!
# Least intervals between calls

For each method the time is kept of the last attempt that was let through.  An attempt is let
through unless too little time has passed since then.  Times are signed 64-bit milliseconds of
a clock that may be set back, and an interval may be any such number; negative ones count as zero.
-/

namespace GatewayLink

/-- The last accepted attempt of each method, in milliseconds. -/
structure Pacing where
  accepted : Table Int64
  deriving DecidableEq

namespace Pacing

/-- Nothing has been attempted yet. -/
def new : Pacing := ⟨.empty⟩

/-- The least and the greatest number of milliseconds that a word holds. -/
def wordRange : Int × Int := (-9223372036854775808, 9223372036854775807)

/-- The time from one point to another, held within a word. -/
def elapsed (start now : Int64) : Int :=
  max wordRange.1 (min (now.toInt - start.toInt) wordRange.2)

/-- The interval that is asked for; a negative one is none. -/
def interval (gap : Int64) : Int :=
  max gap.toInt 0

/-- The time of the last accepted attempt. -/
def last? (pacing : Pacing) (method : String) : Option Int64 :=
  pacing.accepted.get? method

/-- Whether an attempt would be let through. -/
def admits (pacing : Pacing) (method : String) (now gap : Int64) : Bool :=
  match pacing.last? method with
  | none => true
  | some start => interval gap ≤ elapsed start now

/-- Makes an attempt; a refused one leaves no trace. -/
def attempt (pacing : Pacing) (method : String) (now gap : Int64) : Bool × Pacing :=
  if pacing.admits method now gap then (true, ⟨pacing.accepted.set method now⟩) else (false, pacing)

@[simp] theorem last?_new (method : String) : new.last? method = none := rfl

@[simp] theorem attempt_fst (pacing : Pacing) (method : String) (now gap : Int64) :
    (pacing.attempt method now gap).1 = pacing.admits method now gap := by
  unfold attempt
  split <;> simp_all

/-- An attempt that is let through sets the time of its own method; no other time changes. -/
theorem last?_attempt (pacing : Pacing) (method other : String) (now gap : Int64) :
    (pacing.attempt method now gap).2.last? other =
      if pacing.admits method now gap ∧ other = method then some now else pacing.last? other := by
  by_cases admitted : pacing.admits method now gap
  · simp [attempt, admitted, last?]
  · simp [attempt, admitted]

/-- The time until an attempt would be let through: what is left of the interval, between zero and
the whole of it.  Nothing where the difference does not fit a word. -/
def timeLeft? (pacing : Pacing) (method : String) (now gap : Int64) : Option Int64 :=
  match pacing.last? method with
  | none => some 0
  | some start =>
    let left := interval gap - elapsed start now
    if left ≤ wordRange.2 then some (Int64.ofInt (max 0 (min left (interval gap)))) else none

/-- What can be asked. -/
inductive Operation where
  | attempt (method : String) (now gap : Int64)
  | timeLeft (method : String) (now gap : Int64)
  | last (method : String)

/-- The answer to an operation. -/
inductive Outcome where
  | attempted (accepted : Bool) (last : Option Int64)
  | timeLeft (milliseconds : Int64)
  /-- The remaining time does not fit a word. -/
  | overflow
  | last (time : Option Int64)
  deriving DecidableEq

/-- Carries out an operation. -/
def apply (pacing : Pacing) : Operation → Outcome × Pacing
  | .attempt method now gap =>
    let (accepted, after) := pacing.attempt method now gap
    (.attempted accepted (after.last? method), after)
  | .timeLeft method now gap =>
    match pacing.timeLeft? method now gap with
    | some milliseconds => (.timeLeft milliseconds, pacing)
    | none => (.overflow, pacing)
  | .last method => (.last (pacing.last? method), pacing)

/-- What is kept after a sequence of operations. -/
def run (pacing : Pacing) (operations : List Operation) : Pacing :=
  operations.foldl (fun pacing operation => (pacing.apply operation).2) pacing

end Pacing

end GatewayLink
