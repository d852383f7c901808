/-!
# Bounded logs

A log lists its entries newest first and forgets the oldest ones beyond its capacity.  A log
without a capacity forgets nothing.
-/

namespace GatewayLink

/-- A log, newest entry first. -/
structure BoundedLog (α : Type) where
  items : List α
  /-- The greatest number of entries; nothing where there is no limit. -/
  capacity : Option Nat
  deriving DecidableEq

namespace BoundedLog

variable {α : Type}

/-- An empty log. -/
def new (capacity : Option Nat) : BoundedLog α := ⟨[], capacity⟩

/-- The entries that a capacity leaves. -/
def within (capacity : Option Nat) (items : List α) : List α :=
  match capacity with
  | none => items
  | some most => items.take most

/-- Puts an entry in front. -/
def push (log : BoundedLog α) (item : α) : BoundedLog α :=
  { log with items := within log.capacity (item :: log.items) }

@[simp] theorem items_new (capacity : Option Nat) : (new capacity : BoundedLog α).items = [] := rfl

@[simp] theorem capacity_push (log : BoundedLog α) (item : α) :
    (log.push item).capacity = log.capacity := rfl

theorem items_push_of_unlimited {log : BoundedLog α} (unlimited : log.capacity = none) (item : α) :
    (log.push item).items = item :: log.items := by
  rw [push, unlimited]
  rfl

@[simp] theorem within_none (items : List α) : within none items = items := rfl

/-- Only what a capacity leaves counts for what it leaves after an entry was put in front. -/
theorem within_cons_within (capacity : Option Nat) (item : α) (items : List α) :
    within capacity (item :: within capacity items) = within capacity (item :: items) := by
  cases capacity with
  | none => rfl
  | some most =>
      cases most with
      | zero => rfl
      | succ most => simp [within, List.take_take]

/-- Changes the first entry with a property; nothing where there is none. -/
def changeFirst? (property : α → Bool) (change : α → α) : List α → Option (List α)
  | [] => none
  | item :: rest =>
    if property item then some (change item :: rest)
    else (changeFirst? property change rest).map (item :: ·)

theorem isSome_changeFirst? (property : α → Bool) (change : α → α) (items : List α) :
    (changeFirst? property change items).isSome = items.any property := by
  induction items with
  | nil => rfl
  | cons item rest induction =>
      by_cases here : property item <;> simp [changeFirst?, here, induction]

/-- Changes the newest entry with a property; whether there is one. -/
def patch (log : BoundedLog α) (property : α → Bool) (change : α → α) : Bool × BoundedLog α :=
  match changeFirst? property change log.items with
  | some items => (true, { log with items })
  | none => (false, log)

/-- What can be done to a log. -/
inductive Operation (α : Type) where
  | push (item : α)
  /-- Puts another item in place of the newest one with a property. -/
  | replace (property : α → Bool) (replacement : α)

/-- Carries out an operation. -/
def apply (log : BoundedLog α) : Operation α → BoundedLog α
  | .push item => log.push item
  | .replace property replacement => (log.patch property fun _ => replacement).2

/-- The log after a sequence of operations. -/
def run (log : BoundedLog α) (operations : List (Operation α)) : BoundedLog α :=
  operations.foldl apply log

end BoundedLog

end GatewayLink
