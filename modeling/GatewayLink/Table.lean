/-!
# Tables

A table maps texts to values.  A key keeps the place of its first use.
-/

namespace GatewayLink

/-- A finite map from texts. -/
structure Table (α : Type) where
  entries : List (String × α)
  deriving DecidableEq

namespace Table

variable {α : Type}

/-- No keys at all. -/
def empty : Table α := ⟨[]⟩

instance : Inhabited (Table α) := ⟨empty⟩

/-- The value under a key. -/
def get? (table : Table α) (key : String) : Option α :=
  table.entries.lookup key

/-- The entries with a key bound to a value. -/
def setIn (key : String) (value : α) : List (String × α) → List (String × α)
  | [] => [(key, value)]
  | (other, old) :: rest =>
    if key = other then (key, value) :: rest else (other, old) :: setIn key value rest

/-- Binds a key to a value. -/
def set (table : Table α) (key : String) (value : α) : Table α :=
  ⟨setIn key value table.entries⟩

@[simp] theorem get?_empty (key : String) : (empty : Table α).get? key = none := rfl

theorem lookup_cons (entries : List (String × α)) (key other : String) (value : α) :
    ((key, value) :: entries).lookup other =
      if other = key then some value else entries.lookup other := by
  by_cases same : other = key
  · simp [same]
  · simp [List.lookup_cons, same, beq_eq_false_iff_ne.mpr same]

theorem lookup_setIn (entries : List (String × α)) (key other : String) (value : α) :
    (setIn key value entries).lookup other =
      if other = key then some value else entries.lookup other := by
  induction entries with
  | nil => simp only [setIn, lookup_cons]
  | cons entry rest induction =>
      obtain ⟨first, old⟩ := entry
      by_cases here : key = first
      · subst here
        by_cases same : other = key <;> simp [setIn, lookup_cons, same]
      · by_cases same : other = first
        · subst same
          simp [setIn, here, Ne.symm here]
        · simp [setIn, here, lookup_cons, same, induction]

@[simp] theorem get?_set (table : Table α) (key other : String) (value : α) :
    (table.set key value).get? other = if other = key then some value else table.get? other :=
  lookup_setIn table.entries key other value

end Table

end GatewayLink
