import GatewayLink.Numeral.Double

/-!
# JSON values

Integers of 64 bits, signed or unsigned, are kept exactly; every other number is a binary64 number.
The members of an object are listed in the order in which they are written.  A value that was read
from a text lists them by key, each key once: it is `Json.Canonical`.
-/

namespace GatewayLink

namespace Json

/-- An integer that a signed or an unsigned 64-bit word can hold. -/
abbrev Integer :=
  { value : Int // -9223372036854775808 ≤ value ∧ value < 18446744073709551616 }

/-- A JSON number. -/
inductive Number where
  | integer (value : Integer)
  | double (value : Double)
  deriving DecidableEq

end Json

/-- A JSON value. -/
inductive Json where
  | null
  | bool (value : Bool)
  | number (value : Json.Number)
  | string (value : String)
  | array (elements : List Json)
  | object (members : List (String × Json))

namespace Json

instance : Inhabited Json := ⟨.null⟩

/-- The integer of a machine word. -/
def Integer.ofInt? (value : Int) : Option Integer :=
  if range : -9223372036854775808 ≤ value ∧ value < 18446744073709551616 then some ⟨value, range⟩
  else none

mutual

/-- Equality of values is decidable. -/
def decEq : (left right : Json) → Decidable (left = right)
  | .null, .null => isTrue rfl
  | .bool left, .bool right =>
    if same : left = right then isTrue (congrArg _ same)
    else isFalse fun equal => same (Json.bool.inj equal)
  | .number left, .number right =>
    if same : left = right then isTrue (congrArg _ same)
    else isFalse fun equal => same (Json.number.inj equal)
  | .string left, .string right =>
    if same : left = right then isTrue (congrArg _ same)
    else isFalse fun equal => same (Json.string.inj equal)
  | .array left, .array right =>
    match decEqElements left right with
    | isTrue same => isTrue (congrArg _ same)
    | isFalse different => isFalse fun equal => different (Json.array.inj equal)
  | .object left, .object right =>
    match decEqMembers left right with
    | isTrue same => isTrue (congrArg _ same)
    | isFalse different => isFalse fun equal => different (Json.object.inj equal)
  | .null, .bool _ | .null, .number _ | .null, .string _ | .null, .array _ | .null, .object _
  | .bool _, .null | .bool _, .number _ | .bool _, .string _ | .bool _, .array _
  | .bool _, .object _ | .number _, .null | .number _, .bool _ | .number _, .string _
  | .number _, .array _ | .number _, .object _ | .string _, .null | .string _, .bool _
  | .string _, .number _ | .string _, .array _ | .string _, .object _ | .array _, .null
  | .array _, .bool _ | .array _, .number _ | .array _, .string _ | .array _, .object _
  | .object _, .null | .object _, .bool _ | .object _, .number _ | .object _, .string _
  | .object _, .array _ => isFalse nofun
termination_by structural left => left

/-- Equality of element lists is decidable. -/
def decEqElements : (left right : List Json) → Decidable (left = right)
  | [], [] => isTrue rfl
  | [], _ :: _ | _ :: _, [] => isFalse nofun
  | left :: lefts, right :: rights =>
    match decEq left right, decEqElements lefts rights with
    | isTrue head, isTrue tail => isTrue (by rw [head, tail])
    | isFalse different, _ => isFalse fun equal => different (List.cons.inj equal).1
    | _, isFalse different => isFalse fun equal => different (List.cons.inj equal).2
termination_by structural left => left

/-- Equality of member lists is decidable. -/
def decEqMembers : (left right : List (String × Json)) → Decidable (left = right)
  | [], [] => isTrue rfl
  | [], _ :: _ | _ :: _, [] => isFalse nofun
  | (leftKey, left) :: lefts, (rightKey, right) :: rights =>
    if keys : leftKey = rightKey then
      match decEq left right, decEqMembers lefts rights with
      | isTrue head, isTrue tail => isTrue (by rw [keys, head, tail])
      | isFalse different, _ =>
        isFalse fun equal => different (Prod.mk.inj (List.cons.inj equal).1).2
      | _, isFalse different => isFalse fun equal => different (List.cons.inj equal).2
    else isFalse fun equal => keys (Prod.mk.inj (List.cons.inj equal).1).1
termination_by structural left => left

end

instance : DecidableEq Json := decEq

/-- The member of an object under a key; nothing for another kind of value. -/
def member? (key : String) : Json → Option Json
  | .object members => members.lookup key
  | _ => none

/-- The text of a string. -/
def string? : Json → Option String
  | .string value => some value
  | _ => none

/-- Whether the value is `null`. -/
def isNull : Json → Bool
  | .null => true
  | _ => false

/-- Puts a member in its place by key; a member of the same key gives way. -/
def insertMember (key : String) (value : Json) : List (String × Json) → List (String × Json)
  | [] => [(key, value)]
  | (other, old) :: rest =>
    if key < other then (key, value) :: (other, old) :: rest
    else if key = other then (key, value) :: rest
    else (other, old) :: insertMember key value rest

/-- Members by key, the last of several with one key. -/
def sortMembers (members : List (String × Json)) : List (String × Json) :=
  members.foldl (fun sorted member => insertMember member.1 member.2 sorted) []

/-- Whether the keys of a member list increase strictly. -/
def KeysIncrease (members : List (String × Json)) : Prop :=
  members.Pairwise fun left right => left.1 < right.1

mutual

/-- Whether every object in a value lists its members by key, each key once. -/
def Canonical : Json → Prop
  | .array elements => CanonicalElements elements
  | .object members => KeysIncrease members ∧ CanonicalMembers members
  | _ => True
termination_by structural value => value

/-- Whether all elements are canonical. -/
def CanonicalElements : List Json → Prop
  | [] => True
  | element :: rest => element.Canonical ∧ CanonicalElements rest
termination_by structural elements => elements

/-- Whether all member values are canonical. -/
def CanonicalMembers : List (String × Json) → Prop
  | [] => True
  | (_, value) :: rest => value.Canonical ∧ CanonicalMembers rest
termination_by structural members => members

end

mutual

/-- The number of containers nested in one another. -/
def depth : Json → Nat
  | .array elements => depthOfElements elements + 1
  | .object members => depthOfMembers members + 1
  | _ => 0
termination_by structural value => value

/-- The greatest depth among elements. -/
def depthOfElements : List Json → Nat
  | [] => 0
  | element :: rest => max element.depth (depthOfElements rest)
termination_by structural elements => elements

/-- The greatest depth among member values. -/
def depthOfMembers : List (String × Json) → Nat
  | [] => 0
  | (_, value) :: rest => max value.depth (depthOfMembers rest)
termination_by structural members => members

end

end Json

end GatewayLink
