import GatewayLink.Json.Document

/-!
# Records in JSON

A record is written as an object, with its members in any order, or as an array of its fields in
their declared order.  In an object a declared field may stand once and other members are passed
over; in an array only trailing fields may be left out.
-/

namespace GatewayLink

namespace Json

/-- The fields that a document gives to a record. -/
structure Fields where
  /-- Whether the record is written as an array. -/
  listed : Bool
  entries : List (String × Document)

namespace Document

/-- The members of an object with their keys; nothing where a key has no text. -/
def keyedMembers? : List (Option String × Document) → Option (List (String × Document))
  | [] => some []
  | (key, value) :: rest => do
    let key ← key
    let members ← keyedMembers? rest
    return (key, value) :: members

/-- The fields of a record with the given field names. -/
def fields? (names : List String) : Document → Option Fields
  | .array elements =>
    if elements.length ≤ names.length then some ⟨true, names.zip elements⟩ else none
  | .object members => do
    let members ← keyedMembers? members
    let known := members.filter fun member => names.contains member.1
    if (known.map Prod.fst).Nodup then some ⟨false, known⟩ else none
  | _ => none

/-- The text of a string. -/
def text? : Document → Option String
  | .string value => value
  | _ => none

/-- A truth value. -/
def truth? : Document → Option Bool
  | .bool value => some value
  | _ => none

/-- An integer of either sign. -/
def integer? : Document → Option Integer
  | .number (some (.integer value)) => some value
  | _ => none

/-- A signed 64-bit integer. -/
def int64? (document : Document) : Option Int64 :=
  document.integer?.bind fun value =>
    if value.val < 9223372036854775808 then some (Int64.ofInt value.val) else none

/-- An unsigned 64-bit integer. -/
def uint64? (document : Document) : Option UInt64 :=
  document.integer?.bind fun value =>
    if 0 ≤ value.val then some (UInt64.ofNat value.val.toNat) else none

/-- An unsigned 32-bit integer. -/
def uint32? (document : Document) : Option UInt32 :=
  document.integer?.bind fun value =>
    if 0 ≤ value.val ∧ value.val < 4294967296 then some (UInt32.ofNat value.val.toNat) else none

/-- A value that may be `null`. -/
def nullable? {α : Type} (read : Document → Option α) : Document → Option (Option α)
  | .null => some none
  | document => (read document).map some

/-- All elements of an array. -/
def elements? {α : Type} (read : Document → Option α) : Document → Option (List α)
  | .array elements => elements.mapM read
  | _ => none

/-- One of several words, given as a string or as the only key of an object that holds `null`. -/
def word? : Document → Option String
  | .string value => value
  | .object [(key, .null)] => key
  | _ => none

end Document

namespace Fields

/-- The document under a field name. -/
def find? (fields : Fields) (name : String) : Option Document :=
  fields.entries.lookup name

/-- A field that must be given. -/
def required? {α : Type} (fields : Fields) (name : String) (read : Document → Option α) :
    Option α :=
  (fields.find? name).bind read

/-- A field that stands for a default where it is left out. -/
def withDefault? {α : Type} (fields : Fields) (name : String) (read : Document → Option α)
    (default : α) : Option α :=
  match fields.find? name with
  | none => some default
  | some document => read document

/-- A field that may be `null`, and that may be left out of an object but not of an array. -/
def optional? {α : Type} (fields : Fields) (name : String) (read : Document → Option α) :
    Option (Option α) :=
  match fields.find? name with
  | none => if fields.listed then none else some none
  | some document => document.nullable? read

end Fields

/-- A signed 64-bit integer as a value. -/
def ofInt64 (value : Int64) : Json :=
  .number (.integer ⟨value.toInt, by
    have lower := value.le_toInt
    have upper := value.toInt_lt
    omega⟩)

/-- An unsigned 64-bit integer as a value. -/
def ofUInt64 (value : UInt64) : Json :=
  .number (.integer ⟨value.toNat, by
    have upper := value.toNat_lt
    omega⟩)

/-- An unsigned 32-bit integer as a value. -/
def ofUInt32 (value : UInt32) : Json :=
  .number (.integer ⟨value.toNat, by
    have upper := value.toNat_lt
    omega⟩)

/-- A value or `null`. -/
def ofOption {α : Type} (write : α → Json) : Option α → Json
  | none => .null
  | some value => write value

/-- A member that is left out where there is no value. -/
def memberOf? {α : Type} (name : String) (write : α → Json) : Option α → List (String × Json)
  | none => []
  | some value => [(name, write value)]

end Json

end GatewayLink
