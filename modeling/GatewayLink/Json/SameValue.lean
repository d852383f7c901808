import GatewayLink.Json.Value

/-!
# Values that are the same

Two values are the same if they differ in the signs of zeros at most.  An integer and a binary64
number are never the same.
-/

namespace GatewayLink

namespace Json

mutual

/-- The value without signs on its zeros. -/
def plainZeros : Json → Json
  | .number (.double value) => .number (.double (if value.isZero then .zero false else value))
  | .array elements => .array (plainZerosOfElements elements)
  | .object members => .object (plainZerosOfMembers members)
  | value => value
termination_by structural value => value

/-- The elements without signs on their zeros. -/
def plainZerosOfElements : List Json → List Json
  | [] => []
  | element :: rest => element.plainZeros :: plainZerosOfElements rest
termination_by structural elements => elements

/-- The members without signs on their zeros. -/
def plainZerosOfMembers : List (String × Json) → List (String × Json)
  | [] => []
  | (key, value) :: rest => (key, value.plainZeros) :: plainZerosOfMembers rest
termination_by structural members => members

end

/-- Whether two values are the same. -/
def isSame (left right : Json) : Bool :=
  left.plainZeros = right.plainZeros

end Json

end GatewayLink
