import GatewayLink.Json.Token

/-!
# JSON documents

A document is what a text says before it is put to use: members stand in written order, keys may
repeat, and a string or a number that has no value keeps its place.  Documents correspond to token
sequences: `Document.tokens` lists them and `Document.ofTokens?` reads them back with a stack of
the containers that are still open.
-/

namespace GatewayLink

namespace Json

/-- A parsed text. -/
inductive Document where
  | null
  | bool (value : Bool)
  /-- A number, unless its magnitude is beyond the largest one. -/
  | number (value : Option Number)
  /-- A string, unless its escapes name half of a surrogate pair. -/
  | string (value : Option String)
  | array (elements : List Document)
  | object (members : List (Option String × Document))

namespace Document

instance : Inhabited Document := ⟨.null⟩

mutual

/-- The tokens of a document. -/
def tokens : Document → List Token
  | .null => [.null]
  | .bool value => [.bool value]
  | .number value => [.number value]
  | .string value => [.string value]
  | .array [] => [.openArray, .closeArray]
  | .array (element :: rest) =>
    .openArray :: element.tokens ++ tokensOfElements rest ++ [.closeArray]
  | .object [] => [.openObject, .closeObject]
  | .object ((key, value) :: rest) =>
    .openObject :: .string key :: .colon :: value.tokens ++ tokensOfMembers rest ++ [.closeObject]
termination_by structural document => document

/-- The tokens of the elements after the first. -/
def tokensOfElements : List Document → List Token
  | [] => []
  | element :: rest => .comma :: element.tokens ++ tokensOfElements rest
termination_by structural elements => elements

/-- The tokens of the members after the first. -/
def tokensOfMembers : List (Option String × Document) → List Token
  | [] => []
  | (key, value) :: rest =>
    .comma :: .string key :: .colon :: value.tokens ++ tokensOfMembers rest
termination_by structural members => members

end

/-- A place inside an open container where a value is to go; what came before it is reversed. -/
inductive Place where
  | element (before : List Document)
  | member (before : List (Option String × Document)) (key : Option String)

/-- What has been read and what may come next. -/
inductive Builder where
  /-- A value must come. -/
  | atValue (places : List Place)
  /-- An array has been opened: a value or its end must come. -/
  | atFirstElement (places : List Place)
  /-- An object has been opened: a key or its end must come. -/
  | atFirstKey (places : List Place)
  /-- A key must come. -/
  | atKey (places : List Place) (before : List (Option String × Document))
  /-- A colon must come. -/
  | atColon (places : List Place) (before : List (Option String × Document)) (key : Option String)
  /-- A comma or the end of the array must come. -/
  | afterElement (places : List Place) (elements : List Document)
  /-- A comma or the end of the object must come. -/
  | afterMember (places : List Place) (members : List (Option String × Document))
  /-- Nothing may come. -/
  | done (document : Document)

namespace Builder

/-- Before the first token. -/
def start : Builder := .atValue []

/-- Puts a complete value in its place. -/
def put (document : Document) : List Place → Builder
  | [] => .done document
  | .element before :: places => .afterElement places (document :: before)
  | .member before key :: places => .afterMember places ((key, document) :: before)

/-- Takes a token where a value must come. -/
def takeValue? (places : List Place) : Token → Option Builder
  | .null => some (put .null places)
  | .bool value => some (put (.bool value) places)
  | .number value => some (put (.number value) places)
  | .string value => some (put (.string value) places)
  | .openArray => some (.atFirstElement places)
  | .openObject => some (.atFirstKey places)
  | _ => none

/-- Takes one token. -/
def feed : Builder → Token → Option Builder
  | .atValue places, token => takeValue? places token
  | .atFirstElement places, .closeArray => some (put (.array []) places)
  | .atFirstElement places, token => takeValue? (.element [] :: places) token
  | .atFirstKey places, .closeObject => some (put (.object []) places)
  | .atFirstKey places, .string key => some (.atColon places [] key)
  | .atKey places before, .string key => some (.atColon places before key)
  | .atColon places before key, .colon => some (.atValue (.member before key :: places))
  | .afterElement places elements, .comma => some (.atValue (.element elements :: places))
  | .afterElement places elements, .closeArray => some (put (.array elements.reverse) places)
  | .afterMember places members, .comma => some (.atKey places members)
  | .afterMember places members, .closeObject => some (put (.object members.reverse) places)
  | _, _ => none

/-- The document at the end of the tokens. -/
def finish? : Builder → Option Document
  | .done document => some document
  | _ => none

end Builder

/-- The document that a token sequence spells. -/
def ofTokens? (tokens : List Token) : Option Document :=
  (tokens.foldlM Builder.feed .start).bind Builder.finish?

/-- Reads a text as one document. -/
def read? (text : String) : Option Document :=
  (tokens? text.toList).bind ofTokens?

mutual

/-- The number of containers nested in one another. -/
def depth : Document → Nat
  | .array elements => depthOfElements elements + 1
  | .object members => depthOfMembers members + 1
  | _ => 0
termination_by structural document => document

/-- The greatest depth among elements. -/
def depthOfElements : List Document → Nat
  | [] => 0
  | element :: rest => max element.depth (depthOfElements rest)
termination_by structural elements => elements

/-- The greatest depth among member values. -/
def depthOfMembers : List (Option String × Document) → Nat
  | [] => 0
  | (_, value) :: rest => max value.depth (depthOfMembers rest)
termination_by structural members => members

end

mutual

/-- Whether every string has a text and every number a value. -/
def isReadable : Document → Bool
  | .number value => value.isSome
  | .string value => value.isSome
  | .array elements => elementsAreReadable elements
  | .object members => membersAreReadable members
  | _ => true
termination_by structural document => document

/-- Whether all elements are readable. -/
def elementsAreReadable : List Document → Bool
  | [] => true
  | element :: rest => element.isReadable && elementsAreReadable rest
termination_by structural elements => elements

/-- Whether all keys and member values are readable. -/
def membersAreReadable : List (Option String × Document) → Bool
  | [] => true
  | (key, value) :: rest => key.isSome && value.isReadable && membersAreReadable rest
termination_by structural members => members

end

mutual

/-- The value of a readable document: members by key, the last of several with one key. -/
def value? : Document → Option Json
  | .null => some .null
  | .bool value => some (.bool value)
  | .number value => value.map .number
  | .string value => value.map .string
  | .array elements => (valuesOfElements? elements).map .array
  | .object members => (valuesOfMembers? members).map fun members => .object (sortMembers members)
termination_by structural document => document

/-- The values of all elements. -/
def valuesOfElements? : List Document → Option (List Json)
  | [] => some []
  | element :: rest => do
    let value ← element.value?
    let values ← valuesOfElements? rest
    return value :: values
termination_by structural elements => elements

/-- The values of all members. -/
def valuesOfMembers? : List (Option String × Document) → Option (List (String × Json))
  | [] => some []
  | (key, document) :: rest => do
    let key ← key
    let value ← document.value?
    let values ← valuesOfMembers? rest
    return (key, value) :: values
termination_by structural members => members

end

mutual

/-- The document of a value. -/
def ofJson : Json → Document
  | .null => .null
  | .bool value => .bool value
  | .number value => .number (some value)
  | .string value => .string (some value)
  | .array elements => .array (ofElements elements)
  | .object members => .object (ofMembers members)
termination_by structural value => value

/-- The documents of elements. -/
def ofElements : List Json → List Document
  | [] => []
  | element :: rest => ofJson element :: ofElements rest
termination_by structural elements => elements

/-- The documents of members. -/
def ofMembers : List (String × Json) → List (Option String × Document)
  | [] => []
  | (key, value) :: rest => (some key, ofJson value) :: ofMembers rest
termination_by structural members => members

end

end Document

/-- The greatest number of containers that may be nested in one another in a text. -/
def nestingLimit : Nat := 127

/-- The value of a document that stands inside some containers, all together within the limit. -/
def Document.valueWithin? (document : Document) (containers : Nat) : Option Json :=
  if document.depth + containers ≤ nestingLimit then document.value? else none

/-- Reads a text as one value. -/
def read? (text : String) : Option Json :=
  (Document.read? text).bind (·.valueWithin? 0)

end Json

end GatewayLink
