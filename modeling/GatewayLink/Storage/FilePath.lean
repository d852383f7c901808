/-!
# Paths of files

A path is a sequence of steps with slashes between them.  Each step enters a directory by its name,
and two dots lead back to the directory above.  A single dot stays where it is; at the end of a
path it says, as a slash does, that a directory stands there.
-/

namespace GatewayLink

/-- A step on the way to a file. -/
inductive PathStep where
  /-- To what bears a name in the directory. -/
  | into (name : String)
  /-- To the directory above. -/
  | up
  deriving DecidableEq, Repr

/-- What follows the last step. -/
inductive PathEnding where
  | nothing
  | slash
  | dot
  deriving DecidableEq, Repr

/-- Steps, and the number of bytes in which they are written. -/
structure Way where
  steps : List PathStep
  length : Nat
  deriving DecidableEq, Repr

/-- The way to a file or to a directory. -/
structure FilePath where
  steps : List PathStep
  ending : PathEnding
  /-- The number of bytes of the whole path. -/
  length : Nat
  /-- The number of bytes up to the last step but one. -/
  parentLength : Nat
  deriving DecidableEq, Repr

namespace PathStep

/-- The step that a text between slashes gives, if it gives any. -/
def ofText (text : String) : Option PathStep :=
  if text.isEmpty || text == "." then none
  else if text == ".." then some .up
  else some (.into text)

/-- The greatest number of bytes in a name. -/
def greatestLength : Nat := 255

/-- Whether a step has a longer name than any file. -/
def isTooLong : PathStep → Bool
  | .into name => greatestLength < name.utf8ByteSize
  | .up => false

/-- Whether a step has a name that no file can bear. -/
def hasNul : PathStep → Bool
  | .into name => name.toList.contains '\x00'
  | .up => false

end PathStep

namespace Way

/-- The greatest number of bytes in which a way can be written. -/
def greatestLength : Nat := 4095

/-- Whether a way has a name that no file can bear. -/
def hasNul (way : Way) : Bool :=
  way.steps.any PathStep.hasNul

/-- Whether a way is too long to be followed. -/
def isTooLong (way : Way) : Bool :=
  greatestLength < way.length

end Way

namespace FilePath

/-- What a path with the given texts between its slashes ends with. -/
def endingOf (texts : List String) : PathEnding :=
  if (texts.filter fun text => !text.isEmpty).getLast? = some "." then .dot
  else if texts.getLast? = some "" then .slash
  else .nothing

/-- Texts without those at the end that give no step. -/
def trimmed (texts : List String) : List String :=
  (texts.reverse.dropWhile fun text => (PathStep.ofText text).isNone).reverse

/-- The number of bytes in which texts are written with slashes between them. -/
def lengthOf (texts : List String) : Nat :=
  ("/".intercalate texts).utf8ByteSize

/-- The path that a text writes. -/
def parse (text : String) : FilePath :=
  let texts := text.splitOn "/"
  { steps := texts.filterMap PathStep.ofText
    ending := endingOf texts
    length := text.utf8ByteSize
    parentLength := lengthOf (trimmed (trimmed texts).dropLast) }

/-- The whole way of a path. -/
def way (path : FilePath) : Way :=
  ⟨path.steps, path.length⟩

/-- The way to the directory of what a path leads to. -/
def parent (path : FilePath) : Way :=
  ⟨path.steps.dropLast, path.parentLength⟩

end FilePath

end GatewayLink
