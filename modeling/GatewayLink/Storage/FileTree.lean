import GatewayLink.Storage.FilePath
import GatewayLink.Table

/-!
# Trees of files

A tree holds directories and files by name.  A path is followed step by step; every step but the
last has to lead to a directory.
-/

namespace GatewayLink

/-- A file with its content, or a directory. -/
inductive FileTree where
  | file (content : ByteArray)
  | directory (entries : Table FileTree)

/-- The names on the way from the top of a tree to a place in it. -/
abbrev Place := List String

/-- Why a path cannot be followed or a file not be written. -/
inductive FileFault where
  | missing
  | occupied
  | notDirectory
  | isDirectory
  | nameTooLong
  | nulInName
  deriving DecidableEq, Repr

/-- The wording of a fault. -/
def FileFault.message : FileFault → String
  | .missing => "No such file or directory (os error 2)"
  | .occupied => "File exists (os error 17)"
  | .notDirectory => "Not a directory (os error 20)"
  | .isDirectory => "Is a directory (os error 21)"
  | .nameTooLong => "File name too long (os error 36)"
  | .nulInName => "file name contained an unexpected NUL byte"

/-- Why a way is not followed at all. -/
def Way.fault? (way : Way) : Option FileFault :=
  if way.hasNul then some .nulInName
  else if way.isTooLong then some .nameTooLong
  else none

/-- The place that a step leads to; above the top is the top. -/
def PathStep.target (place : Place) : PathStep → Place
  | .into name => place ++ [name]
  | .up => place.dropLast

namespace FileTree

/-- A tree without files. -/
def empty : FileTree := .directory .empty

instance : Inhabited FileTree := ⟨empty⟩

/-- Whether there is a directory. -/
def isDirectory : FileTree → Bool
  | .directory _ => true
  | .file _ => false

/-- What stands at a place. -/
def find? : Place → FileTree → Option FileTree
  | [], tree => some tree
  | name :: rest, .directory entries => (entries.get? name).bind (find? rest)
  | _ :: _, .file _ => none

/-- Whether a directory stands at a place. -/
def hasDirectory (tree : FileTree) (place : Place) : Bool :=
  (tree.find? place).any isDirectory

/-- The tree with something put at a place; nothing is put beneath a file. -/
def put : FileTree → Place → FileTree → FileTree
  | _, [], node => node
  | .directory entries, name :: rest, node =>
    .directory (entries.set name (put ((entries.get? name).getD empty) rest node))
  | .file content, _ :: _, _ => .file content

/-- What is put into a directory is found there. -/
theorem find?_put (node tree : FileTree) (place : Place) (name : String)
    (within : tree.hasDirectory place) :
    (tree.put (place ++ [name]) node).find? (place ++ [name]) = some node := by
  induction place generalizing tree with
  | nil =>
      cases tree with
      | file content => simp [hasDirectory, find?, isDirectory] at within
      | directory entries => simp [put, find?]
  | cons first rest induction =>
      cases tree with
      | file content => simp [hasDirectory, find?] at within
      | directory entries =>
          cases found : entries.get? first with
          | none => simp [hasDirectory, find?, found] at within
          | some inner =>
              have inside : inner.hasDirectory rest := by
                simpa [hasDirectory, find?, found] using within
              simpa [put, find?, found] using induction inner inside

/-- Something new in a directory takes nothing away. -/
theorem isSome_find?_put (node tree : FileTree) (place other : Place) (name : String)
    (within : tree.hasDirectory place) (vacant : tree.hasDirectory (place ++ [name]) = false)
    (present : (tree.find? other).isSome) :
    ((tree.put (place ++ [name]) node).find? other).isSome := by
  induction place generalizing tree other with
  | nil =>
      cases tree with
      | file content => simp [hasDirectory, find?, isDirectory] at within
      | directory entries =>
          cases other with
          | nil => simp [find?]
          | cons head tail =>
              by_cases same : head = name
              · subst same
                cases tail with
                | nil => simp [put, find?]
                | cons next others =>
                    cases found : entries.get? head with
                    | none => simp [find?, found] at present
                    | some inner =>
                        cases inner with
                        | file content => simp [find?, found] at present
                        | directory inside =>
                            simp [hasDirectory, find?, found, isDirectory] at vacant
              · simpa [put, find?, same] using present
  | cons first rest induction =>
      cases tree with
      | file content => simp [hasDirectory, find?] at within
      | directory entries =>
          cases other with
          | nil => simp [find?]
          | cons head tail =>
              by_cases same : head = first
              · subst same
                cases found : entries.get? head with
                | none => simp [find?, found] at present
                | some inner =>
                    have inside : inner.hasDirectory rest := by
                      simpa [hasDirectory, find?, found] using within
                    have free : inner.hasDirectory (rest ++ [name]) = false := by
                      simpa [hasDirectory, find?, found] using vacant
                    have there : (inner.find? tail).isSome := by
                      simpa [find?, found] using present
                    simpa [put, find?, found] using induction inner tail inside free there
              · simpa [put, find?, same] using present

/-- A file that is put into a directory leaves the directories as they are. -/
theorem hasDirectory_put (content : ByteArray) (tree : FileTree) (place other : Place)
    (name : String) (within : tree.hasDirectory place)
    (vacant : tree.hasDirectory (place ++ [name]) = false) :
    (tree.put (place ++ [name]) (.file content)).hasDirectory other = tree.hasDirectory other := by
  induction place generalizing tree other with
  | nil =>
      cases tree with
      | file old => simp [hasDirectory, find?, isDirectory] at within
      | directory entries =>
          cases other with
          | nil => simp [hasDirectory, find?, put, isDirectory]
          | cons head tail =>
              by_cases same : head = name
              · subst same
                cases found : entries.get? head with
                | none => cases tail <;> simp [hasDirectory, put, find?, found, isDirectory]
                | some inner =>
                    cases inner with
                    | file old => cases tail <;> simp [hasDirectory, put, find?, found, isDirectory]
                    | directory inside =>
                        simp [hasDirectory, find?, found, isDirectory] at vacant
              · simp [hasDirectory, put, find?, same]
  | cons first rest induction =>
      cases tree with
      | file old => simp [hasDirectory, find?] at within
      | directory entries =>
          cases other with
          | nil => simp [hasDirectory, find?, put, isDirectory]
          | cons head tail =>
              by_cases same : head = first
              · subst same
                cases found : entries.get? head with
                | none => simp [hasDirectory, find?, found] at within
                | some inner =>
                    have inside : inner.hasDirectory rest := by
                      simpa [hasDirectory, find?, found] using within
                    have free : inner.hasDirectory (rest ++ [name]) = false := by
                      simpa [hasDirectory, find?, found] using vacant
                    simpa [hasDirectory, put, find?, found] using induction inner tail inside free
              · simp [hasDirectory, put, find?, same]

/-- The place that a step leads to. -/
def follow (tree : FileTree) (place : Place) (step : PathStep) : Except FileFault Place :=
  if !tree.hasDirectory place then .error .notDirectory
  else if step.isTooLong then .error .nameTooLong
  else if (tree.find? (step.target place)).isNone then .error .missing
  else .ok (step.target place)

/-- The place that steps lead to. -/
def walk (tree : FileTree) : Place → List PathStep → Except FileFault Place
  | place, [] => .ok place
  | place, step :: rest =>
    match tree.follow place step with
    | .error fault => .error fault
    | .ok next => walk tree next rest

/-- The place that a way from the top leads to. -/
def locate (tree : FileTree) (way : Way) : Except FileFault Place :=
  match way.fault? with
  | some fault => .error fault
  | none => tree.walk [] way.steps

/-- What a path leads to. -/
def lookUp? (path : FilePath) (tree : FileTree) : Option FileTree :=
  match tree.locate path.way with
  | .error _ => none
  | .ok place =>
    (tree.find? place).filter fun node => path.ending = .nothing || node.isDirectory

/-- The content of the file that a path leads to. -/
def content? (path : FilePath) (tree : FileTree) : Option ByteArray :=
  match lookUp? path tree with
  | some (.file content) => some content
  | _ => none

/-- The text of the file that a path leads to, if it is one in UTF-8. -/
def text? (path : FilePath) (tree : FileTree) : Option String :=
  (content? path tree).bind String.fromUTF8?

theorem follow_eq_ok_iff (tree : FileTree) (place next : Place) (step : PathStep) :
    tree.follow place step = .ok next ↔
      tree.hasDirectory place ∧ step.isTooLong = false ∧
        (tree.find? (step.target place)).isSome ∧ step.target place = next := by
  cases within : tree.hasDirectory place <;> cases long : step.isTooLong <;>
    cases found : tree.find? (step.target place) <;> simp [follow, within, long, found]

theorem walk_append (tree : FileTree) (place : Place) (before after : List PathStep) :
    tree.walk place (before ++ after) =
      match tree.walk place before with
      | .error fault => .error fault
      | .ok next => tree.walk next after := by
  induction before generalizing place with
  | nil => rfl
  | cons step rest induction =>
      simp only [List.cons_append, walk]
      cases tree.follow place step with
      | error fault => rfl
      | ok next => exact induction next

end FileTree

end GatewayLink
