import GatewayLink.Storage.FileTree

/-!
# Writing files

A file is written together with the directories that are missing on the way to it.  The directories
that were made stay where the writing fails later on.  What has been written is read back.

The disk takes whatever is written.  One that is full or breaks down fails a write after the old
content is gone, which is not described here.
-/

namespace GatewayLink

namespace FileTree

/-- Makes the directories that are missing on the way.  A file in the way occupies the place of a
directory at the end, and beyond a directory that was just made; elsewhere it is no directory. -/
def makeAlong : Bool → Place → List PathStep → FileTree → Except FileFault Unit × FileTree
  | _, _, [], tree => (.ok (), tree)
  | fresh, place, step :: rest, tree =>
    match tree.follow place step with
    | .ok next =>
      if tree.hasDirectory next then makeAlong fresh next rest tree
      else (.error (if fresh || rest.isEmpty then .occupied else .notDirectory), tree)
    | .error .missing =>
      makeAlong true (step.target place) rest (tree.put (step.target place) empty)
    | .error fault => (.error fault, tree)

/-- Makes a directory, and those on the way to it. -/
def makeDirectory (way : Way) (tree : FileTree) : Except FileFault Unit × FileTree :=
  match way.fault? with
  | some fault => (.error fault, tree)
  | none => makeAlong false [] way.steps tree

/-- Makes a directory where nothing stands. -/
def ensureDirectory (way : Way) (tree : FileTree) : Except FileFault Unit × FileTree :=
  match tree.locate way with
  | .ok _ => (.ok (), tree)
  | .error _ => tree.makeDirectory way

/-- Why there is no file to be written at a place on the way. -/
def refusal (tree : FileTree) (place : Place) : FileFault :=
  if tree.hasDirectory place then .isDirectory else .notDirectory

/-- Where a file of the given name in a directory is written. -/
def entryPlace (tree : FileTree) (parent : Place) (name : String) : Except FileFault Place :=
  match tree.follow parent (.into name) with
  | .error .missing => .ok (parent ++ [name])
  | .error fault => .error fault
  | .ok place => if tree.hasDirectory place then .error .isDirectory else .ok place

/-- Where the file that a path leads to is written. -/
def writePlace (path : FilePath) (tree : FileTree) : Except FileFault Place :=
  match path.way.fault? with
  | some fault => .error fault
  | none =>
    match path.steps.getLast?, path.ending with
    | some (.into name), .nothing =>
      match tree.walk [] path.parent.steps with
      | .error fault => .error fault
      | .ok parent => tree.entryPlace parent name
    | some (.into _), .slash =>
      match tree.walk [] path.parent.steps with
      | .error fault => .error fault
      | .ok parent => .error (tree.refusal parent)
    | _, _ =>
      match tree.walk [] path.steps with
      | .error fault => .error fault
      | .ok place => .error (tree.refusal place)

/-- Writes a file into a directory that is there; only the way to the file is a reason to fail. -/
def writeWithin (content : ByteArray) (path : FilePath) (tree : FileTree) :
    Except FileFault Unit × FileTree :=
  match tree.writePlace path with
  | .ok place => (.ok (), tree.put place (.file content))
  | .error fault => (.error fault, tree)

/-- Writes a file, and the directories on the way to it. -/
def write (content : ByteArray) (path : FilePath) (tree : FileTree) :
    Except FileFault Unit × FileTree :=
  match tree.ensureDirectory path.parent with
  | (.ok (), tree) => tree.writeWithin content path
  | (.error fault, tree) => (.error fault, tree)

/-- Writes a text. -/
def writeText (text : String) (path : FilePath) (tree : FileTree) :
    Except FileFault Unit × FileTree :=
  write text.toUTF8 path tree

/-- A file is written into a directory, and where no directory stands. -/
theorem entryPlace_eq_ok_iff (tree : FileTree) (parent place : Place) (name : String) :
    tree.entryPlace parent name = .ok place ↔
      tree.hasDirectory parent ∧ (PathStep.into name).isTooLong = false ∧
        tree.hasDirectory (parent ++ [name]) = false ∧ parent ++ [name] = place := by
  have child : tree.hasDirectory (parent ++ [name]) =
      (tree.find? (parent ++ [name])).any isDirectory := rfl
  cases within : tree.hasDirectory parent <;>
    cases long : (PathStep.into name).isTooLong <;>
    cases found : tree.find? (parent ++ [name]) with
  | none =>
      simp [entryPlace, follow, within, long, found, child, PathStep.target]
  | some node =>
      cases node <;>
        simp [entryPlace, follow, within, long, found, child, PathStep.target, isDirectory]

/-- A file in a directory does not change the way that steps lead. -/
theorem walk_put (content : ByteArray) (tree : FileTree) (parent place next : Place)
    (name : String) (steps : List PathStep) (within : tree.hasDirectory parent)
    (vacant : tree.hasDirectory (parent ++ [name]) = false)
    (reached : tree.walk place steps = .ok next) :
    (tree.put (parent ++ [name]) (.file content)).walk place steps = .ok next := by
  induction steps generalizing place with
  | nil => simpa [walk] using reached
  | cons step rest induction =>
      cases taken : tree.follow place step with
      | error fault => simp [walk, taken] at reached
      | ok middle =>
          have still : (tree.put (parent ++ [name]) (.file content)).follow place step =
              .ok middle := by
            obtain ⟨inside, short, present, target⟩ := (follow_eq_ok_iff ..).mp taken
            refine (follow_eq_ok_iff ..).mpr ⟨?_, short, ?_, target⟩
            · rw [hasDirectory_put content tree parent place name within vacant]
              exact inside
            · exact isSome_find?_put _ tree parent _ name within vacant present
          simp only [walk, taken] at reached
          simpa only [walk, still] using induction middle reached

/-- What has been written into a directory is read back. -/
theorem content?_writeWithin (content : ByteArray) (path : FilePath) (tree changed : FileTree)
    (written : tree.writeWithin content path = (.ok (), changed)) :
    content? path changed = some content := by
  unfold writeWithin at written
  split at written
  next place opened =>
    obtain ⟨-, rfl⟩ := Prod.mk.inj written
    unfold writePlace at opened
    split at opened
    next => cases opened
    next faultless =>
      split at opened
      next name last plain =>
        split at opened
        next => cases opened
        next parent reached =>
          obtain ⟨within, short, vacant, rfl⟩ := (entryPlace_eq_ok_iff ..).mp opened
          have whole : path.steps = path.parent.steps ++ [.into name] := by
            obtain ⟨front, ends⟩ := List.getLast?_eq_some_iff.mp last
            simp [FilePath.parent, ends]
          have way := walk_put content tree parent [] parent name path.parent.steps within
            vacant
            reached
          have found := find?_put (.file content) tree parent name within
          have inside : (tree.put (parent ++ [name]) (.file content)).hasDirectory parent := by
            rw [hasDirectory_put content tree parent parent name within vacant]
            exact within
          have taken : (tree.put (parent ++ [name]) (.file content)).follow parent
              (.into name) = .ok (parent ++ [name]) :=
            (follow_eq_ok_iff ..).mpr ⟨inside, short, by simp [PathStep.target, found], rfl⟩
          have located : (tree.put (parent ++ [name]) (.file content)).locate path.way =
              .ok (parent ++ [name]) := by
            have steps : path.way.steps = path.parent.steps ++ [.into name] := whole
            simp [locate, faultless, steps, walk_append, way, walk, taken]
          simp [content?, lookUp?, located, found, plain, Option.filter]
      next => split at opened <;> cases opened
      next => split at opened <;> cases opened
  next => cases written

theorem content?_write (content : ByteArray) (path : FilePath) (tree changed : FileTree)
    (written : tree.write content path = (.ok (), changed)) :
    content? path changed = some content := by
  unfold write at written
  split at written
  next made _ => exact content?_writeWithin content path made changed written
  next => cases written

end FileTree

end GatewayLink
