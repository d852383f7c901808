import GatewayLink.Storage.Writing

/-!
# Files that are written again

Whether a file can be written does not depend on what is written.  A file that has been written
stands in a directory that is there, so it can be written again, and what is read back is the text
that was written last.
-/

namespace GatewayLink

namespace FileTree

variable {path : FilePath} {tree changed : FileTree}

/-- A file can be written at a path, together with the directories on the way. -/
def IsWritable (path : FilePath) (tree : FileTree) : Prop :=
  ∃ content changed, tree.write content path = (.ok (), changed)

/-- A file is written under its name into the directory of its path, where no directory stands. -/
theorem writePlace_eq_ok_iff {place : Place} :
    writePlace path tree = .ok place ↔
      path.way.fault? = none ∧ path.ending = .nothing ∧
        ∃ parent name, path.steps.getLast? = some (.into name) ∧
          tree.walk [] path.parent.steps = .ok parent ∧
            tree.entryPlace parent name = .ok place := by
  constructor
  · intro opened
    unfold writePlace at opened
    split at opened
    · cases opened
    · rename_i faultless
      split at opened
      · rename_i name last plain
        split at opened
        · cases opened
        · rename_i parent reached
          exact ⟨faultless, plain, parent, name, last, reached, opened⟩
      · split at opened <;> cases opened
      · split at opened <;> cases opened
  · rintro ⟨faultless, plain, parent, name, last, reached, opened⟩
    simp [writePlace, faultless, plain, last, reached, opened]

/-- A file that has been put at its place is written there again. -/
theorem writePlace_put {place : Place} (content : ByteArray)
    (opened : writePlace path tree = .ok place) :
    writePlace path (tree.put place (.file content)) = .ok place := by
  obtain ⟨faultless, plain, parent, name, last, reached, entry⟩ := writePlace_eq_ok_iff.mp opened
  obtain ⟨within, short, vacant, rfl⟩ := (entryPlace_eq_ok_iff ..).mp entry
  have kept := hasDirectory_put content tree parent
  refine writePlace_eq_ok_iff.mpr ⟨faultless, plain, parent, name, last,
    walk_put content tree parent [] parent name _ within vacant reached, ?_⟩
  refine (entryPlace_eq_ok_iff ..).mpr ⟨?_, short, ?_, rfl⟩
  · rw [kept parent name within vacant]
    exact within
  · rw [kept _ name within vacant]
    exact vacant

theorem ensureDirectory_of_located {way : Way} {place : Place}
    (located : tree.locate way = .ok place) : tree.ensureDirectory way = (.ok (), tree) := by
  simp [ensureDirectory, located]

theorem fault?_of_ensureDirectory {way : Way}
    (ensured : tree.ensureDirectory way = (.ok (), changed)) : way.fault? = none := by
  cases faulty : way.fault? with
  | none => rfl
  | some fault => simp [ensureDirectory, locate, makeDirectory, faulty] at ensured

/-- What a write has done: the directories were made, and the file was put at its place. -/
theorem write_eq_ok_iff {content : ByteArray} :
    tree.write content path = (.ok (), changed) ↔
      ∃ made place, tree.ensureDirectory path.parent = (.ok (), made) ∧
        writePlace path made = .ok place ∧ changed = made.put place (.file content) := by
  constructor
  · intro written
    unfold write at written
    split at written
    · rename_i made ensured
      unfold writeWithin at written
      split at written
      · rename_i place opened
        exact ⟨made, place, ensured, opened, (Prod.mk.inj written).2.symm⟩
      · cases written
    · cases written
  · rintro ⟨made, place, ensured, opened, rfl⟩
    simp [write, ensured, writeWithin, opened]

theorem IsWritable.write (writable : IsWritable path tree) (content : ByteArray) :
    ∃ changed, tree.write content path = (.ok (), changed) := by
  obtain ⟨other, changed, written⟩ := writable
  obtain ⟨made, place, ensured, opened, -⟩ := write_eq_ok_iff.mp written
  exact ⟨_, write_eq_ok_iff.mpr ⟨made, place, ensured, opened, rfl⟩⟩

theorem isWritable_of_write {content : ByteArray}
    (written : tree.write content path = (.ok (), changed)) : IsWritable path changed := by
  obtain ⟨made, place, ensured, opened, rfl⟩ := write_eq_ok_iff.mp written
  obtain ⟨-, -, parent, name, -, reached, entry⟩ := writePlace_eq_ok_iff.mp opened
  obtain ⟨within, -, vacant, rfl⟩ := (entryPlace_eq_ok_iff ..).mp entry
  have again := walk_put content made parent [] parent name _ within vacant reached
  have located : (made.put (parent ++ [name]) (.file content)).locate path.parent = .ok parent := by
    simp [locate, fault?_of_ensureDirectory ensured, again]
  exact ⟨content, _, write_eq_ok_iff.mpr
    ⟨_, _, ensureDirectory_of_located located, writePlace_put content opened, rfl⟩⟩

theorem fromUTF8?_toUTF8 (text : String) : String.fromUTF8? text.toUTF8 = some text := by
  rw [String.fromUTF8?, String.toUTF8_eq_toByteArray, dif_pos text.isValidUTF8]
  rfl

theorem IsWritable.writeText (writable : IsWritable path tree) (text : String) :
    ∃ changed, tree.writeText text path = (.ok (), changed) ∧ text? path changed = some text ∧
      IsWritable path changed := by
  obtain ⟨changed, written⟩ := writable.write text.toUTF8
  refine ⟨changed, written, ?_, isWritable_of_write written⟩
  rw [text?, content?_write _ path tree changed written, Option.bind_some, fromUTF8?_toUTF8]

end FileTree

end GatewayLink
