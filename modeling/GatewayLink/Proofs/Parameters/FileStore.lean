import GatewayLink.Proofs.Parameters.Rebinding

/-!
# A store in a file and a store in memory

The object that a store writes to its file is read back member by member.  So a store in a file that
nobody else writes holds the same texts as one in memory that was asked the same, and gives the same
answers.
-/

namespace GatewayLink

namespace ParameterStore

open Json (KeysIncrease)

/-- All values of members are texts. -/
def AreTexts (members : List (String × Json)) : Prop :=
  ∀ member ∈ members, ∃ text, member.2 = .string text

section Texts

variable {members : List (String × Json)}

theorem AreTexts.tail {first : String × Json} {rest : List (String × Json)}
    (texts : AreTexts (first :: rest)) : AreTexts rest :=
  fun member among => texts member (List.mem_cons_of_mem first among)

theorem AreTexts.insertMember (texts : AreTexts members) (key value : String) :
    AreTexts (Json.insertMember key (.string value) members) := by
  intro member among
  rcases Json.mem_insertMember among with rfl | among
  · exact ⟨value, rfl⟩
  · exact texts member among

theorem AreTexts.withoutDoubles (texts : AreTexts members) :
    Json.WithoutDoublesMembers members := by
  induction members with
  | nil => trivial
  | cons first rest induction =>
      obtain ⟨key, value⟩ := first
      obtain ⟨text, rfl⟩ : ∃ text, value = .string text := texts (key, value) List.mem_cons_self
      exact ⟨trivial, induction texts.tail⟩

theorem membersOf_updatedText {text : Option String} (texts : AreTexts (membersOf text))
    (key value : String) :
    membersOf (some (updatedText (membersOf text) key value)) =
      Json.insertMember key (.string value) (membersOf text) := by
  rw [membersOf_of_read? ((Option.bind_some ..).trans (read?_updatedText text key value))]
  exact Json.rereadMembers_of_withoutDoubles _ (texts.insertMember key value).withoutDoubles

end Texts

/-- A file that can be written holds the same texts as a table. -/
structure Holds (path : FilePath) (tree : FileTree) (values : Table String) : Prop where
  writable : tree.IsWritable path
  texts : AreTexts (membersOf (tree.text? path))
  increase : KeysIncrease (membersOf (tree.text? path))
  agree : ∀ key, valueOf? (membersOf (tree.text? path)) key = values.get? key

section Holds

variable {path : FilePath} {tree : FileTree} {values : Table String}

theorem holds_of_absent (writable : tree.IsWritable path)
    (absent : FileTree.content? path tree = none) : Holds path tree .empty := by
  have nothing : membersOf (tree.text? path) = [] := by simp [FileTree.text?, absent, membersOf]
  refine ⟨writable, ?_, ?_, fun key => ?_⟩
  · simp [nothing, AreTexts]
  · simp [nothing, KeysIncrease]
  · simp [nothing, valueOf?]

/-- To bind a key succeeds in a file as in memory, and both hold the same texts afterwards. -/
theorem Holds.set (holds : Holds path tree values) (key value : String) :
    ∃ changed, (ParameterStore.file path tree).set key value = (.ok (), .file path changed) ∧
      Holds path changed (values.set key value) := by
  obtain ⟨changed, written, read, writable⟩ :=
    holds.writable.writeText (updatedText (membersOf (tree.text? path)) key value)
  have members : membersOf (changed.text? path) =
      Json.insertMember key (.string value) (membersOf (tree.text? path)) := by
    rw [read, membersOf_updatedText holds.texts]
  have stored : (ParameterStore.file path tree).set key value = (.ok (), .file path changed) := by
    rw [ParameterStore.set, written]
    rfl
  refine ⟨changed, stored, writable, ?_, ?_, ?_⟩
  · rw [members]
    exact holds.texts.insertMember key value
  · rw [members]
    exact Json.keysIncrease_insertMember key (.string value) holds.increase
  · intro other
    rw [members, valueOf?_insertMember, holds.agree, Table.get?_set]

/-- To one operation both give the same answer, and both hold the same texts afterwards. -/
theorem Holds.apply (holds : Holds path tree values) (operation : Operation) :
    ∃ changed after, Holds path changed after ∧
      (ParameterStore.file path tree).apply operation =
        (((ParameterStore.memory values).apply operation).1, .file path changed) ∧
      ((ParameterStore.memory values).apply operation).2 = .memory after := by
  have same_get (key : String) :
      (ParameterStore.file path tree).get? key = (ParameterStore.memory values).get? key :=
    holds.agree key
  cases operation with
  | get key => exact ⟨tree, values, holds, by simp [ParameterStore.apply, same_get], rfl⟩
  | set key value =>
      obtain ⟨changed, set, kept⟩ := holds.set key value
      exact ⟨changed, _, kept, by simp only [ParameterStore.apply, set]; rfl, rfl⟩
  | save method params =>
      obtain ⟨changed, set, kept⟩ := holds.set (methodKey method) params.compact
      exact ⟨changed, _, kept,
        by simp only [ParameterStore.apply, ParameterStore.save, set]; rfl, rfl⟩
  | load method =>
      exact ⟨tree, values, holds, by simp [ParameterStore.apply, ParameterStore.load?, same_get],
        rfl⟩

end Holds

/-- The answers of a store to a sequence of operations. -/
def answers (store : ParameterStore) : List Operation → List Outcome
  | [] => []
  | operation :: rest =>
    (store.apply operation).1 :: (store.apply operation).2.answers rest

theorem answers_eq_of_holds {path : FilePath} {tree : FileTree} {values : Table String}
    (holds : Holds path tree values) (operations : List Operation) :
    (ParameterStore.file path tree).answers operations =
      (ParameterStore.memory values).answers operations := by
  induction operations generalizing tree values with
  | nil => rfl
  | cons operation rest induction =>
      obtain ⟨changed, after, kept, in_file, in_memory⟩ := holds.apply operation
      rw [answers, answers, in_file, in_memory, induction kept]

/-- Whatever keys, texts, methods and parameters a store is asked for, one in a file that is absent
at first and can be written answers as one in memory that is empty at first. -/
theorem file_answers_as_memory (path : FilePath) (tree : FileTree)
    (absent : FileTree.content? path tree = none) (writable : tree.IsWritable path)
    (operations : List Operation) :
    (ParameterStore.file path tree).answers operations =
      (ParameterStore.memory .empty).answers operations :=
  answers_eq_of_holds (holds_of_absent writable absent) operations

/-- A file in a directory that is still to be made answers as memory does. -/
theorem new_file_answers_as_memory :
    let path : FilePath := ⟨[.into "kept", .into "parameters.json"], .nothing, 20, 4⟩
    let operations : List Operation := [.get "a", .set "a" "\"\n\x00", .get "a",
      .save "feeds.list" (.array [.null]), .load "feeds.list", .load "feeds"]
    FileTree.content? path .empty = none ∧ FileTree.empty.IsWritable path ∧
      (ParameterStore.file path .empty).answers operations =
        (ParameterStore.memory .empty).answers operations := by
  intro path operations
  have absent : FileTree.content? path .empty = none := by decide
  have writable : FileTree.empty.IsWritable path := ⟨.empty, _, rfl⟩
  exact ⟨absent, writable, file_answers_as_memory path .empty absent writable operations⟩

end ParameterStore

end GatewayLink
