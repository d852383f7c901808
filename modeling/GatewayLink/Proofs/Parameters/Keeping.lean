import GatewayLink.Proofs.Parameters.Filling

/-!
# Parameters that are kept

Parameters that could be kept are loaded again, through the text of the value and, in a file,
through the text of the object around it, and those of all other methods are as before.  Nothing is
said of a file that could not be written: what is left of it is up to the disk.
-/

namespace GatewayLink

namespace ParameterStore

open Json (nestingLimit)

/-- Parameters that could be kept are loaded again; those of every other method are as before. -/
theorem kept_params_are_loaded (store : ParameterStore) (method : String) (params : Json)
    (portable : params.Portable) (shallow : params.depth ≤ nestingLimit) :
    let after := (store.save method params).2
    ((store.save method params).1 = .ok () →
      after.load? method = some params ∧
        ∀ other, other ≠ method → after.load? other = store.load? other) ∧
    (∀ values, store = .memory values → (store.save method params).1 = .ok ()) ∧
    ∀ path tree, store = .file path tree → tree.IsWritable path →
      (store.save method params).1 = .ok () := by
  intro after
  refine ⟨fun kept => ?_, ?_, ?_⟩
  · have loads := @load?_of_save store after method params (Prod.ext kept rfl) portable shallow
    exact ⟨by rw [loads, if_pos rfl], fun other different => by rw [loads, if_neg different]⟩
  · rintro values rfl
    exact isWritable_memory values _ _
  · rintro path tree rfl writable
    exact isWritable_file writable _ _

/-- A value with a member that needs escapes is kept in a file next to what other methods and others
have written there. -/
theorem kept_params_are_loaded_beside_others :
    let path : FilePath := ⟨[.into "kept.json"], .nothing, 9, 0⟩
    let tree : FileTree := .directory ⟨[("kept.json",
      .file "\x7b\"preset:feeds.list\":\"[null]\",\"theme\":[1.5]\x7d".toUTF8)]⟩
    let store := ParameterStore.file path tree
    let params : Json := .object [("a\"\n", .array [.string "\\", .bool true])]
    params.Portable ∧ params.depth ≤ nestingLimit ∧
      (store.save "feeds" params).1 = .ok () ∧
      (store.save "feeds" params).2.load? "feeds" = some params ∧
      (store.save "feeds" params).2.load? "feeds.list" = some (.array [.null]) := by
  intro path tree store params
  have portable : params.Portable := by
    refine ⟨⟨List.pairwise_singleton .., ?_⟩, ?_⟩
    · simp [Json.Canonical, Json.CanonicalMembers, Json.CanonicalElements]
    · simp [params, Json.WithoutDoubles, Json.WithoutDoublesMembers, Json.WithoutDoublesElements]
  have shallow : params.depth ≤ nestingLimit := by decide
  have held : store.load? "feeds.list" = some (.array [.null]) := by decide +kernel
  obtain ⟨loads, -, in_file⟩ := kept_params_are_loaded store "feeds" params portable shallow
  have kept := in_file path tree rfl ⟨.empty, _, rfl⟩
  obtain ⟨loaded, others⟩ := loads kept
  exact ⟨portable, shallow, kept, loaded, (others "feeds.list" (by decide)).trans held⟩

/-- Where a directory stands in the place of the file, nothing can be kept, so that what was to be
kept is not loaded. -/
theorem params_are_lost_in_place_of_directory :
    let path : FilePath := ⟨[.into "kept"], .nothing, 4, 0⟩
    let store := ParameterStore.file path (.directory ⟨[("kept", .empty)]⟩)
    let params : Json := .bool true
    params.Portable ∧ params.depth ≤ nestingLimit ∧
      (store.save "feeds.list" params).1 = .error (.io FileFault.isDirectory.message) ∧
        (store.save "feeds.list" params).2.load? "feeds.list" ≠ some params := by
  intro path store params
  exact ⟨⟨trivial, trivial⟩, Nat.zero_le _, by decide +kernel, by decide +kernel⟩

end ParameterStore

end GatewayLink
