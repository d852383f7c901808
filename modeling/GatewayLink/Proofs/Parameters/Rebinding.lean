import GatewayLink.Parameters.Store
import GatewayLink.Proofs.Json.Rereading
import GatewayLink.Proofs.Storage.Rewriting

/-!
# One member of a file

A store shares its file with whoever else writes it, so the object there may hold members of any
kind.  To bind one key writes all of them again.  The bound key is read back, and so is every other
member, except for binary64 numbers that are not read back from their own digits; whether a member
is a text, and which, never changes.
-/

namespace GatewayLink

namespace ParameterStore

open Json (KeysIncrease nestingLimit rereadMembers)

/-! ## The object in a file -/

theorem membersOf_spec (text : Option String) :
    (Json.object (membersOf text)).Canonical ∧ (Json.object (membersOf text)).depth ≤
      nestingLimit := by
  unfold membersOf
  split
  · rename_i members reads
    obtain ⟨_, -, reads⟩ := Option.bind_eq_some_iff.1 reads
    exact Json.read?_spec reads
  · exact ⟨⟨List.Pairwise.nil, trivial⟩, by decide⟩

theorem membersOf_of_read? {text : Option String} {members : List (String × Json)}
    (reads : text.bind Json.read? = some (.object members)) : membersOf text = members := by
  simp [membersOf, reads]

theorem membersOf_of_no_object {text : Option String}
    (no_object : ∀ members, text.bind Json.read? ≠ some (.object members)) :
    membersOf text = [] := by
  unfold membersOf
  split
  · rename_i members reads
    exact absurd reads (no_object members)
  · rfl

/-- An object with one member bound anew is read again. -/
theorem read?_updatedText (text : Option String) (key value : String) :
    Json.read? (updatedText (membersOf text) key value) =
      some (.object (rereadMembers (Json.insertMember key (.string value) (membersOf text)))) := by
  obtain ⟨⟨increase, canonical⟩, shallow⟩ := membersOf_spec text
  generalize membersOf text = members at *
  have each : ∀ member ∈ Json.insertMember key (.string value) members,
      member.2.Canonical ∧ member.2.depth ≤ Json.depthOfMembers members := by
    intro member among
    rcases Json.mem_insertMember among with rfl | among
    · exact ⟨trivial, Nat.zero_le _⟩
    · exact ⟨Json.canonicalMembers_iff.1 canonical member among,
        Json.depthOfMembers_le_iff.1 (Nat.le_refl _) member among⟩
  have written : (Json.object (Json.insertMember key (.string value) members)).Canonical :=
    ⟨Json.keysIncrease_insertMember key _ increase,
      Json.canonicalMembers_iff.2 fun member among => (each member among).1⟩
  have within : (Json.object (Json.insertMember key (.string value) members)).depth ≤
      nestingLimit := (Nat.succ_le_succ (Json.depthOfMembers_le_iff.2 fun member among =>
        (each member among).2)).trans shallow
  exact Json.read?_indented_eq_reread written within

theorem valueOf?_insertMember (members : List (String × Json)) (key other value : String) :
    valueOf? (Json.insertMember key (.string value) members) other =
      if other = key then some value else valueOf? members other := by
  by_cases same : other = key <;> simp [valueOf?, Json.lookup_insertMember, same, Json.string?]

theorem string?_reread (value : Json) : value.reread.string? = value.string? := by
  cases value <;> rfl

theorem valueOf?_rereadMembers (members : List (String × Json)) (key : String) :
    valueOf? (rereadMembers members) key = valueOf? members key := by
  rw [valueOf?, Json.lookup_rereadMembers, valueOf?, Option.bind_map]
  exact congrArg _ (funext string?_reread)

/-! ## Bindings -/

section Bindings

variable {path : FilePath} {tree : FileTree} {store after : ParameterStore} {key value : String}

theorem set_file_eq_ok_iff :
    (ParameterStore.file path tree).set key value = (.ok (), after) ↔
      ∃ changed, tree.writeText (updatedText (membersOf (tree.text? path)) key value) path =
        (.ok (), changed) ∧ after = .file path changed := by
  rw [set]
  rcases tree.writeText (updatedText (membersOf (tree.text? path)) key value) path with
    ⟨fault | ⟨⟩, changed⟩
  · simp [Except.mapError]
  · simp [Except.mapError, eq_comm]

theorem read?_of_set (bound : (ParameterStore.file path tree).set key value = (.ok (), after)) :
    ∃ changed, after = .file path changed ∧ (changed.text? path).bind Json.read? =
      some (.object (rereadMembers
        (Json.insertMember key (.string value) (membersOf (tree.text? path))))) := by
  obtain ⟨changed, written, rfl⟩ := set_file_eq_ok_iff.1 bound
  have held : changed.text? path = some (updatedText (membersOf (tree.text? path)) key value) := by
    rw [FileTree.text?, FileTree.content?_write _ path tree changed written, Option.bind_some,
      FileTree.fromUTF8?_toUTF8]
  exact ⟨changed, rfl, by rw [held, Option.bind_some, read?_updatedText]⟩

/-- A key that has been bound is found, and every other one is found as before. -/
theorem get?_of_set (bound : store.set key value = (.ok (), after)) (other : String) :
    after.get? other = if other = key then some value else store.get? other := by
  cases store with
  | memory values =>
      obtain rfl : .memory (values.set key value) = after := (Prod.mk.inj bound).2
      exact get?_set_memory values key other value
  | file path tree =>
      obtain ⟨changed, rfl, reads⟩ := read?_of_set bound
      simp only [get?, membersOf_of_read? reads, valueOf?_rereadMembers, valueOf?_insertMember]

/-- Where a key is bound in a file, its object has that member and the others that it had; so the
key is found, and every other one is found as before. -/
theorem set_rebinds_one_member
    (bound : (ParameterStore.file path tree).set key value = (.ok (), after)) :
    ∃ changed members, after = .file path changed ∧
      (changed.text? path).bind Json.read? = some (.object members) ∧ KeysIncrease members ∧
      members.lookup key = some (.string value) ∧
      (∀ before, (tree.text? path).bind Json.read? = some (.object before) →
        ∀ other, other ≠ key →
          (∀ kept, before.lookup other = some kept → kept.DoublesReadBack) →
            members.lookup other = before.lookup other) ∧
      ((∀ before, (tree.text? path).bind Json.read? ≠ some (.object before)) →
        members = [(key, .string value)]) ∧
      after.get? key = some value ∧
      ∀ other, other ≠ key → after.get? other = (ParameterStore.file path tree).get? other := by
  obtain ⟨changed, after_eq, reads⟩ := read?_of_set bound
  refine ⟨changed, _, after_eq, reads, ?_, ?_, ?_, ?_, ?_, ?_⟩
  · exact Json.keysIncrease_rereadMembers
      (Json.keysIncrease_insertMember key _ (membersOf_spec (tree.text? path)).1.1)
  · rw [Json.lookup_rereadMembers, Json.lookup_insertMember, if_pos rfl]
    rfl
  · intro before held other different read_back
    rw [Json.lookup_rereadMembers, Json.lookup_insertMember, if_neg different,
      membersOf_of_read? held]
    cases found : before.lookup other with
    | none => rfl
    | some kept =>
        exact congrArg some (Json.reread_of_doublesReadBack kept (read_back kept found))
  · intro no_object
    rw [membersOf_of_no_object no_object]
    rfl
  · rw [get?_of_set bound, if_pos rfl]
  · intro other different
    rw [get?_of_set bound, if_neg different]

/-- An array with a fraction stays where a text is bound, and so does the second of two members with
one key. -/
theorem text_is_bound_beside_array :
    let path : FilePath := ⟨[.into "kept.json"], .nothing, 9, 0⟩
    let tree := FileTree.directory
      ⟨[("kept.json", .file "\x7b\"b\":[0.5,null],\"a\":1,\"a\":\"x\"\x7d".toUTF8)]⟩
    let half : Double := ⟨false, Double.leastFull, -53, by decide⟩
    ∃ changed members,
      (ParameterStore.file path tree).set "c" "new" = (.ok (), .file path changed) ∧
        (changed.text? path).bind Json.read? = some (.object members) ∧
          members.lookup "c" = some (.string "new") ∧
            members.lookup "b" = some (.array [.number (.double half), .null]) ∧
              (ParameterStore.file path changed).get? "a" = some "x" := by
  intro path tree half
  have held : (tree.text? path).bind Json.read? = some (.object
      [("a", .string "x"), ("b", .array [.number (.double half), .null])]) := by
    decide +kernel
  have writable : tree.IsWritable path := ⟨.empty, _, rfl⟩
  obtain ⟨changed, written, -⟩ :=
    writable.writeText (updatedText (membersOf (tree.text? path)) "c" "new")
  have bound : (ParameterStore.file path tree).set "c" "new" = (.ok (), .file path changed) :=
    set_file_eq_ok_iff.2 ⟨changed, written, rfl⟩
  obtain ⟨_, members, same, reads, -, named, kept, -, -, others⟩ := set_rebinds_one_member bound
  obtain ⟨-, rfl⟩ := ParameterStore.file.inj same
  have read_back : Json.read? (Json.number (.double half)).compact =
      some (.number (.double half)) := by
    decide +kernel
  refine ⟨changed, members, bound, reads, named, ?_, ?_⟩
  · refine kept _ held "b" (by decide) fun value found => ?_
    obtain rfl := Option.some.inj found
    exact ⟨read_back, trivial, trivial⟩
  · rw [others "a" (by decide), get?, membersOf_of_read? held]
    rfl

end Bindings

end ParameterStore

end GatewayLink
