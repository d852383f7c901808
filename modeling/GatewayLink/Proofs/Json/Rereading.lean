import GatewayLink.Proofs.Json.Printing

/-!
# Values that are written again

What is read from a text lists its members by key and is nested within the limit.  So what is
written of it is read again, as a value with the same keys, and with each binary64 number as its
digits are read.  It is the same value where those numbers are read back.
-/

namespace GatewayLink

namespace Json

/-! ## Members -/

theorem canonicalMembers_iff {members : List (String × Json)} :
    CanonicalMembers members ↔ ∀ member ∈ members, member.2.Canonical := by
  induction members with
  | nil => simp [CanonicalMembers]
  | cons member rest ih => rw [CanonicalMembers, ih, List.forall_mem_cons]

theorem depthOfMembers_le_iff {members : List (String × Json)} {limit : Nat} :
    depthOfMembers members ≤ limit ↔ ∀ member ∈ members, member.2.depth ≤ limit := by
  induction members with
  | nil => simp [depthOfMembers]
  | cons member rest ih => rw [depthOfMembers, Nat.max_le, ih, List.forall_mem_cons]

/-- Sorted members have increasing keys, and none is new. -/
theorem sortMembers_spec (members : List (String × Json)) :
    KeysIncrease (sortMembers members) ∧ ∀ member ∈ sortMembers members, member ∈ members := by
  induction members using List.reverseRecOn with
  | nil => simp [sortMembers, KeysIncrease]
  | append_singleton earlier last ih =>
      have sorted : sortMembers (earlier ++ [last]) =
          insertMember last.1 last.2 (sortMembers earlier) := List.foldl_append ..
      rw [sorted]
      refine ⟨keysIncrease_insertMember _ _ ih.1, fun member among => ?_⟩
      rcases mem_insertMember among with rfl | among
      · simp
      · simp [ih.2 member among]

/-! ## Values that are read -/

namespace Document

mutual

/-- The value of a document is canonical, and it is nested no deeper. -/
theorem value?_spec (document : Document) {value : Json} (reads : document.value? = some value) :
    value.Canonical ∧ value.depth ≤ document.depth := by
  match document with
  | .null =>
    obtain rfl := Option.some.inj reads
    exact ⟨trivial, Nat.zero_le _⟩
  | .bool _ =>
    obtain rfl := Option.some.inj reads
    exact ⟨trivial, Nat.zero_le _⟩
  | .number _ =>
    obtain ⟨number, -, rfl⟩ := Option.map_eq_some_iff.1 reads
    exact ⟨trivial, Nat.zero_le _⟩
  | .string _ =>
    obtain ⟨text, -, rfl⟩ := Option.map_eq_some_iff.1 reads
    exact ⟨trivial, Nat.zero_le _⟩
  | .array elements =>
    obtain ⟨values, values_read, rfl⟩ := Option.map_eq_some_iff.1 reads
    obtain ⟨canonical, shallow⟩ := valuesOfElements?_spec elements values_read
    exact ⟨canonical, Nat.succ_le_succ shallow⟩
  | .object members =>
    obtain ⟨values, values_read, rfl⟩ := Option.map_eq_some_iff.1 reads
    have kept := valuesOfMembers?_spec members values_read
    obtain ⟨increase, among⟩ := sortMembers_spec values
    refine ⟨⟨increase, canonicalMembers_iff.2 fun member there =>
      (kept member (among member there)).1⟩, Nat.succ_le_succ ?_⟩
    exact depthOfMembers_le_iff.2 fun member there => (kept member (among member there)).2
termination_by structural document

theorem valuesOfElements?_spec (elements : List Document) {values : List Json}
    (reads : valuesOfElements? elements = some values) :
    CanonicalElements values ∧ Json.depthOfElements values ≤ depthOfElements elements := by
  match elements with
  | [] =>
    obtain rfl := Option.some.inj reads
    exact ⟨trivial, Nat.le_refl _⟩
  | element :: rest =>
    simp only [valuesOfElements?, Option.bind_eq_bind, Option.bind_eq_some_iff, Option.pure_def,
      Option.some.injEq] at reads
    obtain ⟨value, value_read, values, values_read, rfl⟩ := reads
    obtain ⟨canonical, shallow⟩ := value?_spec element value_read
    obtain ⟨others_canonical, others_shallow⟩ := valuesOfElements?_spec rest values_read
    refine ⟨⟨canonical, others_canonical⟩, ?_⟩
    simp only [Json.depthOfElements, depthOfElements]
    omega
termination_by structural elements

theorem valuesOfMembers?_spec (members : List (Option String × Document))
    {values : List (String × Json)} (reads : valuesOfMembers? members = some values) :
    ∀ member ∈ values, member.2.Canonical ∧ member.2.depth ≤ depthOfMembers members := by
  match members with
  | [] =>
    obtain rfl := Option.some.inj reads
    simp
  | (key, document) :: rest =>
    simp only [valuesOfMembers?, Option.bind_eq_bind, Option.bind_eq_some_iff, Option.pure_def,
      Option.some.injEq] at reads
    obtain ⟨key, -, value, value_read, values, values_read, rfl⟩ := reads
    obtain ⟨canonical, shallow⟩ := value?_spec document value_read
    have others := valuesOfMembers?_spec rest values_read
    refine List.forall_mem_cons.2 ⟨⟨canonical, ?_⟩, fun member among => ?_⟩
    · exact shallow.trans (Nat.le_max_left ..)
    · exact ⟨(others member among).1, (others member among).2.trans (Nat.le_max_right ..)⟩
termination_by structural members

end

end Document

theorem read?_spec {text : String} {value : Json} (reads : read? text = some value) :
    value.Canonical ∧ value.depth ≤ nestingLimit := by
  obtain ⟨document, -, within⟩ := Option.bind_eq_some_iff.1 reads
  simp only [Document.valueWithin?, Option.ite_none_right_eq_some] at within
  obtain ⟨canonical, shallow⟩ := document.value?_spec within.2
  exact ⟨canonical, shallow.trans within.1⟩

/-! ## Values that are read again -/

theorem rereadMembers_eq_map (members : List (String × Json)) :
    rereadMembers members = members.map fun member => (member.1, member.2.reread) := by
  induction members with
  | nil => rfl
  | cons member rest ih => rw [rereadMembers, ih, List.map_cons]

theorem lookup_rereadMembers (members : List (String × Json)) (key : String) :
    (rereadMembers members).lookup key = (members.lookup key).map reread := by
  induction members with
  | nil => rfl
  | cons member rest ih =>
      obtain ⟨first, value⟩ := member
      rw [rereadMembers, Table.lookup_cons, Table.lookup_cons, ih]
      split <;> rfl

mutual

@[simp]
theorem depth_reread (value : Json) : value.reread.depth = value.depth := by
  match value with
  | .null => rfl
  | .bool _ => rfl
  | .number _ => rfl
  | .string _ => rfl
  | .array elements => simp [reread, depth, depthOfElements_rereadElements elements]
  | .object members => simp [reread, depth, depthOfMembers_rereadMembers members]
termination_by structural value

@[simp]
theorem depthOfElements_rereadElements (elements : List Json) :
    depthOfElements (rereadElements elements) = depthOfElements elements := by
  match elements with
  | [] => rfl
  | element :: rest =>
    simp [rereadElements, depthOfElements, depth_reread element,
      depthOfElements_rereadElements rest]
termination_by structural elements

@[simp]
theorem depthOfMembers_rereadMembers (members : List (String × Json)) :
    depthOfMembers (rereadMembers members) = depthOfMembers members := by
  match members with
  | [] => rfl
  | (key, value) :: rest =>
    simp [rereadMembers, depthOfMembers, depth_reread value, depthOfMembers_rereadMembers rest]
termination_by structural members

end

theorem keysIncrease_rereadMembers {members : List (String × Json)}
    (increase : KeysIncrease members) : KeysIncrease (rereadMembers members) := by
  rw [rereadMembers_eq_map]
  exact List.pairwise_map.2 increase

mutual

/-- To read a value again keeps its members in order. -/
theorem canonical_reread (value : Json) (canonical : value.Canonical) : value.reread.Canonical := by
  match value with
  | .null => trivial
  | .bool _ => trivial
  | .number _ => trivial
  | .string _ => trivial
  | .array elements => exact canonicalElements_reread elements canonical
  | .object members =>
    exact ⟨keysIncrease_rereadMembers canonical.1, canonicalMembers_reread members canonical.2⟩
termination_by structural value

theorem canonicalElements_reread (elements : List Json) (canonical : CanonicalElements elements) :
    CanonicalElements (rereadElements elements) := by
  match elements with
  | [] => trivial
  | element :: rest =>
    exact ⟨canonical_reread element canonical.1, canonicalElements_reread rest canonical.2⟩
termination_by structural elements

theorem canonicalMembers_reread (members : List (String × Json))
    (canonical : CanonicalMembers members) : CanonicalMembers (rereadMembers members) := by
  match members with
  | [] => trivial
  | (key, value) :: rest =>
    exact ⟨canonical_reread value canonical.1, canonicalMembers_reread rest canonical.2⟩
termination_by structural members

end

theorem read?_indented_eq_reread {value : Json} (canonical : value.Canonical)
    (shallow : value.depth ≤ nestingLimit) : read? value.indented = some value.reread :=
  read?_of_spelled (canonical_reread value canonical) (by rwa [depth_reread])
    (spelled_indented_reread value)

/-! ## Numbers that are read back -/

mutual

/-- Whether each binary64 number in a value is read back from what is written of it. -/
def DoublesReadBack : Json → Prop
  | .number (.double value) =>
    read? (number (.double value)).compact = some (.number (.double value))
  | .array elements => DoublesReadBackElements elements
  | .object members => DoublesReadBackMembers members
  | _ => True
termination_by structural value => value

/-- Whether each binary64 number in the elements is read back. -/
def DoublesReadBackElements : List Json → Prop
  | [] => True
  | element :: rest => element.DoublesReadBack ∧ DoublesReadBackElements rest
termination_by structural elements => elements

/-- Whether each binary64 number in the members is read back. -/
def DoublesReadBackMembers : List (String × Json) → Prop
  | [] => True
  | (_, value) :: rest => value.DoublesReadBack ∧ DoublesReadBackMembers rest
termination_by structural members => members

end

theorem read?_compact_number (value : Number) :
    read? (number value).compact = some (.number value.reread) := by
  have spelled := spelled_print Layout.sound_compact 0 (.number value)
  exact read?_of_spelled trivial (Nat.zero_le _) (by simpa [compact, reread] using spelled)

mutual

/-- A value whose binary64 numbers are read back is read back. -/
theorem reread_of_doublesReadBack (value : Json) (read_back : value.DoublesReadBack) :
    value.reread = value := by
  match value with
  | .null => rfl
  | .bool _ => rfl
  | .number (.integer value) => exact congrArg Json.number (Number.reread_integer value)
  | .number (.double value) =>
    exact Option.some.inj ((read?_compact_number (.double value)).symm.trans read_back)
  | .string _ => rfl
  | .array elements => rw [reread, rereadElements_of_doublesReadBack elements read_back]
  | .object members => rw [reread, rereadMembers_of_doublesReadBack members read_back]
termination_by structural value

theorem rereadElements_of_doublesReadBack (elements : List Json)
    (read_back : DoublesReadBackElements elements) : rereadElements elements = elements := by
  match elements with
  | [] => rfl
  | element :: rest =>
    rw [rereadElements, reread_of_doublesReadBack element read_back.1,
      rereadElements_of_doublesReadBack rest read_back.2]
termination_by structural elements

theorem rereadMembers_of_doublesReadBack (members : List (String × Json))
    (read_back : DoublesReadBackMembers members) : rereadMembers members = members := by
  match members with
  | [] => rfl
  | (key, value) :: rest =>
    rw [rereadMembers, reread_of_doublesReadBack value read_back.1,
      rereadMembers_of_doublesReadBack rest read_back.2]
termination_by structural members

end

end Json

end GatewayLink
