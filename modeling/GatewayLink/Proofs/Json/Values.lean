import GatewayLink.Json.Document
import GatewayLink.Table

/-!
# Values and their documents

Every readable document has a value.  The document of a value is readable, is nested as deeply, and
determines the value; it has that value again if the value lists its members by key.
-/

namespace GatewayLink

namespace Json

/-- A member whose key comes after all others is put behind them. -/
theorem insertMember_last {key : String} (value : Json) {sorted : List (String × Json)}
    (last : ∀ member ∈ sorted, member.1 < key) :
    insertMember key value sorted = sorted ++ [(key, value)] := by
  induction sorted with
  | nil => rfl
  | cons member rest ih =>
      have before : member.1 < key := last member (by simp)
      have not_before : ¬ key < member.1 := String.lt_asymm before
      have different : key ≠ member.1 := by
        rintro rfl
        exact String.lt_irrefl _ before
      have rest_last : ∀ other ∈ rest, other.1 < key :=
        fun other member => last other (by simp [member])
      simp [insertMember, not_before, different, ih rest_last]

/-- A member that is put in its place is found under its key, and no other key is touched. -/
theorem lookup_insertMember (key other : String) (value : Json) (members : List (String × Json)) :
    (insertMember key value members).lookup other =
      if other = key then some value else members.lookup other := by
  induction members with
  | nil => simp only [insertMember, Table.lookup_cons]
  | cons member rest ih =>
      obtain ⟨first, old⟩ := member
      unfold insertMember
      split
      · simp only [Table.lookup_cons]
      · split
        · rename_i here
          subst here
          by_cases same : other = key <;> simp [Table.lookup_cons, same]
        · rename_i elsewhere
          rw [Table.lookup_cons, Table.lookup_cons, ih]
          by_cases same : other = first
          · simp [same, Ne.symm elsewhere]
          · simp [same]

theorem mem_insertMember {key : String} {value : Json} {members : List (String × Json)}
    {member : String × Json} (among : member ∈ insertMember key value members) :
    member = (key, value) ∨ member ∈ members := by
  induction members with
  | nil => simpa [insertMember] using among
  | cons first rest ih =>
      unfold insertMember at among
      split at among
      · simpa using among
      · split at among
        · exact (List.mem_cons.1 among).imp id (List.mem_cons_of_mem first)
        · rcases List.mem_cons.1 among with rfl | among
          · exact .inr List.mem_cons_self
          · exact (ih among).imp id (List.mem_cons_of_mem first)

/-- A member that is put in its place leaves the keys in order. -/
theorem keysIncrease_insertMember (key : String) (value : Json) {members : List (String × Json)}
    (increase : KeysIncrease members) : KeysIncrease (insertMember key value members) := by
  induction members with
  | nil => exact List.pairwise_singleton ..
  | cons first rest ih =>
      obtain ⟨head_first, rest_increase⟩ := List.pairwise_cons.1 increase
      unfold insertMember
      split
      · rename_i before
        refine List.pairwise_cons.2 ⟨fun member among => ?_, increase⟩
        rcases List.mem_cons.1 among with rfl | among
        · exact before
        · exact String.lt_trans before (head_first member among)
      · split
        · rename_i here
          exact List.pairwise_cons.2 ⟨fun member among => here ▸ head_first member among,
            rest_increase⟩
        · rename_i not_before elsewhere
          have after : first.1 < key := by
            refine Decidable.byContradiction fun not_after => elsewhere ?_
            exact String.le_antisymm (String.not_lt.1 not_after) (String.not_lt.1 not_before)
          refine List.pairwise_cons.2 ⟨fun member among => ?_, ih rest_increase⟩
          rcases mem_insertMember among with rfl | among
          · exact after
          · exact head_first member among

/-- Members whose keys increase are sorted already. -/
theorem sortMembers_of_keysIncrease {members : List (String × Json)}
    (increase : KeysIncrease members) : sortMembers members = members := by
  have keeps : ∀ sorted : List (String × Json), KeysIncrease (sorted ++ members) →
      members.foldl (fun sorted member => insertMember member.1 member.2 sorted) sorted =
        sorted ++ members := by
    clear increase
    induction members with
    | nil => simp
    | cons member rest ih =>
        intro sorted increase
        have last : ∀ other ∈ sorted, other.1 < member.1 := fun other before =>
          (List.pairwise_append.1 increase).2.2 other before member (by simp)
        have concat : sorted ++ member :: rest = (sorted ++ [member]) ++ rest := by simp
        rw [concat] at increase ⊢
        rw [List.foldl_cons, insertMember_last member.2 last]
        exact ih _ increase
  exact keeps [] increase

namespace Document

mutual

/-- A readable document has a value. -/
theorem exists_value? (document : Document) (readable : document.isReadable = true) :
    ∃ value, document.value? = some value := by
  match document with
  | .null => exact ⟨_, rfl⟩
  | .bool value => exact ⟨_, rfl⟩
  | .number (some value) => exact ⟨_, rfl⟩
  | .string (some value) => exact ⟨_, rfl⟩
  | .array elements =>
    obtain ⟨values, reads⟩ := exists_valuesOfElements? elements readable
    exact ⟨.array values, by simp [value?, reads]⟩
  | .object members =>
    obtain ⟨values, reads⟩ := exists_valuesOfMembers? members readable
    exact ⟨.object (sortMembers values), by simp [value?, reads]⟩
termination_by structural document

theorem exists_valuesOfElements? (elements : List Document)
    (readable : elementsAreReadable elements = true) :
    ∃ values, valuesOfElements? elements = some values := by
  match elements with
  | [] => exact ⟨_, rfl⟩
  | element :: rest =>
    simp only [elementsAreReadable, Bool.and_eq_true] at readable
    obtain ⟨value, reads⟩ := exists_value? element readable.1
    obtain ⟨values, others_read⟩ := exists_valuesOfElements? rest readable.2
    exact ⟨value :: values, by simp [valuesOfElements?, reads, others_read]⟩
termination_by structural elements

theorem exists_valuesOfMembers? (members : List (Option String × Document))
    (readable : membersAreReadable members = true) :
    ∃ values, valuesOfMembers? members = some values := by
  match members with
  | [] => exact ⟨_, rfl⟩
  | (some key, document) :: rest =>
    simp only [membersAreReadable, Bool.and_eq_true] at readable
    obtain ⟨value, reads⟩ := exists_value? document readable.1.2
    obtain ⟨values, others_read⟩ := exists_valuesOfMembers? rest readable.2
    exact ⟨(key, value) :: values, by simp [valuesOfMembers?, reads, others_read]⟩
termination_by structural members

end

theorem ofMembers_append (left right : List (String × Json)) :
    ofMembers (left ++ right) = ofMembers left ++ ofMembers right := by
  induction left with
  | nil => rfl
  | cons member rest ih => simp [ofMembers, ih]

mutual

/-- The document of a value has that value. -/
theorem value?_ofJson (value : Json) (canonical : value.Canonical) :
    (ofJson value).value? = some value := by
  match value with
  | .null => rfl
  | .bool _ => rfl
  | .number _ => rfl
  | .string _ => rfl
  | .array elements =>
    have reads := valuesOfElements?_ofElements elements canonical
    simp [ofJson, value?, reads]
  | .object members =>
    have reads := valuesOfMembers?_ofMembers members canonical.2
    simp [ofJson, value?, reads, sortMembers_of_keysIncrease canonical.1]
termination_by structural value

theorem valuesOfElements?_ofElements (elements : List Json)
    (canonical : CanonicalElements elements) :
    valuesOfElements? (ofElements elements) = some elements := by
  match elements with
  | [] => rfl
  | element :: rest =>
    have reads := value?_ofJson element canonical.1
    have others_read := valuesOfElements?_ofElements rest canonical.2
    simp [ofElements, valuesOfElements?, reads, others_read]
termination_by structural elements

theorem valuesOfMembers?_ofMembers (members : List (String × Json))
    (canonical : CanonicalMembers members) :
    valuesOfMembers? (ofMembers members) = some members := by
  match members with
  | [] => rfl
  | (key, value) :: rest =>
    have reads := value?_ofJson value canonical.1
    have others_read := valuesOfMembers?_ofMembers rest canonical.2
    simp [ofMembers, valuesOfMembers?, reads, others_read]
termination_by structural members

end

mutual

@[simp]
theorem isReadable_ofJson (value : Json) : (ofJson value).isReadable = true := by
  match value with
  | .null => rfl
  | .bool _ => rfl
  | .number _ => rfl
  | .string _ => rfl
  | .array elements => exact elementsAreReadable_ofElements elements
  | .object members => exact membersAreReadable_ofMembers members
termination_by structural value

@[simp]
theorem elementsAreReadable_ofElements (elements : List Json) :
    elementsAreReadable (ofElements elements) = true := by
  match elements with
  | [] => rfl
  | element :: rest =>
    simp [ofElements, elementsAreReadable, isReadable_ofJson element,
      elementsAreReadable_ofElements rest]
termination_by structural elements

@[simp]
theorem membersAreReadable_ofMembers (members : List (String × Json)) :
    membersAreReadable (ofMembers members) = true := by
  match members with
  | [] => rfl
  | (key, value) :: rest =>
    simp [ofMembers, membersAreReadable, isReadable_ofJson value,
      membersAreReadable_ofMembers rest]
termination_by structural members

end

mutual

@[simp]
theorem depth_ofJson (value : Json) : (ofJson value).depth = value.depth := by
  match value with
  | .null => rfl
  | .bool _ => rfl
  | .number _ => rfl
  | .string _ => rfl
  | .array elements => simp [ofJson, depth, Json.depth, depthOfElements_ofElements elements]
  | .object members => simp [ofJson, depth, Json.depth, depthOfMembers_ofMembers members]
termination_by structural value

@[simp]
theorem depthOfElements_ofElements (elements : List Json) :
    depthOfElements (ofElements elements) = Json.depthOfElements elements := by
  match elements with
  | [] => rfl
  | element :: rest =>
    simp [ofElements, depthOfElements, Json.depthOfElements, depth_ofJson element,
      depthOfElements_ofElements rest]
termination_by structural elements

@[simp]
theorem depthOfMembers_ofMembers (members : List (String × Json)) :
    depthOfMembers (ofMembers members) = Json.depthOfMembers members := by
  match members with
  | [] => rfl
  | (key, value) :: rest =>
    simp [ofMembers, depthOfMembers, Json.depthOfMembers, depth_ofJson value,
      depthOfMembers_ofMembers rest]
termination_by structural members

end

mutual

/-- Different values have different documents. -/
theorem ofJson_injective (left right : Json) (same : ofJson left = ofJson right) :
    left = right := by
  match left with
  | .null => cases right <;> simp_all [ofJson]
  | .bool _ => cases right <;> simp_all [ofJson]
  | .number _ => cases right <;> simp_all [ofJson]
  | .string _ => cases right <;> simp_all [ofJson]
  | .array elements =>
    cases right <;> simp only [ofJson, array.injEq, reduceCtorEq] at same
    rw [ofElements_injective elements _ same]
  | .object members =>
    cases right <;> simp only [ofJson, object.injEq, reduceCtorEq] at same
    rw [ofMembers_injective members _ same]
termination_by structural left

theorem ofElements_injective (left right : List Json) (same : ofElements left = ofElements right) :
    left = right := by
  match left, right with
  | [], [] => rfl
  | [], _ :: _ => simp [ofElements] at same
  | _ :: _, [] => simp [ofElements] at same
  | first :: rest, other :: others =>
    simp only [ofElements, List.cons.injEq] at same
    rw [ofJson_injective first other same.1, ofElements_injective rest others same.2]
termination_by structural left

theorem ofMembers_injective (left right : List (String × Json))
    (same : ofMembers left = ofMembers right) : left = right := by
  match left, right with
  | [], [] => rfl
  | [], _ :: _ => simp [ofMembers] at same
  | _ :: _, [] => simp [ofMembers] at same
  | (key, value) :: rest, (otherKey, other) :: others =>
    simp only [ofMembers, List.cons.injEq, Prod.mk.injEq, Option.some.injEq] at same
    rw [same.1.1, ofJson_injective value other same.1.2, ofMembers_injective rest others same.2]
termination_by structural left

end

end Document

end Json

end GatewayLink
