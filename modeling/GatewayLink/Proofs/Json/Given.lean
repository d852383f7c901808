import GatewayLink.Proofs.Json.Record

/-!
# Records whose fields must all be given

A value gives a record its fields if it is an object in which each of them stands once, whatever
else stands there, or an array of just their values.  From the document of a value the required
fields of a record are read exactly if the value gives them.
-/

namespace GatewayLink

namespace Json

/-- A value gives a record its fields: an object in which each of these members stands once,
whatever else it holds, or an array of just their values. -/
inductive Gives (fields : List (String × Json)) : Json → Prop
  | object {members : List (String × Json)}
      (once : ∀ field ∈ fields, members.filter (·.1 == field.1) = [field]) :
      Gives fields (.object members)
  | array : Gives fields (.array (fields.map Prod.snd))

/-- An object of fields with different names gives them. -/
theorem gives_object {fields : List (String × Json)} (distinct : (fields.map Prod.fst).Nodup) :
    (object fields).Gives fields := by
  refine .object fun field member => ?_
  induction fields with
  | nil => simp at member
  | cons first rest ih =>
      rw [List.map_cons, List.nodup_cons] at distinct
      rcases List.mem_cons.1 member with rfl | later
      · have alone : rest.filter (·.1 == field.1) = [] := by
          rw [List.filter_eq_nil_iff]
          intro other among
          have different : other.1 ≠ field.1 := fun same =>
            distinct.1 (same ▸ List.mem_map_of_mem among)
          simpa using different
        simp [alone]
      · have different : first.1 ≠ field.1 := fun same =>
          distinct.1 (same ▸ List.mem_map_of_mem later)
        simpa [different] using ih distinct.2 later

namespace Fields

variable {α : Type} {fields : Fields} {name : String} {document : Document}
  {read : Document → Option α} {result : α}

theorem required?_of_find? (found : fields.find? name = some document)
    (reads : read document = some result) : fields.required? name read = some result := by
  rw [required?, found, Option.bind_some, reads]

theorem withDefault?_of_find? (found : fields.find? name = some document)
    (reads : read document = some result) (default : α) :
    fields.withDefault? name read default = some result := by
  simp only [withDefault?, found, reads]

end Fields

namespace Document

/-! ## Required fields -/

/-- Whether a document gives a record its fields, each of them this document. -/
def Supplies (document : Document) (fields : List (String × Document)) : Prop :=
  ∃ given, document.fields? (fields.map Prod.fst) = some given ∧
    ∀ field ∈ fields, given.find? field.1 = some field.2

/-- An object supplies fields that stand once under their names. -/
theorem supplies_object_iff {members : List (Option String × Document)}
    (readable : membersAreReadable members = true) (fields : List (String × Document)) :
    (object members).Supplies fields ↔
      ∀ field ∈ fields, valuesUnder members field.1 = [field.2] := by
  have given_iff : (∃ given, (object members).fields? (fields.map Prod.fst) = some given) ↔
      ∀ field ∈ fields, (valuesUnder members field.1).length ≤ 1 := by
    rw [exists_fields?_object_iff readable, List.forall_mem_map]
  constructor
  · rintro ⟨given, given_eq, found⟩ field member
    have once := given_iff.1 ⟨given, given_eq⟩ field member
    rw [← head?_eq_some_iff_of_length_le_one once,
      ← find?_of_object given_eq (List.mem_map_of_mem member)]
    exact found field member
  · intro held
    obtain ⟨given, given_eq⟩ := given_iff.2 fun field member => by simp [held field member]
    refine ⟨given, given_eq, fun field member => ?_⟩
    rw [find?_of_object given_eq (List.mem_map_of_mem member), held field member]
    rfl

/-- Elements that are no more than the fields, each found under its name, are the fields. -/
theorem lookup_zip_iff {fields : List (String × Document)} (distinct : (fields.map Prod.fst).Nodup)
    (elements : List Document) :
    (elements.length ≤ fields.length ∧ ∀ field ∈ fields,
      ((fields.map Prod.fst).zip elements).lookup field.1 = some field.2) ↔
        elements = fields.map Prod.snd := by
  induction fields generalizing elements with
  | nil => simp
  | cons field rest ih =>
      rw [List.map_cons, List.nodup_cons] at distinct
      cases elements with
      | nil =>
          simp only [List.zip_nil_right, List.lookup_nil, reduceCtorEq, List.map_cons,
            List.forall_mem_cons, false_and, and_false]
      | cons element others =>
          -- The names differ, so the first element stands before no later field.
          have elsewhere : ∀ other ∈ rest,
              ((field.1, element) :: (rest.map Prod.fst).zip others).lookup other.1 =
                ((rest.map Prod.fst).zip others).lookup other.1 := by
            intro other member
            have different : other.1 ≠ field.1 := fun same =>
              distinct.1 (same ▸ List.mem_map_of_mem member)
            rw [Table.lookup_cons, if_neg different]
          simp only [List.map_cons, List.zip_cons_cons, List.forall_mem_cons, List.lookup_cons_self,
            Option.some.injEq, List.length_cons, Nat.add_le_add_iff_right, List.cons.injEq]
          rw [forall₂_congr fun other member => by rw [elsewhere other member],
            ← ih distinct.2 others, and_left_comm]

theorem supplies_array_iff {fields : List (String × Document)}
    (distinct : (fields.map Prod.fst).Nodup) (elements : List Document) :
    (array elements).Supplies fields ↔ elements = fields.map Prod.snd := by
  rw [← lookup_zip_iff distinct]
  simp [Supplies, fields?, Fields.find?, and_assoc]

/-! ## Fields of values -/

theorem ofElements_eq_map (elements : List Json) : ofElements elements = elements.map ofJson := by
  induction elements with
  | nil => rfl
  | cons element rest ih => simp [ofElements, ih]

theorem valuesUnder_ofMembers (members : List (String × Json)) (key : String) :
    valuesUnder (ofMembers members) key =
      (members.filter (·.1 == key)).map fun member => ofJson member.2 := by
  induction members with
  | nil => rfl
  | cons member rest ih =>
      obtain ⟨other, value⟩ := member
      by_cases here : other = key <;> simp [ofMembers, valuesUnder_cons, here, ih]

theorem valuesUnder_ofMembers_eq_singleton_iff (members : List (String × Json))
    (field : String × Json) :
    valuesUnder (ofMembers members) field.1 = [ofJson field.2] ↔
      members.filter (·.1 == field.1) = [field] := by
  rw [valuesUnder_ofMembers, List.map_eq_singleton_iff]
  constructor
  · rintro ⟨found, alone, same⟩
    have member : found ∈ members.filter (·.1 == field.1) := by simp [alone]
    have here : found.1 = field.1 := by simpa using (List.mem_filter.1 member).2
    rw [alone, Prod.ext here (ofJson_injective _ _ same)]
  · intro alone
    exact ⟨field, alone, rfl⟩

/-- A value gives fields just if its document supplies theirs. -/
theorem supplies_ofJson_iff {fields : List (String × Json)}
    (distinct : (fields.map Prod.fst).Nodup) (value : Json) :
    (ofJson value).Supplies (fields.map fun field => (field.1, ofJson field.2)) ↔
      value.Gives fields := by
  cases value with
  | object members =>
      rw [ofJson, supplies_object_iff (membersAreReadable_ofMembers members), List.forall_mem_map]
      simp only [valuesUnder_ofMembers_eq_singleton_iff]
      exact ⟨.object, fun | .object once => once⟩
  | array elements =>
      have same_names : (fields.map fun field => (field.1, ofJson field.2)).map Prod.fst =
          fields.map Prod.fst := by simp [Function.comp_def]
      have values : (fields.map fun field => (field.1, ofJson field.2)).map Prod.snd =
          (fields.map Prod.snd).map ofJson := by simp
      rw [ofJson, supplies_array_iff (same_names ▸ distinct), values, ← ofElements_eq_map]
      constructor
      · intro same
        rw [ofElements_injective _ _ same]
        exact .array
      · rintro ⟨⟩
        rfl
  | null | bool | number | string =>
      constructor
      · rintro ⟨given, given_eq, -⟩
        simp [ofJson, fields?] at given_eq
      · rintro ⟨⟩

theorem supplies_object {fields : List (String × Json)} (distinct : (fields.map Prod.fst).Nodup) :
    (ofJson (.object fields)).Supplies (fields.map fun field => (field.1, ofJson field.2)) :=
  (supplies_ofJson_iff distinct _).2 (gives_object distinct)

/-- What is found in the document of a value is the document of a value. -/
theorem exists_eq_ofJson_of_find? {value : Json} {names : List String} {given : Fields}
    (given_eq : (ofJson value).fields? names = some given) {name : String} (declared : name ∈ names)
    {document : Document} (found : given.find? name = some document) :
    ∃ part, document = ofJson part := by
  cases value with
  | object members =>
      rw [ofJson] at given_eq
      rw [find?_of_object given_eq declared, valuesUnder_ofMembers, List.head?_map] at found
      obtain ⟨member, -, rfl⟩ := Option.map_eq_some_iff.1 found
      exact ⟨member.2, rfl⟩
  | array elements =>
      rw [ofJson, ofElements_eq_map] at given_eq
      rw [find?_of_array given_eq] at found
      have among := mem_of_mem_elementsFor (List.mem_of_mem_head? found)
      obtain ⟨element, -, rfl⟩ := List.mem_map.1 among
      exact ⟨element, rfl⟩
  | null | bool | number | string => simp [ofJson, fields?] at given_eq

theorem required?_ofJson_eq_some_iff {α : Type} {value : Json} {names : List String}
    {given : Fields} (given_eq : (ofJson value).fields? names = some given) {name : String}
    (declared : name ∈ names) (read : Document → Option α) (result : α) :
    given.required? name read = some result ↔
      ∃ part, given.find? name = some (ofJson part) ∧ read (ofJson part) = some result := by
  rw [Fields.required?, Option.bind_eq_some_iff]
  constructor
  · rintro ⟨document, found, reads⟩
    obtain ⟨part, rfl⟩ := exists_eq_ofJson_of_find? given_eq declared found
    exact ⟨part, found, reads⟩
  · rintro ⟨part, found, reads⟩
    exact ⟨_, found, reads⟩

/-- The only field of a record is read from a value that gives it. -/
theorem only_field_eq_some_iff {α : Type} (name : String) (read : Document → Option α)
    (value : Json) (result : α) :
    (((ofJson value).fields? [name]).bind fun given => given.required? name read) = some result ↔
      ∃ part, value.Gives [(name, part)] ∧ read (ofJson part) = some result := by
  rw [Option.bind_eq_some_iff]
  constructor
  · rintro ⟨given, given_eq, reads⟩
    obtain ⟨part, found, reads⟩ :=
      (required?_ofJson_eq_some_iff given_eq (by simp) read result).1 reads
    have supplied : (ofJson value).Supplies [(name, ofJson part)] :=
      ⟨given, given_eq, by simpa using found⟩
    exact ⟨part, (supplies_ofJson_iff (by simp) value).1 supplied, reads⟩
  · rintro ⟨part, gives, reads⟩
    obtain ⟨given, given_eq, found⟩ := (supplies_ofJson_iff (by simp) value).2 gives
    have found : given.find? name = some (ofJson part) := by simpa using found
    exact ⟨given, given_eq,
      (required?_ofJson_eq_some_iff given_eq (by simp) read result).2 ⟨part, found, reads⟩⟩

/-! ## Numbers and texts -/

theorem integer?_ofJson_eq_some_iff (value : Json) (integer : Integer) :
    (ofJson value).integer? = some integer ↔ value = .number (.integer integer) := by
  cases value with
  | number number => cases number <;> simp [ofJson, integer?]
  | _ => simp [ofJson, integer?]

theorem int64?_ofJson_eq_some_iff (value : Json) (word : Int64) :
    (ofJson value).int64? = some word ↔ value = Json.ofInt64 word := by
  simp only [int64?, Option.bind_eq_some_iff, integer?_ofJson_eq_some_iff,
    Option.ite_none_right_eq_some, Option.some.injEq]
  constructor
  · rintro ⟨integer, rfl, fits, rfl⟩
    have exact_value : (Int64.ofInt integer.val).toInt = integer.val :=
      Int64.toInt_ofInt_of_le integer.2.1 fits
    simp [Json.ofInt64, exact_value]
  · rintro rfl
    exact ⟨_, rfl, word.toInt_lt, Int64.ofInt_toInt word⟩

theorem uint64?_ofJson_ofUInt64 (word : UInt64) :
    (ofJson (Json.ofUInt64 word)).uint64? = some word := by
  simp [Json.ofUInt64, ofJson, uint64?, integer?]

theorem uint32?_ofJson_ofUInt32 (word : UInt32) :
    (ofJson (Json.ofUInt32 word)).uint32? = some word := by
  have bound : (word.toNat : Int) < 4294967296 := by
    have upper := word.toNat_lt
    omega
  have reads : (ofJson (Json.ofUInt32 word)).integer?.map Subtype.val = some (word.toNat : Int) :=
    rfl
  obtain ⟨integer, integer_eq, value_eq⟩ := Option.map_eq_some_iff.1 reads
  rw [uint32?, integer_eq, Option.bind_some, value_eq, if_pos ⟨Int.natCast_nonneg _, bound⟩]
  simp

theorem text?_ofJson_eq_some_iff (value : Json) (text : String) :
    (ofJson value).text? = some text ↔ value = .string text := by
  cases value <;> simp [ofJson, text?]

theorem text?_ofJson_string (text : String) : (ofJson (.string text)).text? = some text :=
  rfl

theorem truth?_ofJson_bool (truth : Bool) : (ofJson (.bool truth)).truth? = some truth :=
  rfl

end Document

end Json

end GatewayLink
