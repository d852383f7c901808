import GatewayLink.Json.Record
import GatewayLink.Proofs.Json.Values

/-!
# The fields of a record

An object gives a record its fields if no declared key stands twice; a field is then the only value
under its key, wherever that member stands.  An array gives the fields in their declared order.
-/

namespace GatewayLink

namespace Json

namespace Document

/-- The values of the members under a key, in written order. -/
def valuesUnder (members : List (Option String × Document)) (key : String) : List Document :=
  (members.filter fun member => member.1 == some key).map Prod.snd

theorem valuesUnder_cons (member : Option String × Document)
    (rest : List (Option String × Document)) (key : String) :
    valuesUnder (member :: rest) key =
      if member.1 = some key then member.2 :: valuesUnder rest key else valuesUnder rest key := by
  by_cases here : member.1 = some key <;> simp [valuesUnder, here]

@[simp]
theorem valuesUnder_nil (key : String) : valuesUnder [] key = [] :=
  rfl

theorem valuesUnder_append (left right : List (Option String × Document)) (key : String) :
    valuesUnder (left ++ right) key = valuesUnder left key ++ valuesUnder right key := by
  simp [valuesUnder]

theorem valuesUnder_filter_ne {key other : String} (different : key ≠ other)
    (members : List (Option String × Document)) :
    valuesUnder (members.filter fun member => member.1 != some other) key =
      valuesUnder members key := by
  induction members with
  | nil => rfl
  | cons member rest ih =>
      by_cases here : member.1 = some key
      · simp [valuesUnder_cons, here, different, ih]
      · by_cases there : member.1 = some other
        · simp [valuesUnder_cons, there, different.symm, ih]
        · simp [valuesUnder_cons, here, there, ih]

theorem keyedMembers?_eq_some_iff {members : List (Option String × Document)}
    {keyed : List (String × Document)} :
    keyedMembers? members = some keyed ↔
      members = keyed.map fun member => (some member.1, member.2) := by
  induction members generalizing keyed with
  | nil => cases keyed <;> simp [keyedMembers?]
  | cons member rest ih =>
      obtain ⟨key, value⟩ := member
      cases key with
      | none => cases keyed <;> simp [keyedMembers?]
      | some key =>
          simp only [keyedMembers?, Option.bind_eq_bind, Option.bind_some, Option.pure_def,
            Option.bind_eq_some_iff, Option.some.injEq]
          constructor
          · rintro ⟨others, reads, rfl⟩
            rw [ih.1 reads]
            rfl
          · intro same
            cases keyed with
            | nil => simp at same
            | cons first others =>
                simp only [List.map_cons, List.cons.injEq, Prod.mk.injEq, Option.some.injEq] at same
                obtain ⟨⟨rfl, rfl⟩, same⟩ := same
                exact ⟨others, ih.2 same, rfl⟩

theorem exists_keyedMembers? {members : List (Option String × Document)}
    (readable : membersAreReadable members = true) :
    ∃ keyed, keyedMembers? members = some keyed := by
  induction members with
  | nil => exact ⟨[], rfl⟩
  | cons member rest ih =>
      obtain ⟨key, value⟩ := member
      simp only [membersAreReadable, Bool.and_eq_true] at readable
      obtain ⟨key, rfl⟩ := Option.isSome_iff_exists.1 readable.1.1
      obtain ⟨others, reads⟩ := ih readable.2
      exact ⟨(key, value) :: others, by simp [keyedMembers?, reads]⟩

theorem valuesUnder_map (keyed : List (String × Document)) (key : String) :
    valuesUnder (keyed.map fun member => (some member.1, member.2)) key =
      (keyed.filter fun member => member.1 == key).map Prod.snd := by
  induction keyed with
  | nil => rfl
  | cons member rest ih =>
      by_cases here : member.1 = key <;> simp [valuesUnder_cons, here, ih]

theorem lookup_eq_head? (entries : List (String × Document)) (key : String) :
    entries.lookup key = ((entries.filter fun entry => entry.1 == key).map Prod.snd).head? := by
  induction entries with
  | nil => rfl
  | cons entry rest ih =>
      obtain ⟨other, value⟩ := entry
      by_cases here : other = key
      · simp [here]
      · have different : (key == other) = false := by simpa using Ne.symm here
        simp [List.lookup_cons, here, different, ih]

theorem count_keys (entries : List (String × Document)) (key : String) :
    (entries.map Prod.fst).count key = (entries.filter fun entry => entry.1 == key).length := by
  rw [List.count_eq_length_filter, List.filter_map, List.length_map]
  rfl

theorem filter_known {names : List String} {name : String} (declared : name ∈ names)
    (keyed : List (String × Document)) :
    ((keyed.filter fun member => names.contains member.1).filter fun member => member.1 == name) =
      keyed.filter fun member => member.1 == name := by
  rw [List.filter_filter]
  congr 1
  funext member
  by_cases here : member.1 = name
  · simp [here, declared]
  · simp [here]

theorem filter_unknown {names : List String} {name : String} (undeclared : name ∉ names)
    (keyed : List (String × Document)) :
    ((keyed.filter fun member => names.contains member.1).filter fun member => member.1 == name) =
      [] := by
  simp only [List.filter_eq_nil_iff, List.mem_filter, List.contains_eq_mem, decide_eq_true_eq,
    beq_iff_eq, and_imp]
  rintro member - declared rfl
  exact undeclared declared

/-- The known entries have distinct keys exactly if no declared key has two values. -/
theorem nodup_known_iff (names : List String) (keyed : List (String × Document)) :
    ((keyed.filter fun member => names.contains member.1).map Prod.fst).Nodup ↔
      ∀ name ∈ names, (keyed.filter fun member => member.1 == name).length ≤ 1 := by
  rw [List.nodup_iff_count]
  constructor
  · intro once name declared
    have bound := once name
    rwa [count_keys, filter_known declared] at bound
  · intro once name
    rw [count_keys]
    by_cases declared : name ∈ names
    · rw [filter_known declared]
      exact once name declared
    · rw [filter_unknown declared]
      exact Nat.zero_le 1

/-- An object gives the fields of a record exactly if no declared key stands twice in it. -/
theorem exists_fields?_object_iff {names : List String} {members : List (Option String × Document)}
    (readable : membersAreReadable members = true) :
    (∃ fields, (object members).fields? names = some fields) ↔
      ∀ name ∈ names, (valuesUnder members name).length ≤ 1 := by
  obtain ⟨keyed, keyed_eq⟩ := exists_keyedMembers? readable
  have gives : (∃ fields, (object members).fields? names = some fields) ↔
      ((keyed.filter fun member => names.contains member.1).map Prod.fst).Nodup := by
    simp only [fields?, keyed_eq, Option.bind_eq_bind, Option.bind_some,
      Option.ite_none_right_eq_some, Option.some.injEq]
    constructor
    · rintro ⟨_, distinct, _⟩
      exact distinct
    · intro distinct
      exact ⟨_, distinct, rfl⟩
  rw [gives, nodup_known_iff, keyedMembers?_eq_some_iff.1 keyed_eq]
  simp only [valuesUnder_map, List.length_map]

theorem find?_of_object {names : List String} {members : List (Option String × Document)}
    {fields : Fields} (given : (object members).fields? names = some fields) {name : String}
    (declared : name ∈ names) : fields.find? name = (valuesUnder members name).head? := by
  simp only [fields?, Option.bind_eq_bind, Option.bind_eq_some_iff,
    Option.ite_none_right_eq_some, Option.some.injEq] at given
  obtain ⟨keyed, keyed_eq, -, rfl⟩ := given
  rw [keyedMembers?_eq_some_iff.1 keyed_eq, valuesUnder_map, Fields.find?, lookup_eq_head?,
    filter_known declared]

/-- The elements of an array in the place of a field: one at most, or all that are left for the
last field. -/
def elementsFor : List String → List Document → String → List Document
  | [], _, _ => []
  | [last], elements, name => if name = last then elements else []
  | first :: others, elements, name =>
    if name = first then elements.take 1 else elementsFor others (elements.drop 1) name

theorem elementsFor_nil (names : List String) (name : String) : elementsFor names [] name = [] := by
  induction names with
  | nil => rfl
  | cons first others ih => cases others <;> simp [elementsFor, ih]

theorem elementsFor_first (first second : String) (rest : List String)
    (elements : List Document) :
    elementsFor (first :: second :: rest) elements first = elements.take 1 := by
  simp [elementsFor]

theorem elementsFor_later {first name : String} (different : name ≠ first) (second : String)
    (rest : List String) (elements : List Document) :
    elementsFor (first :: second :: rest) elements name =
      elementsFor (second :: rest) (elements.drop 1) name := by
  simp [elementsFor, different]

/-- An array is not too long exactly if one element at most is in the place of each field. -/
theorem length_le_iff_elementsFor {names : List String} (distinct : names.Nodup)
    (some_name : names ≠ []) (elements : List Document) :
    elements.length ≤ names.length ↔
      ∀ name ∈ names, (elementsFor names elements name).length ≤ 1 := by
  induction names generalizing elements with
  | nil => exact absurd rfl some_name
  | cons first others ih =>
      cases others with
      | nil => simp [elementsFor]
      | cons second rest =>
          rw [List.nodup_cons] at distinct
          have later : ∀ name ∈ second :: rest, name ≠ first := by
            rintro name member rfl
            exact distinct.1 member
          have shorter : elements.length ≤ (first :: second :: rest).length ↔
              (elements.drop 1).length ≤ (second :: rest).length := by
            simp only [List.length_drop, List.length_cons]
            omega
          rw [shorter, ih distinct.2 (List.cons_ne_nil _ _), List.forall_mem_cons (a := first),
            elementsFor_first]
          constructor
          · intro once
            refine ⟨List.length_take_le _ _, fun name member => ?_⟩
            rw [elementsFor_later (later name member)]
            exact once name member
          · rintro ⟨-, once⟩ name member
            rw [← elementsFor_later (later name member)]
            exact once name member

theorem exists_fields?_array_iff {names : List String} (distinct : names.Nodup)
    (some_name : names ≠ []) (elements : List Document) :
    (∃ fields, (array elements).fields? names = some fields) ↔
      ∀ name ∈ names, (elementsFor names elements name).length ≤ 1 := by
  rw [← length_le_iff_elementsFor distinct some_name]
  by_cases short : elements.length ≤ names.length <;> simp [fields?, short]

/-- A field of an array is the element in its place. -/
theorem find?_of_array {names : List String} {elements : List Document} {fields : Fields}
    (given : (array elements).fields? names = some fields) (name : String) :
    fields.find? name = (elementsFor names elements name).head? := by
  simp only [fields?, Option.ite_none_right_eq_some, Option.some.injEq] at given
  obtain ⟨-, rfl⟩ := given
  simp only [Fields.find?]
  induction names generalizing elements with
  | nil => simp [elementsFor]
  | cons first others ih =>
      cases elements with
      | nil => simp [elementsFor_nil]
      | cons element rest =>
          by_cases here : name = first
          · cases others <;> simp [elementsFor, here]
          · have different : (name == first) = false := by simpa using here
            cases others <;> simp [List.lookup_cons, elementsFor, here, different, ih]

theorem mem_of_mem_valuesUnder {members : List (Option String × Document)} {key : String}
    {document : Document} (among : document ∈ valuesUnder members key) :
    ∃ member ∈ members, member.2 = document := by
  simp only [valuesUnder, List.mem_map, List.mem_filter] at among
  obtain ⟨found, ⟨member, -⟩, same⟩ := among
  exact ⟨found, member, same⟩

theorem mem_of_mem_elementsFor {names : List String} {elements : List Document} {name : String}
    {document : Document} (among : document ∈ elementsFor names elements name) :
    document ∈ elements := by
  induction names generalizing elements with
  | nil => simp [elementsFor] at among
  | cons first others ih =>
      cases others with
      | nil =>
          by_cases here : name = first <;> simp [elementsFor, here] at among
          exact among
      | cons second rest =>
          by_cases here : name = first
          · rw [here, elementsFor_first] at among
            exact List.mem_of_mem_take among
          · rw [elementsFor_later here] at among
            exact List.mem_of_mem_drop (ih among)

theorem depth_le_of_mem_elements {elements : List Document} {element : Document}
    (member : element ∈ elements) : element.depth ≤ depthOfElements elements := by
  induction elements with
  | nil => simp at member
  | cons first rest ih =>
      simp only [depthOfElements]
      rcases List.mem_cons.1 member with rfl | later
      · omega
      · have bound := ih later
        omega

theorem depth_le_of_mem_members {members : List (Option String × Document)}
    {member : Option String × Document} (among : member ∈ members) :
    member.2.depth ≤ depthOfMembers members := by
  induction members with
  | nil => simp at among
  | cons first rest ih =>
      simp only [depthOfMembers]
      rcases List.mem_cons.1 among with rfl | later
      · omega
      · have bound := ih later
        omega

theorem isReadable_of_mem_elements {elements : List Document} {element : Document}
    (readable : elementsAreReadable elements = true) (member : element ∈ elements) :
    element.isReadable = true := by
  induction elements with
  | nil => simp at member
  | cons first rest ih =>
      simp only [elementsAreReadable, Bool.and_eq_true] at readable
      rcases List.mem_cons.1 member with rfl | later
      · exact readable.1
      · exact ih readable.2 later

theorem isReadable_of_mem_members {members : List (Option String × Document)}
    {member : Option String × Document} (readable : membersAreReadable members = true)
    (among : member ∈ members) : member.2.isReadable = true := by
  induction members with
  | nil => simp at among
  | cons first rest ih =>
      simp only [membersAreReadable, Bool.and_eq_true] at readable
      rcases List.mem_cons.1 among with rfl | later
      · exact readable.1.2
      · exact ih readable.2 later

theorem membersAreReadable_filter {members : List (Option String × Document)}
    (readable : membersAreReadable members = true) (keeps : Option String × Document → Bool) :
    membersAreReadable (members.filter keeps) = true := by
  induction members with
  | nil => rfl
  | cons member rest ih =>
      simp only [membersAreReadable, Bool.and_eq_true] at readable
      by_cases kept : keeps member = true <;>
        simp [kept, membersAreReadable, readable.1, ih readable.2]

theorem depthOfMembers_filter_le (members : List (Option String × Document))
    (keeps : Option String × Document → Bool) :
    depthOfMembers (members.filter keeps) ≤ depthOfMembers members := by
  induction members with
  | nil => exact Nat.le_refl _
  | cons member rest ih =>
      by_cases kept : keeps member = true <;> simp only [kept, List.filter_cons, if_true, if_false,
        Bool.false_eq_true, depthOfMembers] <;> omega

/-- A readable document within the nesting limit. -/
def Admitted (document : Document) : Prop :=
  document.isReadable = true ∧ document.depth ≤ nestingLimit

theorem Admitted.filter {members : List (Option String × Document)}
    (admitted : (object members).Admitted) (keeps : Option String × Document → Bool) :
    (object (members.filter keeps)).Admitted := by
  obtain ⟨readable, shallow⟩ := admitted
  have bound := depthOfMembers_filter_le members keeps
  simp only [depth] at shallow
  exact ⟨membersAreReadable_filter readable keeps, by simp only [depth]; omega⟩

theorem Admitted.tail {element : Document} {rest : List Document}
    (admitted : (array (element :: rest)).Admitted) : (array rest).Admitted := by
  obtain ⟨readable, shallow⟩ := admitted
  simp only [isReadable, elementsAreReadable, Bool.and_eq_true] at readable
  simp only [depth, depthOfElements] at shallow
  exact ⟨readable.2, by simp only [depth]; omega⟩

/-- A document that can stand inside one container of a text. -/
def Fits (document : Document) : Prop :=
  document.isReadable = true ∧ document.depth + 1 ≤ nestingLimit

/-- The value of a document other than `null`. -/
def given? : Document → Option Json
  | .null => none
  | document => document.value?

/-- At most one value, which counts as absent where it is `null`. -/
def Optional (found : List Document) (value : Option Json) : Prop :=
  found.length ≤ 1 ∧ value = found.head?.bind given?

theorem nullable?_eq {document : Document} (fits : document.Fits) :
    nullable? (·.valueWithin? 1) document = some document.given? := by
  obtain ⟨value, reads⟩ := exists_value? document fits.1
  cases document <;> simp [nullable?, given?, valueWithin?, fits.2, reads]

theorem head?_eq_some_iff_of_length_le_one {held : List Document} (once : held.length ≤ 1)
    (value : Document) : held.head? = some value ↔ held = [value] := by
  cases held with
  | nil => simp
  | cons first rest =>
      have alone : rest = [] := by
        rw [List.length_cons] at once
        exact List.eq_nil_of_length_eq_zero (by omega)
      simp [alone]

/-- What a document holds for each field of a record: it gives the record its fields if that is one
value at most for each, and then that value is the field. -/
structure Offers (document : Document) (names : List String) (found : String → List Document) :
    Prop where
  given_iff : (∃ fields, document.fields? names = some fields) ↔
    ∀ name ∈ names, (found name).length ≤ 1
  find?_eq : ∀ fields, document.fields? names = some fields →
    ∀ name ∈ names, fields.find? name = (found name).head?
  fits : ∀ name, ∀ value ∈ found name, value.Fits

namespace Offers

variable {document : Document} {names : List String} {found : String → List Document}
  {fields : Fields} {name : String}

theorem find?_eq_some_iff (offers : document.Offers names found)
    (given : document.fields? names = some fields) (declared : name ∈ names) (value : Document) :
    fields.find? name = some value ↔ found name = [value] := by
  have once := offers.given_iff.1 ⟨fields, given⟩ name declared
  rw [offers.find?_eq fields given name declared, head?_eq_some_iff_of_length_le_one once]

theorem required?_eq_some_iff {α : Type} (offers : document.Offers names found)
    (given : document.fields? names = some fields) (declared : name ∈ names)
    (read : Document → Option α) (result : α) :
    fields.required? name read = some result ↔
      ∃ value, found name = [value] ∧ read value = some result := by
  simp only [Fields.required?, Option.bind_eq_some_iff, offers.find?_eq_some_iff given declared]

theorem required?_text_iff (offers : document.Offers names found)
    (given : document.fields? names = some fields) (declared : name ∈ names) (text : String) :
    fields.required? name text? = some text ↔ found name = [.string (some text)] := by
  rw [offers.required?_eq_some_iff given declared]
  constructor
  · rintro ⟨value, held, reads⟩
    cases value <;> simp only [text?, reduceCtorEq] at reads
    rw [held, reads]
  · intro held
    exact ⟨_, held, rfl⟩

theorem required?_truth_iff (offers : document.Offers names found)
    (given : document.fields? names = some fields) (declared : name ∈ names) (truth : Bool) :
    fields.required? name truth? = some truth ↔ found name = [.bool truth] := by
  rw [offers.required?_eq_some_iff given declared]
  constructor
  · rintro ⟨value, held, reads⟩
    cases value <;> simp only [truth?, Option.some.injEq, reduceCtorEq] at reads
    rw [held, reads]
  · intro held
    exact ⟨_, held, rfl⟩

theorem required?_value_iff (offers : document.Offers names found)
    (given : document.fields? names = some fields) (declared : name ∈ names) (value : Json) :
    fields.required? name (·.valueWithin? 1) = some value ↔
      ∃ part, found name = [part] ∧ part.value? = some value := by
  rw [offers.required?_eq_some_iff given declared]
  constructor
  · rintro ⟨part, held, reads⟩
    have fits := offers.fits name part (by simp [held])
    exact ⟨part, held, by simpa [valueWithin?, fits.2] using reads⟩
  · rintro ⟨part, held, reads⟩
    have fits := offers.fits name part (by simp [held])
    exact ⟨part, held, by simpa [valueWithin?, fits.2] using reads⟩

theorem withDefault?_iff (offers : document.Offers names found)
    (given : document.fields? names = some fields) (declared : name ∈ names)
    (value : Option Json) :
    fields.withDefault? name (nullable? (·.valueWithin? 1)) none = some value ↔
      Optional (found name) value := by
  have once := offers.given_iff.1 ⟨fields, given⟩ name declared
  have find_eq := offers.find?_eq fields given name declared
  simp only [Fields.withDefault?, find_eq, Optional, once, true_and]
  cases held : (found name).head? with
  | none => simp [eq_comm]
  | some part =>
      have fits := offers.fits name part (List.mem_of_mem_head? held)
      simp [nullable?_eq fits, eq_comm]

end Offers

theorem offers_object {members : List (Option String × Document)}
    (admitted : (object members).Admitted) (names : List String) :
    (object members).Offers names (valuesUnder members) where
  given_iff := exists_fields?_object_iff admitted.1
  find?_eq _ given _ declared := find?_of_object given declared
  fits name value among := by
    obtain ⟨member, inside, rfl⟩ := mem_of_mem_valuesUnder among
    have bound := depth_le_of_mem_members inside
    have shallow := admitted.2
    simp only [depth] at shallow
    exact ⟨isReadable_of_mem_members admitted.1 inside, by omega⟩

theorem offers_array {elements : List Document} (admitted : (array elements).Admitted)
    (names : List String) (distinct : names.Nodup) (some_name : names ≠ []) :
    (array elements).Offers names (elementsFor names elements) where
  given_iff := exists_fields?_array_iff distinct some_name elements
  find?_eq _ given name _ := find?_of_array given name
  fits name value among := by
    have inside := mem_of_mem_elementsFor among
    have bound := depth_le_of_mem_elements inside
    have shallow := admitted.2
    simp only [depth] at shallow
    exact ⟨isReadable_of_mem_elements admitted.1 inside, by omega⟩

end Document

end Json

end GatewayLink
