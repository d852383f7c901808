import GatewayLink.Proofs.Json.Given
import Mathlib.Data.List.Forall2
import Mathlib.Data.List.Perm.Basic

/-!
# Objects that leave fields out

An object abridges the value of a record if it has the fields that are not left out, in any order
and among members of other names.  Then a record is read from it as if the fields that are left out
had not been declared, and each of them stands for its default.
-/

namespace GatewayLink

namespace Json

namespace Document

/-- An object of members whose keys have texts. -/
def keyed (members : List (String × Document)) : Document :=
  .object (members.map fun member => (some member.1, member.2))

/-- An object has the members of a value that are not left out, each written in a form of its value,
in any order and among members of other names. -/
inductive Abridges (omitted : List String) (form : String → Json → Document → Prop) :
    Json → Document → Prop
  | object {fields : List (String × Json)} {known unknown members : List (String × Document)}
      (kept : List.Forall₂ (fun field member => field.1 = member.1 ∧ form field.1 field.2 member.2)
        (fields.filter fun field => field.1 ∉ omitted) known)
      (foreign : ∀ member ∈ unknown, ∀ field ∈ fields, member.1 ≠ field.1)
      (order : members.Perm (known ++ unknown)) :
      Abridges omitted form (.object fields) (keyed members)

/-- Values are written as they are, except that one name has a form of its own. -/
def AsIsExcept (special : String) (own : Document → Prop) (name : String) (value : Json)
    (part : Document) : Prop :=
  if name = special then own part else part = ofJson value

theorem ofJson_object (fields : List (String × Json)) :
    ofJson (.object fields) = keyed (fields.map fun field => (field.1, ofJson field.2)) := by
  rw [ofJson, keyed, object.injEq]
  induction fields with
  | nil => rfl
  | cons field rest ih => simpa [ofMembers] using ih

theorem abridges_ofJson {fields : List (String × Json)} {form : String → Json → Document → Prop}
    (forms : ∀ field ∈ fields, form field.1 field.2 (ofJson field.2)) :
    Abridges [] form (.object fields) (ofJson (.object fields)) := by
  have kept : List.Forall₂ (fun field member => field.1 = member.1 ∧ form field.1 field.2 member.2)
      (fields.filter fun field => field.1 ∉ [])
      (fields.map fun field => (field.1, ofJson field.2)) := by
    simpa [List.forall₂_map_right_iff, List.forall₂_same] using forms
  rw [ofJson_object]
  exact .object kept (List.forall_mem_nil _) (List.append_nil _ ▸ .refl _)

/-- The members under the name of a field, where the names are those of the fields. -/
theorem filter_of_forall₂ {fields : List (String × Json)} {known : List (String × Document)}
    {form : String → Json → Document → Prop}
    (kept : List.Forall₂ (fun field member => field.1 = member.1 ∧ form field.1 field.2 member.2)
      fields known) (distinct : (fields.map Prod.fst).Nodup) (name : String) :
    (name ∉ fields.map Prod.fst → known.filter (·.1 == name) = []) ∧
      ∀ value, (name, value) ∈ fields →
        ∃ part, known.filter (·.1 == name) = [(name, part)] ∧ form name value part := by
  induction kept with
  | nil => simp
  | @cons field member fields known here others ih =>
      obtain ⟨key, part⟩ := member
      obtain ⟨rfl, fits⟩ := here
      rw [List.map_cons, List.nodup_cons] at distinct
      obtain ⟨absent, present⟩ := ih distinct.2
      constructor
      · intro undeclared
        simp only [List.map_cons, List.mem_cons, not_or] at undeclared
        simpa [Ne.symm undeclared.1] using absent undeclared.2
      · intro value among
        rcases List.mem_cons.1 among with rfl | among
        · exact ⟨part, by simp [absent distinct.1], fits⟩
        · have declared := List.mem_map_of_mem (f := Prod.fst) among
          have different : field.1 ≠ name := fun same => distinct.1 (same ▸ declared)
          obtain ⟨part, alone, fits⟩ := present value among
          exact ⟨part, by simpa [different] using alone, fits⟩

/-- What stands under the name of a field, among members of which the known ones are the fields that
are not left out. -/
theorem filter_of_kept {fields : List (String × Json)} {omitted : List String}
    {form : String → Json → Document → Prop} {known unknown members : List (String × Document)}
    (kept : List.Forall₂ (fun field member => field.1 = member.1 ∧ form field.1 field.2 member.2)
      (fields.filter fun field => field.1 ∉ omitted) known)
    (foreign : ∀ member ∈ unknown, ∀ field ∈ fields, member.1 ≠ field.1)
    (order : members.Perm (known ++ unknown)) (distinct : (fields.map Prod.fst).Nodup)
    {field : String × Json} (among : field ∈ fields) :
    (field.1 ∈ omitted → members.filter (·.1 == field.1) = []) ∧
      (field.1 ∉ omitted → ∃ part, members.filter (·.1 == field.1) = [(field.1, part)] ∧
        form field.1 field.2 part) := by
  have kept_distinct : ((fields.filter fun field => field.1 ∉ omitted).map Prod.fst).Nodup :=
    distinct.sublist (List.filter_sublist.map _)
  obtain ⟨absent, present⟩ := filter_of_forall₂ kept kept_distinct field.1
  have under : (members.filter (·.1 == field.1)).Perm (known.filter (·.1 == field.1)) := by
    have none_unknown : unknown.filter (·.1 == field.1) = [] := by
      simpa using fun name part there => foreign (name, part) there field among
    simpa [none_unknown] using order.filter (·.1 == field.1)
  constructor
  · intro left_out
    have nothing := absent (by simp [left_out])
    exact (nothing ▸ under).eq_nil
  · intro stays
    obtain ⟨part, alone, fits⟩ := present field.2 (by simp [among, stays])
    exact ⟨part, List.perm_singleton.1 (alone ▸ under), fits⟩

/-- A field of a record is left out, or it is given in an accepted form. -/
def GivenUnless (omitted : List String) (given : Fields) (name : String)
    (accepted : Document → Prop) : Prop :=
  (name ∈ omitted → given.find? name = none) ∧
    (name ∉ omitted → ∃ part, given.find? name = some part ∧ accepted part)

theorem fields?_keyed {names : List String} {members : List (String × Document)}
    (once : ∀ name ∈ names, (members.filter (·.1 == name)).length ≤ 1) :
    ∃ given, (keyed members).fields? names = some given ∧
      ∀ name ∈ names, given.find? name = ((members.filter (·.1 == name)).map Prod.snd).head? := by
  have read := keyedMembers?_eq_some_iff.2 (Eq.refl (members.map fun member =>
    (some member.1, member.2)))
  have distinct := (nodup_known_iff names members).2 once
  refine ⟨⟨false, members.filter fun member => names.contains member.1⟩, ?_,
    fun name declared => ?_⟩
  · simp only [keyed, fields?, read, Option.bind_eq_bind, Option.bind_some, if_pos distinct]
  · rw [Fields.find?, lookup_eq_head?, filter_known declared]

/-- An object that abridges a value gives its fields except those left out. -/
theorem Abridges.fields {fields : List (String × Json)} {omitted : List String}
    {form : String → Json → Document → Prop} {document : Document}
    (abridges : Abridges omitted form (.object fields) document)
    (distinct : (fields.map Prod.fst).Nodup) :
    ∃ given, document.fields? (fields.map Prod.fst) = some given ∧
      ∀ field ∈ fields, GivenUnless omitted given field.1 fun part =>
        form field.1 field.2 part ∧ part.depth < document.depth := by
  cases abridges with
  | @object fields known unknown members kept foreign order =>
      have once : ∀ name ∈ fields.map Prod.fst, (members.filter (·.1 == name)).length ≤ 1 := by
        rw [List.forall_mem_map]
        intro field among
        obtain ⟨absent, present⟩ := filter_of_kept kept foreign order distinct among
        by_cases left_out : field.1 ∈ omitted
        · simp [absent left_out]
        · obtain ⟨part, alone, -⟩ := present left_out
          simp [alone]
      obtain ⟨given, given_eq, found⟩ := fields?_keyed once
      refine ⟨given, given_eq, fun field among => ?_⟩
      obtain ⟨absent, present⟩ := filter_of_kept kept foreign order distinct among
      refine ⟨fun left_out => ?_, fun stays => ?_⟩
      · rw [found _ (List.mem_map_of_mem among), absent left_out]
        rfl
      · obtain ⟨part, alone, fits⟩ := present stays
        refine ⟨part, ?_, fits, ?_⟩
        · rw [found _ (List.mem_map_of_mem among), alone]
          rfl
        · have member : (field.1, part) ∈ members :=
            List.mem_of_mem_filter (p := (·.1 == field.1)) (by simp [alone])
          have written := List.mem_map_of_mem (f := fun member => (some member.1, member.2)) member
          exact Nat.lt_succ_of_le (depth_le_of_mem_members written)

theorem GivenUnless.withDefault? {omitted : List String} {given : Fields} {name : String}
    {accepted : Document → Prop} (found : GivenUnless omitted given name accepted) {α : Type}
    {read : Document → Option α} {value : α}
    (reads : ∀ part, accepted part → read part = some value) (default : α) :
    given.withDefault? name read default = some (if name ∈ omitted then default else value) := by
  by_cases left_out : name ∈ omitted
  · rw [Fields.withDefault?, found.1 left_out, if_pos left_out]
  · obtain ⟨part, part_found, fits⟩ := found.2 left_out
    rw [Fields.withDefault?_of_find? part_found (reads part fits), if_neg left_out]

theorem GivenUnless.withDefault?_asIs {omitted : List String} {given : Fields}
    {name special : String} {own : Document → Prop} {written : Json} {bound : Nat}
    (found : GivenUnless omitted given name fun part =>
      AsIsExcept special own name written part ∧ part.depth < bound) (other : name ≠ special)
    {α : Type} {read : Document → Option α} {value : α} (reads : read (ofJson written) = some value)
    (default : α) :
    given.withDefault? name read default = some (if name ∈ omitted then default else value) := by
  refine found.withDefault? (fun part accepted => ?_) default
  obtain rfl : part = ofJson written := by simpa [AsIsExcept, other] using accepted.1
  exact reads

end Document

end Json

end GatewayLink
