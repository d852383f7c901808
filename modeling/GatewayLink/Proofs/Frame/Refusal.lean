import GatewayLink.Proofs.Frame.RoundTrip
import GatewayLink.Proofs.Json.Members

/-!
# What a refusal says

The error of a refusal may be of any kind and may hold anything, so that no error makes a response
unreadable.  What it gives as `message` is used if that is a string with something in it, and what
it gives as `code` if that is a string, a number or a truth value.
-/

namespace GatewayLink

open Json (Document)
open Json.Document (valuesUnder given?)

namespace Json.Document

/-- A document refuses the request with an id, with an error of any kind or without one. -/
inductive Refuses (id : String) (error : Option Document) : Document → Prop
  | object {members : List (Option String × Document)}
      (type_once : valuesUnder members "type" = [.string (some "res")])
      (id_once : valuesUnder members "id" = [.string (some id)])
      (ok_once : valuesUnder members "ok" = [.bool false])
      (payload_once : (valuesUnder members "payload").length ≤ 1)
      (error_once : valuesUnder members "error" = error.toList) : Refuses id error (.object members)
  | array {others : List Document} (error_last : others.drop 1 = error.toList) :
      Refuses id error (.array (.string (some "res") :: .string (some id) :: .bool false :: others))

theorem optional_toList (error : Option Document) :
    Optional error.toList (error.bind given?) := by
  cases error with
  | none => exact ⟨Nat.zero_le 1, rfl⟩
  | some error => exact ⟨Nat.le_refl 1, rfl⟩

/-- A document that refuses a request describes a response without success. -/
theorem Refuses.describes {id : String} {error : Option Document} {document : Document}
    (refuses : document.Refuses id error) :
    ∃ payload, document.Describes (.response ⟨id, false, payload, error.bind given?⟩) := by
  cases refuses with
  | object type_once id_once ok_once payload_once error_once =>
      refine ⟨_, .responseObject type_once id_once ok_once ⟨payload_once, rfl⟩ ?_⟩
      rw [error_once]
      exact optional_toList error
  | array error_last =>
      refine ⟨_, .responseArray ⟨List.length_take_le .., rfl⟩ ?_⟩
      rw [error_last]
      exact optional_toList error

/-- An error of a document that can be read can be read. -/
theorem Refuses.isReadable {id : String} {error : Option Document} {document : Document}
    (refuses : document.Refuses id error) (readable : document.isReadable = true) :
    ∀ given, error = some given → given.isReadable = true := by
  rintro given rfl
  cases refuses with
  | @object members type_once id_once ok_once payload_once error_once =>
      have under : given ∈ valuesUnder members "error" := by simp [error_once]
      obtain ⟨member, among, rfl⟩ := mem_of_mem_valuesUnder under
      exact isReadable_of_mem_members readable among
  | @array others error_last =>
      have last : given ∈ others.drop 1 := by simp [error_last]
      exact isReadable_of_mem_elements readable (by simp [List.mem_of_mem_drop last])

end Json.Document

namespace Response

variable {response : Response} {given : Option Document}

end Response

end GatewayLink
