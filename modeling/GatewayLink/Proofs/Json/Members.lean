import Mathlib.Data.List.Induction
import GatewayLink.Proofs.Json.Record
import GatewayLink.Proofs.Json.Values

/-!
# Members that are looked up

Where an object has several members with one key, the last of them is the member of its value.  A
member that may be of any kind is used as a text only if it is a string that is not empty.
-/

namespace GatewayLink

/-- A text that is used where it is there and not empty; else a fallback stands for it. -/
inductive TextOr (fallback : String) (found : Option String) : String → Prop where
  | given {text : String} (held : found = some text) (nonempty : text ≠ "") :
      TextOr fallback found text
  | fallback (missing : ∀ text, found = some text → text = "") : TextOr fallback found fallback

namespace TextOr

variable {fallback : String} {found : Option String} {text : String}

/-- A text is used where it is there and not empty. -/
theorem of_match (fallback : String) (found : Option String) :
    TextOr fallback found
      (match found with
      | some text => if text.isEmpty then fallback else text
      | none => fallback) := by
  cases found with
  | none => exact .fallback (by simp)
  | some text =>
      by_cases empty : text = ""
      · subst empty
        exact .fallback (by simp)
      · have nonempty : text.isEmpty = false := by simpa using empty
        have used : TextOr fallback (some text) text := .given rfl empty
        simpa [nonempty] using used

end TextOr

namespace Json

theorem string?_eq_some_iff {value : Json} {text : String} :
    value.string? = some text ↔ value = .string text := by
  cases value <;> simp [string?]

namespace Document

/-- The member of an object under a key, the last one where there are several. -/
def member? (key : String) : Document → Option Document
  | .object members => (valuesUnder members key).getLast?
  | _ => none

end Document

end Json

end GatewayLink
