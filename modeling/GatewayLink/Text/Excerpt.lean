/-!
# Excerpts of long texts
-/

namespace GatewayLink

/-- The first characters of a text, marked where something was cut off. -/
def excerpt (text : String) (limit : Nat) : String :=
  if limit < text.length then
    String.ofList (text.toList.take limit) ++ "... (truncated)"
  else text

end GatewayLink
