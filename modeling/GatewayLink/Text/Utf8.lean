/-!
# Bytes as text

A display of bytes as UTF-8 text, in which each run of bytes that begins a character and does not
go on as it must is shown as one replacement character.
-/

namespace GatewayLink

namespace Utf8

/-- A character of which the first bytes have been read. -/
structure Partial where
  /-- The value of the bits so far. -/
  value : Nat
  /-- The ranges of the bytes that must follow. -/
  expected : List (Nat × Nat)

/-- The range of a byte that continues a character. -/
def continuation : Nat × Nat := (0x80, 0xBF)

/-- What the first byte of a character begins; nothing for a byte that begins none.  The range of
the second byte excludes longer forms than needed, surrogates and values beyond the last one. -/
def lead? (byte : Nat) : Option Partial :=
  if byte < 0x80 then some ⟨byte, []⟩
  else if byte < 0xC2 then none
  else if byte < 0xE0 then some ⟨byte - 0xC0, [continuation]⟩
  else if byte < 0xF0 then
    let second :=
      if byte = 0xE0 then (0xA0, 0xBF) else if byte = 0xED then (0x80, 0x9F) else continuation
    some ⟨byte - 0xE0, [second, continuation]⟩
  else if byte < 0xF5 then
    let second :=
      if byte = 0xF0 then (0x90, 0xBF) else if byte = 0xF4 then (0x80, 0x8F) else continuation
    some ⟨byte - 0xF0, [second, continuation, continuation]⟩
  else none

/-- What stands for bytes that are no character. -/
def replacement : Char := '\uFFFD'

/-- The characters of bytes, after a partial character if there is one. -/
def characters : Option Partial → List UInt8 → List Char
  | none, [] => []
  | some _, [] => [replacement]
  | state, byte :: rest =>
    let code := byte.toNat
    let fresh :=
      match lead? code with
      | none => replacement :: characters none rest
      | some ⟨value, []⟩ => Char.ofNat value :: characters none rest
      | some started => characters (some started) rest
    match state with
    | some ⟨value, (low, high) :: expected⟩ =>
      if low ≤ code ∧ code ≤ high then
        let value := value * 64 + code % 64
        if expected.isEmpty then Char.ofNat value :: characters none rest
        else characters (some ⟨value, expected⟩) rest
      else replacement :: fresh
    | _ => fresh

/-- The display of bytes. -/
def display (bytes : List UInt8) : String :=
  String.ofList (characters none bytes)

end Utf8

end GatewayLink
