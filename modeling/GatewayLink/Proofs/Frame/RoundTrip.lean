import GatewayLink.Proofs.Frame.Shape
import GatewayLink.Proofs.Json.Printing

/-!
# Frames and their texts

The text of a frame without binary64 numbers is decoded as that frame, up to one thing: a payload or
an error that is `null` reads as absent.  Frames with the same text are equal.
-/

namespace GatewayLink

open Json (Document nestingLimit)
open Json.Document (valuesUnder Optional ofJson ofMembers)

/-- A value as a reader keeps it, without binary64 numbers. -/
structure Json.Portable (value : Json) : Prop where
  canonical : value.Canonical
  without_doubles : value.WithoutDoubles

/-- What is given where `null` counts as absent. -/
def withoutNull : Option Json → Option Json
  | some .null => none
  | value => value

namespace Outgoing

/-- All values in a frame of the client are portable. -/
def Portable : Outgoing → Prop
  | .request body => body.params.Portable

end Outgoing

namespace Incoming

/-- All values in a frame of the gateway are portable. -/
def Portable : Incoming → Prop
  | .response body =>
    (∀ payload, body.payload = some payload → payload.Portable) ∧
      ∀ error, body.error = some error → error.Portable
  | .event body => ∀ payload, body.payload = some payload → payload.Portable

/-- The frame whose payload and error are absent where they were `null`. -/
def withoutNulls : Incoming → Incoming
  | .response body =>
    .response ⟨body.id, body.ok, withoutNull body.payload, withoutNull body.error⟩
  | .event body => .event ⟨body.name, withoutNull body.payload⟩

end Incoming

theorem valuesUnder_memberOf? (name key : String) (value : Option Json) :
    valuesUnder (ofMembers (Json.memberOf? name (fun value => value) value)) key =
      if name = key then (value.map ofJson).toList else [] := by
  cases value with
  | none => simp [Json.memberOf?, ofMembers, valuesUnder]
  | some value =>
      by_cases same : name = key <;> simp [Json.memberOf?, ofMembers, valuesUnder, same]

theorem optional_ofJson {value : Option Json}
    (portable : ∀ given, value = some given → given.Portable) :
    Optional (value.map ofJson).toList (withoutNull value) := by
  cases value with
  | none => exact ⟨Nat.zero_le 1, rfl⟩
  | some given =>
      have reads := Json.Document.value?_ofJson given (portable given rfl).canonical
      refine ⟨Nat.le_refl 1, ?_⟩
      cases given <;> simp_all [ofJson, withoutNull, Json.Document.given?]

theorem admitted_ofJson {value : Json} (shallow : value.depth ≤ nestingLimit) :
    (ofJson value).Admitted :=
  ⟨Json.Document.isReadable_ofJson value, by rwa [Json.Document.depth_ofJson]⟩

theorem withoutDoubles_memberOf? (name : String) {value : Option Json}
    (portable : ∀ given, value = some given → given.Portable) :
    Json.WithoutDoublesMembers (Json.memberOf? name (fun value => value) value) := by
  cases value with
  | none => trivial
  | some given => exact ⟨(portable given rfl).without_doubles, trivial⟩

theorem Response.valuesUnder_members (body : Response) (key : String) :
    valuesUnder (ofMembers (("type", .string "res") :: body.members)) key =
      (if "type" = key then [.string (some "res")] else []) ++
        (if "id" = key then [.string (some body.id)] else []) ++
          (if "ok" = key then [.bool body.ok] else []) ++
            (if "payload" = key then (body.payload.map ofJson).toList else []) ++
              (if "error" = key then (body.error.map ofJson).toList else []) := by
  simp only [members, ofMembers, List.cons_append, List.nil_append, ofJson,
    Json.Document.ofMembers_append, Json.Document.valuesUnder_cons,
    Json.Document.valuesUnder_append, valuesUnder_memberOf?, Option.some.injEq]
  split <;> split <;> split <;> simp

theorem Event.valuesUnder_members (body : Event) (key : String) :
    valuesUnder (ofMembers (("type", .string "event") :: body.members)) key =
      (if "type" = key then [.string (some "event")] else []) ++
        (if "event" = key then [.string (some body.name)] else []) ++
          (if "payload" = key then (body.payload.map ofJson).toList else []) := by
  simp only [members, ofMembers, ofJson, Json.Document.valuesUnder_cons, valuesUnder_memberOf?,
    Option.some.injEq]
  split <;> split <;> simp

theorem Request.valuesUnder_members (body : Request) (key : String) :
    valuesUnder (ofMembers (("type", .string "req") :: body.members)) key =
      (if "type" = key then [.string (some "req")] else []) ++
        (if "id" = key then [.string (some body.id)] else []) ++
          (if "method" = key then [.string (some body.method)] else []) ++
            (if "params" = key then [ofJson body.params] else []) := by
  simp only [members, ofMembers, ofJson, Json.Document.valuesUnder_cons,
    Json.Document.valuesUnder_nil, Option.some.injEq]
  split <;> split <;> split <;> simp

namespace Incoming

/-- The document of a frame describes it, up to values that are `null`. -/
theorem describes_toJson {frame : Incoming} (portable : frame.Portable) :
    (ofJson frame.toJson).Describes frame.withoutNulls := by
  cases frame with
  | response body =>
      have payload_optional := optional_ofJson portable.1
      have error_optional := optional_ofJson portable.2
      refine .responseObject ?_ ?_ ?_ ?_ ?_ <;> rw [body.valuesUnder_members]
      · simp
      · simp
      · simp
      · simpa using payload_optional
      · simpa using error_optional
  | event body =>
      have payload_optional := optional_ofJson portable
      refine .eventObject ?_ ?_ ?_ <;> rw [body.valuesUnder_members]
      · simp
      · simp
      · simpa using payload_optional

theorem withoutDoubles_toJson {frame : Incoming} (portable : frame.Portable) :
    frame.toJson.WithoutDoubles := by
  cases frame with
  | response body =>
      have payload := withoutDoubles_memberOf? "payload" portable.1
      have error := withoutDoubles_memberOf? "error" portable.2
      exact ⟨trivial, trivial, trivial, payload.append error⟩
  | event body => exact ⟨trivial, trivial, withoutDoubles_memberOf? "payload" portable⟩

theorem toJson_injective {left right : Incoming} (same : left.toJson = right.toJson) :
    left = right := by
  match left, right with
  | .response ⟨id, ok, payload, error⟩, .response ⟨otherId, otherOk, otherPayload, otherError⟩ =>
    cases payload <;> cases error <;> cases otherPayload <;> cases otherError <;>
      simp_all [toJson, Response.members, Json.memberOf?]
  | .event ⟨name, payload⟩, .event ⟨otherName, otherPayload⟩ =>
    cases payload <;> cases otherPayload <;> simp_all [toJson, Event.members, Json.memberOf?]
  | .response _, .event _ => simp [toJson] at same
  | .event _, .response _ => simp [toJson] at same

theorem decode_text {frame : Incoming} (portable : frame.Portable)
    (shallow : frame.toJson.depth ≤ nestingLimit) :
    decode ofDocument? frame.text = .ok frame.withoutNulls := by
  have spelled := Json.spelled_compact frame.toJson (withoutDoubles_toJson portable)
  exact (decode_eq_ok_iff _ _).2
    ⟨_, spelled, admitted_ofJson shallow, describes_toJson portable⟩

theorem text_injective {left right : Incoming} (left_portable : left.Portable)
    (right_portable : right.Portable) (same : left.text = right.text) : left = right :=
  toJson_injective (Json.compact_injective (withoutDoubles_toJson left_portable)
    (withoutDoubles_toJson right_portable) same)

end Incoming

namespace Outgoing

theorem withoutDoubles_toJson {frame : Outgoing} (portable : frame.Portable) :
    frame.toJson.WithoutDoubles := by
  cases frame with
  | request body => exact ⟨trivial, trivial, trivial, portable.without_doubles, trivial⟩

theorem toJson_injective {left right : Outgoing} (same : left.toJson = right.toJson) :
    left = right := by
  match left, right with
  | .request ⟨id, method, params⟩, .request ⟨otherId, otherMethod, otherParams⟩ =>
    simpa [toJson, Request.members] using same

/-- The document of a frame is read as that frame. -/
theorem ofDocument?_ofJson {frame : Outgoing} (portable : frame.Portable)
    (shallow : frame.toJson.depth ≤ nestingLimit) :
    ofDocument? (ofJson frame.toJson) = some frame := by
  cases frame with
  | request body =>
      have admitted := admitted_ofJson shallow
      have held := body.valuesUnder_members
      have type_once : valuesUnder (ofMembers (("type", .string "req") :: body.members)) "type" =
          [.string (some "req")] := by
        simp [held]
      have splits := (kindAndRest?_eq_some_iff _ _ _).2
        ⟨admitted, .inl ⟨_, rfl, type_once, rfl⟩⟩
      have params_read := Json.Document.value?_ofJson body.params portable.canonical
      have reads := (Request.ofDocument?_object_iff admitted body).2
        ⟨by simp [held], by simp [held], ofJson body.params, by simp [held], params_read⟩
      simp [ofDocument?, splits, reads]

theorem decode_text {frame : Outgoing} (portable : frame.Portable)
    (shallow : frame.toJson.depth ≤ nestingLimit) :
    decode ofDocument? frame.text = .ok frame := by
  have spelled := Json.spelled_compact frame.toJson (withoutDoubles_toJson portable)
  exact (GatewayLink.decode_eq_ok_iff _ _ _).2
    ⟨_, spelled, ofDocument?_ofJson portable shallow⟩

theorem text_injective {left right : Outgoing} (left_portable : left.Portable)
    (right_portable : right.Portable) (same : left.text = right.text) : left = right :=
  toJson_injective (Json.compact_injective (withoutDoubles_toJson left_portable)
    (withoutDoubles_toJson right_portable) same)

theorem text_ne {outgoing : Outgoing} {incoming : Incoming} (outgoing_portable : outgoing.Portable)
    (incoming_portable : incoming.Portable) : outgoing.text ≠ incoming.text := by
  intro same
  have equal := Json.compact_injective (withoutDoubles_toJson outgoing_portable)
    (Incoming.withoutDoubles_toJson incoming_portable) same
  cases outgoing
  cases incoming <;> simp [toJson, Incoming.toJson] at equal

end Outgoing

/-- The text of a frame without binary64 numbers is decoded as that frame, except that a payload or
an error that is `null` is absent then.  Different frames have different texts. -/
theorem frame_is_recovered_from_text :
    (∀ frame : Incoming, frame.Portable → frame.toJson.depth ≤ nestingLimit →
      decode Incoming.ofDocument? frame.text = .ok frame.withoutNulls) ∧
    (∀ frame : Outgoing, frame.Portable → frame.toJson.depth ≤ nestingLimit →
      decode Outgoing.ofDocument? frame.text = .ok frame) ∧
    (∀ left right : Incoming, left.Portable → right.Portable → left.text = right.text →
      left = right) ∧
    (∀ left right : Outgoing, left.Portable → right.Portable → left.text = right.text →
      left = right) ∧
    ∀ (outgoing : Outgoing) (incoming : Incoming), outgoing.Portable → incoming.Portable →
      outgoing.text ≠ incoming.text :=
  ⟨fun _ => Incoming.decode_text, fun _ => Outgoing.decode_text,
    fun _ _ => Incoming.text_injective, fun _ _ => Outgoing.text_injective,
    fun _ _ => Outgoing.text_ne⟩

/-- A refusal whose payload is `null` is recovered without it. -/
theorem refusal_with_null_payload_is_recovered :
    let error : Json := .object [("code", .number (.integer ⟨-3, by decide⟩)),
      ("message", .string "no \"feed\"\n")]
    let frame : Incoming := .response ⟨"7", false, some .null, some error⟩
    frame.Portable ∧ frame.toJson.depth ≤ nestingLimit ∧
      decode Incoming.ofDocument? frame.text = .ok (.response ⟨"7", false, none, some error⟩) := by
  intro error frame
  have keys : Json.KeysIncrease [("code", .number (.integer ⟨-3, by decide⟩)),
      ("message", .string "no \"feed\"\n")] := List.pairwise_pair.2 (by decide)
  have portable : frame.Portable := by
    refine ⟨fun payload given => ?_, fun other given => ?_⟩
    · obtain rfl : Json.null = payload := Option.some.inj given
      exact ⟨trivial, trivial⟩
    · obtain rfl : error = other := Option.some.inj given
      exact ⟨⟨keys, trivial, trivial, trivial⟩, trivial, trivial, trivial⟩
  have shallow : frame.toJson.depth ≤ nestingLimit := by decide
  exact ⟨portable, shallow, frame_is_recovered_from_text.1 frame portable shallow⟩

end GatewayLink
