import GatewayLink.Frame.Codec
import GatewayLink.Proofs.Json.Reading
import GatewayLink.Proofs.Json.Record

/-!
# The shapes of inbound frames

A text is a frame of the gateway if it spells one readable document within the nesting limit and
that document is an object or an array of one of four shapes.  In an object the members of a frame
may stand anywhere, but each once at most, and other members do not count; in an array the parts
follow each other.  `Incoming.parse` accepts exactly these texts, as the frame they describe.
-/

namespace GatewayLink

open Json (Document nestingLimit)
open Json.Document (valuesUnder elementsFor Optional)

/-- A text is decoded through a reader exactly if it spells a document that is read. -/
theorem decode_eq_ok_iff {α : Type} (read : Document → Option α) (text : String) (value : α) :
    decode read text = .ok value ↔
      ∃ document : Document,
        Json.Spelled document.tokens text.toList ∧ read document = some value := by
  simp only [← Json.Document.read?_eq_some_iff]
  cases parsed : Document.read? text with
  | none => simp [decode, parsed]
  | some document => cases reads : read document <;> simp [decode, parsed, reads]

namespace Request

/-- The fields of a request, in their order in an array. -/
def fieldNames : List String :=
  ["id", "method", "params"]

/-- A request is read from a document that holds an id, a method and parameters. -/
theorem ofDocument?_eq_some_iff {document : Document} {found : String → List Document}
    (offers : document.Offers fieldNames found) (request : Request) :
    ofDocument? document = some request ↔
      found "id" = [.string (some request.id)] ∧ found "method" = [.string (some request.method)] ∧
        ∃ part, found "params" = [part] ∧ part.value? = some request.params := by
  constructor
  · intro reads
    simp only [ofDocument?, Option.bind_eq_bind, Option.bind_eq_some_iff, Option.pure_def,
      Option.some.injEq] at reads
    obtain ⟨fields, given, id, id_read, method, method_read, params, params_read, rfl⟩ := reads
    exact ⟨(offers.required?_text_iff given (by decide) id).1 id_read,
      (offers.required?_text_iff given (by decide) method).1 method_read,
      (offers.required?_value_iff given (by decide) params).1 params_read⟩
  · rintro ⟨id_held, method_held, part, params_held, params_value⟩
    have once : ∀ name ∈ fieldNames, (found name).length ≤ 1 := by
      simp [fieldNames, id_held, method_held, params_held]
    obtain ⟨fields, given⟩ := offers.given_iff.2 once
    have id_read := (offers.required?_text_iff given (by decide) _).2 id_held
    have method_read := (offers.required?_text_iff given (by decide) _).2 method_held
    have params_read :=
      (offers.required?_value_iff given (by decide) _).2 ⟨part, params_held, params_value⟩
    rw [fieldNames] at given
    simp [ofDocument?, given, id_read, method_read, params_read]

end Request

namespace Response

/-- The fields of a response, in their order in an array. -/
def fieldNames : List String :=
  ["id", "ok", "payload", "error"]

/-- A response is read from a document that holds an id and a truth value, and one payload and one
error at most. -/
theorem ofDocument?_eq_some_iff {document : Document} {found : String → List Document}
    (offers : document.Offers fieldNames found) (response : Response) :
    ofDocument? document = some response ↔
      found "id" = [.string (some response.id)] ∧ found "ok" = [.bool response.ok] ∧
        Optional (found "payload") response.payload ∧
          Optional (found "error") response.error := by
  constructor
  · intro reads
    simp only [ofDocument?, Option.bind_eq_bind, Option.bind_eq_some_iff, Option.pure_def,
      Option.some.injEq] at reads
    obtain ⟨fields, given, id, id_read, ok, ok_read, payload, payload_read, error, error_read,
      rfl⟩ := reads
    exact ⟨(offers.required?_text_iff given (by decide) id).1 id_read,
      (offers.required?_truth_iff given (by decide) ok).1 ok_read,
      (offers.withDefault?_iff given (by decide) payload).1 payload_read,
      (offers.withDefault?_iff given (by decide) error).1 error_read⟩
  · rintro ⟨id_held, ok_held, payload_held, error_held⟩
    have once : ∀ name ∈ fieldNames, (found name).length ≤ 1 := by
      simp [fieldNames, id_held, ok_held, payload_held.1, error_held.1]
    obtain ⟨fields, given⟩ := offers.given_iff.2 once
    have id_read := (offers.required?_text_iff given (by decide) _).2 id_held
    have ok_read := (offers.required?_truth_iff given (by decide) _).2 ok_held
    have payload_read := (offers.withDefault?_iff given (by decide) _).2 payload_held
    have error_read := (offers.withDefault?_iff given (by decide) _).2 error_held
    rw [fieldNames] at given
    simp [ofDocument?, given, id_read, ok_read, payload_read, error_read]

end Response

namespace Event

/-- The fields of an event, in their order in an array. -/
def fieldNames : List String :=
  ["event", "payload"]

/-- An event is read from a document that holds a name and one payload at most. -/
theorem ofDocument?_eq_some_iff {document : Document} {found : String → List Document}
    (offers : document.Offers fieldNames found) (event : Event) :
    ofDocument? document = some event ↔
      found "event" = [.string (some event.name)] ∧
        Optional (found "payload") event.payload := by
  constructor
  · intro reads
    simp only [ofDocument?, Option.bind_eq_bind, Option.bind_eq_some_iff, Option.pure_def,
      Option.some.injEq] at reads
    obtain ⟨fields, given, name, name_read, payload, payload_read, rfl⟩ := reads
    exact ⟨(offers.required?_text_iff given (by decide) name).1 name_read,
      (offers.withDefault?_iff given (by decide) payload).1 payload_read⟩
  · rintro ⟨name_held, payload_held⟩
    have once : ∀ name ∈ fieldNames, (found name).length ≤ 1 := by
      simp [fieldNames, name_held, payload_held.1]
    obtain ⟨fields, given⟩ := offers.given_iff.2 once
    have name_read := (offers.required?_text_iff given (by decide) _).2 name_held
    have payload_read := (offers.withDefault?_iff given (by decide) _).2 payload_held
    rw [fieldNames] at given
    simp [ofDocument?, given, name_read, payload_read]

end Event

theorem valuesUnder_eq_singleton_iff (members : List (Option String × Document)) (key : String)
    (value : Document) :
    valuesUnder members key = [value] ↔
      members.filter (·.1 == some key) = [(some key, value)] := by
  simp only [valuesUnder, List.map_eq_singleton_iff]
  constructor
  · rintro ⟨⟨found, held⟩, alone, rfl⟩
    have member : (found, held) ∈ members.filter (·.1 == some key) := by simp [alone]
    have same : found = some key := by simpa using (List.mem_filter.1 member).2
    rw [alone, same]
  · intro alone
    exact ⟨_, alone, rfl⟩

/-- What is split into a kind and the rest. -/
theorem kindAndRest?_eq_some_iff (document : Document) (kind : String) (rest : Document) :
    kindAndRest? document = some (kind, rest) ↔
      document.Admitted ∧
        ((∃ members, document = .object members ∧
            valuesUnder members "type" = [.string (some kind)] ∧
              rest = .object (members.filter (·.1 != some "type"))) ∨
          ∃ elements, document = .array (.string (some kind) :: elements) ∧
            rest = .array elements) := by
  by_cases admitted : document.Admitted
  · have passes : (document.isReadable && decide (document.depth ≤ nestingLimit)) = true := by
      simpa [Json.Document.Admitted] using admitted
    simp only [kindAndRest?, passes, if_true, admitted, true_and]
    cases document with
    | object members =>
        simp only [Document.object.injEq, exists_eq_left', valuesUnder_eq_singleton_iff,
          reduceCtorEq, false_and, exists_false, or_false]
        constructor
        · intro splits
          split at splits
          · next key found alone =>
            simp only [Option.some.injEq, Prod.mk.injEq] at splits
            obtain ⟨rfl, rfl⟩ := splits
            have once : valuesUnder members "type" = [.string (some found)] := by
              simp [valuesUnder, alone]
            exact ⟨(valuesUnder_eq_singleton_iff _ _ _).1 once, rfl⟩
          · simp at splits
        · rintro ⟨alone, rfl⟩
          simp [alone]
    | array elements =>
        cases elements with
        | nil => simp
        | cons first others =>
            cases first with
            | string text => cases text <;> simp [eq_comm, and_assoc]
            | _ => simp
    | _ => simp
  · have fails : (document.isReadable && decide (document.depth ≤ nestingLimit)) = false := by
      rw [← Bool.not_eq_true]
      simpa [Json.Document.Admitted] using admitted
    simp [kindAndRest?, fails, admitted]

namespace Json.Document

/-- A document describes a frame of the gateway. -/
inductive Describes : Document → Incoming → Prop
  | responseObject {members : List (Option String × Document)} {id : String} {ok : Bool}
      {payload error : Option Json}
      (type_once : valuesUnder members "type" = [.string (some "res")])
      (id_once : valuesUnder members "id" = [.string (some id)])
      (ok_once : valuesUnder members "ok" = [.bool ok])
      (payload_optional : Optional (valuesUnder members "payload") payload)
      (error_optional : Optional (valuesUnder members "error") error) :
      Describes (.object members) (.response ⟨id, ok, payload, error⟩)
  | responseArray {id : String} {ok : Bool} {others : List Document} {payload error : Option Json}
      (payload_optional : Optional (others.take 1) payload)
      (error_optional : Optional (others.drop 1) error) :
      Describes (.array (.string (some "res") :: .string (some id) :: .bool ok :: others))
        (.response ⟨id, ok, payload, error⟩)
  | eventObject {members : List (Option String × Document)} {name : String}
      {payload : Option Json}
      (type_once : valuesUnder members "type" = [.string (some "event")])
      (name_once : valuesUnder members "event" = [.string (some name)])
      (payload_optional : Optional (valuesUnder members "payload") payload) :
      Describes (.object members) (.event ⟨name, payload⟩)
  | eventArray {name : String} {others : List Document} {payload : Option Json}
      (payload_optional : Optional others payload) :
      Describes (.array (.string (some "event") :: .string (some name) :: others))
        (.event ⟨name, payload⟩)

end Json.Document

theorem take_one_eq_singleton_iff (elements : List Document) (value : Document) :
    elements.take 1 = [value] ↔ ∃ others, elements = value :: others := by
  cases elements <;> simp

theorem Request.ofDocument?_object_iff {members : List (Option String × Document)}
    (admitted : (Document.object members).Admitted) (request : Request) :
    Request.ofDocument? (.object (members.filter (·.1 != some "type"))) = some request ↔
      valuesUnder members "id" = [.string (some request.id)] ∧
        valuesUnder members "method" = [.string (some request.method)] ∧
          ∃ part, valuesUnder members "params" = [part] ∧ part.value? = some request.params := by
  have offers := Json.Document.offers_object (admitted.filter (·.1 != some "type")) fieldNames
  rw [ofDocument?_eq_some_iff offers, Json.Document.valuesUnder_filter_ne (by decide),
    Json.Document.valuesUnder_filter_ne (by decide), Json.Document.valuesUnder_filter_ne (by decide)]

theorem Response.ofDocument?_object_iff {members : List (Option String × Document)}
    (admitted : (Document.object members).Admitted) (response : Response) :
    Response.ofDocument? (.object (members.filter (·.1 != some "type"))) = some response ↔
      valuesUnder members "id" = [.string (some response.id)] ∧
        valuesUnder members "ok" = [.bool response.ok] ∧
          Optional (valuesUnder members "payload") response.payload ∧
            Optional (valuesUnder members "error") response.error := by
  have offers := Json.Document.offers_object (admitted.filter (·.1 != some "type")) fieldNames
  rw [ofDocument?_eq_some_iff offers, Json.Document.valuesUnder_filter_ne (by decide),
    Json.Document.valuesUnder_filter_ne (by decide), Json.Document.valuesUnder_filter_ne (by decide),
    Json.Document.valuesUnder_filter_ne (by decide)]

/-- A response is read from an array without its kind, by the places of the elements. -/
theorem Response.ofDocument?_array_iff {elements : List Document}
    (admitted : (Document.array elements).Admitted) (response : Response) :
    Response.ofDocument? (.array elements) = some response ↔
      ∃ others, elements = .string (some response.id) :: .bool response.ok :: others ∧
        Optional (others.take 1) response.payload ∧ Optional (others.drop 1) response.error := by
  have offers := Json.Document.offers_array admitted fieldNames (by decide) (by decide)
  rw [ofDocument?_eq_some_iff offers]
  simp only [fieldNames, elementsFor, String.reduceEq, if_true, if_false, take_one_eq_singleton_iff]
  constructor
  · rintro ⟨⟨_, rfl⟩, ⟨others, rest_eq⟩, payload_optional, error_optional⟩
    simp only [List.drop_succ_cons, List.drop_zero] at rest_eq payload_optional error_optional
    subst rest_eq
    exact ⟨others, rfl, payload_optional, error_optional⟩
  · rintro ⟨others, rfl, payload_optional, error_optional⟩
    exact ⟨⟨_, rfl⟩, ⟨others, rfl⟩, payload_optional, error_optional⟩

theorem Event.ofDocument?_object_iff {members : List (Option String × Document)}
    (admitted : (Document.object members).Admitted) (event : Event) :
    Event.ofDocument? (.object (members.filter (·.1 != some "type"))) = some event ↔
      valuesUnder members "event" = [.string (some event.name)] ∧
        Optional (valuesUnder members "payload") event.payload := by
  have offers := Json.Document.offers_object (admitted.filter (·.1 != some "type")) fieldNames
  rw [ofDocument?_eq_some_iff offers, Json.Document.valuesUnder_filter_ne (by decide),
    Json.Document.valuesUnder_filter_ne (by decide)]

theorem Event.ofDocument?_array_iff {elements : List Document}
    (admitted : (Document.array elements).Admitted) (event : Event) :
    Event.ofDocument? (.array elements) = some event ↔
      ∃ others, elements = .string (some event.name) :: others ∧
        Optional others event.payload := by
  have offers := Json.Document.offers_array admitted fieldNames (by decide) (by decide)
  rw [ofDocument?_eq_some_iff offers]
  simp only [fieldNames, elementsFor, String.reduceEq, if_true, if_false, take_one_eq_singleton_iff]
  constructor
  · rintro ⟨⟨others, rfl⟩, payload_optional⟩
    exact ⟨others, rfl, payload_optional⟩
  · rintro ⟨others, rfl, payload_optional⟩
    exact ⟨⟨others, rfl⟩, payload_optional⟩

namespace Incoming

/-- A document is read as a response or an event according to its kind. -/
theorem ofDocument?_cases {document : Document} {frame : Incoming}
    (reads : ofDocument? document = some frame) :
    (∃ rest response, kindAndRest? document = some ("res", rest) ∧
        Response.ofDocument? rest = some response ∧ frame = .response response) ∨
      ∃ rest event, kindAndRest? document = some ("event", rest) ∧
        Event.ofDocument? rest = some event ∧ frame = .event event := by
  simp only [ofDocument?, Option.bind_eq_bind, Option.bind_eq_some_iff] at reads
  obtain ⟨⟨kind, rest⟩, splits, reads⟩ := reads
  simp only at reads
  split at reads
  · next kind_eq =>
    obtain ⟨response, body_reads, rfl⟩ := Option.map_eq_some_iff.1 reads
    exact .inl ⟨rest, response, kind_eq ▸ splits, body_reads, rfl⟩
  · split at reads
    · next kind_eq =>
      obtain ⟨event, body_reads, rfl⟩ := Option.map_eq_some_iff.1 reads
      exact .inr ⟨rest, event, kind_eq ▸ splits, body_reads, rfl⟩
    · simp at reads

/-- A document that is read as a frame is within the limits and describes that frame. -/
theorem describes_of_ofDocument? {document : Document} {frame : Incoming}
    (reads : ofDocument? document = some frame) :
    document.Admitted ∧ document.Describes frame := by
  rcases ofDocument?_cases reads with
    ⟨rest, response, splits, body_reads, rfl⟩ | ⟨rest, event, splits, body_reads, rfl⟩
  · obtain ⟨admitted, shape⟩ := (kindAndRest?_eq_some_iff _ _ _).1 splits
    refine ⟨admitted, ?_⟩
    rcases shape with ⟨members, rfl, type_once, rfl⟩ | ⟨elements, rfl, rfl⟩
    · obtain ⟨id_once, ok_once, payload_optional, error_optional⟩ :=
        (Response.ofDocument?_object_iff admitted response).1 body_reads
      exact .responseObject type_once id_once ok_once payload_optional error_optional
    · obtain ⟨others, rfl, payload_optional, error_optional⟩ :=
        (Response.ofDocument?_array_iff admitted.tail response).1 body_reads
      exact .responseArray payload_optional error_optional
  · obtain ⟨admitted, shape⟩ := (kindAndRest?_eq_some_iff _ _ _).1 splits
    refine ⟨admitted, ?_⟩
    rcases shape with ⟨members, rfl, type_once, rfl⟩ | ⟨elements, rfl, rfl⟩
    · obtain ⟨name_once, payload_optional⟩ :=
        (Event.ofDocument?_object_iff admitted event).1 body_reads
      exact .eventObject type_once name_once payload_optional
    · obtain ⟨others, rfl, payload_optional⟩ :=
        (Event.ofDocument?_array_iff admitted.tail event).1 body_reads
      exact .eventArray payload_optional

/-- A document within the limits is read as the frame that it describes. -/
theorem ofDocument?_of_describes {document : Document} {frame : Incoming}
    (admitted : document.Admitted) (describes : document.Describes frame) :
    ofDocument? document = some frame := by
  cases describes with
  | responseObject type_once id_once ok_once payload_optional error_optional =>
      have splits := (kindAndRest?_eq_some_iff _ _ _).2
        ⟨admitted, .inl ⟨_, rfl, type_once, rfl⟩⟩
      have reads := (Response.ofDocument?_object_iff admitted ⟨_, _, _, _⟩).2
        ⟨id_once, ok_once, payload_optional, error_optional⟩
      simp [ofDocument?, splits, reads]
  | responseArray payload_optional error_optional =>
      have splits := (kindAndRest?_eq_some_iff _ _ _).2 ⟨admitted, .inr ⟨_, rfl, rfl⟩⟩
      have reads := (Response.ofDocument?_array_iff admitted.tail ⟨_, _, _, _⟩).2
        ⟨_, rfl, payload_optional, error_optional⟩
      simp [ofDocument?, splits, reads]
  | eventObject type_once name_once payload_optional =>
      have splits := (kindAndRest?_eq_some_iff _ _ _).2
        ⟨admitted, .inl ⟨_, rfl, type_once, rfl⟩⟩
      have reads := (Event.ofDocument?_object_iff admitted ⟨_, _⟩).2 ⟨name_once, payload_optional⟩
      simp [ofDocument?, splits, reads]
  | eventArray payload_optional =>
      have splits := (kindAndRest?_eq_some_iff _ _ _).2 ⟨admitted, .inr ⟨_, rfl, rfl⟩⟩
      have reads := (Event.ofDocument?_array_iff admitted.tail ⟨_, _⟩).2
        ⟨_, rfl, payload_optional⟩
      simp [ofDocument?, splits, reads]

/-- A text says a frame if it spells a document within the limits that describes the frame. -/
def SaidBy (frame : Incoming) (text : String) : Prop :=
  ∃ document : Document,
    Json.Spelled document.tokens text.toList ∧ document.Admitted ∧ document.Describes frame

theorem decode_eq_ok_iff (text : String) (frame : Incoming) :
    decode ofDocument? text = .ok frame ↔ frame.SaidBy text := by
  rw [GatewayLink.decode_eq_ok_iff]
  constructor
  · rintro ⟨document, spelled, reads⟩
    exact ⟨document, spelled, describes_of_ofDocument? reads⟩
  · rintro ⟨document, spelled, admitted, describes⟩
    exact ⟨document, spelled, ofDocument?_of_describes admitted describes⟩

theorem parse_cases (text : String) :
    (∃ frame, decode ofDocument? text = .ok frame ∧ parse text = .ok frame) ∨
      ∃ cause details, decode ofDocument? text = .error cause ∧
        parse text = .error (.malformed details) := by
  cases decoded : decode ofDocument? text with
  | ok frame => exact .inl ⟨frame, rfl, by simp [parse, decoded]⟩
  | error cause =>
      exact .inr ⟨cause, cause.message ++ " ('" ++ excerpt text quotedLength ++ "')", rfl,
        by simp [parse, decoded]⟩

/-- An inbound text is accepted exactly if it says a frame, and then as that frame; every other text
is malformed. -/
theorem parse_accepts_exactly_frames (text : String) :
    (∀ frame, parse text = .ok frame ↔ frame.SaidBy text) ∧
      ((∃ details, parse text = .error (.malformed details)) ↔
        ∀ frame : Incoming, ¬ frame.SaidBy text) := by
  rcases parse_cases text with ⟨accepted, decoded, parsed⟩ | ⟨cause, details, decoded, parsed⟩
  · have said := (decode_eq_ok_iff text accepted).1 decoded
    refine ⟨fun frame => ?_, ?_⟩
    · rw [← decode_eq_ok_iff, decoded, parsed]
      simp
    · rw [parsed]
      simpa using ⟨accepted, said⟩
  · have unsaid : ∀ frame : Incoming, ¬ frame.SaidBy text := by
      intro frame said
      rw [← decode_eq_ok_iff, decoded] at said
      simp at said
    refine ⟨fun frame => ?_, ?_⟩
    · rw [parsed]
      simpa using unsaid frame
    · rw [parsed]
      simpa using unsaid

end Incoming

end GatewayLink
