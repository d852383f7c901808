import GatewayLink.Frame.Handshake
import GatewayLink.Proofs.Json.Given

/-!
# The shapes of a welcome

A payload welcomes the client with a version and a session if it gives a protocol, which gives the
version, and a session, which gives the id.  Each of the three may be an object, in which these
members stand once and others do not count, or an array of just these values.  Only these payloads
are read, and the version and the id are those that they give.
-/

namespace GatewayLink

namespace Welcome

open Json (Document)

theorem versionOf?_eq_some_iff (value : Json) (version : Int64) :
    versionOf? (Document.ofJson value) = some version ↔
      value.Gives [("selected", Json.ofInt64 version)] := by
  rw [versionOf?, Option.bind_eq_bind, Document.only_field_eq_some_iff]
  simp only [Document.int64?_ofJson_eq_some_iff, exists_eq_right]

theorem sessionOf?_eq_some_iff (value : Json) (session : String) :
    sessionOf? (Document.ofJson value) = some session ↔
      value.Gives [("sessionId", .string session)] := by
  rw [sessionOf?, Option.bind_eq_bind, Document.only_field_eq_some_iff]
  simp only [Document.text?_ofJson_eq_some_iff, exists_eq_right]

/-- A payload is read as a welcome just if it gives a version and a session id, each of the three
levels being an object or an array of just these values. -/
theorem ofPayload?_eq_some_iff_gives (payload : Json) (welcome : Welcome) :
    ofPayload? payload = some welcome ↔
      ∃ protocol session,
        payload.Gives [("protocol", protocol), ("session", session)] ∧
          protocol.Gives [("selected", Json.ofInt64 welcome.version)] ∧
            session.Gives [("sessionId", .string welcome.session)] := by
  simp only [ofPayload?, ofDocument?, Option.bind_eq_bind, Option.bind_eq_some_iff,
    Option.pure_def, Option.some.injEq]
  constructor
  · rintro ⟨given, given_eq, version, version_reads, session, session_reads, rfl⟩
    obtain ⟨protocol, protocol_found, version_reads⟩ :=
      (Document.required?_ofJson_eq_some_iff given_eq (by simp) _ _).1 version_reads
    obtain ⟨holder, holder_found, session_reads⟩ :=
      (Document.required?_ofJson_eq_some_iff given_eq (by simp) _ _).1 session_reads
    have supplied : (Document.ofJson payload).Supplies
        [("protocol", Document.ofJson protocol), ("session", Document.ofJson holder)] :=
      ⟨given, given_eq, by simp [protocol_found, holder_found]⟩
    exact ⟨protocol, holder, (Document.supplies_ofJson_iff (by simp) payload).1 supplied,
      (versionOf?_eq_some_iff _ _).1 version_reads, (sessionOf?_eq_some_iff _ _).1 session_reads⟩
  · rintro ⟨protocol, holder, gives, version_gives, session_gives⟩
    obtain ⟨given, given_eq, found⟩ := (Document.supplies_ofJson_iff (by simp) payload).2 gives
    have protocol_found := found ("protocol", Document.ofJson protocol) (by simp)
    have holder_found := found ("session", Document.ofJson holder) (by simp)
    have version_reads := (Document.required?_ofJson_eq_some_iff given_eq (by simp) _ _).2
      ⟨protocol, protocol_found, (versionOf?_eq_some_iff _ _).2 version_gives⟩
    have session_reads := (Document.required?_ofJson_eq_some_iff given_eq (by simp) _ _).2
      ⟨holder, holder_found, (sessionOf?_eq_some_iff _ _).2 session_gives⟩
    exact ⟨given, given_eq, _, version_reads, _, session_reads, rfl⟩

/-- A welcome may be written without any key. -/
theorem ofPayload?_of_arrays :
    ofPayload? (.array [.array [Json.ofInt64 1], .array [.string "s1"]]) = some ⟨1, "s1"⟩ := by
  decide

end Welcome

end GatewayLink
