import GatewayLink.Proofs.Client.Fate

/-!
# Texts that a client ignores

A text that is no frame, and a response under an id that no call waits for, leave a client exactly
as it is, and no other text does.  An id that was settled or given up never comes back, so what is
late once stays late.
-/

namespace GatewayLink

namespace Client

/-- A text that finds nothing to do: it is no frame, or a response that no call waits for. -/
inductive Unheeded (client : Client) (text : String) : Prop where
  | malformed (cause : ClientError) (refused : Incoming.parse text = .error cause)
  | unawaited (response : Response) (read : Incoming.parse text = .ok (.response response))
      (gone : client.inFlight.awaits response.id = false)

section Inbound

variable {client : Client} {text : String}

theorem inbound_of_unheeded (unheeded : client.Unheeded text) : client.inbound text = client := by
  cases unheeded with
  | malformed cause refused => simp [inbound, refused]
  | unawaited response read gone =>
      have unknown : client.inFlight.find? response.id = none := by
        simpa [InFlight.awaits] using gone
      simp [inbound, read, InFlight.answer, InFlight.remove, unknown]

theorem generated_record (event : Event) (logbook : Logbook) :
    logbook.generated < (event.record logbook).generated := by
  unfold Event.record
  dsimp only
  split
  · exact Nat.lt_succ_of_lt (Nat.lt_succ_self _)
  · exact Nat.lt_succ_self _

/-- A client is left as it is just by the texts that find nothing to do. -/
theorem inbound_eq_self_iff (client : Client) (text : String) :
    client.inbound text = client ↔ client.Unheeded text := by
  refine ⟨fun same => ?_, inbound_of_unheeded⟩
  cases parsed : Incoming.parse text with
  | error cause => exact .malformed cause parsed
  | ok frame =>
      cases frame with
      | response response =>
          refine .unawaited response parsed ?_
          have answered : (client.inbound text).inFlight.awaits response.id = false := by
            simp [inbound, parsed, InFlight.answer, InFlight.awaits_remove]
          rwa [same] at answered
      | event event =>
          have recorded : client.logbook.generated < (client.inbound text).logbook.generated := by
            simpa [inbound, parsed] using generated_record event client.logbook
          rw [same] at recorded
          exact absurd recorded (Nat.lt_irrefl _)

end Inbound

section Step

variable {client : Client} {text : String}

/-- Whoever hands over a text that finds nothing to do, the client stays as it is. -/
theorem step_of_unheeded (done : client.dissolve = client) (unheeded : client.Unheeded text) :
    client.step (.inbound text) = client ∧
      ∀ link, client.step (.received link (some (.text text))) = client := by
  have same := inbound_of_unheeded unheeded
  have received (link : Nat) : client.received link (some (.text text)) = client := by
    unfold Client.received
    split
    · exact same
    · rfl
  constructor
  · rw [step_eq]
    split
    · exact (congrArg dissolve same).trans done
    · split <;> exact done
  · intro link
    rw [step_eq]
    split
    · exact (congrArg dissolve (received link)).trans done
    · split
      · exact (congrArg dissolve (received link)).trans done
      · exact done

end Step

/-- A text changes nothing just if it is no frame or a response that no call waits for; one for an
id that is not pending any more never does. -/
theorem unheeded_text_changes_nothing (settings : Settings) (limits : Limits) (wall : Timestamp)
    (actions : List Action) (text : String) :
    let client := (new settings limits wall).run actions
    (client.inbound text = client ↔ client.Unheeded text) ∧
    (client.Unheeded text →
      client.step (.inbound text) = client ∧
      (∀ link, client.step (.received link (some (.text text))) = client) ∧
      ∀ action more, action = .inbound text ∨
          (∃ link, action = .received link (some (.text text))) →
        (new settings limits wall).run (actions ++ action :: more) =
          (new settings limits wall).run (actions ++ more)) ∧
    ∀ response, Incoming.parse text = .ok (.response response) → client.IsSpent response.id →
      ∀ more, (client.run more).Unheeded text := by
  intro client
  have done : client.dissolve = client := dissolve_run settings limits wall actions
  refine ⟨client.inbound_eq_self_iff text, fun unheeded => ?_, ?_⟩
  · obtain ⟨handed, received⟩ := step_of_unheeded done unheeded
    refine ⟨handed, received, ?_⟩
    intro action more origin
    have skipped : client.step action = client := by
      rcases origin with rfl | ⟨link, rfl⟩
      · exact handed
      · exact received link
    rw [run_append, run_append, run_cons]
    exact congrArg (Client.run · more) skipped
  · intro response read spent more
    exact .unawaited response read (isSpent_run spent more).gone

end Client

end GatewayLink
