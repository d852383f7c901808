import GatewayLink.Proofs.Client.Publishing

/-!
# What gives requests up

Requests are given up all at once: when the client is opened or closed and no link runs, when what
has waited for a link to end is carried out, and when the link of the current generation ends.
Nothing else gives them up, and a client that is opened or closed while a link runs will do so as
soon as that link has ended.
-/

namespace GatewayLink

namespace Client

/-- Whether an action gives all pending requests up. -/
def clears (client : Client) : Action → Bool
  | .connect _ | .close => client.isHeld && !client.connection.task.any client.linkRuns
  | .resume teardown => teardown < client.teardowns.length
  | .received link item => client.isAlive && client.endsGeneration link item
  | _ => false

section Operations

variable (client : Client)

theorem inFlight_carryOut (purpose : Purpose) :
    (client.carryOut purpose).inFlight = client.inFlight.abandonAll.2 := by
  cases purpose with
  | close => rfl
  | reopen url =>
      dsimp only [carryOut, runLink, Connection.assign]
      split <;> rfl

theorem inFlight_tearDown (purpose : Purpose) :
    (client.tearDown purpose).inFlight =
      bif client.connection.task.any client.linkRuns then client.inFlight
      else client.inFlight.abandonAll.2 := by
  obtain ⟨still, torn⟩ | ⟨link, task, runs, torn⟩ := client.tearDown_cases purpose
  · rw [torn, still]
    exact inFlight_carryOut ..
  · simp [torn, task, runs]

theorem inFlight_resume (teardown : Nat) :
    (client.resume teardown).inFlight =
      bif decide (teardown < client.teardowns.length) then client.inFlight.abandonAll.2
      else client.inFlight := by
  obtain ⟨found, resumed⟩ | ⟨purpose, found, resumed⟩ := client.resume_cases teardown
  · have beyond : client.teardowns.length ≤ teardown := List.getElem?_eq_none_iff.mp found
    simp [resumed, Nat.not_lt_of_le beyond]
  · have known : teardown < client.teardowns.length := (List.getElem?_eq_some_iff.mp found).1
    simp [resumed, inFlight_carryOut, known]

theorem inFlight_generationLost (generation : Nat) (reason : String) :
    (client.generationLost generation reason).inFlight =
      bif client.connection.stands generation then client.inFlight.abandonAll.2
      else client.inFlight := by
  obtain ⟨stands, lost⟩ | ⟨late, lost⟩ := client.generationLost_cases generation reason
  · rw [lost, stands]
    rfl
  · rw [lost, late]
    rfl

theorem inFlight_inbound {text : String} (silent : responseOf? text = none) :
    (client.inbound text).inFlight = client.inFlight := by
  obtain ⟨response, read, -⟩ | ⟨-, event, taken⟩ | ⟨-, taken⟩ := client.inbound_cases text
  · rw [silent] at read
    cases read
  · rw [taken]
  · rw [taken]

theorem inFlight_received (link : Nat) (item : Option StreamItem) (alive : client.isAlive = true)
    (silent : client.response? (.received link item) = none) :
    (client.received link item).inFlight =
      bif client.endsGeneration link item then client.inFlight.abandonAll.2
      else client.inFlight := by
  obtain ⟨text, heard, ends, received⟩ | ⟨-, generation, url, channel, reason, -, ends, received⟩ |
    ⟨-, ends, received⟩ := client.received_cases link item
  · have unanswered : responseOf? text = none := by
      rwa [response?, heard alive] at silent
    rw [received, ends]
    exact client.inFlight_inbound unanswered
  · rw [received, ends]
    exact inFlight_generationLost (client.setLink link .ended) generation reason
  · rw [received, ends]
    rfl

theorem inFlight_linkOpened (link : Nat) : (client.linkOpened link).inFlight = client.inFlight := by
  obtain ⟨generation, url, -, -, opened⟩ | ⟨generation, url, -, -, opened⟩ | ⟨-, opened⟩ :=
    client.linkOpened_cases link <;> rw [opened] <;> rfl

theorem inFlight_linkFailed (link : Nat) (cause : TransportError) :
    (client.linkFailed link cause).inFlight = client.inFlight := by
  obtain ⟨generation, url, -, failed⟩ | ⟨-, failed⟩ := client.linkFailed_cases link cause
  · rw [failed]
    obtain ⟨-, lost⟩ | ⟨-, lost⟩ :=
      (client.setLink link .ended).generationRefused_cases generation cause <;> rw [lost] <;> rfl
  · rw [failed]

theorem inFlight_tick : client.tick.inFlight = client.inFlight := by
  obtain ⟨ticker, calls, ticked, -, -⟩ := client.tick_eq
  rw [ticked]
  rfl

theorem inFlight_applyOutside (action : Action) :
    (client.applyOutside action).2.inFlight = client.inFlight := by
  cases action with
  | observe observer =>
      dsimp only [applyOutside]
      split <;> rfl
  | _ => rfl

/-- Besides what is answered, requests are given up all at once or not at all. -/
theorem inFlight_step_of_silent {action : Action} (others : action.movesCall = false)
    (silent : client.response? action = none) :
    (client.step action).inFlight =
      bif client.clears action then client.inFlight.abandonAll.2 else client.inFlight := by
  have outside {action : Action} (kept : client.clears action = false) :
      (client.applyOutside action).2.inFlight =
        bif client.clears action then client.inFlight.abandonAll.2 else client.inFlight := by
    simp [inFlight_applyOutside, kept]
  have alone (dead : client.isAlive = false) : client.teardowns = [] := by
    simp only [isAlive, Bool.or_eq_false_iff] at dead
    simpa using dead.1.2
  have task (alive : client.isAlive = true) (unheard : ∀ text, action ≠ .inbound text)
      (asked : action ≠ .close ∧ ∀ url, action ≠ .connect url) :
      (client.applyTask action).2.inFlight =
        bif client.clears action then client.inFlight.abandonAll.2 else client.inFlight := by
    cases action with
    | start number => cases others
    | wake number => cases others
    | close => exact absurd rfl asked.1
    | connect url => exact absurd rfl (asked.2 url)
    | inbound text => exact absurd rfl (unheard text)
    | resume teardown => exact client.inFlight_resume teardown
    | linkOpened link => exact client.inFlight_linkOpened link
    | linkFailed link cause => exact client.inFlight_linkFailed link cause
    | received link item =>
        rw [clears, alive, Bool.true_and]
        exact client.inFlight_received link item alive silent
    | tick => exact client.inFlight_tick
    | _ => exact outside rfl
  rw [step_eq, inFlight_dissolve]
  split
  · rename_i held
    have torn {client : Client} (held : client.isHeld = true) (purpose : Purpose) :
        (client.tearDown purpose).inFlight =
          bif client.isHeld && !client.connection.task.any client.linkRuns then
            client.inFlight.abandonAll.2
          else client.inFlight := by
      rw [client.inFlight_tearDown, held]
      cases client.connection.task.any client.linkRuns <;> rfl
    cases action with
    | connect url => exact torn held _
    | close => exact @torn { client with ticker := none } held .close
    | inbound text =>
        have unanswered : responseOf? text = none := by simpa [response?, heard?, held] using silent
        exact client.inFlight_inbound unanswered
    | startRefresh interval calls =>
        dsimp only [applyHeld, startRefresh]
        split <;> rfl
    | start number => cases others
    | wake number => cases others
    | call method params => rfl
    | setGap gap => rfl
    | stopRefresh => rfl
    | subscribe => rfl
    | watch => rfl
    | drop => rfl
    | _ => exact task (isAlive_of_isHeld held) (by simp) (by simp)
  · rename_i let_go
    split
    · rename_i alive
      cases action with
      | close => exact outside (by simp [clears, let_go])
      | connect url => exact outside (by simp [clears, let_go])
      | inbound text => exact outside rfl
      | _ => exact task alive (by simp) (by simp)
    · rename_i dead
      cases action with
      | close => exact outside (by simp [clears, let_go])
      | connect url => exact outside (by simp [clears, let_go])
      | resume teardown => exact outside (by simp [clears, alone (by simpa using dead)])
      | received link item => exact outside (by simp [clears, dead])
      | _ => exact outside rfl

end Operations

/-- Whatever gives the requests up is no answer. -/
theorem response?_of_clears {client : Client} {action : Action}
    (clears : client.clears action = true) : client.response? action = none := by
  cases action with
  | received link item =>
      have ended : client.endsGeneration link item = true := (Bool.and_eq_true_iff.mp clears).2
      obtain ⟨text, -, ends, -⟩ | ⟨unheard, -⟩ | ⟨unheard, -⟩ := client.received_cases link item
      · rw [ends] at ended
        cases ended
      · rw [response?, unheard]
        rfl
      · rw [response?, unheard]
        rfl
  | inbound text => cases clears
  | _ => rfl

theorem movesCall_of_clears {client : Client} {action : Action}
    (clears : client.clears action = true) : action.movesCall = false := by
  cases action <;> first | rfl | cases clears

theorem pending_of_clears {client : Client} {action : Action}
    (clears : client.clears action = true) : (client.step action).inFlight.pending = [] := by
  rw [client.inFlight_step_of_silent (movesCall_of_clears clears) (response?_of_clears clears),
    clears]
  rfl

end Client

end GatewayLink
