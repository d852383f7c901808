import GatewayLink.Proofs.Client.Operations

/-!
# What one step of a client can do

A step lets a call begin, lets a call go on, or does something else.  Everything else leaves the
calls that there are, the ids that were issued and the history of calls alone: it may add calls that
have not begun, and it touches the requests in flight only by handing over a response or by giving
all of them up.
-/

namespace GatewayLink

namespace Client

/-- Bulletins and subscription records are added to a logbook, and nothing else is entered. -/
structure Remarked (before after : Logbook) : Prop where
  history : after.history = before.history
  standing : after.standing = before.standing
  activity : ∃ bulletins : List Bulletin,
    after.activity = bulletins.foldl BoundedLog.push before.activity

namespace Remarked

variable {before after : Logbook}

theorem refl (logbook : Logbook) : Remarked logbook logbook := ⟨rfl, rfl, [], rfl⟩

theorem post (remarked : Remarked before after) (title content : String) (severity : Severity) :
    Remarked before (after.post title content severity) where
  history := remarked.history
  standing := remarked.standing
  activity := by
    obtain ⟨bulletins, activity⟩ := remarked.activity
    exact ⟨bulletins ++ [⟨generatedId after.generated, title, content, severity⟩], by
      simp [Logbook.post, Logbook.draw, activity]⟩

theorem subscription (remarked : Remarked before after) (action : String)
    (subscription : Option String) : Remarked before (after.subscription action subscription) :=
  ⟨remarked.history, remarked.standing, remarked.activity⟩

theorem record (event : Event) (logbook : Logbook) : Remarked logbook (event.record logbook) := by
  unfold Event.record
  dsimp only
  split
  · exact ((refl logbook).post ..).subscription ..
  · exact (refl logbook).post ..

end Remarked

/-- What an operation does to a client that begins no call and lets none go on. -/
structure Aside (response : Option Response) (before after : Client) : Prop where
  calls : ∃ fresh : List Call,
    (∀ call ∈ fresh, call.stage = .ready) ∧ after.calls = before.calls ++ fresh
  issued : after.issued = before.issued
  logbook : Remarked before.logbook after.logbook
  inFlight :
    match response with
    | some response => after.inFlight = (before.inFlight.answer response.id response).2
    | none => after.inFlight = before.inFlight ∨ after.inFlight = before.inFlight.abandonAll.2

namespace Aside

variable {response : Option Response} {before after : Client}

theorem of_remarked (calls : after.calls = before.calls) (issued : after.issued = before.issued)
    (logbook : Remarked before.logbook after.logbook)
    (inFlight : after.inFlight = before.inFlight) : Aside none before after :=
  ⟨⟨[], by simp, by simp [calls]⟩, issued, logbook, .inl inFlight⟩

theorem of_eq (calls : after.calls = before.calls) (issued : after.issued = before.issued)
    (logbook : after.logbook = before.logbook)
    (inFlight : after.inFlight = before.inFlight) : Aside none before after :=
  of_remarked calls issued (logbook ▸ .refl _) inFlight

theorem refl (client : Client) : Aside none client client :=
  of_eq rfl rfl rfl rfl

theorem of_outer {outer : Client} (aside : Aside response outer after)
    (calls : outer.calls = before.calls) (issued : outer.issued = before.issued)
    (logbook : outer.logbook = before.logbook) (inFlight : outer.inFlight = before.inFlight) :
    Aside response before after where
  calls := calls ▸ aside.calls
  issued := issued ▸ aside.issued
  logbook := logbook ▸ aside.logbook
  inFlight := inFlight ▸ aside.inFlight

theorem dissolve (aside : Aside response before after) : Aside response before after.dissolve where
  calls := by simpa using aside.calls
  issued := by simpa using aside.issued
  logbook := by simpa using aside.logbook
  inFlight := by simpa using aside.inFlight

end Aside

section Operations

variable (client : Client)

theorem aside_inbound (text : String) :
    Aside (responseOf? text) client (client.inbound text) := by
  obtain ⟨response, read, taken⟩ | ⟨silent, event, taken⟩ | ⟨silent, taken⟩ :=
    client.inbound_cases text
  · rw [read, taken]
    exact ⟨⟨[], by simp, by simp⟩, rfl, .refl _, rfl⟩
  · rw [silent, taken]
    exact .of_remarked rfl rfl (.record event client.logbook) rfl
  · rw [silent, taken]
    exact .refl client

theorem aside_generationRefused (generation : Nat) (cause : TransportError) :
    Aside none client (client.generationRefused generation cause) := by
  obtain ⟨-, lost⟩ | ⟨-, lost⟩ := client.generationRefused_cases generation cause
  · rw [lost]
    exact .of_remarked rfl rfl ((Remarked.refl client.logbook).post ..) rfl
  · rw [lost]
    exact .refl client

theorem aside_generationLost (generation : Nat) (reason : String) :
    Aside none client (client.generationLost generation reason) := by
  obtain ⟨-, lost⟩ | ⟨-, lost⟩ := client.generationLost_cases generation reason
  · rw [lost]
    exact ⟨⟨[], by simp, by simp⟩, rfl, (Remarked.refl client.logbook).post .., .inr rfl⟩
  · rw [lost]
    exact .refl client

theorem aside_linkOpened (link : Nat) : Aside none client (client.linkOpened link) := by
  obtain ⟨generation, url, -, -, opened⟩ | ⟨generation, url, -, -, opened⟩ | ⟨-, opened⟩ :=
    client.linkOpened_cases link
  · rw [opened]
    exact ⟨⟨[client.handshakeCall generation], by simp [handshakeCall], rfl⟩, rfl, .refl _, .inl rfl⟩
  · rw [opened]
    exact .of_eq rfl rfl rfl rfl
  · rw [opened]
    exact .refl client

theorem aside_linkFailed (link : Nat) (cause : TransportError) :
    Aside none client (client.linkFailed link cause) := by
  obtain ⟨generation, url, -, failed⟩ | ⟨-, failed⟩ := client.linkFailed_cases link cause
  · rw [failed]
    exact (aside_generationRefused (client.setLink link .ended) _ cause).of_outer rfl rfl rfl rfl
  · rw [failed]
    exact .refl client

theorem aside_runLink (link : Nat) : Aside none client (client.runLink link) := by
  obtain ⟨-, ran⟩ | ⟨other, -, ran⟩ := client.runLink_cases link <;> rw [ran] <;>
    exact .of_eq rfl rfl rfl rfl

theorem aside_carryOut (purpose : Purpose) : Aside none client (client.carryOut purpose) := by
  have ended : Aside none client client.endGeneration :=
    ⟨⟨[], by simp, by simp [endGeneration]⟩, rfl, .refl _, .inr rfl⟩
  cases purpose with
  | close => exact ended
  | reopen url =>
      have ran := aside_runLink
        { client.endGeneration with
          connection := (client.endGeneration.connection.dial url).2
          links := client.endGeneration.links ++
            [⟨(client.endGeneration.connection.dial url).1, url, .connecting⟩] }
        client.endGeneration.links.length
      exact
        { calls := ran.calls
          issued := ran.issued
          logbook := ran.logbook
          inFlight := .inr (ran.inFlight.elim id id) }

theorem aside_tearDown (purpose : Purpose) : Aside none client (client.tearDown purpose) := by
  obtain ⟨-, torn⟩ | ⟨link, -, -, torn⟩ := client.tearDown_cases purpose
  · rw [torn]
    exact (aside_carryOut _ purpose).of_outer rfl rfl rfl rfl
  · rw [torn]
    exact .of_eq rfl rfl rfl rfl

theorem aside_resume (teardown : Nat) : Aside none client (client.resume teardown) := by
  obtain ⟨-, resumed⟩ | ⟨purpose, -, resumed⟩ := client.resume_cases teardown
  · rw [resumed]
    exact .refl client
  · rw [resumed]
    exact (aside_carryOut _ purpose).of_outer rfl rfl rfl rfl

theorem aside_tick : Aside none client client.tick := by
  obtain ⟨ticker, calls, ticked, -, fresh⟩ := client.tick_eq
  rw [ticked]
  exact ⟨⟨calls, fun call member => (fresh call member).2, rfl⟩, rfl, .refl _, .inl rfl⟩

theorem aside_received (link : Nat) (item : Option StreamItem) (alive : client.isAlive = true) :
    Aside (client.response? (.received link item)) client (client.received link item) := by
  obtain ⟨text, heard, -, received⟩ | ⟨silent, generation, url, channel, reason, -, -, received⟩ |
    ⟨silent, -, received⟩ := client.received_cases link item
  · rw [received, response?, heard alive]
    exact client.aside_inbound text
  · rw [received, response?, silent]
    exact (aside_generationLost (client.setLink link .ended) _ _).of_outer rfl rfl rfl rfl
  · rw [received, response?, silent]
    exact .refl client

end Operations

/-! ## Steps -/

theorem isAlive_of_isHeld {client : Client} (held : client.isHeld = true) :
    client.isAlive = true := by
  simp [isAlive, held]

theorem not_isHeld_of_not_isAlive {client : Client} (dead : client.isAlive = false) :
    client.isHeld = false := by
  cases held : client.isHeld with
  | false => rfl
  | true => rw [← dead, isAlive_of_isHeld held]

theorem isAlive_of_isActive {client : Client} {number : Nat} {call : Call}
    (found : client.calls[number]? = some call) (active : call.isActive = true) :
    client.isAlive = true := by
  have kept : client.calls.any Call.isActive = true :=
    List.any_eq_true.mpr ⟨call, List.mem_of_getElem? found, active⟩
  simp [isAlive, kept]

theorem start_of_not_isAlive {client : Client} (dead : client.isAlive = false) (number : Nat) :
    client.start number = client := by
  obtain ⟨call, found, ready, -⟩ | ⟨-, unchanged⟩ := client.start_cases number
  · have alive := isAlive_of_isActive found (by simp [Call.isActive, ready])
    rw [dead] at alive
    exact absurd alive (by decide)
  · exact unchanged

theorem wake_of_not_isAlive {client : Client} (dead : client.isAlive = false) (number : Nat) :
    client.wake number = client := by
  obtain ⟨call, id, handle, since, found, waiting, -⟩ | ⟨-, unchanged⟩ :=
    client.wake_cases number
  · have alive := isAlive_of_isActive found (by simp [Call.isActive, waiting])
    rw [dead] at alive
    exact absurd alive (by decide)
  · exact unchanged

theorem step_eq (client : Client) (action : Action) :
    client.step action =
      (if client.isHeld then client.applyHeld action
        else if client.isAlive then client.applyTask action
        else client.applyOutside action).2.dissolve := rfl

theorem step_received_of_isAlive {client : Client} {link : Nat} (alive : client.isAlive = true)
    (item : Option StreamItem) :
    client.step (.received link item) = (client.received link item).dissolve := by
  rw [step_eq, if_pos alive]
  split <;> rfl

theorem step_received_of_not_isAlive {client : Client} {link : Nat} (dead : client.isAlive = false)
    (item : Option StreamItem) : client.step (.received link item) = client.dissolve := by
  simp [step_eq, dead, not_isHeld_of_not_isAlive dead, applyOutside]

@[simp] theorem step_start (client : Client) (number : Nat) :
    client.step (.start number) = (client.start number).dissolve := by
  rw [step_eq]
  split
  · rfl
  · split
    · rfl
    · rename_i dead
      rw [start_of_not_isAlive (by simpa using dead)]
      rfl

@[simp] theorem step_wake (client : Client) (number : Nat) :
    client.step (.wake number) = (client.wake number).dissolve := by
  rw [step_eq]
  split
  · rfl
  · split
    · rfl
    · rename_i dead
      rw [wake_of_not_isAlive (by simpa using dead)]
      rfl

/-- Whether an action lets a call begin or go on. -/
def Action.movesCall : Action → Bool
  | .start _ | .wake _ => true
  | _ => false

theorem aside_applyOutside (client : Client) (action : Action) :
    Aside none client (client.applyOutside action).2 := by
  cases action with
  | observe observer =>
      dsimp only [applyOutside]
      split <;> exact .of_eq rfl rfl rfl rfl
  | _ => exact .of_eq rfl rfl rfl rfl

theorem aside_applyTask (client : Client) (action : Action) (alive : client.isAlive = true)
    (others : action.movesCall = false) (silent : ∀ text, action ≠ .inbound text) :
    Aside (client.response? action) client (client.applyTask action).2 := by
  cases action with
  | start number => simp [Action.movesCall] at others
  | wake number => simp [Action.movesCall] at others
  | inbound text => exact absurd rfl (silent text)
  | resume teardown => exact client.aside_resume teardown
  | linkOpened link => exact client.aside_linkOpened link
  | linkFailed link cause => exact client.aside_linkFailed link cause
  | received link item => exact client.aside_received link item alive
  | tick => exact client.aside_tick
  | _ => exact client.aside_applyOutside _

theorem aside_applyHeld (client : Client) (action : Action) (held : client.isHeld = true)
    (others : action.movesCall = false) :
    Aside (client.response? action) client (client.applyHeld action).2 := by
  cases action with
  | call method params =>
      exact ⟨⟨[⟨.holder, method, params, .ready⟩], by simp, rfl⟩, rfl, .refl _, .inl rfl⟩
  | connect url => exact client.aside_tearDown (.reopen url)
  | close => exact (aside_tearDown _ .close).of_outer rfl rfl rfl rfl
  | inbound text =>
      have heard : client.response? (.inbound text) = responseOf? text := by
        simp [response?, heard?, held]
      rw [heard]
      exact client.aside_inbound text
  | startRefresh interval calls =>
      dsimp only [applyHeld, startRefresh]
      split <;> exact .of_eq rfl rfl rfl rfl
  | setGap gap => exact .of_eq rfl rfl rfl rfl
  | stopRefresh => exact .of_eq rfl rfl rfl rfl
  | subscribe => exact .of_eq rfl rfl rfl rfl
  | watch => exact .of_eq rfl rfl rfl rfl
  | drop => exact .of_eq rfl rfl rfl rfl
  | _ =>
      exact client.aside_applyTask _ (isAlive_of_isHeld held) others (by simp)

/-- A step that moves no call is done aside. -/
theorem aside_step (client : Client) (action : Action) (others : action.movesCall = false) :
    Aside (client.response? action) client (client.step action) := by
  rw [step_eq]
  refine Aside.dissolve ?_
  split
  · rename_i held
    exact client.aside_applyHeld action held others
  · rename_i let_go
    split
    · rename_i alive
      cases action with
      | inbound text =>
          have unheard : client.response? (.inbound text) = none := by
            simp [response?, heard?, let_go]
          rw [unheard]
          exact .refl client
      | _ => exact client.aside_applyTask _ alive others (by simp)
    · rename_i dead
      have unheard : client.response? action = none := by
        cases action <;> simp [response?, heard?, let_go, dead]
      rw [unheard]
      exact client.aside_applyOutside action

theorem run_append (client : Client) (first second : List Action) :
    client.run (first ++ second) = (client.run first).run second :=
  List.foldl_append ..

@[simp] theorem run_nil (client : Client) : client.run [] = client := rfl

@[simp] theorem run_cons (client : Client) (action : Action) (rest : List Action) :
    client.run (action :: rest) = (client.step action).run rest := rfl

@[simp] theorem dissolve_step (client : Client) (action : Action) :
    (client.step action).dissolve = client.step action := by
  rw [step_eq, dissolve_dissolve]

theorem dissolve_run (settings : Settings) (limits : Limits) (wall : Timestamp)
    (actions : List Action) :
    ((new settings limits wall).run actions).dissolve = (new settings limits wall).run actions := by
  rcases List.eq_nil_or_concat actions with rfl | ⟨front, action, rfl⟩
  · rfl
  · rw [List.concat_eq_append, run_append, run_cons, run_nil, dissolve_step]

end Client

end GatewayLink
