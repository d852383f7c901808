import GatewayLink.Client.Action
import GatewayLink.Proofs.Connection.Generation

/-!
# What the operations of a client come to

Letting a call begin, letting a call go on, and every operation of links, teardowns and the ticker
are listed here case by case: when each case occurs, and what the client is then.
-/

namespace GatewayLink

/-- A text that cannot be sent leaves no trace. -/
theorem Connection.send_error {connection after : Connection} {text : String}
    {cause : TransportError} (fails : connection.send text = (.error cause, after)) :
    after = connection := by
  obtain ⟨channel, state, -, -, -, sent⟩ | ⟨cause, sent, -⟩ := connection.send_cases text
  · cases fails.symm.trans sent
  · exact (Prod.mk.inj (fails.symm.trans sent)).2

namespace Client

/-! ## Parts that an operation does not touch -/

section Frame

variable (client : Client) (number : Nat)

@[simp] theorem inFlight_setStage (stage : CallStage) :
    (client.setStage number stage).inFlight = client.inFlight := rfl

@[simp] theorem issued_setStage (stage : CallStage) :
    (client.setStage number stage).issued = client.issued := rfl

@[simp] theorem logbook_setStage (stage : CallStage) :
    (client.setStage number stage).logbook = client.logbook := rfl

@[simp] theorem connection_setStage (stage : CallStage) :
    (client.setStage number stage).connection = client.connection := rfl

@[simp] theorem links_setStage (stage : CallStage) :
    (client.setStage number stage).links = client.links := rfl

@[simp] theorem calls_setStage (stage : CallStage) :
    (client.setStage number stage).calls = client.calls.modify number ({ · with stage }) := rfl

@[simp] theorem calls_setLink (stage : LinkStage) :
    (client.setLink number stage).calls = client.calls := rfl

@[simp] theorem inFlight_setLink (stage : LinkStage) :
    (client.setLink number stage).inFlight = client.inFlight := rfl

@[simp] theorem issued_setLink (stage : LinkStage) :
    (client.setLink number stage).issued = client.issued := rfl

@[simp] theorem logbook_setLink (stage : LinkStage) :
    (client.setLink number stage).logbook = client.logbook := rfl

@[simp] theorem connection_setLink (stage : LinkStage) :
    (client.setLink number stage).connection = client.connection := rfl

@[simp] theorem links_setLink (stage : LinkStage) :
    (client.setLink number stage).links = client.links.modify number ({ · with stage }) := rfl

@[simp] theorem isAlive_setLink (stage : LinkStage) :
    (client.setLink number stage).isAlive = client.isAlive := rfl

/-- A client that is not kept loses its connection's outer parts, its observers and its ticker. -/
theorem dissolve_cases :
    client.dissolve = client ∨
      ∃ links, (links = client.links ∨
          ∃ link, links = client.links.modify link ({ · with stage := .ended })) ∧
        client.dissolve =
          { client with
            connection := { client.connection with task := none }.uninstall
            observers := client.observers.close
            ticker := none
            links } := by
  unfold dissolve
  split
  · exact .inl rfl
  · right
    cases task : client.connection.task with
    | none => exact ⟨client.links, .inl rfl, by simp [Connection.unassign, task]⟩
    | some link =>
        exact ⟨_, .inr ⟨link, rfl⟩, by simp [Connection.unassign, task, setLink]⟩

@[simp] theorem calls_dissolve : client.dissolve.calls = client.calls := by
  obtain same | ⟨links, -, same⟩ := client.dissolve_cases <;> rw [same]

@[simp] theorem inFlight_dissolve : client.dissolve.inFlight = client.inFlight := by
  obtain same | ⟨links, -, same⟩ := client.dissolve_cases <;> rw [same]

@[simp] theorem issued_dissolve : client.dissolve.issued = client.issued := by
  obtain same | ⟨links, -, same⟩ := client.dissolve_cases <;> rw [same]

@[simp] theorem logbook_dissolve : client.dissolve.logbook = client.logbook := by
  obtain same | ⟨links, -, same⟩ := client.dissolve_cases <;> rw [same]

@[simp] theorem pacing_dissolve : client.dissolve.pacing = client.pacing := by
  obtain same | ⟨links, -, same⟩ := client.dissolve_cases <;> rw [same]

@[simp] theorem teardowns_dissolve : client.dissolve.teardowns = client.teardowns := by
  obtain same | ⟨links, -, same⟩ := client.dissolve_cases <;> rw [same]

/-- What a call returns with the answer of the gateway. -/
def verdict (method : String) (response : Response) : Except ClientError Json :=
  if response.ok then .ok (response.payload.getD (.object []))
  else .error (.rejected method response.refusalCode response.refusalText)

/-- Whether a result is an answer of the gateway. -/
def isAnswer : Except ClientError Json → Bool
  | .ok _ | .error (.rejected ..) => true
  | .error _ => false

/-- The logbook once a call has returned with the answer of the gateway. -/
def concluded (client : Client) (id method : String) (since : Nat) (response : Response) :
    Logbook :=
  if response.ok then
    ((client.logbook.settle id .ok (client.elapsedSince since)).2.noteSuccess client.clock.wall
      method).post method (response.payload.getD (.object [])).compact .info
  else
    ((client.logbook.noteFailure client.clock.wall method response.refusalText).settle id .error
      (client.elapsedSince since)).2.post method response.refusalText .error

/-- A call that concludes moves on and is recorded; besides, a session may be entered. -/
theorem conclude_eq (caller : Caller) (id method : String) (since : Nat) (response : Response) :
    ∃ connection,
      (connection = client.connection ∨
        ∃ generation welcome, connection = (client.connection.welcome generation welcome).2) ∧
      client.conclude number caller id method since response =
        { client with
          connection
          logbook := client.concluded id method since response }.setStage number
            (.returned (verdict method response)) := by
  cases ok : response.ok with
  | true =>
      cases caller with
      | handshake generation =>
          cases welcomed : Welcome.ofPayload? (response.payload.getD (.object [])) with
          | none =>
              exact ⟨client.connection, .inl rfl, by
                simp [conclude, enterSession, concluded, verdict, ok, welcomed, setStage]⟩
          | some welcome =>
              exact ⟨_, .inr ⟨generation, welcome, rfl⟩, by
                simp [conclude, enterSession, concluded, verdict, ok, welcomed, setStage]⟩
      | _ =>
          exact ⟨client.connection, .inl rfl, by
            simp [conclude, enterSession, concluded, verdict, ok, setStage]⟩
  | false =>
      exact ⟨client.connection, .inl rfl, by
        simp [conclude, concluded, verdict, ok, fail, elapsedSince, setStage]⟩

theorem dissolve_of_isAlive (alive : client.isAlive = true) : client.dissolve = client := by
  simp [dissolve, alive]

/-- Nothing is left to do at the end of a client without a link, a channel, observers and a
ticker. -/
theorem dissolve_eq_self {client : Client} (task : client.connection.task = none)
    (outbound : client.connection.outbound = none)
    (closed : client.observers.close = client.observers) (ticker : client.ticker = none) :
    client.dissolve = client := by
  have unassigned : { client.connection with task := none } = client.connection := by rw [← task]
  have uninstalled : client.connection.uninstall = client.connection := by
    simp [Connection.uninstall, outbound]
  have unticked : { client with ticker := none } = client := by rw [← ticker]
  unfold dissolve
  split
  · rfl
  · simp only [Connection.unassign, task, unassigned, uninstalled, closed]
    exact unticked

@[simp] theorem dissolve_dissolve : client.dissolve.dissolve = client.dissolve := by
  obtain same | ⟨links, -, ended⟩ := client.dissolve_cases
  · rw [same, same]
  · rw [ended]
    refine dissolve_eq_self ?_ (Connection.outbound_uninstall _) rfl rfl
    unfold Connection.uninstall
    split <;> rfl

theorem isAlive_dissolve : client.dissolve.isAlive = client.isAlive := by
  obtain same | ⟨links, -, ended⟩ := client.dissolve_cases
  · rw [same]
  · rw [ended]
    rfl

end Frame

/-! ## A call that begins -/

/-- What a call that is refused records. -/
inductive Refusal (client : Client) (method : String) :
    ClientError → CallStatus → Option UInt64 → Severity → Prop where
  | skipped (apart : client.connection.current.status ≠ .connected) :
      Refusal client method (.notConnected method) .skipped none .error
  | debounced (remaining : Int64) (open_ : client.connection.current.status = .connected) :
      Refusal client method (.rateLimited method remaining) .debounced (some 0) .warn

/-- What becomes of a call that is given an id. -/
inductive Issued (client : Client) (number : Nat) (call : Call) : Client → Prop where
  | duplicate (awaited : client.inFlight.awaits (client.issued + 1).repr = true) :
      Issued client number call
        ({ client with issued := client.issued + 1 }.setStage number
          (.returned (.error (.duplicateId (client.issued + 1).repr))))
  | sent (free : client.inFlight.awaits (client.issued + 1).repr = false)
      (connection : Connection)
      (sends : client.connection.send (Outgoing.request
        ⟨(client.issued + 1).repr, call.method, call.params⟩).text = (.ok (), connection)) :
      Issued client number call
        ({ client with
            connection
            issued := client.issued + 1
            inFlight := (client.inFlight.enter (client.issued + 1).repr call.method).2
            logbook := (client.logbook.attempt client.clock.wall (some (client.issued + 1).repr)
              call.method .sent none).2 }.setStage number
          (.waiting (client.issued + 1).repr client.inFlight.cells.length client.clock.uptime))
  | unsent (free : client.inFlight.awaits (client.issued + 1).repr = false)
      (cause : TransportError)
      (fails : (client.connection.send (Outgoing.request
        ⟨(client.issued + 1).repr, call.method, call.params⟩).text).1 = .error cause) :
      Issued client number call
        ({ client with
            issued := client.issued + 1
            inFlight := ((client.inFlight.enter (client.issued + 1).repr call.method).2.withdraw
              (client.issued + 1).repr).2
            logbook := (client.logbook.attempt client.clock.wall (some (client.issued + 1).repr)
              call.method .sent none).2 }.fail number (client.issued + 1).repr call.method
          client.clock.uptime (ClientError.transport cause).message (.transport cause))

theorem register_of_awaits {client : Client} {id : String}
    (awaited : client.inFlight.awaits id = true) (method : String) :
    client.register id method = (.error (.duplicateId id), client) := by
  simp [register, InFlight.enter, awaited]

theorem register_of_free {client : Client} {id : String}
    (free : client.inFlight.awaits id = false) (method : String) :
    client.register id method =
      (.ok client.inFlight.cells.length,
        { client with inFlight := (client.inFlight.enter id method).2 }) := by
  simp [register, InFlight.enter, free]

theorem transmit_cases (client : Client) (request : Request) :
    (∃ connection,
        client.connection.send (Outgoing.request request).text = (.ok (), connection) ∧
        client.transmit request = (.ok (), { client with connection })) ∨
      ∃ cause, (client.connection.send (Outgoing.request request).text).1 = .error cause ∧
        client.transmit request = (.error cause, client) := by
  cases sends : client.connection.send (Outgoing.request request).text with
  | mk result connection =>
      cases result with
      | ok value => exact .inl ⟨connection, rfl, by simp [transmit, sends]⟩
      | error cause =>
          refine .inr ⟨cause, rfl, ?_⟩
          obtain rfl := Connection.send_error sends
          simp [transmit, sends]

theorem issue_cases (client : Client) (number : Nat) (call : Call) :
    Issued client number call (client.issue number call.method call.params) := by
  rw [issue, takeId]
  dsimp only
  cases awaited : client.inFlight.awaits (client.issued + 1).repr with
  | true =>
      rw [@register_of_awaits { client with issued := client.issued + 1 } _ awaited]
      exact .duplicate awaited
  | false =>
      rw [@register_of_free { client with issued := client.issued + 1 } _ awaited]
      dsimp only
      rw [sendRequest]
      obtain ⟨connection, sends, transmitted⟩ | ⟨cause, fails, transmitted⟩ :=
        transmit_cases
          (recordSent
            { client with
              issued := client.issued + 1
              inFlight := (client.inFlight.enter (client.issued + 1).repr call.method).2 }
            (client.issued + 1).repr call.method)
          ⟨(client.issued + 1).repr, call.method, call.params⟩
      · rw [transmitted]
        exact .sent awaited connection sends
      · rw [transmitted]
        exact .unsent awaited cause fails

/-- What becomes of a call that begins. -/
inductive Began (client : Client) (number : Nat) (call : Call) : Client → Prop where
  | lapsed (generation : Nat) (caller : call.caller = .handshake generation)
      (late : client.connection.stands generation = false) :
      Began client number call (client.setStage number .lapsed)
  | overflowed (overflow : client.pacing.timeLeft? call.method client.now client.minGap = none) :
      Began client number call (client.setStage number .overflowed)
  | refused (cause : ClientError) (status : CallStatus) (duration : Option UInt64)
      (text : String) (severity : Severity)
      (refusal : Refusal client call.method cause status duration severity) :
      Began client number call
        (client.refuse number cause call.method status duration text severity)
  | issued (pacing : Pacing) (after : Client)
      (issued : Issued { client with pacing } number call after) : Began client number call after

theorem attempt_cases (client : Client) (number : Nat) (call : Call) :
    Began client number call (client.attempt number call.method call.params) := by
  unfold attempt
  by_cases apart : client.connection.current.status ≠ .connected
  · rw [if_pos apart]
    exact .refused _ _ _ _ _ (.skipped apart)
  · rw [if_neg apart]
    have open_ : client.connection.current.status = .connected := by simpa using apart
    cases attempted : client.pacing.attempt call.method client.now client.minGap with
    | mk admitted pacing =>
        cases admitted with
        | true => exact .issued pacing _ (issue_cases { client with pacing } number call)
        | false =>
            dsimp only
            cases overflow : client.pacing.timeLeft? call.method client.now client.minGap with
            | none => exact .overflowed overflow
            | some remaining => exact .refused _ _ _ _ _ (.debounced remaining open_)

theorem handshake_cases (client : Client) (number generation : Nat) (call : Call)
    (caller : call.caller = .handshake generation) :
    Began client number call (client.handshake number generation call.method call.params) := by
  unfold handshake
  split
  · exact .issued client.pacing _ (issue_cases client number call)
  · rename_i late
    exact .lapsed generation caller (by simpa using late)

/-- A call begins just if it is ready. -/
theorem start_cases (client : Client) (number : Nat) :
    (∃ call, client.calls[number]? = some call ∧ call.stage = .ready ∧
        Began client number call (client.start number)) ∨
      ((∀ call, client.calls[number]? = some call → call.stage ≠ .ready) ∧
        client.start number = client) := by
  cases found : client.calls[number]? with
  | none => exact .inr ⟨by simp, by simp [start, found]⟩
  | some call =>
      obtain ⟨caller, method, params, stage⟩ := call
      cases stage with
      | ready =>
          refine .inl ⟨_, rfl, rfl, ?_⟩
          cases caller with
          | handshake generation =>
              simpa [start, found] using
                handshake_cases client number generation
                  ⟨.handshake generation, method, params, .ready⟩ rfl
          | holder =>
              simpa [start, found] using
                attempt_cases client number ⟨.holder, method, params, .ready⟩
          | ticker =>
              simpa [start, found] using
                attempt_cases client number ⟨.ticker, method, params, .ready⟩
      | _ => exact .inr ⟨by simp, by simp [start, found]⟩

/-! ## A call that goes on -/

/-- What becomes of a call that waits and is woken. -/
inductive Woke (client : Client) (number : Nat) (call : Call) (id : String) (handle : Handle)
    (since : Nat) : Client → Prop where
  | concluded (response : Response)
      (seen : client.inFlight.cells[handle]? = some (.answered response))
      (connection : Connection)
      (welcomed : connection = client.connection ∨
        ∃ generation welcome, connection = (client.connection.welcome generation welcome).2) :
      Woke client number call id handle since
        ({ client with
            connection
            inFlight := { client.inFlight with cells := client.inFlight.cells.set handle .closed }
            logbook := client.concluded id call.method since response }.setStage number
          (.returned (verdict call.method response)))
  | abandoned (seen : client.inFlight.cells[handle]? = some .closed) :
      Woke client number call id handle since
        (client.fail number id call.method since abandonedText (.abandoned id call.method))
  | unchanged (seen : ∀ cell, client.inFlight.cells[handle]? = some cell →
        cell = .waiting ∨ cell = .released) :
      Woke client number call id handle since client

/-- A call goes on just if it waits. -/
theorem wake_cases (client : Client) (number : Nat) :
    (∃ call id handle since, client.calls[number]? = some call ∧
        call.stage = .waiting id handle since ∧
        Woke client number call id handle since (client.wake number)) ∨
      ((∀ call id handle since, client.calls[number]? = some call →
          call.stage ≠ .waiting id handle since) ∧
        client.wake number = client) := by
  cases found : client.calls[number]? with
  | none => exact .inr ⟨by simp, by simp [wake, found]⟩
  | some call =>
      obtain ⟨caller, method, params, stage⟩ := call
      cases stage with
      | waiting id handle since =>
          refine .inl ⟨_, id, handle, since, rfl, rfl, ?_⟩
          have stays (seen : client.inFlight.glance? handle = none ∨
              client.inFlight.glance? handle = some .waiting) : client.wake number = client := by
            rcases seen with seen | seen <;> simp [wake, found, InFlight.poll, seen]
          cases seen : client.inFlight.cells[handle]? with
          | none =>
              rw [stays (.inl (by simp [InFlight.glance?, seen]))]
              exact .unchanged (by simp [seen])
          | some cell =>
              cases cell with
              | waiting =>
                  rw [stays (.inr (by simp [InFlight.glance?, seen]))]
                  exact .unchanged (by simp [seen])
              | released =>
                  rw [stays (.inl (by simp [InFlight.glance?, seen]))]
                  exact .unchanged (by simp [seen])
              | answered response =>
                  obtain ⟨connection, welcomed, concluded⟩ := conclude_eq
                    { client with
                      inFlight := { client.inFlight with
                        cells := client.inFlight.cells.set handle .closed } }
                    number caller id method since response
                  have woken : client.wake number =
                      { client with
                        inFlight := { client.inFlight with
                          cells := client.inFlight.cells.set handle .closed } }.conclude number
                        caller id method since response := by
                    simp [wake, found, InFlight.poll, InFlight.glance?, seen]
                  rw [woken, concluded]
                  exact .concluded response seen connection welcomed
              | closed =>
                  simpa [wake, found, InFlight.poll, InFlight.glance?, seen] using
                    @Woke.abandoned client number ⟨caller, method, params, .waiting id handle since⟩
                      id handle since seen
      | _ => exact .inr ⟨by rintro _ _ _ _ ⟨⟩ ⟨⟩, by simp [wake, found]⟩

/-! ## Links, teardowns and the ticker -/

/-- The text that an action hands to a client. -/
def heard? (client : Client) : Action → Option String
  | .inbound text => if client.isHeld then some text else none
  | .received link item =>
    if client.isAlive then
      match client.links[link]? with
      | some ⟨_, _, .receiving _⟩ =>
        match item.elim (some .finished) StreamItem.reading? with
        | some (.text text) => some text
        | _ => none
      | _ => none
    else none
  | _ => none

/-- The response that is written in a text. -/
def responseOf? (text : String) : Option Response :=
  match Incoming.parse text with
  | .ok (.response response) => some response
  | _ => none

/-- The response that an action hands to a client. -/
def response? (client : Client) (action : Action) : Option Response :=
  (client.heard? action).bind responseOf?

/-- Whether what a link receives ends the current generation. -/
def endsGeneration (client : Client) (link : Nat) (item : Option StreamItem) : Bool :=
  match client.links[link]? with
  | some ⟨generation, _, .receiving _⟩ =>
    client.connection.stands generation &&
      ((item.elim (some .finished) StreamItem.reading?).bind endReason?).isSome
  | _ => false

section Outcomes

variable (client : Client) (number : Nat)

theorem addCalls_nil : client.addCalls [] = client := by
  simp [addCalls]

theorem inbound_cases (text : String) :
    (∃ response, responseOf? text = some response ∧
      client.inbound text =
        { client with inFlight := (client.inFlight.answer response.id response).2 }) ∨
    (responseOf? text = none ∧ ∃ event : Event,
      client.inbound text =
        { client with
          logbook := event.record client.logbook
          observers := client.observers.publish (event.observed client.clock.wall) }) ∨
    (responseOf? text = none ∧ client.inbound text = client) := by
  unfold inbound responseOf?
  cases Incoming.parse text with
  | error cause => exact .inr (.inr ⟨rfl, rfl⟩)
  | ok frame =>
      cases frame with
      | response response => exact .inl ⟨response, rfl, rfl⟩
      | event event => exact .inr (.inl ⟨rfl, event, rfl⟩)

theorem generationRefused_cases (generation : Nat) (cause : TransportError) :
    (client.connection.stands generation = true ∧
      client.generationRefused generation cause =
        { client with
          connection := (client.connection.lose generation).2
          logbook := client.logbook.post "connection failed" cause.message .error }) ∨
    (client.connection.stands generation = false ∧
      client.generationRefused generation cause = client) := by
  cases stands : client.connection.stands generation with
  | true => exact .inl ⟨rfl, by simp [generationRefused, Connection.lose, stands]⟩
  | false => exact .inr ⟨rfl, by simp [generationRefused, Connection.lose, stands]⟩

theorem generationLost_cases (generation : Nat) (reason : String) :
    (client.connection.stands generation = true ∧
      client.generationLost generation reason =
        { client with
          connection := (client.connection.lose generation).2
          logbook := client.logbook.post "connection closed" reason .warn
          inFlight := client.inFlight.abandonAll.2 }) ∨
    (client.connection.stands generation = false ∧
      client.generationLost generation reason = client) := by
  cases stands : client.connection.stands generation with
  | true => exact .inl ⟨rfl, by simp [generationLost, Connection.lose, stands]⟩
  | false => exact .inr ⟨rfl, by simp [generationLost, Connection.lose, stands]⟩

/-- A link that connects opens its generation, or it has come too late. -/
theorem linkOpened_cases :
    (∃ generation url, client.links[number]? = some ⟨generation, url, .connecting⟩ ∧
      client.connection.stands generation = true ∧
      client.linkOpened number =
        ({ client with connection := (client.connection.establish generation).2.2 }.setLink number
          (.receiving client.connection.channels.length)).addCalls
            [client.handshakeCall generation]) ∨
    (∃ generation url, client.links[number]? = some ⟨generation, url, .connecting⟩ ∧
      client.connection.stands generation = false ∧
      client.linkOpened number =
        { client with
          connection :=
            (client.connection.withRefusedChannel.hangUp
              client.connection.channels.length).2 }.setLink number .ended) ∨
    ((∀ generation url, client.links[number]? ≠ some ⟨generation, url, .connecting⟩) ∧
      client.linkOpened number = client) := by
  unfold linkOpened
  split
  · rename_i generation url found
    cases stands : client.connection.stands generation with
    | true =>
        exact .inl ⟨generation, url, found, stands, by simp [Connection.establish, stands]⟩
    | false =>
        refine .inr (.inl ⟨generation, url, found, stands, ?_⟩)
        rw [Connection.establish_of_not_stands stands]
  · rename_i apart
    exact .inr (.inr ⟨apart, rfl⟩)

theorem linkFailed_cases (cause : TransportError) :
    (∃ generation url, client.links[number]? = some ⟨generation, url, .connecting⟩ ∧
      client.linkFailed number cause =
        (client.setLink number .ended).generationRefused generation cause) ∨
    ((∀ generation url, client.links[number]? ≠ some ⟨generation, url, .connecting⟩) ∧
      client.linkFailed number cause = client) := by
  unfold linkFailed
  split
  · rename_i generation url found
    exact .inl ⟨generation, url, found, rfl⟩
  · rename_i apart
    exact .inr ⟨apart, rfl⟩

/-- A link that receives hands over a text, or it ends, or it passes over what has come. -/
theorem received_cases (item : Option StreamItem) :
    (∃ text, (client.isAlive = true → client.heard? (.received number item) = some text) ∧
      client.endsGeneration number item = false ∧
      client.received number item = client.inbound text) ∨
    (client.heard? (.received number item) = none ∧
      ∃ generation url channel reason,
        client.links[number]? = some ⟨generation, url, .receiving channel⟩ ∧
        client.endsGeneration number item = client.connection.stands generation ∧
        client.received number item =
          (client.setLink number .ended).generationLost generation reason) ∨
    (client.heard? (.received number item) = none ∧
      client.endsGeneration number item = false ∧ client.received number item = client) := by
  dsimp only [received, heard?, endsGeneration]
  cases found : client.links[number]? with
  | none => exact .inr (.inr ⟨by simp, rfl, rfl⟩)
  | some link =>
      obtain ⟨generation, url, stage⟩ := link
      cases stage with
      | connecting | ended => exact .inr (.inr ⟨by simp, rfl, rfl⟩)
      | receiving channel =>
          dsimp only
          cases item.elim (some .finished) StreamItem.reading? with
          | none => exact .inr (.inr ⟨by simp, by simp, rfl⟩)
          | some reading =>
              cases reading with
              | text text => exact .inl ⟨text, fun alive => by simp [alive], by simp [endReason?], rfl⟩
              | finished =>
                  exact .inr (.inl ⟨by simp, generation, url, channel, _, rfl, by simp [endReason?],
                    rfl⟩)
              | failure cause =>
                  dsimp only [Option.bind_some]
                  cases endReason? (.failure cause) with
                  | none => exact .inr (.inr ⟨by simp, by simp, rfl⟩)
                  | some reason =>
                      exact .inr (.inl ⟨by simp, generation, url, channel, reason, rfl, by simp,
                        rfl⟩)

theorem runLink_cases :
    (client.connection.task = none ∧
      client.runLink number =
        { client with connection := (client.connection.assign number).2 }) ∨
    ∃ other, client.connection.task = some other ∧
      client.runLink number =
        { client with connection := (client.connection.assign number).2 }.setLink other .ended := by
  cases task : client.connection.task with
  | none => exact .inl ⟨rfl, by simp [runLink, Connection.assign, task]⟩
  | some other => exact .inr ⟨other, rfl, by simp [runLink, Connection.assign, task]⟩

/-- A teardown is carried out unless a link runs that has to end first. -/
theorem tearDown_cases (purpose : Purpose) :
    (client.connection.task.any client.linkRuns = false ∧
      client.tearDown purpose =
        { client with connection := client.connection.unassign.2 }.carryOut purpose) ∨
    ∃ link, client.connection.task = some link ∧ client.linkRuns link = true ∧
      client.tearDown purpose =
        { { client with connection := client.connection.unassign.2 }.setLink link .ended with
          teardowns := client.teardowns ++ [purpose] } := by
  cases task : client.connection.task with
  | none => exact .inl ⟨rfl, by simp [tearDown, Connection.unassign, task]⟩
  | some link =>
      have same_runs (connection : Connection) :
          ({ client with connection } : Client).linkRuns link = client.linkRuns link := rfl
      cases runs : client.linkRuns link with
      | true =>
          exact .inr ⟨link, rfl, runs, by
            simp [tearDown, Connection.unassign, task, same_runs, runs]⟩
      | false =>
          exact .inl ⟨by simp [runs], by
            simp [tearDown, Connection.unassign, task, same_runs, runs]⟩

theorem resume_cases :
    (client.teardowns[number]? = none ∧ client.resume number = client) ∨
    ∃ purpose, client.teardowns[number]? = some purpose ∧
      client.resume number =
        { client with teardowns := client.teardowns.eraseIdx number }.carryOut purpose := by
  unfold resume
  cases client.teardowns[number]? with
  | none => exact .inl ⟨rfl, rfl⟩
  | some purpose => exact .inr ⟨purpose, rfl, rfl⟩

/-- A ticker moves its next round and makes calls of its own. -/
theorem tick_eq :
    ∃ ticker calls, client.tick = { client with ticker }.addCalls calls ∧
      (client.ticker = none → ticker = none) ∧
      ∀ call ∈ calls, call.caller = .ticker ∧ call.stage = .ready := by
  unfold tick
  split
  · exact ⟨client.ticker, [], client.addCalls_nil.symm, id, by simp⟩
  · rename_i ticker there
    split
    · refine ⟨_, [], (addCalls_nil _).symm, by simp [there], by simp⟩
    · dsimp only
      split
      · refine ⟨_, ticker.round, rfl, by simp [there], fun call member => ?_⟩
        obtain ⟨repeated, -, rfl⟩ := List.mem_map.mp member
        exact ⟨rfl, rfl⟩
      · exact ⟨client.ticker, [], client.addCalls_nil.symm, id, by simp⟩

end Outcomes

end Client

end GatewayLink
