import Mathlib.Data.List.Induction
import GatewayLink.Proofs.Client.Linking
import GatewayLink.Proofs.Connection.Publication

/-!
# What a step of a client publishes

A step publishes nothing, or it carries out what was asked of the client, takes in that the link of
the current generation has connected or is gone, or enters the session that the handshake of the
current generation was granted.  Every other report is late and is not published.
-/

namespace GatewayLink

theorem InFlight.seen_of_poll {inFlight after : InFlight} {handle : Handle} {response : Response}
    (polled : inFlight.poll handle = (some (.response response), after)) :
    inFlight.cells[handle]? = some (.answered response) := by
  cases seen : inFlight.cells[handle]? with
  | none => simp [poll, glance?, seen] at polled
  | some cell => cases cell <;> simp_all [poll, glance?]

namespace Connection

/-- What a connection shows: the snapshots that it has published, latest first, and its
generation. -/
def face (connection : Connection) : List Snapshot × Nat :=
  (connection.published, connection.generation)

section Face

variable (connection : Connection) {channel generation : Nat}

@[simp] theorem face_uninstall : connection.uninstall.face = connection.face := by
  simp [face]

theorem face_send {sent : Connection} {text : String}
    (sends : connection.send text = (.ok (), sent)) : sent.face = connection.face := by
  obtain ⟨channel, state, -, -, -, sent⟩ | ⟨cause, sent, -⟩ := connection.send_cases text
  · obtain ⟨-, rfl⟩ := Prod.mk.inj (sends.symm.trans sent)
    rfl
  · cases sends.symm.trans sent

@[simp] theorem face_hangUp : (connection.hangUp channel).2.face = connection.face := by
  obtain ⟨state, -, -, hung_up⟩ | ⟨-, hung_up⟩ := connection.hangUp_cases channel
  · rw [hung_up]
    rfl
  · rw [hung_up]

@[simp] theorem face_receive : (connection.receive channel).2.face = connection.face := by
  obtain ⟨state, -, -, received⟩ | ⟨-, received⟩ := connection.receive_cases channel
  · rw [received]
    rfl
  · rw [received]

/-- The snapshot of a generation that has been opened. -/
def opened : Snapshot :=
  { connection.current with status := .connected }

/-- The snapshot of a generation that has been closed or could not be opened. -/
def parted : Snapshot :=
  { connection.current.withoutSession with status := .disconnected }

/-- The snapshot of a generation that was granted a session. -/
def greeted (welcome : Welcome) : Snapshot :=
  { connection.current with version := some welcome.version, session := some welcome.session }

/-- The snapshot after the current generation was ended. -/
def ended : Snapshot :=
  { connection.parted with generation := connection.generation + 1 }

theorem face_establish (stands : connection.stands generation = true) :
    (connection.establish generation).2.2.face =
      (connection.opened :: connection.published, connection.generation) := by
  simp [establish, stands, face, opened, published, publish]

theorem face_lose (stands : connection.stands generation = true) :
    (connection.lose generation).2.face =
      (connection.parted :: connection.published, connection.generation) := by
  simp [lose, stands, face, parted, published, publish]

theorem face_welcome (stands : connection.stands generation = true) (welcome : Welcome) :
    (connection.welcome generation welcome).2.face =
      (connection.greeted welcome :: connection.published, connection.generation) := by
  simp [Connection.welcome, stands, face, greeted, published, publish]

@[simp] theorem face_supersede :
    connection.supersede.face =
      (connection.ended :: connection.published, connection.generation + 1) := by
  simp [supersede, face, ended, parted, published, publish]

@[simp] theorem face_dial (url : String) :
    (connection.dial url).2.face =
      (⟨some url, .connecting, none, none, connection.generation + 1⟩ :: connection.published,
        connection.generation + 1) := by
  simp [dial, face, published, publish]

/-- The snapshot of a new generation that is opened in place of the one that was ended. -/
def reopened (url : String) : Snapshot :=
  ⟨some url, .connecting, none, none, connection.generation + 2⟩

/-- What is shown after the current generation was ended, and a new one was opened in its place if
that is the purpose. -/
def faceAfter : Purpose → List Snapshot × Nat
  | .close => (connection.ended :: connection.published, connection.generation + 1)
  | .reopen url =>
    (connection.reopened url :: connection.ended :: connection.published,
      connection.generation + 2)

end Face

end Connection

namespace Client

/-- The session that the answer to a handshake opens, and the generation that it is for. -/
def opening? (caller : Caller) (response : Response) : Option (Nat × Welcome) :=
  match caller with
  | .handshake generation =>
    if response.ok then (response.payload.bind Welcome.ofPayload?).map fun welcome =>
      (generation, welcome)
    else none
  | _ => none

theorem opening?_eq_some_iff {caller : Caller} {response : Response} {generation : Nat}
    {welcome : Welcome} :
    opening? caller response = some (generation, welcome) ↔
      caller = .handshake generation ∧ response.ok = true ∧
        response.payload.bind Welcome.ofPayload? = some welcome := by
  cases caller with
  | handshake own =>
      cases ok : response.ok with
      | false => simp [opening?, ok]
      | true =>
          cases welcomed : response.payload.bind Welcome.ofPayload? <;>
            simp [opening?, ok, welcomed]
  | _ => simp [opening?]

/-- What an action asks to be carried out at once or as soon as a link has ended. -/
def purpose? (client : Client) : Action → Option Purpose
  | .connect url => some (.reopen url)
  | .close => some .close
  | .resume teardown => client.teardowns[teardown]?
  | _ => none

/-- A call waits whose answer has come. -/
structure Answered (client : Client) (number : Nat) (call : Call) (id : String) (handle : Handle)
    (response : Response) : Prop where
  found : client.calls[number]? = some call
  waiting : ∃ since, call.stage = .waiting id handle since
  answered : client.inFlight.cells[handle]? = some (.answered response)

/-- What a step publishes, and what the generation is then. -/
inductive Announced (client : Client) (action : Action) : List Snapshot × Nat → Prop where
  | silent : Announced client action client.connection.face
  | carriedOut (purpose : Purpose) (asked : client.purpose? action = some purpose) :
      Announced client action (client.connection.faceAfter purpose)
  | opened (link : Nat) (url : String) (reported : action = .linkOpened link)
      (found : client.links[link]? = some ⟨client.connection.generation, url, .connecting⟩) :
      Announced client action
        (client.connection.opened :: client.connection.published, client.connection.generation)
  | parted (link : Link) (member : link ∈ client.links)
      (current : link.generation = client.connection.generation) :
      Announced client action
        (client.connection.parted :: client.connection.published, client.connection.generation)
  | greeted (number : Nat) (call : Call) (id : String) (handle : Handle) (response : Response)
      (welcome : Welcome) (is_wake : action = .wake number)
      (answered : client.Answered number call id handle response)
      (opens : opening? call.caller response = some (client.connection.generation, welcome)) :
      Announced client action
        (client.connection.greeted welcome :: client.connection.published,
          client.connection.generation)

section Operations

variable (client : Client) (number : Nat)

@[simp] theorem face_dissolve : client.dissolve.connection.face = client.connection.face := by
  obtain same | ⟨links, -, same⟩ := client.dissolve_cases
  · rw [same]
  · rw [same]
    exact Connection.face_uninstall _

@[simp] theorem current_dissolve :
    client.dissolve.connection.current = client.connection.current :=
  (List.cons.inj (congrArg Prod.fst client.face_dissolve)).1

/-! ## Calls -/

/-- A call that begins publishes nothing. -/
theorem face_start : (client.start number).connection.face = client.connection.face := by
  obtain ⟨call, -, -, began⟩ | ⟨-, unchanged⟩ := client.start_cases number
  · generalize client.start number = after at began
    cases began with
    | issued pacing after issued =>
        cases issued with
        | sent free connection sends => exact client.connection.face_send sends
        | _ => rfl
    | _ => rfl
  · rw [unchanged]

/-- An answer enters the session that it opens, and nothing else of a connection is touched. -/
theorem connection_conclude (caller : Caller) (id method : String) (since : Nat)
    (response : Response) :
    (client.conclude number caller id method since response).connection =
      match opening? caller response with
      | some (generation, welcome) => (client.connection.welcome generation welcome).2
      | none => client.connection := by
  have unnamed : Welcome.ofPayload? (.object []) = none := rfl
  cases ok : response.ok with
  | false => cases caller <;> simp [conclude, opening?, ok, fail]
  | true =>
      cases caller with
      | handshake generation =>
          cases given : response.payload with
          | none => simp [conclude, enterSession, opening?, ok, given, unnamed]
          | some payload =>
              cases welcomed : Welcome.ofPayload? payload <;>
                simp [conclude, enterSession, opening?, ok, given, welcomed]
      | _ => simp [conclude, enterSession, opening?, ok]

/-- A call that goes on enters the session that its answer opens; nothing else of the connection is
touched. -/
theorem connection_wake :
    (client.wake number).connection = client.connection ∨
      ∃ call id handle response generation welcome,
        client.Answered number call id handle response ∧
        opening? call.caller response = some (generation, welcome) ∧
        (client.wake number).connection = (client.connection.welcome generation welcome).2 := by
  unfold wake
  split
  · rename_i caller method params id handle since found
    split
    · rename_i response inFlight polled
      have seen := InFlight.seen_of_poll polled
      have concluded := connection_conclude { client with inFlight } number caller id method since
        response
      cases opens : opening? caller response with
      | none => exact .inl (by rw [concluded, opens])
      | some opening =>
          obtain ⟨generation, welcome⟩ := opening
          exact .inr ⟨_, id, handle, response, generation, welcome, ⟨found, ⟨since, rfl⟩, seen⟩,
            opens, by rw [concluded, opens]⟩
    · exact .inl rfl
    · exact .inl rfl
  · exact .inl rfl

/-- Only the handshake of the current generation enters its session. -/
theorem announced_wake : Announced client (.wake number) (client.wake number).connection.face := by
  obtain same | ⟨call, id, handle, response, generation, welcome, answered, opens, welcomed⟩ :=
    client.connection_wake number
  · rw [same]
    exact .silent
  · rw [welcomed]
    cases stands : client.connection.stands generation with
    | true =>
        obtain rfl := (client.connection.stands_iff generation).mp stands
        rw [client.connection.face_welcome stands]
        exact .greeted number call id handle response welcome rfl answered opens
    | false =>
        rw [Connection.welcome_of_not_stands stands]
        exact .silent

/-! ## Links -/

@[simp] theorem connection_inbound (text : String) :
    (client.inbound text).connection = client.connection := by
  obtain ⟨response, -, taken⟩ | ⟨-, event, taken⟩ | ⟨-, taken⟩ := client.inbound_cases text <;>
    rw [taken]

theorem announced_lose (action : Action) {link : Link}
    (found : client.links[number]? = some link) :
    Announced client action (client.connection.lose link.generation).2.face := by
  cases stands : client.connection.stands link.generation with
  | true =>
      rw [client.connection.face_lose stands]
      exact .parted link (List.mem_of_getElem? found)
        ((client.connection.stands_iff link.generation).mp stands)
  | false =>
      rw [Connection.lose_of_not_stands stands]
      exact .silent

theorem connection_generationRefused (generation : Nat) (cause : TransportError) :
    (client.generationRefused generation cause).connection =
      (client.connection.lose generation).2 := by
  obtain ⟨-, lost⟩ | ⟨late, lost⟩ := client.generationRefused_cases generation cause
  · rw [lost]
  · rw [lost, Connection.lose_of_not_stands late]

theorem connection_generationLost (generation : Nat) (reason : String) :
    (client.generationLost generation reason).connection =
      (client.connection.lose generation).2 := by
  obtain ⟨-, lost⟩ | ⟨late, lost⟩ := client.generationLost_cases generation reason
  · rw [lost]
  · rw [lost, Connection.lose_of_not_stands late]

theorem announced_linkOpened :
    Announced client (.linkOpened number) (client.linkOpened number).connection.face := by
  obtain ⟨generation, url, found, stands, opened⟩ | ⟨generation, url, -, -, opened⟩ |
    ⟨-, opened⟩ := client.linkOpened_cases number
  · have shown := client.connection.face_establish stands
    obtain rfl := (client.connection.stands_iff generation).mp stands
    rw [opened, addCalls, connection_setLink, shown]
    exact .opened number url rfl found
  · rw [opened, connection_setLink, Connection.face_hangUp]
    exact .silent
  · rw [opened]
    exact .silent

theorem announced_linkFailed (cause : TransportError) :
    Announced client (.linkFailed number cause)
      (client.linkFailed number cause).connection.face := by
  obtain ⟨generation, url, found, failed⟩ | ⟨-, failed⟩ := client.linkFailed_cases number cause
  · rw [failed, connection_generationRefused]
    exact client.announced_lose number _ found
  · rw [failed]
    exact .silent

theorem announced_received (item : Option StreamItem) :
    Announced client (.received number item) (client.received number item).connection.face := by
  obtain ⟨text, -, -, received⟩ | ⟨-, generation, url, channel, reason, found, -, received⟩ |
    ⟨-, -, received⟩ := client.received_cases number item
  · rw [received, connection_inbound]
    exact .silent
  · rw [received, connection_generationLost]
    exact client.announced_lose number _ found
  · rw [received]
    exact .silent

@[simp] theorem face_runLink : (client.runLink number).connection.face = client.connection.face := by
  obtain ⟨-, ran⟩ | ⟨other, -, ran⟩ := client.runLink_cases number <;> rw [ran] <;> rfl

theorem face_carryOut (purpose : Purpose) :
    (client.carryOut purpose).connection.face = client.connection.faceAfter purpose := by
  cases purpose with
  | close => exact client.connection.face_supersede
  | reopen url =>
      have ended : client.connection.supersede.published =
          client.connection.ended :: client.connection.published :=
        congrArg Prod.fst client.connection.face_supersede
      simp [carryOut, endGeneration, Connection.faceAfter, Connection.reopened, ended]

theorem face_tearDown (purpose : Purpose) :
    (client.tearDown purpose).connection.face = client.connection.face ∨
      (client.tearDown purpose).connection.face = client.connection.faceAfter purpose := by
  obtain ⟨-, torn⟩ | ⟨link, -, -, torn⟩ := client.tearDown_cases purpose
  · rw [torn]
    exact .inr (face_carryOut _ purpose)
  · rw [torn]
    exact .inl rfl

/-! ## Steps -/

theorem announced_tearDown {outer : Client} {action : Action} {purpose : Purpose}
    (connection : outer.connection = client.connection)
    (asked : client.purpose? action = some purpose) :
    Announced client action (outer.tearDown purpose).connection.face := by
  rcases outer.face_tearDown purpose with same | carried
  · rw [same, connection]
    exact .silent
  · rw [carried, connection]
    exact .carriedOut purpose asked

theorem announced_resume :
    Announced client (.resume number) (client.resume number).connection.face := by
  obtain ⟨-, resumed⟩ | ⟨purpose, found, resumed⟩ := client.resume_cases number
  · rw [resumed]
    exact .silent
  · rw [resumed, face_carryOut]
    exact .carriedOut purpose found

theorem connection_tick : client.tick.connection = client.connection := by
  obtain ⟨ticker, calls, ticked, -, -⟩ := client.tick_eq
  rw [ticked]
  rfl

theorem face_applyOutside (action : Action) :
    (client.applyOutside action).2.connection.face = client.connection.face := by
  cases action with
  | pump channel => exact client.connection.face_receive
  | hangUp channel => exact client.connection.face_hangUp
  | observe observer =>
      dsimp only [applyOutside]
      split <;> rfl
  | _ => rfl

theorem announced_applyOutside (action : Action) :
    Announced client action (client.applyOutside action).2.connection.face := by
  rw [face_applyOutside]
  exact .silent

theorem announced_applyTask (action : Action) :
    Announced client action (client.applyTask action).2.connection.face := by
  cases action with
  | start call =>
      simp only [applyTask, face_start]
      exact .silent
  | wake call => exact client.announced_wake call
  | resume teardown => exact client.announced_resume teardown
  | linkOpened link => exact client.announced_linkOpened link
  | linkFailed link cause => exact client.announced_linkFailed link cause
  | received link item => exact client.announced_received link item
  | tick =>
      simp only [applyTask, connection_tick]
      exact .silent
  | _ => exact client.announced_applyOutside _

theorem announced_applyHeld (action : Action) :
    Announced client action (client.applyHeld action).2.connection.face := by
  cases action with
  | connect url => exact client.announced_tearDown rfl rfl
  | close => exact client.announced_tearDown rfl rfl
  | inbound text =>
      simp only [applyHeld, connection_inbound]
      exact .silent
  | startRefresh interval calls =>
      dsimp only [applyHeld, startRefresh]
      split <;> exact .silent
  | call method params => exact .silent
  | setGap gap => exact .silent
  | stopRefresh => exact .silent
  | subscribe => exact .silent
  | watch => exact .silent
  | drop => exact .silent
  | _ => exact client.announced_applyTask _

theorem announced_step (action : Action) :
    Announced client action (client.step action).connection.face := by
  rw [step_eq, face_dissolve]
  split
  · exact client.announced_applyHeld action
  · split
    · exact client.announced_applyTask action
    · exact client.announced_applyOutside action

end Operations

theorem Announced.generation {client : Client} {action : Action} {face : List Snapshot × Nat}
    (announced : Announced client action face)
    (before : client.connection.current.generation = client.connection.generation) :
    face.1.head?.map Snapshot.generation = some face.2 := by
  cases announced with
  | silent => exact congrArg some before
  | carriedOut purpose => cases purpose <;> rfl
  | opened => exact congrArg some before
  | parted => exact congrArg some before
  | greeted => exact congrArg some before

theorem generation_current_run (settings : Settings) (limits : Limits) (wall : Timestamp)
    (actions : List Action) :
    let connection := ((new settings limits wall).run actions).connection
    connection.current.generation = connection.generation := by
  induction actions using List.reverseRecOn with
  | nil => rfl
  | append_singleton front action induction =>
      rw [run_append, run_cons, run_nil]
      have announced := ((new settings limits wall).run front).announced_step action
      exact Option.some.inj (announced.generation induction)

end Client

end GatewayLink
