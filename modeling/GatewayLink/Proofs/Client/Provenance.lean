import GatewayLink.Proofs.Client.Opening
import GatewayLink.Proofs.Client.Publishing

/-!
# Where a session comes from

A call that waits was sent at one moment of the run, and an answer that its handle holds was handed
over at a later one, while the request was pending.  So a session that is shown goes back to one
request, which was sent as the handshake of its generation, and to the one response that granted it.
-/

namespace GatewayLink

namespace Client

/-- A call that is ready is sent when it begins: its request is queued in the installed channel
under the next id, and it waits for the answer. -/
structure Sends (client : Client) (number : Nat) (call : Call) (id : String) (handle : Handle) :
    Prop where
  ready : client.calls[number]? = some call.unbegun
  id_eq : id = (client.issued + 1).repr
  queued : ∃ channel, client.connection.outbound = some channel ∧
    (client.step (.start number)).connection.textsOf channel =
      client.connection.textsOf channel ++
        [(Outgoing.request ⟨id, call.method, call.params⟩).text]
  awaiting : (client.step (.start number)).Awaiting number call id handle
  /-- A handshake is sent only in its own generation. -/
  stands : ∀ generation, call.caller = .handshake generation →
    generation = client.connection.generation

section Step

variable {client : Client} {number : Nat} {call : Call} {id : String} {handle : Handle}
  {response : Response}

/-- A handshake of a generation that is over does not begin to wait. -/
theorem stands_of_start {before after : Call} (found : client.calls[number]? = some before)
    (ready : before.stage = .ready) {generation : Nat}
    (caller : before.caller = .handshake generation)
    (later : (client.start number).calls[number]? = some after)
    (waiting : after.stage.isWaiting = true) : generation = client.connection.generation := by
  refine (client.connection.stands_iff generation).mp ?_
  cases stands : client.connection.stands generation with
  | true => rfl
  | false =>
      obtain ⟨own, method, params, stage⟩ := before
      obtain rfl : own = .handshake generation := caller
      obtain rfl : stage = .ready := ready
      have lapsed : client.start number = client.setStage number .lapsed := by
        simp [start, found, handshake, stands]
      obtain rfl : after = ⟨.handshake generation, method, params, .lapsed⟩ := by
        simpa [lapsed, found, eq_comm] using later
      cases waiting

/-- A call that begins and then waits was sent. -/
theorem sends_of_start {before : Call} (found : client.calls[number]? = some before)
    (ready : before.stage = .ready) (later : (client.start number).calls[number]? = some call)
    {since : Nat} (waiting : call.stage = .waiting id handle since) :
    client.Sends number call id handle := by
  have stands {generation : Nat} (caller : before.caller = .handshake generation) :
      generation = client.connection.generation :=
    stands_of_start found ready caller later (by rw [waiting]; rfl)
  have texts : (client.step (.start number)).connection.textsOf =
      (client.start number).connection.textsOf := by
    rw [step_start, (client.start number).retains_dissolve.texts]
  obtain ⟨same, same_found, -, began⟩ | ⟨never, -⟩ := client.start_cases number
  · obtain rfl : before = same := Option.some.inj (found.symm.trans same_found)
    have moved {stage : CallStage}
        (calls : (client.start number).calls = client.calls.modify number ({ · with stage })) :
        call = { before with stage } := by
      simpa [calls, found, eq_comm] using later
    have still_waits {stage : CallStage}
        (calls : (client.start number).calls = client.calls.modify number ({ · with stage })) :
        stage = .waiting id handle since := by
      obtain rfl := moved calls
      exact waiting
    generalize start_eq : client.start number = after at began texts
    have unsent {stage : CallStage}
        (calls : after.calls = client.calls.modify number ({ · with stage }))
        (settled : stage.isWaiting = false) : client.Sends number call id handle := by
      have same : stage = .waiting id handle since := still_waits (by rw [start_eq]; exact calls)
      rw [same] at settled
      cases settled
    cases began with
    | lapsed => exact unsent rfl rfl
    | overflowed => exact unsent rfl rfl
    | refused => exact unsent rfl rfl
    | issued pacing after issued =>
        cases issued with
        | duplicate => exact unsent rfl rfl
        | unsent => exact unsent rfl rfl
        | sent free connection sends =>
            obtain ⟨channel, installed, -, -, queued⟩ := Connection.textsOf_send sends
            obtain rfl := moved (by rw [start_eq]; rfl)
            obtain ⟨rfl, rfl, rfl⟩ := CallStage.waiting.inj waiting
            refine ⟨?_, rfl, ⟨channel, installed, ?_⟩, ⟨?_, ⟨_, rfl⟩, ?_⟩, fun generation => stands⟩
            · rw [found, Call.unbegun, ← ready]
            · rw [texts, connection_setStage, queued, if_pos rfl]
            · rw [step_start, calls_dissolve, later]
            · rw [step_start, inFlight_dissolve, start_eq]
              simp [InFlight.awaits_enter]
  · exact absurd ready (never before found)

/-- A call that is made has not begun. -/
theorem ready_of_made {action : Action} (unmade : client.calls[number]? = none)
    (found : (client.step action).calls[number]? = some call) : call.stage = .ready := by
  have absent {other : Nat} {stage : CallStage} :
      (client.calls.modify other ({ · with stage }))[number]? ≠ some call := by
    simp [List.getElem?_modify, unmade]
  cases moves : action.movesCall with
  | false =>
      obtain ⟨fresh, ready, calls⟩ := (client.aside_step action moves).calls
      rw [calls, List.getElem?_append_right (List.getElem?_eq_none_iff.mp unmade)] at found
      exact ready call (List.mem_of_getElem? found)
  | true =>
      cases action with
      | start other =>
          rw [step_start, calls_dissolve] at found
          obtain ⟨before, -, -, began⟩ | ⟨-, unchanged⟩ := client.start_cases other
          · generalize client.start other = after at began found
            cases began with
            | issued pacing after issued => cases issued <;> exact absurd found absent
            | _ => exact absurd found absent
          · rw [unchanged, unmade] at found
            cases found
      | wake other =>
          rw [step_wake, calls_dissolve] at found
          obtain ⟨_, _, _, _, -, -, woke⟩ | ⟨-, unchanged⟩ := client.wake_cases other
          · generalize client.wake other = after at woke found
            cases woke with
            | unchanged seen =>
                rw [unmade] at found
                cases found
            | _ => exact absurd found absent
          · rw [unchanged, unmade] at found
            cases found
      | _ => cases moves

/-- A call that waits after it was woken has waited before. -/
theorem waits_before_of_wake (found : (client.wake number).calls[number]? = some call)
    {since : Nat} (waiting : call.stage = .waiting id handle since) :
    client.calls[number]? = some call := by
  obtain ⟨before, _, _, _, before_found, -, woke⟩ | ⟨-, unchanged⟩ := client.wake_cases number
  · have settled {result : Except ClientError Json}
        (same : call = { before with stage := .returned result }) : False := by
      rw [same] at waiting
      cases waiting
    generalize client.wake number = after at woke found
    cases woke with
    | concluded => exact (settled (by simpa [before_found, eq_comm] using found)).elim
    | abandoned => exact (settled (by simpa [fail, before_found, eq_comm] using found)).elim
    | unchanged => exact found
  · exact unchanged ▸ found

/-- A call that waits after a step has waited before, or is sent by the step. -/
theorem waits_before_or_sent {action : Action}
    (found : (client.step action).calls[number]? = some call)
    {since : Nat} (waiting : call.stage = .waiting id handle since) :
    client.calls[number]? = some call ∨
      (action = .start number ∧ client.Sends number call id handle) := by
  by_cases is_start : action = .start number
  · subst is_start
    rw [step_start, calls_dissolve] at found
    obtain ⟨before, before_found, ready, -⟩ | ⟨-, unchanged⟩ := client.start_cases number
    · exact .inr ⟨rfl, sends_of_start before_found ready found waiting⟩
    · exact .inl (unchanged ▸ found)
  · left
    by_cases is_wake : action = .wake number
    · subst is_wake
      rw [step_wake, calls_dissolve] at found
      exact waits_before_of_wake found waiting
    · cases before : client.calls[number]? with
      | none =>
          rw [ready_of_made before found] at waiting
          cases waiting
      | some earlier => rw [← getElem?_step_of_ne before is_start is_wake, found]

/-- An answer that is held after a step was held before, or the step has handed it over while the
request was pending. -/
theorem answered_before_or_handed {action : Action} (correlated : client.IsCorrelated)
    (answered : (client.step action).Answered number call id handle response) :
    client.Answered number call id handle response ∨
      (client.Awaiting number call id handle ∧ client.response? action = some response ∧
        response.id = id) := by
  obtain ⟨found, ⟨since, waiting⟩, held⟩ := answered
  have next := isCorrelated_step correlated action
  have undecided (awaited : (client.step action).inFlight.awaits id = true) : False := by
    have cell := (Awaiting.pending ⟨found, ⟨since, waiting⟩, awaited⟩ next).2
    rw [held] at cell
    cases cell
  -- A call that is woken once its result is decided waits no more.
  have kept (before : client.calls[number]? = some call)
      (gone : client.inFlight.awaits id = false) {cell : Cell} {result : Except ClientError Json}
      (seen : client.inFlight.cells[handle]? = some cell)
      (shown : cellResult? id call.method cell = some result) :
      client.Answered number call id handle response := by
    have waits : Waits client.calls number id handle call.method :=
      ⟨call, since, before, waiting, rfl⟩
    have decided : client.Decided number call id handle result :=
      ⟨⟨correlated.numbered waits, gone⟩, ⟨since, waiting⟩, .inr ⟨before, cell, seen, shown⟩⟩
    have asleep : action ≠ .wake number := by
      rintro rfl
      have same := congrArg Call.stage (Option.some.inj (found.symm.trans decided.wake))
      rw [waiting] at same
      cases same
    rw [Decided.cells_step correlated waits gone asleep] at held
    exact ⟨before, ⟨since, waiting⟩, held⟩
  rcases waits_before_or_sent found waiting with before | ⟨rfl, sent⟩
  · rcases correlated.registered ⟨call, since, before, waiting, rfl⟩ with
      ⟨member, -⟩ | ⟨earlier, -, gone, cell⟩ | ⟨gone, cell⟩
    · have awaiting : client.Awaiting number call id handle :=
        ⟨before, ⟨since, waiting⟩, InFlight.awaits_of_mem member⟩
      cases handed : client.response? action with
      | none =>
          rcases awaiting.step_of_silent correlated handed with awaited | ⟨-, closed⟩
          · exact (undecided awaited).elim
          · rw [held] at closed
            cases closed
      | some given =>
          obtain ⟨hit, miss⟩ := awaiting.step_of_response correlated handed
          by_cases same : given.id = id
          · have cell := (hit same).2
            rw [held, Option.some.injEq, Cell.answered.injEq] at cell
            exact .inr ⟨awaiting, congrArg some cell.symm, cell ▸ same⟩
          · exact (undecided (miss same)).elim
    · exact .inl (kept before gone cell rfl)
    · exact .inl (kept before gone cell rfl)
  · exact (undecided sent.awaiting.awaited).elim

end Step

section Run

variable (settings : Settings) (limits : Limits) (wall : Timestamp) {actions : List Action}
  {number : Nat} {call : Call} {id : String} {handle : Handle} {response : Response}

theorem sent_along {since : Nat}
    (found : ((new settings limits wall).run actions).calls[number]? = some call)
    (waiting : call.stage = .waiting id handle since) :
    ∃ front middle, actions = front ++ .start number :: middle ∧
      ((new settings limits wall).run front).Sends number call id handle := by
  induction actions using List.reverseRecOn with
  | nil => simp [new] at found
  | append_singleton before action induction =>
      rw [run_append, run_cons, run_nil] at found
      rcases waits_before_or_sent found waiting with earlier | ⟨rfl, sends⟩
      · obtain ⟨front, middle, split, sends⟩ := induction earlier
        exact ⟨front, middle ++ [action], by simp [split], sends⟩
      · exact ⟨before, [], rfl, sends⟩

/-- An answer that a handle holds was handed over at one moment of the run, while the request was
pending. -/
theorem handed_along
    (answered : ((new settings limits wall).run actions).Answered number call id handle response) :
    ∃ front answer rest, actions = front ++ answer :: rest ∧
      ((new settings limits wall).run front).Awaiting number call id handle ∧
      ((new settings limits wall).run front).response? answer = some response ∧
      response.id = id := by
  induction actions using List.reverseRecOn with
  | nil =>
      have found := answered.found
      simp [new] at found
  | append_singleton before action induction =>
      rw [run_append, run_cons, run_nil] at answered
      rcases answered_before_or_handed (isCorrelated_run settings limits wall before) answered with
        earlier | ⟨awaiting, handed, same⟩
      · obtain ⟨front, answer, rest, split, handed⟩ := induction earlier
        exact ⟨front, answer, rest ++ [action], by simp [split], handed⟩
      · exact ⟨before, action, [], rfl, awaiting, handed, same⟩

end Run

/-- Along a run the handshake of a generation was sent while that generation was the current one,
and then its pending request was granted by a response whose payload reads as a welcome. -/
def GrantedAlong (start : Client) (actions : List Action) (generation : Nat) (welcome : Welcome)
    (number : Nat) : Prop :=
  ∃ front middle answer rest call id handle response,
    actions = front ++ .start number :: (middle ++ answer :: rest) ∧
      call.caller = .handshake generation ∧ call.method = openingMethod ∧
      (start.run front).connection.generation = generation ∧
      (start.run front).Sends number call id handle ∧
      (start.run (front ++ .start number :: middle)).Awaiting number call id handle ∧
      (start.run (front ++ .start number :: middle)).response? answer = some response ∧
      response.id = id ∧ response.ok = true ∧
      response.payload.bind Welcome.ofPayload? = some welcome

theorem GrantedAlong.append {start : Client} {actions : List Action} {generation : Nat}
    {welcome : Welcome} {number : Nat} (granted : GrantedAlong start actions generation welcome number)
    (more : List Action) : GrantedAlong start (actions ++ more) generation welcome number := by
  obtain ⟨front, middle, answer, rest, call, id, handle, response, split, granted⟩ := granted
  exact ⟨front, middle, answer, rest ++ more, call, id, handle, response, by simp [split], granted⟩

section Sessions

variable (settings : Settings) (limits : Limits) (wall : Timestamp) (actions : List Action)

/-- A handshake that has been granted a session was sent and answered along the run. -/
theorem grantedAlong_of_answered {number : Nat} {call : Call} {id : String} {handle : Handle}
    {response : Response} {generation : Nat} {welcome : Welcome}
    (answered : ((new settings limits wall).run actions).Answered number call id handle response)
    (opens : opening? call.caller response = some (generation, welcome)) :
    GrantedAlong (new settings limits wall) actions generation welcome number := by
  obtain ⟨caller, ok, welcomed⟩ := opening?_eq_some_iff.mp opens
  obtain ⟨before, answer, rest, split, awaiting, handed, same_id⟩ :=
    handed_along settings limits wall answered
  obtain ⟨since, waiting⟩ := awaiting.waiting
  obtain ⟨front, middle, before_split, sends⟩ :=
    sent_along settings limits wall awaiting.found waiting
  subst before_split
  have entry := getElem?_roster sends.ready
  have opening := ((introduced_run settings limits wall front).reached _
    (List.mem_of_getElem? entry) generation caller).2
  exact ⟨front, middle, answer, rest, call, id, handle, response, by simp [split], caller, opening,
    (sends.stands generation caller).symm, sends, awaiting, handed, same_id, ok, welcomed⟩

/-- A session that is shown was shown before in its generation, or it is entered by the handshake of
the current generation. -/
theorem Announced.hasSession {client : Client} {action : Action} {face : List Snapshot × Nat}
    (announced : Announced client action face) {snapshot : Snapshot} (member : snapshot ∈ face.1)
    (shown : snapshot.hasSession = true) :
    (∃ earlier ∈ client.connection.published, earlier.generation = snapshot.generation ∧
        earlier.version = snapshot.version ∧ earlier.session = snapshot.session) ∨
      ∃ number call id handle response welcome, client.Answered number call id handle response ∧
        opening? call.caller response = some (client.connection.generation, welcome) ∧
        snapshot = client.connection.greeted welcome := by
  have before (known : snapshot ∈ client.connection.published) :
      ∃ earlier ∈ client.connection.published, earlier.generation = snapshot.generation ∧
        earlier.version = snapshot.version ∧ earlier.session = snapshot.session :=
    ⟨snapshot, known, rfl, rfl, rfl⟩
  cases announced with
  | silent => exact .inl (before member)
  | carriedOut purpose asked =>
      cases purpose with
      | close =>
          rcases List.mem_cons.mp member with rfl | known
          · cases shown
          · exact .inl (before known)
      | reopen url =>
          rcases List.mem_cons.mp member with rfl | rest
          · cases shown
          · rcases List.mem_cons.mp rest with rfl | known
            · cases shown
            · exact .inl (before known)
  | opened =>
      rcases List.mem_cons.mp member with rfl | known
      · exact .inl ⟨_, List.mem_cons_self .., rfl, rfl, rfl⟩
      · exact .inl (before known)
  | parted =>
      rcases List.mem_cons.mp member with rfl | known
      · cases shown
      · exact .inl (before known)
  | greeted number call id handle response welcome is_wake answered opens =>
      rcases List.mem_cons.mp member with rfl | known
      · exact .inr ⟨number, call, id, handle, response, welcome, answered, opens, rfl⟩
      · exact .inl (before known)

/-- Every session that is shown was granted to the handshake of its generation. -/
theorem granted_of_shown {snapshot : Snapshot}
    (member : snapshot ∈ ((new settings limits wall).run actions).connection.published)
    (shown : snapshot.hasSession = true) :
    ∃ number welcome, snapshot.version = some welcome.version ∧
      snapshot.session = some welcome.session ∧
      GrantedAlong (new settings limits wall) actions snapshot.generation welcome number := by
  induction actions using List.reverseRecOn generalizing snapshot with
  | nil =>
      obtain rfl : snapshot = .initial := List.mem_singleton.mp member
      cases shown
  | append_singleton front action induction =>
      rw [run_append, run_cons, run_nil] at member
      have current := generation_current_run settings limits wall front
      rcases (announced_step _ action).hasSession member shown with
        ⟨earlier, known, generation, version, session⟩ |
          ⟨number, call, id, handle, response, welcome, answered, opens, rfl⟩
      · have before : earlier.hasSession = true := by
          simpa [Snapshot.hasSession, version, session] using shown
        obtain ⟨number, welcome, version_eq, session_eq, granted⟩ := induction known before
        exact ⟨number, welcome, version ▸ version_eq, session ▸ session_eq,
          generation ▸ granted.append [action]⟩
      · have granted := grantedAlong_of_answered settings limits wall front answered opens
        refine ⟨number, welcome, rfl, rfl, ?_⟩
        rw [Connection.greeted, current]
        exact granted.append [action]

/-- What is announced shows the session that was shown, or none, unless the handshake of the current
generation goes on with the session that it was granted. -/
theorem Announced.session {client : Client} {action : Action} {face : List Snapshot × Nat}
    (announced : Announced client action face) {after : Snapshot}
    (latest : face.1.head? = some after) :
    (after.version = client.connection.current.version ∧
        after.session = client.connection.current.session) ∨
      (after.version = none ∧ after.session = none) ∨
      ∃ number call id handle response welcome, action = .wake number ∧
        client.Answered number call id handle response ∧
        opening? call.caller response = some (client.connection.generation, welcome) ∧
        after = client.connection.greeted welcome := by
  cases announced with
  | silent =>
      obtain rfl := Option.some.inj latest
      exact .inl ⟨rfl, rfl⟩
  | carriedOut purpose asked =>
      cases purpose <;> obtain rfl := Option.some.inj latest <;> exact .inr (.inl ⟨rfl, rfl⟩)
  | opened =>
      obtain rfl := Option.some.inj latest
      exact .inl ⟨rfl, rfl⟩
  | parted =>
      obtain rfl := Option.some.inj latest
      exact .inr (.inl ⟨rfl, rfl⟩)
  | greeted number call id handle response welcome is_wake answered opens =>
      exact .inr (.inr ⟨number, call, id, handle, response, welcome, is_wake, answered, opens,
        (Option.some.inj latest).symm⟩)

/-- A call that goes on without the session of the current generation publishes nothing. -/
theorem face_wake_of_ungranted {client : Client} {number : Nat}
    (ungranted : ∀ call id handle response, client.Answered number call id handle response →
      call.caller = .handshake client.connection.generation → response.ok = true →
      response.payload.bind Welcome.ofPayload? = none) :
    (client.wake number).connection.face = client.connection.face := by
  obtain same | ⟨call, id, handle, response, generation, welcome, answered, opens, welcomed⟩ :=
    client.connection_wake number
  · rw [same]
  · obtain ⟨caller, ok, granted⟩ := opening?_eq_some_iff.mp opens
    cases stands : client.connection.stands generation with
    | true =>
        obtain rfl := (client.connection.stands_iff generation).mp stands
        rw [ungranted call id handle response answered caller ok] at granted
        cases granted
    | false => rw [welcomed, Connection.welcome_of_not_stands stands]

theorem status_wake (client : Client) (number : Nat) :
    (client.wake number).connection.current.status = client.connection.current.status := by
  obtain same | ⟨_, _, _, _, generation, welcome, -, -, welcomed⟩ := client.connection_wake number
  · rw [same]
  · rw [welcomed]
    exact (client.connection.status_welcome generation welcome).1

/-- Every session that is shown was granted to the one handshake of its generation, and nothing else
enters one. -/
theorem sessions_are_granted_to_their_handshake :
    let start := new settings limits wall
    let client := start.run actions
    (∀ snapshot ∈ client.connection.published, snapshot.hasSession = true →
      ∃ number welcome, snapshot.version = some welcome.version ∧
        snapshot.session = some welcome.session ∧
        GrantedAlong start actions snapshot.generation welcome number ∧
        ∀ other call, client.calls[other]? = some call →
          call.caller = .handshake snapshot.generation → other = number) ∧
      (∀ action,
        let after := (client.step action).connection.current
        (after.version = client.connection.current.version ∧
            after.session = client.connection.current.session) ∨
          (after.version = none ∧ after.session = none) ∨
          ∃ number call id handle response welcome, action = .wake number ∧
            client.Answered number call id handle response ∧
            opening? call.caller response = some (client.connection.generation, welcome) ∧
            after = client.connection.greeted welcome) ∧
      (∀ number, (client.step (.start number)).connection.face = client.connection.face) ∧
      (∀ number, (∀ call id handle response, client.Answered number call id handle response →
          call.caller = .handshake client.connection.generation → response.ok = true →
          response.payload.bind Welcome.ofPayload? = none) →
        (client.step (.wake number)).connection.face = client.connection.face) ∧
      (∀ action response, client.response? action = some response →
        (client.step action).connection = client.connection) ∧
      ∀ number, (client.step (.wake number)).connection.current.status =
        client.connection.current.status := by
  intro start client
  refine ⟨fun snapshot member shown => ?_, fun action => (client.announced_step action).session rfl,
    fun number => ?_, fun number ungranted => ?_, fun action response handed => ?_,
    fun number => ?_⟩
  · obtain ⟨number, welcome, version, session, granted⟩ :=
      granted_of_shown settings limits wall actions member shown
    refine ⟨number, welcome, version, session, granted, fun other call found caller => ?_⟩
    obtain ⟨front, middle, answer, rest, handshake, id, handle, response, split, own_caller, -, -,
      sends, -⟩ := granted
    have entry : client.roster[number]? = some handshake.unbegun := by
      have sent := getElem?_roster_run (getElem?_roster sends.ready)
        (.start number :: (middle ++ answer :: rest))
      rwa [← run_append, ← split] at sent
    exact (introduced_run settings limits wall actions).unique (getElem?_roster found) caller entry
      own_caller
  · rw [step_start, face_dissolve, face_start]
  · rw [step_wake, face_dissolve, face_wake_of_ungranted ungranted]
  · rw [step_eq_of_response handed]
  · rw [step_wake, current_dissolve, status_wake]

end Sessions

end Client

end GatewayLink
