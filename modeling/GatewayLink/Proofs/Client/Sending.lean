import GatewayLink.Proofs.Client.Fate
import GatewayLink.Proofs.Client.Linking
import GatewayLink.Proofs.Connection.Channels

/-!
# What one step of a client sends

A text is queued only by a call that begins, in the channel that is installed.  A channel is
installed only by the link of the current generation, which makes the handshake of that generation.
Whatever else happens retains the texts of all channels, makes no handshake, and at most lets go of
the channel.
-/

namespace GatewayLink

/-- A call as it was made. -/
def Call.unbegun (call : Call) : Call :=
  { call with stage := .ready }

namespace Client

/-- All calls as they were made, oldest first. -/
def roster (client : Client) : List Call :=
  client.calls.map Call.unbegun

theorem getElem?_roster {client : Client} {number : Nat} {call : Call}
    (found : client.calls[number]? = some call) :
    client.roster[number]? = some call.unbegun := by
  simp [roster, found]

@[simp] theorem roster_setStage (client : Client) (number : Nat) (stage : CallStage) :
    (client.setStage number stage).roster = client.roster := by
  refine List.ext_getElem? fun other => ?_
  simp only [roster, calls_setStage, List.getElem?_map, List.getElem?_modify]
  by_cases same : number = other <;> cases client.calls[other]? <;> simp [same, Call.unbegun]

/-- What becomes of a client that neither queues a text nor opens its generation. -/
structure Retains (before after : Client) : Prop where
  generation_le : before.connection.generation ≤ after.connection.generation
  texts : after.connection.textsOf = before.connection.textsOf
  receivers : ∀ channel, after.connection.hasReceiver channel = true →
    before.connection.hasReceiver channel = true
  installed : ∀ channel, after.connection.outbound = some channel →
    before.connection.outbound = some channel ∧
      after.connection.generation = before.connection.generation
  connecting : ∀ link ∈ after.links, link.stage = .connecting →
    link ∈ before.links ∨ before.connection.generation < link.generation
  roster : ∃ fresh : List Call,
    (∀ call ∈ fresh, ∀ generation, call.caller ≠ .handshake generation) ∧
      after.roster = before.roster ++ fresh

namespace Retains

variable {before middle after : Client}

theorem refl (client : Client) : Retains client client where
  generation_le := Nat.le_refl _
  texts := rfl
  receivers := fun _ held => held
  installed := fun _ installed => ⟨installed, rfl⟩
  connecting := fun _ member _ => .inl member
  roster := ⟨[], by simp, by simp⟩

theorem trans (first : Retains before middle) (second : Retains middle after) :
    Retains before after where
  generation_le := Nat.le_trans first.generation_le second.generation_le
  texts := second.texts.trans first.texts
  receivers := fun channel held => first.receivers channel (second.receivers channel held)
  installed := by
    intro channel installed
    obtain ⟨between, same⟩ := second.installed channel installed
    obtain ⟨earlier, same_before⟩ := first.installed channel between
    exact ⟨earlier, same.trans same_before⟩
  connecting := by
    intro link member connects
    rcases second.connecting link member connects with between | later
    · exact first.connecting link between connects
    · exact .inr (Nat.lt_of_le_of_lt first.generation_le later)
  roster := by
    obtain ⟨fresh, callers, first_roster⟩ := first.roster
    obtain ⟨more, more_callers, second_roster⟩ := second.roster
    refine ⟨fresh ++ more, fun call member => ?_, by rw [second_roster, first_roster,
      List.append_assoc]⟩
    rcases List.mem_append.mp member with earlier | later
    · exact callers call earlier
    · exact more_callers call later

theorem of_connection (generation : after.connection.generation = before.connection.generation)
    (texts : after.connection.textsOf = before.connection.textsOf)
    (receivers : after.connection.hasReceiver = before.connection.hasReceiver)
    (outbound : ∀ channel, after.connection.outbound = some channel →
      before.connection.outbound = some channel)
    (links : Settled before.links after.links) (roster : after.roster = before.roster) :
    Retains before after where
  generation_le := Nat.le_of_eq generation.symm
  texts := texts
  receivers := fun channel held => by rwa [← receivers]
  installed := fun channel installed => ⟨outbound channel installed, generation⟩
  connecting := fun link member connects => .inl (links.connecting link member connects)
  roster := ⟨[], by simp, by simp [roster]⟩

theorem of_eq (connection : after.connection = before.connection)
    (links : after.links = before.links) (roster : after.roster = before.roster) :
    Retains before after :=
  of_connection (by rw [connection]) (by rw [connection]) (by rw [connection])
    (by rw [connection]; exact fun _ installed => installed) (links ▸ Settled.refl _) roster

end Retains

section Operations

variable (client : Client) (number : Nat)

theorem retains_setLink (stage : LinkStage) (ahead : stage ≠ .connecting) :
    Retains client (client.setLink number stage) :=
  .of_connection rfl rfl rfl (fun _ installed => installed)
    (.modify client.links number stage ahead) rfl

theorem retains_dissolve : Retains client client.dissolve := by
  obtain same | ⟨links, kept, same⟩ := client.dissolve_cases
  · rw [same]
    exact .refl client
  · rw [same]
    refine .of_connection (by simp) ?_ ?_ (by simp) ?_ rfl
    · exact Connection.textsOf_uninstall _
    · exact Connection.hasReceiver_uninstall _
    · obtain rfl | ⟨link, rfl⟩ := kept
      · exact .refl _
      · exact .modify client.links link .ended (by simp)

theorem retains_wake : Retains client (client.wake number) := by
  obtain ⟨call, id, handle, since, -, -, woke⟩ | ⟨-, unchanged⟩ := client.wake_cases number
  · generalize client.wake number = after at woke
    cases woke with
    | concluded response seen connection welcomed =>
        obtain rfl | ⟨generation, welcome, rfl⟩ := welcomed
        · exact .of_eq rfl rfl (roster_setStage ..)
        · exact .of_connection (by simp) (by simp) (by simp)
            (by simp [client.connection.status_welcome generation welcome]) (.refl _)
            (roster_setStage ..)
    | abandoned seen => exact .of_eq rfl rfl (roster_setStage ..)
    | unchanged seen => exact .refl client
  · rw [unchanged]
    exact .refl client

theorem retains_inbound (text : String) : Retains client (client.inbound text) := by
  obtain ⟨response, -, taken⟩ | ⟨-, event, taken⟩ | ⟨-, taken⟩ := client.inbound_cases text <;>
    rw [taken] <;> exact .of_eq rfl rfl rfl

/-- A generation that is lost lets go of its channel. -/
theorem retains_lose (generation : Nat) :
    Retains client { client with connection := (client.connection.lose generation).2 } where
  generation_le := Nat.le_of_eq (client.connection.generation_lose generation).symm
  texts := client.connection.textsOf_lose generation
  receivers := by simp
  installed := by
    intro channel
    obtain ⟨-, lost⟩ | ⟨-, lost⟩ := client.connection.lose_cases generation
    · simp [lost, Connection.publish]
    · rw [lost]
      exact fun installed => ⟨installed, rfl⟩
  connecting := fun _ member _ => .inl member
  roster := ⟨[], by simp, by simp [Client.roster]⟩

theorem retains_generationRefused (generation : Nat) (cause : TransportError) :
    Retains client (client.generationRefused generation cause) := by
  obtain ⟨-, lost⟩ | ⟨-, lost⟩ := client.generationRefused_cases generation cause
  · rw [lost]
    exact (client.retains_lose generation).trans (.of_eq rfl rfl rfl)
  · rw [lost]
    exact .refl client

theorem retains_generationLost (generation : Nat) (reason : String) :
    Retains client (client.generationLost generation reason) := by
  obtain ⟨-, lost⟩ | ⟨-, lost⟩ := client.generationLost_cases generation reason
  · rw [lost]
    exact (client.retains_lose generation).trans (.of_eq rfl rfl rfl)
  · rw [lost]
    exact .refl client

theorem retains_linkFailed (cause : TransportError) :
    Retains client (client.linkFailed number cause) := by
  obtain ⟨generation, url, -, failed⟩ | ⟨-, failed⟩ := client.linkFailed_cases number cause
  · rw [failed]
    exact (client.retains_setLink number .ended (by simp)).trans (retains_generationRefused ..)
  · rw [failed]
    exact .refl client

theorem retains_received (item : Option StreamItem) :
    Retains client (client.received number item) := by
  obtain ⟨text, -, -, received⟩ | ⟨-, generation, url, channel, reason, -, -, received⟩ |
    ⟨-, -, received⟩ := client.received_cases number item
  · rw [received]
    exact client.retains_inbound text
  · rw [received]
    exact (client.retains_setLink number .ended (by simp)).trans (retains_generationLost ..)
  · rw [received]
    exact .refl client

theorem retains_endGeneration : Retains client client.endGeneration where
  generation_le := Nat.le_succ _
  texts := client.connection.textsOf_supersede
  receivers := by simp [endGeneration]
  installed := by
    intro channel
    simp [endGeneration, Connection.supersede, Connection.publish]
  connecting := fun _ member _ => .inl member
  roster := ⟨[], by simp, by simp [roster, endGeneration]⟩

theorem retains_runLink : Retains client (client.runLink number) := by
  have assigned : Retains client { client with connection := (client.connection.assign number).2 } :=
    .of_connection rfl rfl rfl (fun _ installed => installed) (.refl _) rfl
  obtain ⟨-, ran⟩ | ⟨other, -, ran⟩ := client.runLink_cases number
  · rwa [ran]
  · rw [ran]
    exact assigned.trans (retains_setLink _ other .ended (by simp))

/-- A link that is opened has a generation that lies ahead. -/
theorem retains_dial (url : String) :
    Retains client
      { client with
        connection := (client.connection.dial url).2
        links := client.links ++ [⟨(client.connection.dial url).1, url, .connecting⟩] } where
  generation_le := Nat.le_succ _
  texts := client.connection.textsOf_dial url
  receivers := by simp
  installed := by
    intro channel
    simp [Connection.dial, Connection.publish]
  connecting := by
    intro link member _
    rcases List.mem_append.mp member with known | latest
    · exact .inl known
    · obtain rfl := List.mem_singleton.mp latest
      exact .inr (Nat.lt_succ_self _)
  roster := ⟨[], by simp, by simp [roster]⟩

theorem retains_carryOut (purpose : Purpose) : Retains client (client.carryOut purpose) := by
  cases purpose with
  | close => exact client.retains_endGeneration
  | reopen url =>
      exact (client.retains_endGeneration.trans (client.endGeneration.retains_dial url)).trans
        (retains_runLink _ client.endGeneration.links.length)

theorem retains_tearDown (purpose : Purpose) : Retains client (client.tearDown purpose) := by
  have unassigned : Retains client { client with connection := client.connection.unassign.2 } :=
    .of_connection rfl rfl rfl (fun _ installed => installed) (.refl _) rfl
  obtain ⟨-, torn⟩ | ⟨link, -, -, torn⟩ := client.tearDown_cases purpose
  · rw [torn]
    exact unassigned.trans (retains_carryOut _ purpose)
  · rw [torn]
    exact (unassigned.trans (retains_setLink _ link .ended (by simp))).trans (.of_eq rfl rfl rfl)

theorem retains_resume : Retains client (client.resume number) := by
  obtain ⟨-, resumed⟩ | ⟨purpose, -, resumed⟩ := client.resume_cases number
  · rw [resumed]
    exact .refl client
  · have taken : Retains client { client with teardowns := client.teardowns.eraseIdx number } :=
      .of_eq rfl rfl rfl
    rw [resumed]
    exact taken.trans (retains_carryOut _ purpose)

theorem retains_addCalls {calls : List Call}
    (others : ∀ call ∈ calls, ∀ generation, call.caller ≠ .handshake generation) :
    Retains client (client.addCalls calls) where
  generation_le := Nat.le_refl _
  texts := rfl
  receivers := fun _ held => held
  installed := fun _ installed => ⟨installed, rfl⟩
  connecting := fun _ member _ => .inl member
  roster := by
    refine ⟨calls.map Call.unbegun, fun entry member => ?_, by simp [roster, addCalls]⟩
    obtain ⟨call, call_member, rfl⟩ := List.mem_map.mp member
    exact others call call_member

theorem retains_tick : Retains client client.tick := by
  obtain ⟨ticker, calls, ticked, -, fresh⟩ := client.tick_eq
  have moved : Retains client { client with ticker } := .of_eq rfl rfl rfl
  rw [ticked]
  refine moved.trans (retains_addCalls _ fun call member generation caller => ?_)
  rw [(fresh call member).1] at caller
  cases caller

end Operations

/-- The request under which a call would be sent next. -/
def nextRequest (client : Client) (call : Call) : Request :=
  ⟨(client.issued + 1).repr, call.method, call.params⟩

/-- What a step does to the channels and to the handshakes. -/
inductive Turn (client : Client) (action : Action) (after : Client) : Prop where
  | retained (retains : Retains client after)
  /-- A call that begins is sent in the installed channel. -/
  | sent (number : Nat) (call : Call) (channel handle since : Nat)
      (is_start : action = .start number) (found : client.calls[number]? = some call)
      (ready : call.stage = .ready) (installed : client.connection.outbound = some channel)
      (held : client.connection.hasReceiver channel = true)
      (texts : ∀ other, after.connection.textsOf other =
        if other = channel then
          client.connection.textsOf channel ++ [(Outgoing.request (client.nextRequest call)).text]
        else client.connection.textsOf other)
      (receivers : after.connection.hasReceiver = client.connection.hasReceiver)
      (outbound : after.connection.outbound = client.connection.outbound)
      (generation : after.connection.generation = client.connection.generation)
      (links : after.links = client.links)
      (calls : after.calls = client.calls.modify number
        ({ · with stage := .waiting (client.nextRequest call).id handle since }))
      (issued : after.issued = client.issued + 1)
      (logbook : after.logbook = (client.logbook.attempt client.clock.wall
        (some (client.nextRequest call).id) call.method .sent none).2) : Turn client action after
  /-- The link of the current generation has connected. -/
  | opened (link : Nat) (url : String)
      (found : client.links[link]? = some ⟨client.connection.generation, url, .connecting⟩)
      (texts : after.connection.textsOf = client.connection.textsOf)
      (outbound : after.connection.outbound = some client.connection.channels.length)
      (generation : after.connection.generation = client.connection.generation)
      (links : after.links =
        client.links.modify link ({ · with stage := .receiving client.connection.channels.length }))
      (calls : after.calls = client.calls ++ [client.handshakeCall client.connection.generation]) :
      Turn client action after

namespace Turn

variable {client after : Client} {action : Action}

/-- A client that has just sent a request or made a handshake is kept. -/
theorem dissolve (turn : Turn client action after) : Turn client action after.dissolve := by
  cases turn with
  | retained retains => exact .retained (retains.trans after.retains_dissolve)
  | sent number call channel handle since is_start found ready installed held texts receivers
      outbound generation links calls issued logbook =>
      have waits : after.calls[number]? =
          some { call with stage := .waiting (client.nextRequest call).id handle since } := by
        simp [calls, found]
      rw [dissolve_of_isAlive after (isAlive_of_isActive waits rfl)]
      exact .sent number call channel handle since is_start found ready installed held texts
        receivers outbound generation links calls issued logbook
  | opened link url found texts outbound generation links calls =>
      have made : after.calls[client.calls.length]? =
          some (client.handshakeCall client.connection.generation) := by
        simp [calls]
      rw [dissolve_of_isAlive after (isAlive_of_isActive made rfl)]
      exact .opened link url found texts outbound generation links calls

end Turn

section Steps

variable (client : Client)

theorem turn_start (number : Nat) : Turn client (.start number) (client.start number) := by
  obtain ⟨call, found, ready, began⟩ | ⟨-, unchanged⟩ := client.start_cases number
  · generalize client.start number = after at began
    cases began with
    | issued pacing after issued =>
        cases issued with
        | duplicate => exact .retained (.of_eq rfl rfl (roster_setStage ..))
        | unsent => exact .retained (.of_eq rfl rfl (roster_setStage ..))
        | sent free connection sends =>
            obtain ⟨channel, installed, held, receivers, texts⟩ := Connection.textsOf_send sends
            obtain ⟨-, -, generation, outbound⟩ := Connection.send_ok sends
            exact .sent number call channel _ _ rfl found ready installed held texts receivers
              outbound generation rfl rfl rfl rfl
    | _ => exact .retained (.of_eq rfl rfl (roster_setStage ..))
  · rw [unchanged]
    exact .retained (.refl client)

theorem turn_linkOpened (link : Nat) :
    Turn client (.linkOpened link) (client.linkOpened link) := by
  obtain ⟨generation, url, found, stands, opened⟩ | ⟨generation, url, -, stands, opened⟩ |
    ⟨-, opened⟩ := client.linkOpened_cases link
  · obtain rfl := (client.connection.stands_iff generation).mp stands
    have texts := client.connection.textsOf_establish client.connection.generation
    rw [opened]
    simp only [Connection.establish, stands, if_true] at texts ⊢
    exact .opened link url found texts rfl (client.connection.generation_uninstall) rfl rfl
  · have receivers := Connection.hasReceiver_refused client.connection generation stands
    rw [Connection.establish_of_not_stands stands] at receivers
    obtain ⟨-, outbound⟩ := client.connection.withRefusedChannel.hangUp_snd
      client.connection.channels.length
    have refused : client.connection.withRefusedChannel.textsOf = client.connection.textsOf :=
      Connection.textsOf_append rfl rfl
    rw [opened]
    refine .retained (.of_connection (by simp [Connection.withRefusedChannel])
      (by simp [refused]) receivers ?_ (.modify client.links link .ended (by simp)) rfl)
    intro channel
    rw [connection_setLink, outbound]
    exact id
  · rw [opened]
    exact .retained (.refl client)

theorem retains_applyOutside (action : Action) :
    Retains client (client.applyOutside action).2 := by
  cases action with
  | pump channel =>
      obtain ⟨-, outbound⟩ := client.connection.receive_snd channel
      exact .of_connection (by simp [applyOutside]) (by simp [applyOutside])
        (by simp [applyOutside]) (by simp [applyOutside, outbound]) (.refl _) rfl
  | hangUp channel =>
      obtain ⟨-, outbound⟩ := client.connection.hangUp_snd channel
      exact
        { Retains.refl client with
          generation_le := by simp [applyOutside]
          texts := by simp [applyOutside]
          receivers := by
            intro other held
            simp only [applyOutside, Connection.hasReceiver_hangUp, Bool.and_eq_true] at held
            exact held.1
          installed := by simp [applyOutside, outbound] }
  | observe observer =>
      dsimp only [applyOutside]
      split
      · exact .of_connection rfl rfl rfl (fun _ installed => installed) (.refl _) rfl
      · exact .refl client
  | _ => exact .of_eq rfl rfl rfl

theorem turn_applyTask (action : Action) : Turn client action (client.applyTask action).2 := by
  cases action with
  | start number => exact client.turn_start number
  | linkOpened link => exact client.turn_linkOpened link
  | wake number => exact .retained (client.retains_wake number)
  | resume teardown => exact .retained (client.retains_resume teardown)
  | linkFailed link cause => exact .retained (client.retains_linkFailed link cause)
  | received link item => exact .retained (client.retains_received link item)
  | tick => exact .retained client.retains_tick
  | _ => exact .retained (client.retains_applyOutside _)

theorem turn_applyHeld (action : Action) : Turn client action (client.applyHeld action).2 := by
  cases action with
  | call method params => exact .retained (client.retains_addCalls (by simp))
  | connect url => exact .retained (client.retains_tearDown (.reopen url))
  | close =>
      have stopped : Retains client { client with ticker := none } := .of_eq rfl rfl rfl
      exact .retained (stopped.trans (retains_tearDown _ .close))
  | inbound text => exact .retained (client.retains_inbound text)
  | startRefresh interval calls =>
      dsimp only [applyHeld, startRefresh]
      split <;> exact .retained (.of_eq rfl rfl rfl)
  | setGap gap => exact .retained (.of_eq rfl rfl rfl)
  | stopRefresh => exact .retained (.of_eq rfl rfl rfl)
  | subscribe => exact .retained (.of_eq rfl rfl rfl)
  | drop => exact .retained (.of_eq rfl rfl rfl)
  | watch =>
      exact .retained (.of_connection rfl rfl rfl (fun _ installed => installed) (.refl _) rfl)
  | _ => exact client.turn_applyTask _

theorem turn_step (action : Action) : Turn client action (client.step action) := by
  rw [step_eq]
  refine Turn.dissolve ?_
  split
  · exact client.turn_applyHeld action
  · split
    · exact client.turn_applyTask action
    · exact .retained (client.retains_applyOutside action)

/-- Calls are only added, and a handshake only for a link of the current generation. -/
theorem roster_step (action : Action) :
    ∃ fresh : List Call, (client.step action).roster = client.roster ++ fresh ∧
      ∀ call ∈ fresh, ∀ generation, call.caller = .handshake generation →
        generation = client.connection.generation ∧
          ∃ link ∈ client.links, link.generation = generation := by
  have turn := client.turn_step action
  generalize client.step action = after at turn
  cases turn with
  | retained retains =>
      obtain ⟨fresh, others, roster⟩ := retains.roster
      exact ⟨fresh, roster, fun call member generation caller =>
        absurd caller (others call member generation)⟩
  | sent number call channel handle since is_start found ready installed held texts receivers
      outbound generation links calls =>
      refine ⟨[], ?_, by simp⟩
      rw [List.append_nil, roster, calls]
      exact client.roster_setStage number _
  | opened link url found texts outbound generation links calls =>
      refine ⟨[client.handshakeCall client.connection.generation], ?_, ?_⟩
      · simp [roster, calls, handshakeCall, Call.unbegun]
      · rintro call member other caller
        obtain rfl := List.mem_singleton.mp member
        obtain rfl := Caller.handshake.inj caller
        exact ⟨rfl, _, List.mem_of_getElem? found, rfl⟩

theorem getElem?_roster_step {number : Nat} {call : Call}
    (found : client.roster[number]? = some call) (action : Action) :
    (client.step action).roster[number]? = some call := by
  obtain ⟨fresh, roster_eq, -⟩ := client.roster_step action
  rw [roster_eq, List.getElem?_append_left (List.getElem?_eq_some_iff.mp found).1, found]

/-- What a channel holds stays in its place. -/
theorem getElem?_textsOf_step {channel slot : Nat} {text : String}
    (found : (client.connection.textsOf channel)[slot]? = some text) (action : Action) :
    ((client.step action).connection.textsOf channel)[slot]? = some text := by
  have turn := client.turn_step action
  cases turn with
  | retained retains => rwa [retains.texts]
  | opened link url link_found texts => rwa [texts]
  | sent other call sent_channel handle since is_start call_found ready installed held texts =>
      rw [texts]
      split
      · rename_i same
        subst same
        rwa [List.getElem?_append_left (List.getElem?_eq_some_iff.mp found).1]
      · exact found

end Steps

theorem getElem?_roster_run {client : Client} {number : Nat} {call : Call}
    (found : client.roster[number]? = some call) (actions : List Action) :
    (client.run actions).roster[number]? = some call := by
  induction actions generalizing client with
  | nil => exact found
  | cons action rest induction => exact induction (client.getElem?_roster_step found action)

end Client

end GatewayLink
