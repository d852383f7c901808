import GatewayLink.Proofs.Call.Registration
import GatewayLink.Proofs.Client.Step
import GatewayLink.Proofs.Connection.Generation

/-!
# The connection of a client and its links

Every link has a generation of its own, in the order in which the links were opened, and none is
ahead of the connection.  While the link of the current generation connects, the connection is
connecting.  A channel is installed and requests are pending only while the connection is open: all
that ends it takes the channel away and gives the requests up.
-/

namespace GatewayLink

namespace Connection

theorem send_ok {connection sent : Connection} {text : String}
    (sends : connection.send text = (.ok (), sent)) :
    connection.outbound.isSome = true ∧ sent.current = connection.current ∧
      sent.generation = connection.generation ∧ sent.outbound = connection.outbound := by
  obtain ⟨channel, state, installed, -, -, sent_eq⟩ | ⟨cause, sent_eq, -⟩ :=
    connection.send_cases text
  · obtain ⟨-, rfl⟩ := Prod.mk.inj (sends.symm.trans sent_eq)
    exact ⟨by simp [installed], rfl, rfl, rfl⟩
  · cases sends.symm.trans sent_eq

theorem status_welcome (connection : Connection) (generation : Nat) (welcome : Welcome) :
    (connection.welcome generation welcome).2.current.status = connection.current.status ∧
      (connection.welcome generation welcome).2.outbound = connection.outbound := by
  obtain ⟨-, welcomed⟩ | ⟨-, welcomed⟩ := connection.welcome_cases generation welcome <;>
    rw [welcomed] <;> exact ⟨rfl, rfl⟩

theorem hangUp_snd (connection : Connection) (channel : Nat) :
    (connection.hangUp channel).2.current = connection.current ∧
      (connection.hangUp channel).2.outbound = connection.outbound := by
  obtain ⟨state, -, -, hung_up⟩ | ⟨-, hung_up⟩ := connection.hangUp_cases channel <;> rw [hung_up] <;>
    exact ⟨rfl, rfl⟩

theorem receive_snd (connection : Connection) (channel : Nat) :
    (connection.receive channel).2.current = connection.current ∧
      (connection.receive channel).2.outbound = connection.outbound := by
  obtain ⟨state, -, -, received⟩ | ⟨-, received⟩ := connection.receive_cases channel <;>
    rw [received] <;> exact ⟨rfl, rfl⟩

end Connection

namespace Client

/-- The connection of a client agrees with its links. -/
structure Chained (client : Client) : Prop where
  ordered : (client.links.map Link.generation).Pairwise (· < ·)
  reached : ∀ link ∈ client.links, link.generation ≤ client.connection.generation
  connecting : ∀ link ∈ client.links, link.stage = .connecting →
    link.generation = client.connection.generation →
    client.connection.current.status = .connecting
  outbound : client.connection.outbound.isSome = true →
    client.connection.current.status = .connected

/-- The connection of a client agrees with its links and with its requests in flight. -/
structure Linked (client : Client) : Prop extends Chained client where
  pending : client.inFlight.pending ≠ [] → client.connection.current.status = .connected

theorem chained_new (settings : Settings) (limits : Limits) (wall : Timestamp) :
    (new settings limits wall).Chained where
  ordered := List.Pairwise.nil
  reached := by simp [new]
  connecting := by simp [new]
  outbound := by simp [new, Connection.new]

theorem linked_new (settings : Settings) (limits : Limits) (wall : Timestamp) :
    (new settings limits wall).Linked where
  toChained := chained_new settings limits wall
  pending := fun some_pending => absurd rfl some_pending

/-- What becomes of links: some stages change, but none starts to connect again. -/
structure Settled (before after : List Link) : Prop where
  generations : after.map Link.generation = before.map Link.generation
  connecting : ∀ link ∈ after, link.stage = .connecting → link ∈ before

theorem Settled.refl (links : List Link) : Settled links links := ⟨rfl, fun _ member _ => member⟩

theorem Settled.modify (links : List Link) (number : Nat) (stage : LinkStage)
    (ahead : stage ≠ .connecting) : Settled links (links.modify number ({ · with stage })) where
  generations := by
    refine List.ext_getElem? fun position => ?_
    rw [List.getElem?_map, List.getElem?_map, List.getElem?_modify]
    cases links[position]? with
    | none => rfl
    | some link => by_cases here : number = position <;> simp [here]
  connecting := by
    intro link member connects
    obtain ⟨position, found⟩ := List.mem_iff_getElem?.mp member
    rw [List.getElem?_modify] at found
    by_cases here : number = position
    · simp only [here, if_true, Option.map_eq_map, Option.map_eq_some_iff] at found
      obtain ⟨other, -, rfl⟩ := found
      exact absurd connects ahead
    · simp only [here, if_false, Option.map_eq_map, Option.map_id_fun', id_eq] at found
      exact List.mem_of_getElem? found

/-- The connection stays in its generation and status, it may let go of its channel, and links may
end. -/
theorem Chained.of_kept {before after : Client} (chained : before.Chained)
    (generation : after.connection.generation = before.connection.generation)
    (status : after.connection.current.status = before.connection.current.status)
    (outbound : after.connection.outbound.isSome = true → before.connection.outbound.isSome = true)
    (links : Settled before.links after.links) : after.Chained where
  ordered := links.generations ▸ chained.ordered
  reached := by
    intro link member
    have known : link.generation ∈ before.links.map Link.generation :=
      links.generations ▸ List.mem_map_of_mem member
    obtain ⟨earlier, earlier_member, same⟩ := List.mem_map.mp known
    rw [generation, ← same]
    exact chained.reached earlier earlier_member
  connecting := by
    intro link member connects current
    rw [status]
    exact chained.connecting link (links.connecting link member connects) connects
      (current.trans generation)
  outbound := fun installed => status.trans (chained.outbound (outbound installed))

/-- Links that were opened in order have generations of their own. -/
theorem generation_inj {links : List Link}
    (ordered : (links.map Link.generation).Pairwise (· < ·)) {first second : Nat}
    {left right : Link} (left_found : links[first]? = some left)
    (right_found : links[second]? = some right) (same : left.generation = right.generation) :
    first = second := by
  have strict {lower upper : Nat} {low high : Link} (low_found : links[lower]? = some low)
      (high_found : links[upper]? = some high) (below : lower < upper) :
      low.generation < high.generation := by
    obtain ⟨lower_lt, rfl⟩ := List.getElem?_eq_some_iff.mp low_found
    obtain ⟨upper_lt, rfl⟩ := List.getElem?_eq_some_iff.mp high_found
    rw [List.pairwise_map] at ordered
    exact List.pairwise_iff_getElem.mp ordered lower upper lower_lt upper_lt below
  rcases Nat.lt_trichotomy first second with below | equal | above
  · have apart := strict left_found right_found below
    omega
  · exact equal
  · have apart := strict right_found left_found above
    omega

/-- Once a link has moved on, no link of its generation connects. -/
theorem generation_ne_of_connecting {links : List Link}
    (ordered : (links.map Link.generation).Pairwise (· < ·)) {number : Nat} {link : Link}
    (found : links[number]? = some link) (stage : LinkStage) (ahead : stage ≠ .connecting) :
    ∀ other ∈ links.modify number ({ · with stage }), other.stage = .connecting →
      other.generation ≠ link.generation := by
  intro other member connects same
  obtain ⟨position, other_found⟩ := List.mem_iff_getElem?.mp member
  rw [List.getElem?_modify] at other_found
  by_cases here : number = position
  · subst here
    simp only [if_true, found, Option.map_eq_map, Option.map_some, Option.some.injEq] at other_found
    subst other_found
    exact ahead connects
  · simp only [here, if_false, Option.map_eq_map, Option.map_id_fun', id_eq] at other_found
    exact here (generation_inj ordered found other_found same.symm)

/-- What an operation does to the generations and the links of a client: the generation does not go
back, and the agreement is kept. -/
structure Advance (before after : Client) : Prop where
  generation_le : before.connection.generation ≤ after.connection.generation
  chained : before.Chained → after.Chained
  pending : before.Linked → after.inFlight.pending ≠ [] →
    after.connection.current.status = .connected

namespace Advance

variable {before middle after : Client}

theorem linked (advance : Advance before after) (linked : before.Linked) : after.Linked :=
  ⟨advance.chained linked.toChained, advance.pending linked⟩

theorem refl (client : Client) : Advance client client := ⟨Nat.le_refl _, id, Linked.pending⟩

theorem trans (first : Advance before middle) (second : Advance middle after) :
    Advance before after where
  generation_le := Nat.le_trans first.generation_le second.generation_le
  chained := fun chained => second.chained (first.chained chained)
  pending := fun linked => second.pending (first.linked linked)

theorem of_kept (generation : after.connection.generation = before.connection.generation)
    (status : after.connection.current.status = before.connection.current.status)
    (outbound : after.connection.outbound.isSome = true → before.connection.outbound.isSome = true)
    (links : Settled before.links after.links)
    (pending : after.inFlight.pending ≠ [] → before.inFlight.pending ≠ []) :
    Advance before after where
  generation_le := Nat.le_of_eq generation.symm
  chained := fun chained => chained.of_kept generation status outbound links
  pending := fun linked some_pending => status.trans (linked.pending (pending some_pending))

theorem of_eq (connection : after.connection = before.connection)
    (links : after.links = before.links) (inFlight : after.inFlight = before.inFlight) :
    Advance before after :=
  of_kept (by rw [connection]) (by rw [connection]) (by rw [connection]; exact id)
    (links ▸ Settled.refl _) (by rw [inFlight]; exact id)

/-- The connection is over, its channel and its requests are given up, and no link of its generation
connects. -/
theorem of_parted (generation : before.connection.generation ≤ after.connection.generation)
    (outbound : after.connection.outbound = none) (links : Settled before.links after.links)
    (pending : before.Linked → after.inFlight.pending = [])
    (idle : before.Chained → ∀ link ∈ after.links, link.stage = .connecting →
      link.generation ≠ after.connection.generation) : Advance before after where
  generation_le := generation
  chained := fun chained =>
    { ordered := links.generations ▸ chained.ordered
      reached := by
        intro link member
        have known : link.generation ∈ before.links.map Link.generation :=
          links.generations ▸ List.mem_map_of_mem member
        obtain ⟨earlier, earlier_member, same⟩ := List.mem_map.mp known
        rw [← same]
        exact Nat.le_trans (chained.reached earlier earlier_member) generation
      connecting := fun link member connects current =>
        absurd current (idle chained link member connects)
      outbound := fun installed => by simp [outbound] at installed }
  pending := fun linked some_pending => absurd (pending linked) some_pending

end Advance

section Operations

variable (client : Client) (number : Nat)

theorem advance_setLink (stage : LinkStage) (ahead : stage ≠ .connecting) :
    Advance client (client.setLink number stage) :=
  .of_kept rfl rfl id (.modify client.links number stage ahead) id

theorem advance_dissolve : Advance client client.dissolve := by
  obtain same | ⟨links, kept, same⟩ := client.dissolve_cases
  · rw [same]
    exact .refl client
  · rw [same]
    refine .of_kept (by simp) (by simp) (by simp) ?_ id
    obtain rfl | ⟨link, rfl⟩ := kept
    · exact .refl _
    · exact .modify client.links link .ended (by simp)

/-! ## Calls -/

theorem advance_issued {call : Call} {after : Client} (issued : Issued client number call after) :
    Advance client after := by
  cases issued with
  | duplicate awaited => exact .of_eq rfl rfl rfl
  | sent free connection sends =>
      obtain ⟨installed, current, generation, outbound⟩ := Connection.send_ok sends
      have open_ (chained : client.Chained) : connection.current.status = .connected := by
        rw [current]
        exact chained.outbound installed
      exact
        { generation_le := Nat.le_of_eq generation.symm
          chained := fun chained =>
            { ordered := chained.ordered
              reached := by simpa [generation] using chained.reached
              connecting := by simpa [generation, current] using chained.connecting
              outbound := fun _ => open_ chained }
          pending := fun linked _ => open_ linked.toChained }
  | unsent free cause fails =>
      refine .of_kept rfl rfl id (.refl _) ?_
      -- The request that could not be sent is withdrawn again.
      have withdrawn : (((client.inFlight.enter (client.issued + 1).repr call.method).2).withdraw
          (client.issued + 1).repr).2.pending =
            client.inFlight.pending.filter (·.id != (client.issued + 1).repr) := by
        simp [InFlight.withdraw, InFlight.pending_remove, InFlight.enter_eq free]
      intro some_pending none_pending
      refine some_pending ?_
      simp only [fail, inFlight_setStage, withdrawn, none_pending, List.filter_nil]

theorem advance_began {call : Call} {after : Client} (began : Began client number call after) :
    Advance client after := by
  cases began with
  | lapsed => exact .of_eq rfl rfl rfl
  | overflowed => exact .of_eq rfl rfl rfl
  | refused => exact .of_eq rfl rfl rfl
  | issued pacing after issued =>
      have paced : Advance client { client with pacing } := .of_eq rfl rfl rfl
      exact paced.trans (advance_issued { client with pacing } number issued)

theorem advance_start : Advance client (client.start number) := by
  obtain ⟨call, -, -, began⟩ | ⟨-, unchanged⟩ := client.start_cases number
  · exact client.advance_began number began
  · rw [unchanged]
    exact .refl client

theorem advance_woke {call : Call} {id : String} {handle : Handle} {since : Nat} {after : Client}
    (woke : Woke client number call id handle since after) : Advance client after := by
  cases woke with
  | concluded response seen connection welcomed =>
      obtain rfl | ⟨generation, welcome, rfl⟩ := welcomed
      · exact .of_kept rfl rfl (fun installed => installed) (.refl _) (fun pending => pending)
      · obtain ⟨status, outbound⟩ := client.connection.status_welcome generation welcome
        exact .of_kept (by simp) status (by simp [outbound]) (.refl _) (fun pending => pending)
  | abandoned seen => exact .of_eq rfl rfl rfl
  | unchanged seen => exact .refl client

theorem advance_wake : Advance client (client.wake number) := by
  obtain ⟨call, id, handle, since, -, -, woke⟩ | ⟨-, unchanged⟩ := client.wake_cases number
  · exact client.advance_woke number woke
  · rw [unchanged]
    exact .refl client

/-! ## Links -/

theorem advance_inbound (text : String) : Advance client (client.inbound text) := by
  obtain ⟨response, -, taken⟩ | ⟨-, event, taken⟩ | ⟨-, taken⟩ := client.inbound_cases text
  · rw [taken]
    refine .of_kept rfl rfl id (.refl _) ?_
    intro some_pending none_pending
    refine some_pending ?_
    simp [InFlight.answer, InFlight.pending_remove, none_pending]
  · rw [taken]
    exact .of_eq rfl rfl rfl
  · rw [taken]
    exact .refl client

theorem advance_linkOpened : Advance client (client.linkOpened number) := by
  obtain ⟨generation, url, found, stands, opened⟩ | ⟨generation, url, -, -, opened⟩ |
    ⟨-, opened⟩ := client.linkOpened_cases number
  · have current : generation = client.connection.generation :=
      (client.connection.stands_iff generation).mp stands
    have settled := Settled.modify client.links number
      (.receiving client.connection.channels.length) (by simp)
    rw [opened]
    simp only [Connection.establish, stands, if_true]
    refine ⟨by simp [Connection.publish, addCalls], fun chained => ?_, fun _ _ => rfl⟩
    exact
      { ordered := settled.generations ▸ chained.ordered
        reached := by
          intro link member
          have known : link.generation ∈ client.links.map Link.generation :=
            settled.generations ▸ List.mem_map_of_mem member
          obtain ⟨earlier, earlier_member, same⟩ := List.mem_map.mp known
          simpa [Connection.publish, addCalls, ← same] using
            chained.reached earlier earlier_member
        connecting := by
          intro link member connects same
          have apart := generation_ne_of_connecting chained.ordered found
            (.receiving client.connection.channels.length) (by simp) link member connects
          refine absurd ?_ apart
          simpa [Connection.publish, addCalls, current] using same
        outbound := fun _ => rfl }
  · obtain ⟨current, outbound⟩ := client.connection.withRefusedChannel.hangUp_snd
      client.connection.channels.length
    rw [opened]
    exact .of_kept (by simp [Connection.withRefusedChannel])
      (congrArg Snapshot.status current) (by rw [connection_setLink, outbound]; exact id)
      (.modify client.links number .ended (by simp)) (fun pending => pending)
  · rw [opened]
    exact .refl client

theorem advance_linkFailed (cause : TransportError) :
    Advance client (client.linkFailed number cause) := by
  obtain ⟨generation, url, found, failed⟩ | ⟨-, failed⟩ := client.linkFailed_cases number cause
  · rw [failed]
    obtain ⟨stands, lost⟩ | ⟨-, lost⟩ :=
      (client.setLink number .ended).generationRefused_cases generation cause
    · have current : generation = client.connection.generation :=
        (client.connection.stands_iff generation).mp stands
      have settled := Settled.modify client.links number .ended (by simp)
      rw [connection_setLink] at stands
      rw [lost]
      simp only [connection_setLink, Connection.lose, stands, if_true]
      refine .of_parted (by simp [Connection.publish]) (by simp [Connection.publish]) settled ?_ ?_
      · intro linked
        -- The connection was connecting, so nothing was pending.
        refine Decidable.byContradiction fun some_pending => ?_
        have open_ := linked.pending some_pending
        have connecting := linked.connecting _ (List.mem_of_getElem? found) rfl current
        rw [open_] at connecting
        exact absurd connecting (by decide)
      · intro chained link member connects
        simpa [Connection.publish, current] using
          generation_ne_of_connecting chained.ordered found .ended (by simp) link member connects
    · rw [lost]
      exact client.advance_setLink number .ended (by simp)
  · rw [failed]
    exact .refl client

/-- A link that ends takes its generation along. -/
theorem advance_generationLost {generation : Nat} {url : String} {stage : LinkStage}
    (found : client.links[number]? = some ⟨generation, url, stage⟩) (reason : String) :
    Advance client ((client.setLink number .ended).generationLost generation reason) := by
  obtain ⟨stands, lost⟩ | ⟨-, lost⟩ :=
    (client.setLink number .ended).generationLost_cases generation reason
  · have current : generation = client.connection.generation :=
      (client.connection.stands_iff generation).mp stands
    rw [connection_setLink] at stands
    rw [lost]
    simp only [connection_setLink, Connection.lose, stands, if_true]
    refine .of_parted (by simp [Connection.publish]) (by simp [Connection.publish])
      (.modify client.links number .ended (by simp)) (fun _ => rfl) ?_
    intro chained link member connects
    simpa [Connection.publish, current] using
      generation_ne_of_connecting chained.ordered found .ended (by simp) link member connects
  · rw [lost]
    exact client.advance_setLink number .ended (by simp)

theorem advance_received (item : Option StreamItem) :
    Advance client (client.received number item) := by
  obtain ⟨text, -, -, received⟩ | ⟨-, generation, url, channel, reason, found, -, received⟩ |
    ⟨-, -, received⟩ := client.received_cases number item
  · rw [received]
    exact client.advance_inbound text
  · rw [received]
    exact client.advance_generationLost number found reason
  · rw [received]
    exact .refl client

theorem advance_endGeneration : Advance client client.endGeneration := by
  refine .of_parted (Nat.le_succ _) (by simp [endGeneration, Connection.supersede,
    Connection.publish]) (.refl _) (fun _ => rfl) ?_
  intro chained link member connects
  have reached := chained.reached link member
  simp only [endGeneration, Connection.generation_supersede]
  omega

/-- A link for a new generation is opened while no request is pending. -/
theorem advance_dial (idle : client.inFlight.pending = []) (url : String) :
    Advance client
      { client with
        connection := (client.connection.dial url).2
        links := client.links ++ [⟨(client.connection.dial url).1, url, .connecting⟩] } where
  generation_le := Nat.le_succ _
  chained := fun chained =>
    { ordered := by
        rw [List.map_append, List.pairwise_append]
        refine ⟨chained.ordered, List.pairwise_singleton .., ?_⟩
        intro earlier member later latest
        obtain ⟨link, link_member, rfl⟩ := List.mem_map.mp member
        obtain rfl : later = client.connection.generation + 1 := by
          simpa [Connection.dial] using latest
        exact Nat.lt_succ_of_le (chained.reached link link_member)
      reached := by
        intro link member
        rcases List.mem_append.mp member with member | member
        · exact Nat.le_succ_of_le (chained.reached link member)
        · obtain rfl := List.mem_singleton.mp member
          exact Nat.le_refl _
      connecting := fun _ _ _ _ => rfl
      outbound := by simp [Connection.dial, Connection.publish] }
  pending := fun _ some_pending => absurd idle some_pending

theorem advance_runLink : Advance client (client.runLink number) := by
  have assigned : Advance client
      { client with connection := (client.connection.assign number).2 } :=
    .of_kept rfl rfl id (.refl _) id
  obtain ⟨-, ran⟩ | ⟨other, -, ran⟩ := client.runLink_cases number
  · rwa [ran]
  · rw [ran]
    exact assigned.trans (advance_setLink _ other .ended (by simp))

theorem advance_carryOut (purpose : Purpose) : Advance client (client.carryOut purpose) := by
  cases purpose with
  | close => exact client.advance_endGeneration
  | reopen url =>
      have opened := client.advance_endGeneration.trans
        (client.endGeneration.advance_dial rfl url)
      exact opened.trans (advance_runLink _ client.endGeneration.links.length)

theorem generation_lt_carryOut (purpose : Purpose) :
    client.connection.generation < (client.carryOut purpose).connection.generation := by
  have ended : client.endGeneration.connection.generation = client.connection.generation + 1 := rfl
  cases purpose with
  | close => exact Nat.lt_succ_self _
  | reopen url =>
      have opened := ((client.endGeneration.advance_dial rfl url).trans
        (advance_runLink _ client.endGeneration.links.length)).generation_le
      exact Nat.lt_of_lt_of_le (by omega) opened

theorem advance_tearDown (purpose : Purpose) : Advance client (client.tearDown purpose) := by
  have unassigned : Advance client { client with connection := client.connection.unassign.2 } :=
    .of_kept rfl rfl id (.refl _) id
  obtain ⟨-, torn⟩ | ⟨link, -, -, torn⟩ := client.tearDown_cases purpose
  · rw [torn]
    exact unassigned.trans (advance_carryOut _ purpose)
  · rw [torn]
    exact (unassigned.trans (advance_setLink _ link .ended (by simp))).trans (.of_eq rfl rfl rfl)

theorem advance_resume : Advance client (client.resume number) := by
  obtain ⟨-, resumed⟩ | ⟨purpose, -, resumed⟩ := client.resume_cases number
  · rw [resumed]
    exact .refl client
  · have taken : Advance client { client with teardowns := client.teardowns.eraseIdx number } :=
      .of_eq rfl rfl rfl
    rw [resumed]
    exact taken.trans (advance_carryOut _ purpose)

theorem advance_tick : Advance client client.tick := by
  obtain ⟨ticker, calls, ticked, -, -⟩ := client.tick_eq
  rw [ticked]
  exact .of_eq rfl rfl rfl

end Operations

/-! ## Steps -/

theorem advance_applyOutside (client : Client) (action : Action) :
    Advance client (client.applyOutside action).2 := by
  cases action with
  | pump channel =>
      obtain ⟨current, outbound⟩ := client.connection.receive_snd channel
      exact .of_kept (by simp [applyOutside]) (by simp [applyOutside, current])
        (by simp [applyOutside, outbound]) (.refl _) id
  | hangUp channel =>
      obtain ⟨current, outbound⟩ := client.connection.hangUp_snd channel
      exact .of_kept (by simp [applyOutside]) (by simp [applyOutside, current])
        (by simp [applyOutside, outbound]) (.refl _) id
  | observe observer =>
      dsimp only [applyOutside]
      split
      · exact .of_kept rfl rfl id (.refl _) id
      · exact .refl client
  | _ => exact .of_eq rfl rfl rfl

theorem advance_applyTask (client : Client) (action : Action) :
    Advance client (client.applyTask action).2 := by
  cases action with
  | start call => exact client.advance_start call
  | wake call => exact client.advance_wake call
  | resume teardown => exact client.advance_resume teardown
  | linkOpened link => exact client.advance_linkOpened link
  | linkFailed link cause => exact client.advance_linkFailed link cause
  | received link item => exact client.advance_received link item
  | tick => exact client.advance_tick
  | _ => exact client.advance_applyOutside _

theorem advance_applyHeld (client : Client) (action : Action) :
    Advance client (client.applyHeld action).2 := by
  cases action with
  | connect url => exact client.advance_tearDown (.reopen url)
  | close =>
      have stopped : Advance client { client with ticker := none } := .of_eq rfl rfl rfl
      exact stopped.trans (advance_tearDown _ .close)
  | inbound text => exact client.advance_inbound text
  | startRefresh interval calls =>
      dsimp only [applyHeld, startRefresh]
      split <;> exact .of_eq rfl rfl rfl
  | call method params => exact .of_eq rfl rfl rfl
  | setGap gap => exact .of_eq rfl rfl rfl
  | stopRefresh => exact .of_eq rfl rfl rfl
  | subscribe => exact .of_eq rfl rfl rfl
  | watch => exact .of_kept rfl rfl id (.refl _) id
  | drop => exact .of_eq rfl rfl rfl
  | _ => exact client.advance_applyTask _

theorem advance_step (client : Client) (action : Action) : Advance client (client.step action) := by
  rw [step_eq]
  refine Advance.trans ?_ (advance_dissolve _)
  split
  · exact client.advance_applyHeld action
  · split
    · exact client.advance_applyTask action
    · exact client.advance_applyOutside action

theorem advance_run (client : Client) (actions : List Action) :
    Advance client (client.run actions) := by
  induction actions generalizing client with
  | nil => exact .refl client
  | cons action rest induction => exact (client.advance_step action).trans (induction _)

theorem linked_run (settings : Settings) (limits : Limits) (wall : Timestamp)
    (actions : List Action) : ((new settings limits wall).run actions).Linked :=
  (advance_run _ actions).linked (linked_new settings limits wall)

end Client

end GatewayLink
