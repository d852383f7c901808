import GatewayLink.Proofs.Client.Parting
import GatewayLink.Proofs.Client.Publishing
import GatewayLink.Proofs.Client.Resting
import GatewayLink.Proofs.Client.Steadiness

/-!
# What is left after a client was closed

To close ends the current generation, at once or as soon as the link that was aborted has ended.
From then on every link and every handshake is late, so nothing that they report opens the
connection again.  Every request that was pending has been given up, and one that is registered
later cannot be sent.
-/

namespace GatewayLink

theorem Connection.unassign_of_idle {connection : Connection} (idle : connection.task = none) :
    connection.unassign = (none, connection) := by
  rw [unassign, idle, ← idle]

namespace Client

/-! ## Late links and handshakes -/

/-- Every link and every handshake of a client is of a generation that is over. -/
structure IsLate (client : Client) : Prop where
  links : ∀ link ∈ client.links, link.generation < client.connection.generation
  handshakes : ∀ call ∈ client.roster, ∀ generation, call.caller = .handshake generation →
    generation < client.connection.generation

section Late

variable {client : Client}

/-- What is reported about late links and handshakes is not published. -/
theorem current_step_of_late (late : client.IsLate) (action : Action)
    (calm : action.intervenes = false) (waits : action.resumes = false) :
    (client.step action).connection.current = client.connection.current := by
  have latest : (client.step action).connection.face.1.head? =
      some (client.step action).connection.current := rfl
  have announced := client.announced_step action
  generalize (client.step action).connection.face = face at announced latest
  cases announced with
  | silent => exact (Option.some.inj latest).symm
  | carriedOut purpose asked =>
      cases action with
      | connect url => cases calm
      | close => cases calm
      | resume teardown => cases waits
      | _ => cases asked
  | opened link url reported found =>
      exact absurd rfl (Nat.ne_of_lt (late.links _ (List.mem_of_getElem? found)))
  | parted link member current => exact absurd current (Nat.ne_of_lt (late.links link member))
  | greeted number call id handle response welcome is_wake answered opens =>
      have entry := List.mem_of_getElem? (getElem?_roster answered.found)
      have caller := (opening?_eq_some_iff.mp opens).1
      exact absurd rfl (Nat.ne_of_lt (late.handshakes _ entry _ caller))

theorem roster_step_of_late (late : client.IsLate) (action : Action) :
    ∀ call ∈ (client.step action).roster, ∀ generation, call.caller = .handshake generation →
      call ∈ client.roster := by
  intro call member generation caller
  obtain ⟨fresh, roster, handshakes⟩ := client.roster_step action
  rw [roster] at member
  refine (List.mem_append.mp member).resolve_right fun latest => ?_
  obtain ⟨rfl, link, link_member, current⟩ := handshakes call latest generation caller
  exact absurd current (Nat.ne_of_lt (late.links link link_member))

theorem IsLate.of_le (late : client.IsLate) {after : Client}
    (reached : client.connection.generation ≤ after.connection.generation)
    (generations : after.links.map Link.generation = client.links.map Link.generation)
    (made : ∀ call ∈ after.roster, ∀ generation, call.caller = .handshake generation →
      call ∈ client.roster) : after.IsLate where
  links := by
    intro link member
    have known : link.generation ∈ client.links.map Link.generation :=
      generations ▸ List.mem_map_of_mem member
    obtain ⟨earlier, earlier_member, same⟩ := List.mem_map.mp known
    rw [← same]
    exact Nat.lt_of_lt_of_le (late.links earlier earlier_member) reached
  handshakes := fun call member generation caller =>
    Nat.lt_of_lt_of_le
      (late.handshakes call (made call member generation caller) generation caller) reached

end Late

/-! ## Closing -/

/-- A client that was closed and waits for its link to end. -/
structure Closing (url : Option String) (generation : Nat) (client : Client) : Prop where
  teardowns : client.teardowns = [.close]
  ticker : client.ticker = none
  aim : client.connection.aim = (url, generation, none)

/-- A client that is closed: the generation that was there is over. -/
structure Closed (url : Option String) (generation : Nat) (client : Client) : Prop where
  teardowns : client.teardowns = []
  ticker : client.ticker = none
  aim : client.connection.aim = (url, generation + 1, none)
  current : client.connection.current = ⟨url, .disconnected, none, none, generation + 1⟩
  late : client.IsLate

section Close

variable {client : Client} {url : Option String} {generation : Nat}

theorem Closing.task (closing : Closing url generation client) : client.connection.task = none :=
  congrArg (fun aim => aim.2.2) closing.aim

theorem Closed.task (closed : Closed url generation client) : client.connection.task = none :=
  congrArg (fun aim => aim.2.2) closed.aim

theorem Closed.generation_eq (closed : Closed url generation client) :
    client.connection.generation = generation + 1 :=
  congrArg (fun aim => aim.2.1) closed.aim

theorem isLate_endGeneration (chained : client.Chained) (introduced : client.Introduced) :
    client.endGeneration.IsLate where
  links := fun link member => Nat.lt_succ_of_le (chained.reached link member)
  handshakes := fun call member generation caller =>
    Nat.lt_succ_of_le (introduced.reached call member generation caller).1

/-- To end a generation without a ticker and without a task closes a client. -/
theorem closed_endGeneration (chained : client.Chained) (introduced : client.Introduced)
    (teardowns : client.teardowns = []) (ticker : client.ticker = none)
    (aim : client.connection.aim = (url, generation, none)) :
    Closed url generation client.endGeneration := by
  obtain ⟨rfl, same⟩ := Prod.mk.inj aim
  obtain ⟨rfl, task⟩ := Prod.mk.inj same
  have still : client.connection.uninstall.aim = client.connection.aim :=
    client.connection.aim_uninstall
  have idle : client.connection.uninstall.task = none :=
    (congrArg (fun aim => aim.2.2) still).trans task
  refine ⟨teardowns, ticker, ?_, ?_, isLate_endGeneration chained introduced⟩
  · simp [Connection.aim, endGeneration, Connection.supersede, Connection.publish,
      Snapshot.withoutSession, idle]
  · simp [endGeneration, Connection.supersede, Connection.publish, Snapshot.withoutSession]

theorem Closing.of_stays (closing : Closing url generation client) {after : Client}
    (stays : Stays client after) : Closing url generation after :=
  ⟨stays.teardowns.trans closing.teardowns, stays.ticker closing.ticker,
    (stays.aim closing.task).trans closing.aim⟩

theorem Closed.of_stays (closed : Closed url generation client) {after : Client}
    (stays : Stays client after)
    (current : after.connection.current = client.connection.current)
    (made : ∀ call ∈ after.roster, ∀ generation, call.caller = .handshake generation →
      call ∈ client.roster) : Closed url generation after := by
  have aim := (stays.aim closed.task).trans closed.aim
  have same : after.connection.generation = client.connection.generation :=
    congrArg (fun aim => aim.2.1) (stays.aim closed.task)
  exact
    { teardowns := stays.teardowns.trans closed.teardowns
      ticker := stays.ticker closed.ticker
      aim := aim
      current := current.trans closed.current
      late := closed.late.of_le (Nat.le_of_eq same.symm) stays.generations made }

theorem Closed.dissolve (closed : Closed url generation client) :
    Closed url generation client.dissolve :=
  closed.of_stays client.stays_dissolve client.current_dissolve fun call member _ _ => by
    simpa [roster] using member

/-- What is closed stays closed. -/
theorem Closed.step (closed : Closed url generation client) (action : Action)
    (calm : action.intervenes = false) : Closed url generation (client.step action) := by
  cases waits : action.resumes with
  | false =>
      exact closed.of_stays (client.stays_step action calm waits)
        (current_step_of_late closed.late action calm waits)
        (roster_step_of_late closed.late action)
  | true =>
      cases action with
      | resume number =>
          have unchanged : client.resume number = client := by simp [resume, closed.teardowns]
          rw [step_resume, unchanged]
          exact closed.dissolve
      | _ => cases waits

/-- A client that closes is closed as soon as its link has ended, and gives its requests up. -/
theorem Closing.step (closing : Closing url generation client) (chained : client.Chained)
    (introduced : client.Introduced) (action : Action) (calm : action.intervenes = false) :
    Closing url generation (client.step action) ∨
      (Closed url generation (client.step action) ∧ client.clears action = true) := by
  cases waits : action.resumes with
  | false => exact .inl (closing.of_stays (client.stays_step action calm waits))
  | true =>
      cases action with
      | resume number =>
          rw [step_resume]
          cases number with
          | zero =>
              have carried : client.resume 0 =
                  { client with teardowns := [] }.endGeneration := by
                simp [resume, closing.teardowns, carryOut]
              have ended : Closed url generation { client with teardowns := [] }.endGeneration :=
                closed_endGeneration { chained with } { introduced with } rfl closing.ticker
                  closing.aim
              rw [carried]
              exact .inr ⟨ended.dissolve, by simp [clears, closing.teardowns]⟩
          | succ number =>
              have unchanged : client.resume (number + 1) = client := by
                simp [resume, closing.teardowns]
              rw [unchanged]
              exact .inl (closing.of_stays client.stays_dissolve)
      | _ => cases waits

theorem Closed.outbound (closed : Closed url generation client) (chained : client.Chained) :
    client.connection.outbound = none := by
  rw [← Option.not_isSome_iff_eq_none]
  intro installed
  have open_ := chained.outbound installed
  rw [closed.current] at open_
  cases open_

/-- To close a client that is closed raises the generation and gives up what is pending. -/
theorem Closed.close (closed : Closed url generation client)
    (outbound : client.connection.outbound = none) :
    client.close =
      { client with
        connection :=
          { client.connection with
            generation := generation + 2
            current := { client.connection.current with generation := generation + 2 }
            earlier := client.connection.current :: client.connection.earlier }
        inFlight := client.inFlight.abandonAll.2 } := by
  have superseded : client.connection.supersede =
      { client.connection with
        generation := generation + 2
        current := { client.connection.current with generation := generation + 2 }
        earlier := client.connection.current :: client.connection.earlier } := by
    have uninstalled : client.connection.uninstall = client.connection := by
      simp [Connection.uninstall, outbound]
    simp [Connection.supersede, uninstalled, closed.generation_eq, closed.current,
      Connection.publish, Snapshot.withoutSession]
  have stopped : { client with ticker := none } = client := by rw [← closed.ticker]
  have ended : client.close = client.endGeneration := by
    rw [Client.close, stopped, tearDown, Connection.unassign_of_idle closed.task]
    rfl
  rw [ended, endGeneration, superseded]

end Close

/-! ## Calls of a client that is closed -/

/-- Whether a move opens or closes the connection or starts a ticker. -/
def Move.intervenes : Move → Bool
  | .act action => action.intervenes
  | .giveUp _ => false

/-- Whether nothing but an answer can still come for a call: it waits, or it was dropped, if those
count. -/
def lingers (dropped : Bool) : CallStage → Bool
  | .waiting .. => true
  | .dropped _ => dropped
  | _ => false

/-- No answer comes any more for the calls that linger. -/
def Forsaken (dropped : Bool) (client : Client) : Prop :=
  ∀ number call ticket, Holds client.calls number call ticket →
    lingers dropped call.stage = true → client.IsUsedUp ticket.id

section Forsaken

variable {client : Client} {dropped : Bool}

theorem forsaken_of_nil (attributed : client.IsAttributed)
    (cleared : client.inFlight.pending = []) : Forsaken dropped client := by
  intro number call ticket holds lingering
  refine isUsedUp_of_holds attributed holds ?_ fun numbered => ?_
  · simp [InFlight.awaits, InFlight.find?, cleared]
  · simp [lingers, numbered] at lingering

/-- Where no channel is installed no call comes to wait. -/
theorem Forsaken.move (forsaken : Forsaken dropped client)
    (outbound : client.connection.outbound = none) {move : Move}
    (kept : dropped = true → ∀ number, move ≠ .giveUp number) :
    Forsaken dropped (client.move move) := by
  intro number call ticket holds lingering
  have same (found : client.calls[number]? = some call) : (client.move move).IsUsedUp ticket.id :=
    isUsedUp_move (forsaken number call ticket ⟨found, holds.2⟩ lingering) move
  cases arrived_move holds.1 with
  | same found kept => exact same found
  | fresh ready => simp [lingers, ready] at lingering
  | dropped is_giveUp other stage =>
      have counts : dropped = true := by simpa [lingers, stage] using lingering
      exact absurd is_giveUp (kept counts number)
  | woke is_wake before id handle since found waiting after woke there =>
      obtain stands | ⟨result, rfl⟩ := woke.stands_or_returned found there
      · exact same stands
      · cases lingering
  | advanced is_start before found ahead after advanced there =>
      cases advanced with
      | sent id handle since stage connection sends =>
          have installed := (Connection.send_ok sends).1
          simp [outbound] at installed
      | _ =>
          obtain rfl := eq_of_modify found there
          cases lingering

end Forsaken

/-- A client that was closed: its link is still to end, or it is closed and no answer comes any more
for the calls that linger. -/
def Shut (url : Option String) (generation : Nat) (dropped : Bool) (client : Client) : Prop :=
  Closing url generation client ∨ (Closed url generation client ∧ Forsaken dropped client)

section Shut

variable {client : Client} {url : Option String} {generation : Nat} {dropped : Bool}

theorem Shut.move (shut : Shut url generation dropped client) (sound : client.IsSound) {move : Move}
    (calm : move.intervenes = false) (kept : dropped = true → ∀ number, move ≠ .giveUp number) :
    Shut url generation dropped (client.move move) := by
  rcases shut with closing | ⟨closed, forsaken⟩
  · obtain ⟨after, moved, steady⟩ | ⟨action, rfl, moved⟩ := client.steady_or_step move
    · rw [moved]
      exact .inl (closing.of_stays (steady.stays.trans after.stays_dissolve))
    · have attributed := isAttributed_move sound.attributed (.act action)
      rw [moved] at attributed ⊢
      refine (closing.step sound.chained sound.introduced action calm).imp_right ?_
      exact fun ⟨closed, clears⟩ => ⟨closed, forsaken_of_nil attributed (pending_of_clears clears)⟩
  · refine .inr ⟨?_, forsaken.move (closed.outbound sound.chained) kept⟩
    obtain ⟨after, moved, steady⟩ | ⟨action, rfl, moved⟩ := client.steady_or_step move
    · rw [moved]
      refine (closed.of_stays steady.stays steady.current fun call member _ _ => ?_).dissolve
      rwa [← steady.roster]
    · rw [moved]
      exact closed.step action calm

theorem Shut.weave (shut : Shut url generation dropped client) (sound : client.IsSound)
    {moves : List Move} (calm : ∀ move ∈ moves, move.intervenes = false)
    (kept : dropped = true → ∀ number, .giveUp number ∉ moves) :
    Shut url generation dropped (client.weave moves) := by
  induction moves generalizing client with
  | nil => exact shut
  | cons move rest induction =>
      obtain ⟨calm_now, calm_later⟩ := List.forall_mem_cons.mp calm
      refine induction (shut.move sound calm_now fun counts number same => ?_)
        (isSound_move sound move) calm_later fun counts number member => ?_
      · exact kept counts number (same ▸ List.mem_cons_self)
      · exact kept counts number (List.mem_cons_of_mem _ member)

end Shut

/-! ## A client at rest -/

section Rest

variable {client : Client} {number : Nat} {call : Call} {id : String} {handle : Handle}

end Rest

end Client

end GatewayLink
