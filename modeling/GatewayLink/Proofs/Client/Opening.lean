import Mathlib.Data.List.Induction
import GatewayLink.Proofs.Client.Sending

/-!
# What is sent on a connection first

When a generation is opened its channel is installed and its handshake is ready, but a call that is
ready too may begin before it.  So as long as nothing was queued in the channel the handshake has
not begun, and the first text of the channel is that of whichever call begins first.
-/

namespace GatewayLink

namespace Client

/-- A generation has one handshake at most, and none as long as its link connects. -/
structure Introduced (client : Client) : Prop where
  reached : ∀ call ∈ client.roster, ∀ generation, call.caller = .handshake generation →
    generation ≤ client.connection.generation ∧ call.method = openingMethod
  single : client.roster.Pairwise fun first second =>
    ∀ generation, first.caller = .handshake generation → second.caller ≠ .handshake generation
  waiting : ∀ link ∈ client.links, link.stage = .connecting →
    ∀ call ∈ client.roster, call.caller ≠ .handshake link.generation

theorem introduced_new (settings : Settings) (limits : Limits) (wall : Timestamp) :
    (new settings limits wall).Introduced where
  reached := by simp [roster, new]
  single := List.Pairwise.nil
  waiting := by simp [new]

/-- The handshake of the current generation has not begun. -/
def HandshakeReady (client : Client) (opener : Nat) (handshake : Call) : Prop :=
  client.calls[opener]? = some handshake ∧
    handshake.caller = .handshake client.connection.generation ∧ handshake.stage = .ready

/-- As long as nothing was queued in the installed channel, and its texts are still taken out, the
handshake has not begun. -/
def Poised (client : Client) : Prop :=
  ∀ channel, client.connection.outbound = some channel →
    client.connection.textsOf channel = [] → client.connection.hasReceiver channel = true →
      ∃ opener handshake, client.HandshakeReady opener handshake

theorem poised_new (settings : Settings) (limits : Limits) (wall : Timestamp) :
    (new settings limits wall).Poised := by
  intro channel installed
  cases installed

section Step

variable {client : Client}

theorem introduced_step (introduced : client.Introduced) (chained : client.Chained)
    (action : Action) : (client.step action).Introduced := by
  have turn := client.turn_step action
  generalize client.step action = after at turn
  cases turn with
  | retained retains =>
      obtain ⟨fresh, others, roster⟩ := retains.roster
      have known {call : Call} {generation : Nat} (member : call ∈ after.roster)
          (caller : call.caller = .handshake generation) : call ∈ client.roster := by
        rw [roster] at member
        exact (List.mem_append.mp member).resolve_right fun latest =>
          others call latest generation caller
      refine ⟨fun call member generation caller => ?_, ?_,
        fun link member connects call made caller => ?_⟩
      · obtain ⟨reached, opening⟩ :=
          introduced.reached call (known member caller) generation caller
        exact ⟨Nat.le_trans reached retains.generation_le, opening⟩
      · rw [roster, List.pairwise_append]
        refine ⟨introduced.single, ?_, fun first _ second member generation _ =>
          others second member generation⟩
        exact List.pairwise_iff_getElem.mpr fun _ _ _ inside _ generation _ =>
          others _ (List.getElem_mem inside) generation
      · have earlier_call := known made caller
        rcases retains.connecting link member connects with earlier | later
        · exact introduced.waiting link earlier connects call earlier_call caller
        · have reached := (introduced.reached call earlier_call _ caller).1
          omega
  | sent number call channel handle since is_start found ready installed held texts receivers
      outbound generation links calls issued logbook =>
      have roster : after.roster = client.roster := by
        rw [Client.roster, calls]
        exact client.roster_setStage number _
      exact
        { reached := by rw [roster, generation]; exact introduced.reached
          single := by rw [roster]; exact introduced.single
          waiting := by rw [roster, links]; exact introduced.waiting }
  | opened link url found texts outbound generation links calls =>
      have roster : after.roster =
          client.roster ++ [client.handshakeCall client.connection.generation] := by
        simp [Client.roster, calls, handshakeCall, Call.unbegun]
      have unmade := introduced.waiting _ (List.mem_of_getElem? found) rfl
      refine ⟨fun call member other caller => ?_, ?_,
        fun other member connects call made caller => ?_⟩
      · rw [roster] at member
        rw [generation]
        rcases List.mem_append.mp member with earlier | latest
        · exact introduced.reached call earlier other caller
        · obtain rfl := List.mem_singleton.mp latest
          obtain rfl := Caller.handshake.inj caller
          exact ⟨Nat.le_refl _, rfl⟩
      · rw [roster, List.pairwise_append]
        refine ⟨introduced.single, List.pairwise_singleton .., fun first member second latest => ?_⟩
        obtain rfl := List.mem_singleton.mp latest
        rintro other first_caller ⟨⟩
        exact unmade first member first_caller
      · rw [links] at member
        have apart := generation_ne_of_connecting chained.ordered found _ (by simp) other member
          connects
        rw [roster] at made
        rcases List.mem_append.mp made with earlier | latest
        · have known := (Settled.modify client.links link _ (by simp)).connecting other member
            connects
          exact introduced.waiting other known connects call earlier caller
        · obtain rfl := List.mem_singleton.mp latest
          exact apart (Caller.handshake.inj caller).symm

/-- A handshake that begins is sent, if its generation is the current one and its texts are still
taken out. -/
theorem textsOf_start_handshake {opener channel : Nat} {handshake : Call}
    (ready : client.HandshakeReady opener handshake) (correlated : client.IsCorrelated)
    (installed : client.connection.outbound = some channel)
    (held : client.connection.hasReceiver channel = true) :
    (client.step (.start opener)).connection.textsOf channel ≠ [] := by
  obtain ⟨found, caller, not_begun⟩ := ready
  have started : client.start opener =
      client.issue opener handshake.method handshake.params := by
    obtain ⟨own, method, params, stage⟩ := handshake
    obtain rfl : own = .handshake client.connection.generation := caller
    obtain rfl : stage = .ready := not_begun
    simp [start, found, Client.handshake, Connection.stands]
  rw [step_start, (client.start opener).retains_dissolve.texts, started]
  have issued := issue_cases client opener handshake
  generalize client.issue opener handshake.method handshake.params = after at issued
  cases issued with
  | duplicate awaited =>
      rw [correlated.next_free] at awaited
      cases awaited
  | unsent free cause fails =>
      rw [Connection.hasReceiver_of_send_error installed fails] at held
      cases held
  | sent free connection sends =>
      obtain ⟨other, other_installed, -, -, texts⟩ := Connection.textsOf_send sends
      obtain rfl : channel = other := Option.some.inj (installed.symm.trans other_installed)
      rw [connection_setStage, texts, if_pos rfl]
      simp

theorem poised_step (poised : client.Poised) (correlated : client.IsCorrelated) (action : Action) :
    (client.step action).Poised := by
  intro channel installed empty held
  have turn := client.turn_step action
  cases turn with
  | opened link url found texts outbound generation links calls =>
      exact ⟨client.calls.length, client.handshakeCall client.connection.generation,
        by simp [calls], by rw [generation]; rfl, rfl⟩
  | sent number call other handle since is_start found ready other_installed other_held texts
      receivers outbound generation links calls issued logbook =>
      rw [outbound, other_installed, Option.some.injEq] at installed
      rw [texts, if_pos installed.symm] at empty
      simp at empty
  | retained retains =>
      obtain ⟨before, generation⟩ := retains.installed channel installed
      have empty_before : client.connection.textsOf channel = [] := by rw [← retains.texts, empty]
      have held_before := retains.receivers channel held
      obtain ⟨opener, handshake, ready⟩ := poised channel before empty_before held_before
      obtain ⟨found, caller, not_begun⟩ := ready
      refine ⟨opener, handshake, ?_, by rw [caller, generation], not_begun⟩
      by_cases is_start : action = .start opener
      · subst is_start
        exact absurd empty
          (textsOf_start_handshake ⟨found, caller, not_begun⟩ correlated before held_before)
      · by_cases is_wake : action = .wake opener
        · subst is_wake
          have asleep : handshake.stage.isWaiting = false := by rw [not_begun]; rfl
          rw [step_wake, calls_dissolve, wake_of_not_isWaiting found asleep, found]
        · exact getElem?_step_of_ne found is_start is_wake

end Step

section Run

variable (settings : Settings) (limits : Limits) (wall : Timestamp) (actions : List Action)

theorem introduced_run : ((new settings limits wall).run actions).Introduced := by
  induction actions using List.reverseRecOn with
  | nil => exact introduced_new settings limits wall
  | append_singleton front action induction =>
      rw [run_append]
      exact introduced_step induction (linked_run settings limits wall front).toChained action

theorem poised_run : ((new settings limits wall).run actions).Poised := by
  induction actions using List.reverseRecOn with
  | nil => exact poised_new settings limits wall
  | append_singleton front action induction =>
      rw [run_append]
      exact poised_step induction (isCorrelated_run settings limits wall front) action

end Run

/-- A call is the first that is sent in a channel: the channel is installed and empty, and the only
handshake of the current generation has not begun. -/
structure BeginsFirst (client : Client) (channel number : Nat) (call : Call) : Prop where
  installed : client.connection.outbound = some channel
  empty : client.connection.textsOf channel = []
  found : client.calls[number]? = some call
  ready : call.stage = .ready
  handshake : ∃ opener handshake, client.HandshakeReady opener handshake ∧
    handshake.method = openingMethod ∧
    ∀ other otherCall, client.calls[other]? = some otherCall →
      otherCall.caller = .handshake client.connection.generation → other = opener

theorem Introduced.unique {client : Client} (introduced : client.Introduced) {first second : Nat}
    {call other : Call} {generation : Nat} (found : client.roster[first]? = some call)
    (caller : call.caller = .handshake generation) (other_found : client.roster[second]? = some other)
    (other_caller : other.caller = .handshake generation) : first = second := by
  obtain ⟨inside, rfl⟩ := List.getElem?_eq_some_iff.mp found
  obtain ⟨other_inside, rfl⟩ := List.getElem?_eq_some_iff.mp other_found
  have apart := List.pairwise_iff_getElem.mp introduced.single
  rcases Nat.lt_trichotomy first second with below | same | above
  · exact absurd other_caller (apart first second inside other_inside below generation caller)
  · exact same
  · exact absurd caller (apart second first other_inside inside above generation other_caller)

theorem Introduced.of_handshakeReady {client : Client} (introduced : client.Introduced)
    {opener : Nat} {handshake : Call} (ready : client.HandshakeReady opener handshake) :
    handshake.method = openingMethod ∧
      ∀ other otherCall, client.calls[other]? = some otherCall →
        otherCall.caller = .handshake client.connection.generation → other = opener := by
  obtain ⟨found, caller, -⟩ := ready
  have entry := getElem?_roster found
  exact ⟨(introduced.reached _ (List.mem_of_getElem? entry) _ caller).2,
    fun _ _ other_found other_caller =>
      introduced.unique (getElem?_roster other_found) other_caller entry caller⟩

/-- How the first text of a channel was queued along a run: by a call that began while the handshake
was ready. -/
def FirstSent (start : Client) (actions : List Action) (channel : Nat) (text : String) : Prop :=
  ∃ front number rest call, actions = front ++ .start number :: rest ∧
    (start.run front).BeginsFirst channel number call ∧
    text = (Outgoing.request ((start.run front).nextRequest call)).text

theorem FirstSent.append {start : Client} {actions : List Action} {channel : Nat} {text : String}
    (first : FirstSent start actions channel text) (more : List Action) :
    FirstSent start (actions ++ more) channel text := by
  obtain ⟨front, number, rest, call, split, begins, text_eq⟩ := first
  exact ⟨front, number, rest ++ more, call, by rw [split, List.append_assoc, List.cons_append],
    begins, text_eq⟩

/-- The first text that is queued in a channel is that of a call that begins first. -/
theorem firstSent_step {start : Client} {front : List Action} {channel : Nat} {action : Action}
    (introduced : (start.run front).Introduced) (poised : (start.run front).Poised)
    (empty : (start.run front).connection.textsOf channel = []) :
    ((start.run front).step action).connection.textsOf channel = [] ∨
      ∃ text, ((start.run front).step action).connection.textsOf channel = [text] ∧
        FirstSent start (front ++ [action]) channel text := by
  have turn := (start.run front).turn_step action
  cases turn with
  | retained retains => exact .inl (by rw [retains.texts, empty])
  | opened link url found texts => exact .inl (by rw [texts, empty])
  | sent number call other handle since is_start found ready installed held texts =>
      by_cases same : channel = other
      · subst same
        obtain ⟨opener, handshake, handshake_ready⟩ := poised channel installed empty held
        refine .inr ⟨_, by rw [texts, if_pos rfl, empty, List.nil_append], front, number, [], call,
          by rw [is_start], ?_, rfl⟩
        exact ⟨installed, empty, found, ready, opener, handshake, handshake_ready,
          introduced.of_handshakeReady handshake_ready⟩
      · exact .inl (by rw [texts, if_neg same, empty])

theorem firstSent_run (settings : Settings) (limits : Limits) (wall : Timestamp)
    (actions : List Action) (channel : Nat) :
    ((new settings limits wall).run actions).connection.textsOf channel = [] ∨
      ∃ text,
        (((new settings limits wall).run actions).connection.textsOf channel).head? = some text ∧
          FirstSent (new settings limits wall) actions channel text := by
  induction actions using List.reverseRecOn with
  | nil => exact .inl rfl
  | append_singleton front action induction =>
      rw [run_append]
      rcases induction with empty | ⟨text, first, sent⟩
      · have introduced := introduced_run settings limits wall front
        have poised := poised_run settings limits wall front
        rcases firstSent_step introduced poised empty with still | ⟨text, only, sent⟩
        · exact .inl still
        · exact .inr ⟨text, by rw [run_cons, run_nil, only]; rfl, sent⟩
      · rw [List.head?_eq_getElem?] at first
        have stays := getElem?_textsOf_step _ first action
        rw [← List.head?_eq_getElem?] at stays
        exact .inr ⟨text, stays, sent.append [action]⟩

/-- The first text of a channel is the handshake's, unless another call has begun while the
handshake was ready. -/
theorem first_text_precedes_or_is_handshake (settings : Settings) (limits : Limits)
    (wall : Timestamp) (actions : List Action) (channel : Nat) :
    let start := new settings limits wall
    let texts := (start.run actions).connection.textsOf channel
    (texts = [] ∨ ∃ text, texts.head? = some text ∧ FirstSent start actions channel text) ∧
      ((∀ front number rest call opener handshake, actions = front ++ .start number :: rest →
          (start.run front).calls[number]? = some call → call.stage = .ready →
          (start.run front).HandshakeReady opener handshake → number = opener) →
        texts = [] ∨ ∃ id params,
          texts.head? = some (Outgoing.request ⟨id, openingMethod, params⟩).text) := by
  intro start texts
  have first := firstSent_run settings limits wall actions channel
  refine ⟨first, fun orderly => first.imp_right ?_⟩
  rintro ⟨_, queued, front, number, rest, call, split, begins, rfl⟩
  obtain ⟨opener, handshake, ready, opening, -⟩ := begins.handshake
  obtain rfl := orderly front number rest call opener handshake split begins.found begins.ready ready
  obtain rfl : call = handshake := Option.some.inj (begins.found.symm.trans ready.1)
  refine ⟨((start.run front).issued + 1).repr, call.params, ?_⟩
  rw [← opening]
  exact queued

/-- A call that is ready when the connection opens is sent before the handshake if it begins
first. -/
theorem holder_call_is_sent_before_handshake :
    let client := (new .default .standard ⟨0, 0⟩).run
      [.connect "ws://gateway", .linkOpened 0, .call "feeds.list" (.object []), .start 1, .start 0]
    let listing := Outgoing.request ⟨"1", "feeds.list", .object []⟩
    let handshake := Outgoing.request ⟨"2", openingMethod,
      (Introduction.mk Settings.default.client Settings.default.protocol).params⟩
    client.connection.generation = 2 ∧
      client.calls.map Call.caller = [.handshake 2, .holder] ∧
      client.inFlight.pending = [⟨"1", "feeds.list", 0⟩, ⟨"2", openingMethod, 1⟩] ∧
      client.connection.textsOf 0 = [listing.text, handshake.text] ∧
      listing.text ≠ handshake.text := by
  decide +kernel

end Client

end GatewayLink
