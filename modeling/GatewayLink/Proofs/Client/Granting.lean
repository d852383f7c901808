import GatewayLink.Client.Settle
import GatewayLink.Proofs.Activity.Growth
import GatewayLink.Proofs.Client.Fate
import GatewayLink.Proofs.Frame.RoundTrip

/-!
# What a granted call returns

The payload of a response crosses the printer, the reader with its optional member, the handle of
the call and the default for an absent payload.  It comes through unchanged, up to one thing: a
payload that is `null` is read as absent, and the call returns the empty object in its place.
-/

namespace GatewayLink

open Json (nestingLimit)

namespace Response

/-- What a call returns for a payload that was sent. -/
def received (payload : Json) : Json :=
  if payload = .null then .object [] else payload

/-- A response that grants a request, as it is read. -/
def grantedAsRead (id : String) (payload : Json) : Response :=
  ⟨id, true, withoutNull (some payload), none⟩

/-- The default for an absent payload takes the place of `null`. -/
theorem verdict_grantedAsRead (id method : String) (payload : Json) :
    Client.verdict method (grantedAsRead id payload) = .ok (received payload) := by
  cases payload <;> rfl

theorem depth_granted (id : String) (payload : Json) :
    (Incoming.response (.granted id payload)).toJson.depth = payload.depth + 1 := by
  simp [Incoming.toJson, members, granted, Json.memberOf?, Json.depth, Json.depthOfMembers]

theorem responseOf?_granted {payload : Json} (portable : payload.Portable)
    (shallow : payload.depth < nestingLimit) (id : String) :
    Client.responseOf? (Incoming.response (.granted id payload)).text =
      some (grantedAsRead id payload) := by
  have whole : (Incoming.response (.granted id payload)).Portable := by
    refine ⟨fun value given => ?_, by simp [granted]⟩
    obtain rfl : payload = value := Option.some.inj given
    exact portable
  have decoded := Incoming.decode_text whole (by rw [depth_granted]; omega)
  simp only [Client.responseOf?, Incoming.parse, decoded]
  rfl

end Response

namespace Client

/-- A call that is granted leaves one bulletin, which shows the payload. -/
theorem activity_concluded (client : Client) {id method : String} {since : Nat}
    {response : Response} {payload : Json} (granted : verdict method response = .ok payload) :
    (client.concluded id method since response).activity =
      client.logbook.activity.push
        ⟨generatedId client.logbook.generated, method, payload.compact, .info⟩ := by
  unfold verdict at granted
  split at granted
  · rename_i ok
    obtain rfl := Except.ok.inj granted
    have outcome : CallStatus.ok = .ok ∨ CallStatus.ok = .error := .inl rfl
    simp only [concluded, ok, if_true,
      Logbook.settle_of_outcome client.logbook id .ok (client.elapsedSince since) outcome]
    rfl
  · cases granted

namespace Decided

variable {client : Client} {number : Nat} {call : Call} {id : String} {handle : Handle}
  {result : Except ClientError Json}

/-- A call that still waits once its result is decided can go on. -/
theorem canGoOn (decided : client.Decided number call id handle result)
    (found : client.calls[number]? = some call) : client.canGoOn call = true := by
  obtain ⟨since, waiting⟩ := decided.waiting
  rcases decided.stands with returned | ⟨-, cell, seen, shown⟩
  · have same := congrArg Call.stage (Option.some.inj (found.symm.trans returned))
    rw [waiting] at same
    cases same
  · cases cell with
    | answered response => simp [Client.canGoOn, waiting, InFlight.glance?, seen]
    | closed => simp [Client.canGoOn, waiting, InFlight.glance?, seen]
    | _ => cases shown

/-- A call that is granted and goes on posts the payload that it returns. -/
theorem activity_wake {payload : Json}
    (decided : client.Decided number call id handle (.ok payload))
    (found : client.calls[number]? = some call) :
    (client.step (.wake number)).logbook.activity =
      client.logbook.activity.push
        ⟨generatedId client.logbook.generated, call.method, payload.compact, .info⟩ := by
  have woken := decided.wake
  obtain ⟨since, waiting⟩ := decided.waiting
  rw [step_wake] at woken ⊢
  rw [logbook_dissolve]
  rw [calls_dissolve] at woken
  obtain ⟨other, otherId, otherHandle, otherSince, other_found, -, woke⟩ | ⟨asleep, -⟩ :=
    client.wake_cases number
  · obtain rfl : call = other := Option.some.inj (found.symm.trans other_found)
    generalize client.wake number = after at woke woken
    cases woke with
    | concluded response seen connection welcomed =>
        have stage : verdict call.method response = .ok payload := by
          simpa [found] using woken
        exact client.activity_concluded stage
    | abandoned seen => simp [fail, found] at woken
    | unchanged seen =>
        have same := congrArg Call.stage (Option.some.inj (found.symm.trans woken))
        rw [waiting] at same
        cases same
  · exact absurd waiting (asleep call id handle since found)

end Decided

theorem heard?_received {client : Client} {link generation channel : Nat} {url : String}
    (alive : client.isAlive = true)
    (found : client.links[link]? = some ⟨generation, url, .receiving channel⟩) (text : String) :
    client.heard? (.received link (some (.text text))) = some text := by
  simp [heard?, alive, found, StreamItem.reading?]

/-- When a response that grants a pending request is handed over, its call returns the payload, or
the empty object for `null`, whatever comes later. -/
theorem granted_call_returns_payload (settings : Settings) (limits : Limits) (wall : Timestamp)
    (actions : List Action) {number : Nat} {call : Call} {id : String} {handle : Handle}
    {payload : Json} {action : Action}
    (awaiting : ((new settings limits wall).run actions).Awaiting number call id handle)
    (portable : payload.Portable) (shallow : payload.depth < nestingLimit)
    (heard : ((new settings limits wall).run actions).heard? action =
      some (Incoming.response (.granted id payload)).text) (more : List Action) :
    let later := ((new settings limits wall).run (actions ++ [action])).run more
    let returned : Call := { call with stage := .returned (.ok (Response.received payload)) }
    (later.calls[number]? = some returned ∨
        later.calls[number]? = some call ∧ later.canGoOn call = true) ∧
      (later.step (.wake number)).calls[number]? = some returned ∧
      (later.calls[number]? = some call →
        (later.step (.wake number)).logbook.activity =
          later.logbook.activity.push ⟨generatedId later.logbook.generated, call.method,
            (Response.received payload).compact, .info⟩) := by
  intro later returned
  have correlated := isCorrelated_run settings limits wall actions
  have handed : ((new settings limits wall).run actions).response? action =
      some (.grantedAsRead id payload) := by
    simp only [response?, heard, Option.bind_some]
    exact Response.responseOf?_granted portable shallow id
  have fate := fate_of_awaiting awaiting correlated (action :: more)
  have departed : ((new settings limits wall).run actions).departure? id (action :: more) =
      some (.answered (.grantedAsRead id payload)) := by
    simp [departure?, handed, Response.grantedAsRead]
  rw [departed] at fate
  have decided : later.Decided number call id handle (.ok (Response.received payload)) := by
    have kept := fate.2
    rw [Departure.result, Response.verdict_grantedAsRead] at kept
    simpa [later, run_append] using kept
  refine ⟨?_, decided.wake, decided.activity_wake⟩
  rcases decided.stands with done | ⟨found, -⟩
  · exact .inl done
  · exact .inr ⟨found, decided.canGoOn found⟩

/-- A subscription is granted on the link of the connection. -/
theorem granted_call_returns_payload_of_subscription :
    let actions : List Action := [.connect "ws://gateway", .linkOpened 0, .start 0,
      .call "feeds.subscribe" (.object []), .start 1]
    let payload : Json := .object [("feeds", .array [.null, .bool true, .string "b\"tc"])]
    let action : Action :=
      .received 0 (some (.text (Incoming.response (.granted "2" payload)).text))
    let later := ((new .default .standard ⟨0, 0⟩).run (actions ++ [action])).run []
    (later.step (.wake 1)).calls[1]? =
      some ⟨.holder, "feeds.subscribe", .object [], .returned (.ok payload)⟩ := by
  intro actions payload action later
  have awaiting : ((new .default .standard ⟨0, 0⟩).run actions).Awaiting 1
      ⟨.holder, "feeds.subscribe", .object [], .waiting "2" 1 0⟩ "2" 1 :=
    ⟨rfl, ⟨0, rfl⟩, by decide⟩
  have portable : payload.Portable :=
    ⟨⟨List.pairwise_singleton .., ⟨trivial, trivial, trivial, trivial⟩, trivial⟩,
      ⟨trivial, trivial, trivial, trivial⟩, trivial⟩
  have shallow : payload.depth < nestingLimit := by decide
  have heard : ((new .default .standard ⟨0, 0⟩).run actions).heard? action =
      some (Incoming.response (.granted "2" payload)).text :=
    heard?_received (by decide) rfl _
  exact (granted_call_returns_payload .default .standard ⟨0, 0⟩ actions awaiting portable shallow
    heard []).2.1

/-- A payload that is `null` is not returned. -/
theorem null_payload_is_lost :
    let payload : Json := .null
    let actions : List Action := [.connect "ws://gateway", .linkOpened 0, .start 0,
      .call "feeds.subscribe" (.object []), .start 1]
    let action : Action :=
      .received 0 (some (.text (Incoming.response (.granted "2" payload)).text))
    let client := (new .default .standard ⟨0, 0⟩).run actions
    let later := (client.step action).step (.wake 1)
    client.inFlight.awaits "2" = true ∧
      (later.calls[1]?.bind Call.result?).bind Except.toOption = some (.object []) ∧
      later.logbook.activity.items.head?.map Bulletin.content = some "\x7b\x7d" ∧
      Json.object [] ≠ payload := by
  decide +kernel

end Client

end GatewayLink
