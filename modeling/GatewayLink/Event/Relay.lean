import GatewayLink.Activity.Logbook
import GatewayLink.Event.Broadcast
import GatewayLink.Frame.Basic

/-!
# Events

Each event of the gateway is recorded as a bulletin, an event about a subscription also as a
subscription record, and then it is passed on to the observers.
-/

namespace GatewayLink

/-- An event as observers receive it. -/
structure Announcement where
  name : String
  /-- The payload, `null` where the event has none. -/
  payload : Json
  receivedAt : Timestamp
  deriving DecidableEq

namespace Event

/-- The payload of an event, `null` where it has none. -/
def payloadOrNull (event : Event) : Json :=
  event.payload.getD .null

/-- The action in a payload about a subscription: a nonempty string, or `unknown`. -/
def subscriptionAction (payload : Json) : String :=
  match (payload.member? "action").bind Json.string? with
  | some action => if action.isEmpty then "unknown" else action
  | none => "unknown"

/-- The subscription that a payload names by a string. -/
def subscriptionId? (payload : Json) : Option String :=
  (payload.member? "subscriptionId").bind Json.string?

/-- Records an event. -/
def record (event : Event) (logbook : Logbook) : Logbook :=
  let payload := event.payloadOrNull
  let logbook := logbook.post event.name payload.compact .info
  if event.name = subscriptionEvent then
    logbook.subscription (subscriptionAction payload) (subscriptionId? payload)
  else logbook

/-- The event as observers receive it. -/
def observed (event : Event) (now : Timestamp) : Announcement :=
  ⟨event.name, event.payloadOrNull, now⟩

end Event

/-- A logbook and the observers of events. -/
structure EventRelay where
  logbook : Logbook
  observers : Broadcast Announcement

namespace EventRelay

/-- No events and no observers yet. -/
def new (capacity : Nat) (limits : Limits) : EventRelay :=
  ⟨.new limits, .new capacity⟩

/-- Records an event and passes it on. -/
def pass (relay : EventRelay) (now : Timestamp) (event : Event) : EventRelay where
  logbook := event.record relay.logbook
  observers := relay.observers.publish (event.observed now)

/-- What can be asked of a relay. -/
inductive Operation where
  | pass (now : Timestamp) (event : Event)
  | subscribe
  | unsubscribe (observer : Nat)
  | drain (observer : Nat)
  | close

/-- The answer of a relay. -/
inductive Outcome where
  | passed
  | observer (number : Nat)
  | truth (value : Bool)
  | received (notices : Option (List (Notice Announcement)))

/-- Carries out an operation; a closed relay takes no events. -/
def apply (relay : EventRelay) : Operation → Outcome × EventRelay
  | .pass now event =>
    if relay.observers.isOpen then (.passed, relay.pass now event)
    else (.truth false, relay)
  | .subscribe =>
    let (number, observers) := relay.observers.subscribe
    (.observer number, { relay with observers })
  | .unsubscribe observer =>
    let (present, observers) := relay.observers.unsubscribe observer
    (.truth present, { relay with observers })
  | .drain observer =>
    let (notices, observers) := relay.observers.drain observer
    (.received notices, { relay with observers })
  | .close =>
    (.truth relay.observers.isOpen,
      { relay with observers := relay.observers.close })

/-- The relay after a sequence of operations. -/
def run (relay : EventRelay) (operations : List Operation) : EventRelay :=
  operations.foldl (fun relay operation => (relay.apply operation).2) relay

end EventRelay

end GatewayLink
