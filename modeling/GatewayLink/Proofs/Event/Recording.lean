import Mathlib.Data.List.Forall2
import GatewayLink.Proofs.Activity.Window
import GatewayLink.Proofs.Event.Backlog
import GatewayLink.Proofs.Json.Members

/-!
# What events leave in the logbook

Each event leaves one bulletin, and an event about a subscription one record of that as well, in the
order of the events.  Whoever observes the events has no part in this, and neither the records of
calls nor what is known of the methods changes.
-/

namespace GatewayLink

/-! ## Gains of a logbook -/

/-- A logbook gains some bulletins and some subscription records, and nothing else changes but how
many ids were generated. -/
structure Logbook.Gains (before : Logbook) (bulletins : List Bulletin)
    (entries : List SubscriptionRecord) (after : Logbook) : Prop where
  activity : after.activity = bulletins.foldl .push before.activity
  subscriptions : after.subscriptions = entries.foldl .push before.subscriptions
  history : after.history = before.history
  standing : after.standing = before.standing

namespace Logbook.Gains

variable {before between after : Logbook} {bulletins later_bulletins : List Bulletin}
  {entries later_entries : List SubscriptionRecord}

theorem refl (logbook : Logbook) : logbook.Gains [] [] logbook :=
  ⟨rfl, rfl, rfl, rfl⟩

theorem trans (first : before.Gains bulletins entries between)
    (second : between.Gains later_bulletins later_entries after) :
    before.Gains (bulletins ++ later_bulletins) (entries ++ later_entries) after where
  activity := by rw [List.foldl_append, ← first.activity, second.activity]
  subscriptions := by rw [List.foldl_append, ← first.subscriptions, second.subscriptions]
  history := second.history.trans first.history
  standing := second.standing.trans first.standing

theorem items {limits : Limits} {full : Logbook} (gains : before.Gains bulletins entries after)
    (shown : Shows limits before full) :
    after.activity.items =
        BoundedLog.within limits.activity (bulletins.reverse ++ before.activity.items) ∧
      after.subscriptions.items =
        BoundedLog.within limits.subscriptions (entries.reverse ++ before.subscriptions.items) := by
  obtain ⟨activity_limit, activity_fits⟩ := shown.activity.fits
  obtain ⟨subscriptions_limit, subscriptions_fits⟩ := shown.subscriptions.fits
  rw [gains.activity, gains.subscriptions, ← activity_limit, ← subscriptions_limit]
  exact ⟨BoundedLog.items_foldl_push activity_fits bulletins,
    BoundedLog.items_foldl_push subscriptions_fits entries⟩

end Logbook.Gains

/-! ## Events -/

namespace Event

/-- A bulletin shows an event: its name, and its payload as text. -/
structure IsShownBy (event : Event) (bulletin : Bulletin) : Prop where
  title : bulletin.title = event.name
  content : bulletin.content = (event.payload.map Json.compact).getD "null"
  severity : bulletin.severity = .info

/-- A record tells what an event says of a subscription, whatever kind of value its payload is. -/
structure IsToldBy (event : Event) (entry : SubscriptionRecord) : Prop where
  action : TextOr "unknown" ((event.payload.bind (·.member? "action")).bind Json.string?)
    entry.action
  subscription : ∀ id, entry.subscription = some id ↔
    event.payload.bind (·.member? "subscriptionId") = some (.string id)

/-- The events about subscriptions. -/
def aboutSubscriptions (events : List Event) : List Event :=
  events.filter fun event => event.name == "feeds.subscription"

theorem member?_payloadOrNull (event : Event) (key : String) :
    event.payloadOrNull.member? key = event.payload.bind (·.member? key) := by
  cases given : event.payload <;> simp [payloadOrNull, given, Json.member?]

theorem compact_payloadOrNull (event : Event) :
    event.payloadOrNull.compact = (event.payload.map Json.compact).getD "null" := by
  cases given : event.payload with
  | none =>
      rw [payloadOrNull, given]
      decide
  | some payload => simp [payloadOrNull, given]

theorem isToldBy (event : Event) (id : String) :
    event.IsToldBy ⟨id, subscriptionAction event.payloadOrNull,
      subscriptionId? event.payloadOrNull⟩ where
  action := by
    rw [← member?_payloadOrNull]
    exact TextOr.of_match "unknown" _
  subscription named := by
    rw [← member?_payloadOrNull, subscriptionId?, Option.bind_eq_some_iff]
    simp only [Json.string?_eq_some_iff, exists_eq_right]

/-- An event is recorded as one bulletin, and as one subscription record if it is about that. -/
theorem gains_record (event : Event) (logbook : Logbook) :
    ∃ bulletin entries, event.IsShownBy bulletin ∧
      List.Forall₂ IsToldBy (aboutSubscriptions [event]) entries ∧
      logbook.Gains [bulletin] entries (event.record logbook) := by
  let bulletin : Bulletin :=
    ⟨generatedId logbook.generated, event.name, event.payloadOrNull.compact, .info⟩
  have shown : event.IsShownBy bulletin := ⟨rfl, event.compact_payloadOrNull, rfl⟩
  by_cases about : event.name = subscriptionEvent
  · let entry : SubscriptionRecord :=
      ⟨generatedId (logbook.generated + 1), subscriptionAction event.payloadOrNull,
        subscriptionId? event.payloadOrNull⟩
    refine ⟨bulletin, [entry], shown, ?_, ?_⟩
    · have listed : aboutSubscriptions [event] = [event] := by
        simp [aboutSubscriptions, about, subscriptionEvent]
      rw [listed]
      exact .cons (event.isToldBy entry.id) .nil
    · rw [record, if_pos about]
      exact ⟨rfl, rfl, rfl, rfl⟩
  · refine ⟨bulletin, [], shown, ?_, ?_⟩
    · have unlisted : aboutSubscriptions [event] = [] := by
        simpa [aboutSubscriptions, subscriptionEvent] using about
      rw [unlisted]
      exact .nil
    · rw [record, if_neg about]
      exact ⟨rfl, rfl, rfl, rfl⟩

/-- Events that are recorded one after another are shown and told of in their order. -/
theorem gains_foldl_record (events : List Event) (logbook : Logbook) :
    ∃ bulletins entries, List.Forall₂ IsShownBy events bulletins ∧
      List.Forall₂ IsToldBy (aboutSubscriptions events) entries ∧
      logbook.Gains bulletins entries
        (events.foldl (fun logbook event => event.record logbook) logbook) := by
  induction events generalizing logbook with
  | nil => exact ⟨[], [], .nil, .nil, .refl logbook⟩
  | cons event rest induction =>
      obtain ⟨bulletin, entries, shown, told, gains⟩ := event.gains_record logbook
      obtain ⟨bulletins, later_entries, rest_shown, rest_told, rest_gains⟩ :=
        induction (event.record logbook)
      have split : aboutSubscriptions (event :: rest) =
          aboutSubscriptions [event] ++ aboutSubscriptions rest :=
        List.filter_append [event] rest
      rw [split]
      exact ⟨_, _, .cons shown rest_shown, List.rel_append told rest_told, gains.trans rest_gains⟩

end Event

/-! ## Relays -/

namespace EventRelay

/-- The event that an operation passes. -/
def Operation.event? : Operation → Option Event
  | .pass _ event => some event
  | _ => none

/-- The events that a relay handles: those that come before its end. -/
def handled (isOpen : Bool) (operations : List Operation) : List Event :=
  if isOpen then
    (operations.takeWhile fun operation => !operation.isClose).filterMap Operation.event?
  else []

/-- An event is recorded if the relay has not ended; no other operation touches the logbook. -/
theorem logbook_apply (relay : EventRelay) (operation : Operation) :
    (relay.apply operation).2.logbook =
      (handled relay.observers.isOpen [operation]).foldl
        (fun logbook event => event.record logbook) relay.logbook := by
  cases operation with
  | pass now event =>
      cases still : relay.observers.isOpen <;>
        simp [apply, still, handled, pass, Operation.isClose, Operation.event?]
  | _ =>
      cases relay.observers.isOpen <;>
        simp [apply, handled, Operation.isClose, List.filterMap_cons, Operation.event?]

theorem handled_cons (isOpen : Bool) (operation : Operation) (rest : List Operation) :
    handled isOpen (operation :: rest) =
      handled isOpen [operation] ++ handled (isOpen && !operation.isClose) rest := by
  cases isOpen with
  | false => rfl
  | true =>
      cases operation <;>
        simp [handled, Operation.isClose, List.filterMap_cons, Operation.event?]

theorem logbook_run (relay : EventRelay) (operations : List Operation) :
    (relay.run operations).logbook =
      (handled relay.observers.isOpen operations).foldl
        (fun logbook event => event.record logbook) relay.logbook := by
  induction operations generalizing relay with
  | nil => cases still : relay.observers.isOpen <;> simp [handled, run]
  | cons operation rest induction =>
      have later := induction (relay.apply operation).2
      rw [isOpen_apply, logbook_apply] at later
      rw [handled_cons, List.foldl_append]
      exact later

/-- Each event that is handled leaves one bulletin that shows it, and one about a subscription a
record that tells of it; the calls are left alone. -/
theorem each_event_is_recorded (limits : Limits) (earlier : List Logbook.Operation)
    (observers : Broadcast Announcement) (operations : List Operation) :
    let before := (Logbook.new limits).run earlier
    let after := ((EventRelay.mk before observers).run operations).logbook
    let events := handled observers.isOpen operations
    (∃ bulletins, List.Forall₂ Event.IsShownBy events bulletins ∧
      after.activity.items =
        BoundedLog.within limits.activity (bulletins.reverse ++ before.activity.items)) ∧
    (∃ entries, List.Forall₂ Event.IsToldBy (Event.aboutSubscriptions events) entries ∧
      after.subscriptions.items =
        BoundedLog.within limits.subscriptions (entries.reverse ++ before.subscriptions.items)) ∧
    after.history = before.history ∧ after.standing = before.standing := by
  intro before after events
  obtain ⟨bulletins, entries, shown, told, gains⟩ := Event.gains_foldl_record events before
  have recorded : before.Gains bulletins entries after := by
    rwa [← logbook_run (EventRelay.mk before observers) operations] at gains
  have window : Logbook.Shows limits before ((Logbook.new .unlimited).run earlier) :=
    (Logbook.shows_new limits).run earlier
  obtain ⟨activity, subscriptions⟩ := recorded.items window
  exact ⟨⟨bulletins, shown, activity⟩, ⟨entries, told, subscriptions⟩, recorded.history,
    recorded.standing⟩

/-- An action that is no string or empty is unknown, while an id may be empty. -/
example :
    let event (payload : Option Json) : Operation := .pass ⟨0, 0⟩ ⟨"feeds.subscription", payload⟩
    let relay := (new 1 .standard).run [event none,
      event (some (.object [("action", .string ""), ("subscriptionId", .string "")])),
      event (some (.array [.string "action"]))]
    relay.logbook.subscriptions.items.map (fun entry => (entry.action, entry.subscription)) =
      [("unknown", none), ("unknown", some ""), ("unknown", none)] := by
  decide

end EventRelay

end GatewayLink
