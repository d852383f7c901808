import Mathlib.Algebra.GroupWithZero.Nat
import Mathlib.Data.List.Induction
import Mathlib.Order.Bounds.Basic
import GatewayLink.Event.Relay

/-!
# What observers are owed

An observer that keeps up is given every event once and in order.  One that falls behind is told how
many events it has lost, and is given those that are still kept.  So each event that was handled
since it joined is given to it, reported as lost, or still to come, whatever other observers do.
-/

namespace GatewayLink

namespace Broadcast

variable {α : Type} {broadcast : Broadcast α} {messages : List α}

/-! ## What is kept -/

/-- As many messages are kept as the least power of two says that is not below the capacity. -/
theorem isLeast_roundedCapacity (capacity : Nat) :
    IsLeast {size | size.isPowerOfTwo ∧ max capacity 1 ≤ size} (roundedCapacity capacity) := by
  by_cases small : capacity ≤ 1
  · rw [roundedCapacity, if_pos small]
    exact ⟨⟨Nat.isPowerOfTwo_one, by omega⟩, fun size ⟨_, large⟩ => by omega⟩
  · rw [roundedCapacity, if_neg small, Nat.one_shiftLeft]
    have nonzero : capacity - 1 ≠ 0 := by omega
    have above : capacity - 1 < 2 ^ ((capacity - 1).log2 + 1) := Nat.lt_log2_self
    refine ⟨⟨⟨_, rfl⟩, by omega⟩, ?_⟩
    rintro size ⟨⟨exponent, rfl⟩, large⟩
    have below : (capacity - 1).log2 < exponent := (Nat.log2_lt nonzero).2 (by omega)
    exact Nat.pow_le_pow_right (by decide) below

/-- A broadcast has published some messages, oldest first, and keeps the last of them. -/
structure HasPublished (broadcast : Broadcast α) (messages : List α) : Prop where
  count : broadcast.published = messages.length
  kept : broadcast.kept = messages.reverse.take broadcast.capacity

theorem hasPublished_new (capacity : Nat) : (new capacity : Broadcast α).HasPublished [] :=
  ⟨rfl, by simp [new]⟩

theorem HasPublished.publish (sent : broadcast.HasPublished messages) (message : α) :
    (broadcast.publish message).HasPublished (messages ++ [message]) where
  count := by simp [sent.count]
  kept := by
    cases capacity : broadcast.capacity with
    | zero => simp [Broadcast.publish, capacity]
    | succ most => simp [Broadcast.publish, capacity, sent.kept, List.take_take]

section Frame

variable (broadcast : Broadcast α) (observer : Nat)

@[simp] theorem capacity_publish (message : α) :
    (broadcast.publish message).capacity = broadcast.capacity := rfl

@[simp] theorem isOpen_publish (message : α) :
    (broadcast.publish message).isOpen = broadcast.isOpen := rfl

@[simp] theorem capacity_subscribe : broadcast.subscribe.2.capacity = broadcast.capacity := rfl

@[simp] theorem isOpen_subscribe : broadcast.subscribe.2.isOpen = broadcast.isOpen := rfl

@[simp] theorem capacity_unsubscribe :
    (broadcast.unsubscribe observer).2.capacity = broadcast.capacity := by
  unfold unsubscribe
  split <;> rfl

@[simp] theorem isOpen_unsubscribe :
    (broadcast.unsubscribe observer).2.isOpen = broadcast.isOpen := by
  unfold unsubscribe
  split <;> rfl

@[simp] theorem capacity_drain : (broadcast.drain observer).2.capacity = broadcast.capacity := by
  unfold drain
  split <;> rfl

@[simp] theorem isOpen_drain : (broadcast.drain observer).2.isOpen = broadcast.isOpen := by
  unfold drain
  split <;> rfl

@[simp] theorem capacity_close : broadcast.close.capacity = broadcast.capacity := rfl

@[simp] theorem isOpen_close : broadcast.close.isOpen = false := rfl

end Frame

/-- What an observer is told of messages that it has not seen, where so many of them are kept. -/
def news (most : Nat) (unseen : List α) : List (Notice α) :=
  if most < unseen.length then
    .lagged (unseen.length - most) :: (unseen.drop (unseen.length - most)).map .message
  else unseen.map .message

/-- What an observer is told after the news. -/
def ending (isOpen : Bool) : List (Notice α) :=
  if isOpen then [] else [.closed]

/-- What an observer receives that has seen all but the last messages. -/
theorem missed_eq {seen unseen : List α} (sent : broadcast.HasPublished (seen ++ unseen)) :
    broadcast.missed unseen.length = news broadcast.capacity unseen ++ ending broadcast.isOpen := by
  have last : (broadcast.kept.take unseen.length).reverse =
      unseen.drop (unseen.length - broadcast.capacity) := by
    rw [sent.kept, List.take_take, List.reverse_append,
      List.take_append_of_le_length (by simp), List.reverse_take, List.reverse_reverse,
      List.length_reverse]
    congr 1
    omega
  unfold missed news ending
  rw [last]
  by_cases behind : broadcast.capacity < unseen.length
  · cases open_still : broadcast.isOpen <;> simp [behind]
  · have none_lost : unseen.length - broadcast.capacity = 0 := by omega
    cases open_still : broadcast.isOpen <;> simp [behind, none_lost]

end Broadcast

/-! ## Accounts -/

namespace Notice

variable {α : Type}

/-- The message of a notice. -/
def message? : Notice α → Option α
  | .message value => some value
  | _ => none

/-- How many messages a notice reports as lost. -/
def lost : Notice α → Nat
  | .lagged count => count
  | _ => 0

end Notice

/-- An observer's account of the messages that were published since it joined. -/
structure Account (α : Type) where
  /-- The messages that were published since. -/
  since : List α
  /-- Those that were published since it was last told of any. -/
  unseen : List α
  /-- All that it was told. -/
  told : List (Notice α)

namespace Account

variable {α : Type} {account : Account α}

/-- The account of an observer that has just joined. -/
def opened : Account α := ⟨[], [], []⟩

/-- The account after one more message. -/
def publish (account : Account α) (message : α) : Account α :=
  { account with
    since := account.since ++ [message]
    unseen := account.unseen ++ [message] }

/-- The account after the observer was told of all messages. -/
def hear (account : Account α) (notices : List (Notice α)) : Account α :=
  { account with unseen := [], told := account.told ++ notices }

/-- The messages that the observer was given. -/
def given (account : Account α) : List α :=
  account.told.filterMap Notice.message?

/-- How many messages were reported as lost to the observer. -/
def lost (account : Account α) : Nat :=
  (account.told.map Notice.lost).sum

/-- Each message since the observer joined was given to it, reported as lost, or is unseen; and what
was given or is unseen are such messages in their order, each once. -/
structure IsBalanced (account : Account α) : Prop where
  count : account.given.length + account.lost + account.unseen.length = account.since.length
  order : (account.given ++ account.unseen).Sublist account.since

theorem isBalanced_opened : (opened : Account α).IsBalanced :=
  ⟨rfl, .slnil⟩

theorem IsBalanced.publish (balanced : account.IsBalanced) (message : α) :
    (account.publish message).IsBalanced where
  count := by
    have count := balanced.count
    simp only [Account.publish, given, lost, List.length_append] at count ⊢
    omega
  order := by
    have more := balanced.order.append (.refl [message])
    rwa [List.append_assoc] at more

theorem filterMap_message? (messages : List α) :
    (messages.map Notice.message).filterMap Notice.message? = messages := by
  rw [List.filterMap_map]
  exact List.filterMap_some

theorem sum_lost_map_message (messages : List α) :
    ((messages.map Notice.message).map Notice.lost).sum = 0 := by
  induction messages with
  | nil => rfl
  | cons message rest induction => simpa [Notice.lost] using induction

/-- The news of unseen messages and the losses that it reports make up for all of them. -/
theorem IsBalanced.hear (balanced : account.IsBalanced) (most : Nat) (isOpen : Bool) :
    (account.hear (Broadcast.news most account.unseen ++ Broadcast.ending isOpen)).IsBalanced := by
  have ends : (Broadcast.ending isOpen : List (Notice α)).filterMap Notice.message? = [] ∧
      ((Broadcast.ending isOpen : List (Notice α)).map Notice.lost).sum = 0 := by
    cases isOpen <;> exact ⟨rfl, rfl⟩
  have news : ∃ dropped,
      (Broadcast.news most account.unseen).filterMap Notice.message? =
          account.unseen.drop dropped ∧
        ((Broadcast.news most account.unseen).map Notice.lost).sum = dropped ∧
          dropped ≤ account.unseen.length := by
    by_cases behind : most < account.unseen.length
    · refine ⟨account.unseen.length - most, ?_, ?_, Nat.sub_le ..⟩
      · simp only [Broadcast.news, behind, if_true]
        exact filterMap_message? _
      · simp only [Broadcast.news, behind, if_true, List.map_cons, List.sum_cons,
          sum_lost_map_message, Notice.lost, Nat.add_zero]
    · refine ⟨0, ?_, ?_, Nat.zero_le _⟩
      · simp only [Broadcast.news, behind, if_false, List.drop_zero]
        exact filterMap_message? _
      · simp only [Broadcast.news, behind, if_false]
        exact sum_lost_map_message _
  obtain ⟨dropped, shown, reported, bound⟩ := news
  have count := balanced.count
  refine ⟨?_, ?_⟩
  · simp only [Account.hear, given, lost, List.filterMap_append, List.map_append, List.sum_append,
      List.length_append, ends.1, ends.2, shown, reported, List.length_drop,
      List.length_nil] at count ⊢
    omega
  · have fewer : (account.given ++ account.unseen.drop dropped).Sublist account.since :=
      ((List.Sublist.refl _).append (List.drop_sublist ..)).trans balanced.order
    simpa only [Account.hear, given, List.filterMap_append, ends.1, shown,
      List.append_nil] using fewer

/-- How the account of an observer fits the messages that were published and how many of them it has
passed; it has neither before it joins and after it has left. -/
inductive Fits (messages : List α) : Option Nat → Option (Account α) → Prop where
  | absent : Fits messages none none
  | present {passed : Nat} {account : Account α} (known : passed ≤ messages.length)
      (unseen : account.unseen = messages.drop passed) (balanced : account.IsBalanced) :
      Fits messages (some passed) (some account)

namespace Fits

variable {messages : List α} {passed? : Option Nat} {account? : Option (Account α)}

theorem joined (messages : List α) : Fits messages (some messages.length) (some opened) :=
  .present (Nat.le_refl _) (by simp [opened]) isBalanced_opened

theorem publish (fits : Fits messages passed? account?) (message : α) :
    Fits (messages ++ [message]) passed? (account?.map (·.publish message)) := by
  cases fits with
  | absent => exact .absent
  | present known unseen balanced =>
      refine .present (by rw [List.length_append]; omega) ?_ (balanced.publish message)
      rw [List.drop_append_of_le_length known, ← unseen]
      rfl

end Fits

end Account

/-! ## Accounts of a relay -/

namespace EventRelay

/-- The answers to a sequence of operations, oldest first. -/
def history (relay : EventRelay) : List Operation → List (Operation × Outcome)
  | [] => []
  | operation :: rest =>
    (operation, (relay.apply operation).1) :: (relay.apply operation).2.history rest

/-- What an operation and its answer make of the account of an observer. -/
def entered (observer : Nat) (account : Option (Account Announcement)) :
    Operation × Outcome → Option (Account Announcement)
  | (.subscribe, .observer number) => if number = observer then some .opened else account
  | (.unsubscribe number, .truth true) => if number = observer then none else account
  | (.pass now event, .passed) => account.map (·.publish (event.observed now))
  | (.drain number, .received (some notices)) =>
    if number = observer then account.map (·.hear notices) else account
  | _ => account

/-- The account of an observer after a history; nothing before it joins and after it has left. -/
def account? (observer : Nat) (past : List (Operation × Outcome)) : Option (Account Announcement) :=
  past.foldl (entered observer) none

/-- Whether an operation ends the relay. -/
def Operation.isClose : Operation → Bool
  | .close => true
  | _ => false

variable {relay : EventRelay} {past : List (Operation × Outcome)} {messages : List Announcement}

theorem run_append_singleton (relay : EventRelay) (earlier : List Operation)
    (operation : Operation) :
    relay.run (earlier ++ [operation]) = ((relay.run earlier).apply operation).2 :=
  List.foldl_append ..

theorem history_append_singleton (relay : EventRelay) (earlier : List Operation)
    (operation : Operation) :
    relay.history (earlier ++ [operation]) =
      relay.history earlier ++ [(operation, ((relay.run earlier).apply operation).1)] := by
  induction earlier generalizing relay with
  | nil => rfl
  | cons first rest induction =>
      rw [List.cons_append, history, history, induction, List.cons_append]
      rfl

theorem account?_append_singleton (observer : Nat) (past : List (Operation × Outcome))
    (entry : Operation × Outcome) :
    account? observer (past ++ [entry]) = entered observer (account? observer past) entry :=
  List.foldl_append ..

/-- How many messages an observer has passed, if it is there. -/
def passed? (relay : EventRelay) (observer : Nat) : Option Nat :=
  relay.observers.observers[observer]?.join

/-- A relay has published some messages, and the account of every observer fits them. -/
structure Keeps (relay : EventRelay) (past : List (Operation × Outcome))
    (messages : List Announcement) : Prop where
  published : relay.observers.HasPublished messages
  fits : ∀ observer, Account.Fits messages (relay.passed? observer) (account? observer past)

namespace Keeps

theorem drain_eq (keeps : relay.Keeps past messages) (observer : Nat) :
    relay.observers.drain observer =
      match account? observer past with
      | none => (none, relay.observers)
      | some account =>
        (some (Broadcast.news relay.observers.capacity account.unseen ++
            Broadcast.ending relay.observers.isOpen),
          { relay.observers with
            observers := relay.observers.observers.set observer
              (some relay.observers.published) }) := by
  have fits := keeps.fits observer
  generalize account_eq : account? observer past = account at fits ⊢
  generalize passed_eq : relay.passed? observer = passed at fits
  cases fits with
  | absent =>
      cases found : relay.observers.observers[observer]? with
      | none => simp [Broadcast.drain, found]
      | some passed =>
          obtain rfl : passed = none := by simpa [passed?, found] using passed_eq
          simp [Broadcast.drain, found]
  | @present passed account known unseen balanced =>
      have found : relay.observers.observers[observer]? = some (some passed) := by
        simpa [passed?, Option.join_eq_some_iff] using passed_eq
      have behind : relay.observers.published - passed = account.unseen.length := by
        rw [keeps.published.count, unseen, List.length_drop]
      have split : relay.observers.HasPublished (messages.take passed ++ account.unseen) := by
        rw [unseen, List.take_append_drop]
        exact keeps.published
      simp only [Broadcast.drain, found, behind, Broadcast.missed_eq split]

theorem isBalanced (keeps : relay.Keeps past messages) {observer : Nat}
    {account : Account Announcement} (held : account? observer past = some account) :
    account.IsBalanced := by
  have fits := keeps.fits observer
  rw [held] at fits
  generalize relay.passed? observer = passed at fits
  cases fits with
  | present known unseen balanced => exact balanced

theorem of_idle (keeps : relay.Keeps past messages) {after : EventRelay}
    {entry : Operation × Outcome} (published : after.observers.HasPublished messages)
    (same : after.observers.observers = relay.observers.observers)
    (idle : ∀ observer account, entered observer account entry = account) :
    after.Keeps (past ++ [entry]) messages where
  published := published
  fits observer := by
    have fits := keeps.fits observer
    rwa [account?_append_singleton, idle, passed?, same]

theorem pass (keeps : relay.Keeps past messages) (now : Timestamp) (event : Event) :
    (relay.pass now event).Keeps (past ++ [(.pass now event, .passed)])
      (messages ++ [event.observed now]) where
  published := keeps.published.publish _
  fits observer := by
    rw [account?_append_singleton]
    exact (keeps.fits observer).publish _

theorem subscribe (keeps : relay.Keeps past messages) :
    (relay.apply .subscribe).2.Keeps (past ++ [(.subscribe, (relay.apply .subscribe).1)])
      messages where
  published := ⟨keeps.published.count, keeps.published.kept⟩
  fits observer := by
    have joins : (relay.apply .subscribe).2.passed? observer =
        if relay.observers.observers.length = observer then some messages.length
        else relay.passed? observer := by
      simp only [passed?, EventRelay.apply, Broadcast.subscribe, keeps.published.count]
      by_cases here : relay.observers.observers.length = observer
      · subst here
        simp
      · by_cases known : observer < relay.observers.observers.length
        · simp [here, List.getElem?_append_left known]
        · have beyond : relay.observers.observers.length + 1 ≤ observer := by omega
          rw [if_neg here, List.getElem?_eq_none (by simpa using beyond),
            List.getElem?_eq_none (by omega)]
    rw [account?_append_singleton, joins]
    simp only [entered, EventRelay.apply, Broadcast.subscribe]
    split
    · exact .joined messages
    · exact keeps.fits observer

theorem unsubscribe (keeps : relay.Keeps past messages) (number : Nat) :
    (relay.apply (.unsubscribe number)).2.Keeps
      (past ++ [(.unsubscribe number, (relay.apply (.unsubscribe number)).1)]) messages := by
  by_cases there : ∃ passed, relay.observers.observers[number]? = some (some passed)
  · obtain ⟨passed, found⟩ := there
    have left : relay.apply (.unsubscribe number) =
        (.truth true, { relay with
          observers := { relay.observers with
            observers := relay.observers.observers.set number none } }) := by
      simp [EventRelay.apply, Broadcast.unsubscribe, found]
    rw [left]
    refine ⟨⟨keeps.published.count, keeps.published.kept⟩, fun observer => ?_⟩
    have fits := keeps.fits observer
    rw [account?_append_singleton]
    by_cases here : number = observer
    · subst here
      have inside := (List.getElem?_eq_some_iff.1 found).1
      simpa [entered, passed?, inside] using Account.Fits.absent
    · simpa [entered, passed?, here] using fits
  · have absent : relay.apply (.unsubscribe number) = (.truth false, relay) := by
      simp only [EventRelay.apply, Broadcast.unsubscribe]
      split
      · rename_i passed found
        exact absurd ⟨passed, found⟩ there
      · rfl
    rw [absent]
    exact keeps.of_idle keeps.published rfl fun _ _ => rfl

theorem drain (keeps : relay.Keeps past messages) (number : Nat) :
    (relay.apply (.drain number)).2.Keeps
      (past ++ [(.drain number, (relay.apply (.drain number)).1)]) messages := by
  have drained := keeps.drain_eq number
  cases held : account? number past with
  | none =>
      rw [held] at drained
      simp only [EventRelay.apply, drained]
      exact keeps.of_idle keeps.published rfl fun _ _ => rfl
  | some account =>
      rw [held] at drained
      simp only [EventRelay.apply, drained]
      refine ⟨⟨keeps.published.count, keeps.published.kept⟩, fun observer => ?_⟩
      have fits := keeps.fits observer
      rw [account?_append_singleton]
      by_cases here : number = observer
      · subst here
        generalize passed_eq : relay.passed? number = passed at fits
        rw [held] at fits
        cases fits with
        | @present passed account known unseen balanced =>
            have found : relay.observers.observers[number]? = some (some passed) := by
              simpa [passed?, Option.join_eq_some_iff] using passed_eq
            have inside := (List.getElem?_eq_some_iff.1 found).1
            have caught_up : Account.Fits messages (some messages.length)
                (some (account.hear (Broadcast.news relay.observers.capacity account.unseen ++
                  Broadcast.ending relay.observers.isOpen))) :=
              .present (Nat.le_refl _) (by simp [Account.hear]) (balanced.hear _ _)
            simpa [entered, passed?, inside, held, keeps.published.count] using caught_up
      · simpa [entered, passed?, here] using fits

/-- Every operation publishes one message at most, and all accounts fit again. -/
theorem apply (keeps : relay.Keeps past messages) (operation : Operation) :
    ∃ after, (relay.apply operation).2.Keeps
      (past ++ [(operation, (relay.apply operation).1)]) after := by
  cases operation with
  | pass now event =>
      cases still : relay.observers.isOpen with
      | true =>
          simp only [EventRelay.apply, still, if_true]
          exact ⟨_, keeps.pass now event⟩
      | false =>
          simp only [EventRelay.apply, still, Bool.false_eq_true, if_false]
          exact ⟨_, keeps.of_idle keeps.published rfl fun _ _ => rfl⟩
  | subscribe => exact ⟨_, keeps.subscribe⟩
  | unsubscribe number => exact ⟨_, keeps.unsubscribe number⟩
  | drain number => exact ⟨_, keeps.drain number⟩
  | close =>
      exact ⟨_, keeps.of_idle ⟨keeps.published.count, keeps.published.kept⟩ rfl fun _ _ => rfl⟩

end Keeps

theorem keeps_new (capacity : Nat) (limits : Limits) : (new capacity limits).Keeps [] [] where
  published := Broadcast.hasPublished_new capacity
  fits observer := by
    have nobody : (new capacity limits).passed? observer = none := by
      simp [passed?, new, Broadcast.new]
    rw [nobody]
    exact .absent

theorem keeps_run (capacity : Nat) (limits : Limits) (operations : List Operation) :
    ∃ messages, ((new capacity limits).run operations).Keeps
      ((new capacity limits).history operations) messages := by
  induction operations using List.reverseRecOn with
  | nil => exact ⟨[], keeps_new capacity limits⟩
  | append_singleton earlier operation induction =>
      obtain ⟨messages, keeps⟩ := induction
      rw [run_append_singleton, history_append_singleton]
      exact keeps.apply operation

theorem capacity_apply (relay : EventRelay) (operation : Operation) :
    (relay.apply operation).2.observers.capacity = relay.observers.capacity := by
  cases operation with
  | pass now event => cases still : relay.observers.isOpen <;> simp [apply, still, pass]
  | _ => simp [apply]

theorem isOpen_apply (relay : EventRelay) (operation : Operation) :
    (relay.apply operation).2.observers.isOpen =
      (relay.observers.isOpen && !operation.isClose) := by
  cases operation with
  | pass now event =>
      cases still : relay.observers.isOpen <;> simp [apply, still, pass, Operation.isClose]
  | _ => simp [apply, Operation.isClose]

theorem capacity_run (relay : EventRelay) (operations : List Operation) :
    (relay.run operations).observers.capacity = relay.observers.capacity := by
  induction operations generalizing relay with
  | nil => rfl
  | cons operation rest induction =>
      exact (induction (relay.apply operation).2).trans (relay.capacity_apply operation)

theorem isOpen_run (relay : EventRelay) (operations : List Operation) :
    (relay.run operations).observers.isOpen =
      (relay.observers.isOpen && !operations.any Operation.isClose) := by
  induction operations generalizing relay with
  | nil => simp [run]
  | cons operation rest induction =>
      have rest_run := induction (relay.apply operation).2
      rw [isOpen_apply] at rest_run
      rw [List.any_cons, Bool.not_or, ← Bool.and_assoc]
      exact rest_run

/-- An observer is given the events since its last drain, each once and in order, as far as they are
kept, and is told how many others there were. -/
theorem observers_account_for_events (capacity : Nat) (limits : Limits)
    (operations : List Operation) (observer : Nat) :
    let relay := (new capacity limits).run operations
    let past := (new capacity limits).history operations
    let most := Broadcast.roundedCapacity capacity
    let ended := operations.any Operation.isClose
    let ending : List (Notice Announcement) := if ended then [.closed] else []
    IsLeast {size | size.isPowerOfTwo ∧ max capacity 1 ≤ size} most ∧
    (ended = false → ∀ now event, (relay.apply (.pass now event)).1 = .passed) ∧
    (∃ number, (relay.apply .subscribe).1 = .observer number ∧ account? number past = none) ∧
    (account? observer past = none → (relay.apply (.drain observer)).1 = .received none) ∧
    ∀ account, account? observer past = some account →
      (account.unseen.length ≤ most →
        (relay.apply (.drain observer)).1 =
          .received (some (account.unseen.map .message ++ ending))) ∧
      (most < account.unseen.length →
        (relay.apply (.drain observer)).1 =
          .received (some (.lagged (account.unseen.length - most) ::
            (account.unseen.drop (account.unseen.length - most)).map .message ++ ending))) ∧
      account.given.length + account.lost + account.unseen.length = account.since.length ∧
      (account.given ++ account.unseen).Sublist account.since ∧
      ∀ notices, (relay.apply (.drain observer)).1 = .received (some notices) →
        (account.hear notices).given.length + (account.hear notices).lost =
          account.since.length := by
  intro relay past most ended ending
  obtain ⟨messages, keeps⟩ := keeps_run capacity limits operations
  have drained := keeps.drain_eq observer
  have kept : relay.observers.capacity = most := (new capacity limits).capacity_run operations
  have still : relay.observers.isOpen = !ended := (new capacity limits).isOpen_run operations
  have ends : Broadcast.ending relay.observers.isOpen = ending := by
    cases closed : ended <;> simp [Broadcast.ending, ending, still, closed]
  refine ⟨Broadcast.isLeast_roundedCapacity capacity, ?_, ⟨_, rfl, ?_⟩, ?_, ?_⟩
  · intro unended now event
    simp [apply, still, unended]
  · have fits := keeps.fits relay.observers.observers.length
    have nobody : relay.passed? relay.observers.observers.length = none := by
      simp [passed?]
    rw [nobody] at fits
    generalize account? relay.observers.observers.length past = account at fits
    cases fits with
    | absent => rfl
  · intro absent
    rw [absent] at drained
    simp only [relay, apply, drained]
  · intro account held
    rw [held, ends, kept] at drained
    have balanced := keeps.isBalanced held
    have answer : (relay.apply (.drain observer)).1 =
        .received (some (Broadcast.news most account.unseen ++ ending)) := by
      simp only [relay, apply, drained]
    refine ⟨fun fit => ?_, fun behind => ?_, balanced.count, balanced.order, ?_⟩
    · rw [answer, Broadcast.news, if_neg (Nat.not_lt.2 fit)]
    · rw [answer, Broadcast.news, if_pos behind]
    · intro notices told
      rw [answer, ← ends] at told
      obtain rfl := Option.some.inj (Outcome.received.inj told)
      exact (balanced.hear most relay.observers.isOpen).count

/-- Where two events are kept, a third one is lost to an observer that is late. -/
example :
    let event (name : String) : Operation := .pass ⟨0, 0⟩ ⟨name, none⟩
    let past := (new 2 .standard).history [.subscribe, event "a", event "b", .drain 0, event "c",
      event "d", event "e", .close, .drain 0]
    (account? 0 past).map (fun account => (account.given.map Announcement.name, account.lost)) =
      some (["a", "b", "d", "e"], 1) := by
  decide

end EventRelay

end GatewayLink
