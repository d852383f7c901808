import Mathlib.Data.List.Induction
import GatewayLink.Proofs.Connection.Publication

/-!
# What receivers get

A text that is accepted is queued on the channel that is installed at that moment, and on no other.
The answers of a connection tell which channel that is: the one that was offered last and taken,
until the connection lets go of it.  So they also tell what each receiver gets, and in which order.
-/

namespace GatewayLink

namespace ConnectionSession

open Connection

/-! ## What the answers tell -/

/-- What an operation and its answer tell about the channels. -/
inductive ChannelEvent where
  /-- A channel was offered; whether it was installed. -/
  | offered (channel : Nat) (installed : Bool)
  /-- The connection let go of the channel that was installed. -/
  | parted
  | sent (text : String)
  | received (channel : Nat) (texts : List String)
  | hungUp (channel : Nat)
  | nothing

namespace ChannelEvent

/-- The channel that is installed afterwards. -/
def installs (installed : Option Nat) : ChannelEvent → Option Nat
  | .offered channel true => some channel
  | .parted => none
  | _ => installed

/-- The text that is accepted for a channel. -/
def text? (installed : Option Nat) (channel : Nat) : ChannelEvent → Option String
  | .sent text => if installed = some channel then some text else none
  | _ => none

/-- The texts that the receiver of a channel gets. -/
def texts (channel : Nat) : ChannelEvent → List String
  | .received other texts => if other = channel then texts else []
  | _ => []

/-- What an answer to an operation tells. -/
def told : Operation → Outcome → ChannelEvent
  | .establish _, .offered installed channel => .offered channel installed
  | .dial _, .number _ => .parted
  | .lose _, .truth true => .parted
  | .supersede, .done => .parted
  | .drop, .done => .parted
  | .send text, .sent (.ok ()) => .sent text
  | .receive channel, .received (some (texts, _)) => .received channel texts
  | .hangUp channel, .truth true => .hungUp channel
  | _, _ => .nothing

end ChannelEvent

/-- What the answers to a sequence of operations tell, oldest first. -/
def history (session : ConnectionSession) : List Operation → List ChannelEvent
  | [] => []
  | operation :: rest =>
    .told operation (session.apply operation).1 :: (session.apply operation).2.history rest

/-- The channel that is installed after a history. -/
def installed (past : List ChannelEvent) : Option Nat :=
  past.foldl ChannelEvent.installs none

/-- The texts that are accepted for a channel in a history: those of the sends that succeed while it
is installed. -/
def acceptedFrom (channel : Nat) : Option Nat → List ChannelEvent → List String
  | _, [] => []
  | installed, event :: rest =>
    (event.text? installed channel).toList ++ acceptedFrom channel (event.installs installed) rest

/-- The texts that are accepted for a channel, from the start. -/
def accepted (channel : Nat) (past : List ChannelEvent) : List String :=
  acceptedFrom channel none past

/-- The texts that the receiver of a channel gets. -/
def received (channel : Nat) (past : List ChannelEvent) : List String :=
  past.flatMap (ChannelEvent.texts channel)

/-- Whether a channel was ever offered. -/
def WasOffered (channel : Nat) (past : List ChannelEvent) : Prop :=
  ∃ installed, .offered channel installed ∈ past

variable {before after : Connection} {past : List ChannelEvent} {event : ChannelEvent}
  {channel : Nat} {state : Channel}

theorem history_append_singleton (session : ConnectionSession) (earlier : List Operation)
    (operation : Operation) :
    session.history (earlier ++ [operation]) =
      session.history earlier ++ [.told operation ((session.run earlier).apply operation).1] := by
  induction earlier generalizing session with
  | nil => rfl
  | cons first rest induction =>
      rw [List.cons_append, history, history, induction, List.cons_append, run_cons]

theorem installed_append_singleton (past : List ChannelEvent) (event : ChannelEvent) :
    installed (past ++ [event]) = event.installs (installed past) :=
  List.foldl_append ..

theorem accepted_append_singleton (channel : Nat) (past : List ChannelEvent)
    (event : ChannelEvent) :
    accepted channel (past ++ [event]) =
      accepted channel past ++ (event.text? (installed past) channel).toList := by
  unfold accepted installed
  generalize (none : Option Nat) = start
  induction past generalizing start with
  | nil => simp [acceptedFrom]
  | cons first rest induction =>
      simp only [List.cons_append, acceptedFrom, List.foldl_cons, induction, List.append_assoc]

theorem received_append_singleton (channel : Nat) (past : List ChannelEvent)
    (event : ChannelEvent) :
    received channel (past ++ [event]) = received channel past ++ event.texts channel := by
  simp [received]

/-! ## What an operation does to the channels -/

/-- What becomes of the channels of a connection on an event. -/
inductive Moves (before : Connection) : ChannelEvent → Connection → Prop where
  | nothing {after : Connection} (channels : after.channels = before.channels)
      (outbound : after.outbound = before.outbound) : Moves before .nothing after
  | parted {after : Connection} (channels : after.channels = before.uninstall.channels)
      (outbound : after.outbound = none) : Moves before .parted after
  | installed {after : Connection}
      (channels : after.channels = before.uninstall.channels ++ [.new])
      (outbound : after.outbound = some before.channels.length) :
      Moves before (.offered before.channels.length true) after
  | refused {after : Connection}
      (channels : after.channels = before.channels ++ [{ Channel.new with sending := false }])
      (outbound : after.outbound = before.outbound) :
      Moves before (.offered before.channels.length false) after
  | sent {after : Connection} {channel : Nat} {state : Channel} {text : String}
      (outbound : before.outbound = some channel) (found : before.channels[channel]? = some state)
      (held : state.receiving = true)
      (after_eq : after =
        before.updateChannel channel fun state => { state with texts := state.texts ++ [text] }) :
      Moves before (.sent text) after
  | received {after : Connection} {channel : Nat} {state : Channel}
      (found : before.channels[channel]? = some state) (held : state.receiving = true)
      (after_eq : after =
        before.updateChannel channel fun state => { state with taken := state.texts.length }) :
      Moves before (.received channel state.queued) after
  | hungUp {after : Connection} {channel : Nat} {state : Channel}
      (found : before.channels[channel]? = some state) (held : state.receiving = true)
      (after_eq : after = before.updateChannel channel ({ · with receiving := false })) :
      Moves before (.hungUp channel) after

theorem moves_applyAlive (session : ConnectionSession) (operation : Operation) :
    Moves session.connection (.told operation (session.applyAlive operation).1)
      (session.applyAlive operation).2.connection := by
  cases operation with
  | dial url => exact .parted rfl (by simp [applyAlive, withConnection, dial, publish])
  | establish generation =>
      by_cases stands : session.connection.stands generation
      · simp only [applyAlive, establish, stands, if_true, withConnection, ChannelEvent.told]
        exact .installed rfl rfl
      · simp only [applyAlive, establish, stands, withConnection, ChannelEvent.told]
        exact .refused rfl rfl
  | welcome generation welcome =>
      by_cases stands : session.connection.stands generation
      · simp only [applyAlive, Connection.welcome, stands, if_true, withConnection,
          ChannelEvent.told]
        exact .nothing rfl rfl
      · simp only [applyAlive, Connection.welcome, stands, withConnection, ChannelEvent.told]
        exact .nothing rfl rfl
  | lose generation =>
      by_cases stands : session.connection.stands generation
      · simp only [applyAlive, lose, stands, if_true, withConnection, ChannelEvent.told]
        exact .parted rfl (by simp [publish])
      · simp only [applyAlive, lose, stands, withConnection, ChannelEvent.told]
        exact .nothing rfl rfl
  | supersede => exact .parted rfl (by simp [applyAlive, withConnection, supersede, publish])
  | send text =>
      simp only [applyAlive, send, withConnection]
      cases outbound : session.connection.outbound with
      | none => exact .nothing rfl rfl
      | some channel =>
          simp only []
          split
          next found => exact .sent outbound found rfl rfl
          next => exact .nothing rfl rfl
  | hangUp channel =>
      simp only [applyAlive, hangUp, withConnection]
      split
      next found => exact .hungUp found rfl rfl
      next => exact .nothing rfl rfl
  | receive channel =>
      simp only [applyAlive, receive, withConnection]
      cases found : session.connection.channels[channel]? with
      | none => exact .nothing rfl rfl
      | some state =>
          by_cases held : state.receiving = true
          · simp only [held, if_true]
            exact .received found held rfl
          · simp only [held]
            exact .nothing rfl rfl
  | drop =>
      refine .parted ?_ (by simp [applyAlive, drop])
      simp only [applyAlive, drop, unassign, uninstall]
      cases session.connection.outbound <;> rfl
  | _ => exact .nothing rfl rfl

theorem moves_apply (session : ConnectionSession) (operation : Operation) :
    Moves session.connection (.told operation (session.apply operation).1)
      (session.apply operation).2.connection := by
  have moves := session.moves_applyAlive operation
  unfold apply
  split
  · exact moves
  · cases operation with
    | hangUp channel => exact moves
    | receive channel => exact moves
    | _ => exact .nothing rfl rfl

/-! ## What a channel holds -/

/-- A channel holds what was accepted for it and not yet received. -/
structure Holds (past : List ChannelEvent) (channel : Nat) (state : Channel) : Prop where
  texts : accepted channel past = state.texts
  queued : received channel past ++ state.queued = state.texts
  taken_le : state.taken ≤ state.texts.length
  sending : state.sending = true ↔ installed past = some channel
  receiving : state.receiving = true ↔ .hungUp channel ∉ past

theorem Holds.step (holds : Holds past channel state) {next : Channel}
    (texts : next.texts = state.texts ++ (event.text? (installed past) channel).toList)
    (queued : event.texts channel ++ next.queued =
      state.queued ++ (event.text? (installed past) channel).toList)
    (taken_le : next.taken ≤ next.texts.length)
    (sending : next.sending = true ↔ event.installs (installed past) = some channel)
    (receiving : next.receiving = true ↔ state.receiving = true ∧ event ≠ .hungUp channel) :
    Holds (past ++ [event]) channel next where
  texts := by rw [accepted_append_singleton, holds.texts, texts]
  queued := by
    rw [received_append_singleton, List.append_assoc, queued, ← List.append_assoc, holds.queued,
      texts]
  taken_le := taken_le
  sending := by rw [sending, installed_append_singleton]
  receiving := by
    rw [receiving, holds.receiving]
    simp [eq_comm]

theorem Holds.keep (holds : Holds past channel state) {sending : Bool}
    (no_text : event.text? (installed past) channel = none) (no_texts : event.texts channel = [])
    (not_hungUp : event ≠ .hungUp channel)
    (sending_iff : sending = true ↔ event.installs (installed past) = some channel) :
    Holds (past ++ [event]) channel { state with sending } := by
  refine holds.step ?_ ?_ holds.taken_le sending_iff ?_
  · simp [no_text]
  · simp [no_text, no_texts, Channel.queued]
  · simp [not_hungUp]

/-- The state of a channel; one that was never offered is as good as refused. -/
def channelAt (connection : Connection) (channel : Nat) : Channel :=
  connection.channels[channel]?.getD { Channel.new with sending := false }

theorem channelAt_of_found {connection : Connection}
    (found : connection.channels[channel]? = some state) :
    channelAt connection channel = state := by
  simp [channelAt, found]

theorem channelAt_updateChannel {connection : Connection}
    (found : connection.channels[channel]? = some state) (update : Channel → Channel)
    (other : Nat) :
    channelAt (connection.updateChannel channel update) other =
      if channel = other then update state else channelAt connection other := by
  by_cases same : channel = other
  · subst same
    simp [channelAt, updateChannel, found]
  · simp [channelAt, updateChannel, same]

theorem channelAt_of_append {fresh : Channel}
    (channels : after.channels = before.channels ++ [fresh]) (channel : Nat) :
    channelAt after channel =
      if before.channels.length = channel then fresh else channelAt before channel := by
  rcases Nat.lt_trichotomy channel before.channels.length with known | rfl | beyond
  · simp [channelAt, channels, List.getElem?_append_left known, Nat.ne_of_gt known]
  · simp [channelAt, channels]
  · have unknown : (before.channels ++ [fresh])[channel]? = none :=
      List.getElem?_eq_none (by rw [List.length_append]; exact beyond)
    have unknown_before : before.channels[channel]? = none :=
      List.getElem?_eq_none (Nat.le_of_lt beyond)
    simp [channelAt, channels, unknown, unknown_before, Nat.ne_of_lt beyond]

/-- What a connection knows of its channels is what its answers have told. -/
structure Accounts (connection : Connection) (past : List ChannelEvent) : Prop where
  outbound : connection.outbound = installed past
  offered : ∀ channel, WasOffered channel past ↔ channel < connection.channels.length
  holds : ∀ channel, Holds past channel (channelAt connection channel)

namespace Accounts

theorem new : Accounts .new [] where
  outbound := rfl
  offered := by simp [WasOffered, Connection.new]
  holds := fun channel =>
    { texts := rfl
      queued := rfl
      taken_le := Nat.le_refl _
      sending := by simp [channelAt, Connection.new, installed]
      receiving := by simp [channelAt, Connection.new, Channel.new] }

theorem length_uninstall (connection : Connection) :
    connection.uninstall.channels.length = connection.channels.length := by
  obtain ⟨-, uninstalled⟩ | ⟨channel, -, uninstalled⟩ := connection.uninstall_cases <;>
    simp [uninstalled, updateChannel]

/-- Letting go of the installed channel leaves no channel with a sending end. -/
theorem channelAt_uninstall (accounts : Accounts before past) (channel : Nat) :
    channelAt before.uninstall channel = { channelAt before channel with sending := false } := by
  have sending := (accounts.holds channel).sending
  rw [← accounts.outbound] at sending
  cases installed : before.outbound with
  | none =>
      have closed : (channelAt before channel).sending = false := by
        simpa [installed] using sending
      simp [uninstall, installed, ← closed]
  | some other =>
      by_cases same : other = channel
      · subst same
        cases found : before.channels[other]? <;>
          simp [channelAt, uninstall, installed, updateChannel, found]
      · have closed : (channelAt before channel).sending = false := by
          simpa [installed, same] using sending
        have kept : channelAt before.uninstall channel = channelAt before channel := by
          simp [channelAt, uninstall, installed, updateChannel, same]
        rw [kept, ← closed]

theorem offered_step (accounts : Accounts before past)
    (no_offer : ∀ channel installed, event ≠ .offered channel installed)
    (length : after.channels.length = before.channels.length) (channel : Nat) :
    WasOffered channel (past ++ [event]) ↔ channel < after.channels.length := by
  rw [length, ← accounts.offered]
  simp [WasOffered, Ne.symm (no_offer channel _)]

theorem offered_step_offered (accounts : Accounts before past) {taken : Bool}
    (length : after.channels.length = before.channels.length + 1) (channel : Nat) :
    WasOffered channel (past ++ [.offered before.channels.length taken]) ↔
      channel < after.channels.length := by
  rw [length, Nat.lt_succ_iff_lt_or_eq, ← accounts.offered]
  simp [WasOffered, exists_or]

theorem holds_kept (accounts : Accounts before past) {channel : Nat}
    (no_text : event.text? (installed past) channel = none) (no_texts : event.texts channel = [])
    (not_hungUp : event ≠ .hungUp channel)
    (installs : event.installs (installed past) = installed past) :
    Holds (past ++ [event]) channel (channelAt before channel) := by
  have holds := accounts.holds channel
  have sending := holds.sending
  rw [← installs] at sending
  exact holds.keep no_text no_texts not_hungUp sending

/-- One channel changes, and the event tells how; nothing is offered and nothing let go of. -/
theorem update (accounts : Accounts before past) {changed : Nat}
    (found : before.channels[changed]? = some state) (change : Channel → Channel)
    (no_offer : ∀ channel installed, event ≠ .offered channel installed)
    (installs : event.installs (installed past) = installed past)
    (here : Holds past changed state → Holds (past ++ [event]) changed (change state))
    (apart : ∀ channel, channel ≠ changed → event.text? (installed past) channel = none ∧
      event.texts channel = [] ∧ event ≠ .hungUp channel) :
    Accounts (before.updateChannel changed change) (past ++ [event]) where
  outbound := by
    rw [installed_append_singleton, installs, ← accounts.outbound]
    rfl
  offered := accounts.offered_step no_offer (by simp [updateChannel])
  holds := by
    intro channel
    rw [channelAt_updateChannel found]
    by_cases same : changed = channel
    · subst same
      rw [if_pos rfl]
      exact here (channelAt_of_found found ▸ accounts.holds changed)
    · rw [if_neg same]
      obtain ⟨no_text, no_texts, not_hungUp⟩ := apart channel (Ne.symm same)
      exact accounts.holds_kept no_text no_texts not_hungUp installs

/-- What an answer tells is what becomes of the channels. -/
theorem step (accounts : Accounts before past) (moves : Moves before event after) :
    Accounts after (past ++ [event]) := by
  cases moves with
  | nothing channels outbound =>
      refine ⟨?_, accounts.offered_step (by simp) (by rw [channels]), fun channel => ?_⟩
      · rw [outbound, installed_append_singleton, accounts.outbound]
        rfl
      · have same : channelAt after channel = channelAt before channel := by
          simp [channelAt, channels]
        rw [same]
        exact accounts.holds_kept rfl rfl (by simp) rfl
  | parted channels outbound =>
      refine ⟨?_, accounts.offered_step (by simp) (by rw [channels, length_uninstall]),
        fun channel => ?_⟩
      · rw [outbound, installed_append_singleton]
        rfl
      · have closed :
            channelAt after channel = { channelAt before channel with sending := false } := by
          rw [← accounts.channelAt_uninstall]
          simp [channelAt, channels]
        rw [closed]
        exact (accounts.holds channel).keep rfl rfl (by simp) (by simp [ChannelEvent.installs])
  | installed channels outbound =>
      refine ⟨?_, accounts.offered_step_offered (by simp [channels, length_uninstall]),
        fun channel => ?_⟩
      · rw [outbound, installed_append_singleton]
        rfl
      · have opened : channelAt after channel = { channelAt before channel with
            sending := decide (before.channels.length = channel) } := by
          rw [channelAt_of_append channels, length_uninstall, accounts.channelAt_uninstall]
          by_cases here : before.channels.length = channel
          · subst here
            simp [channelAt, Channel.new]
          · simp [here]
        rw [opened]
        exact (accounts.holds channel).keep rfl rfl (by simp) (by simp [ChannelEvent.installs])
  | refused channels outbound =>
      refine ⟨?_, accounts.offered_step_offered (by simp [channels]), fun channel => ?_⟩
      · rw [outbound, installed_append_singleton, accounts.outbound]
        rfl
      · have same : channelAt after channel = channelAt before channel := by
          rw [channelAt_of_append channels]
          by_cases here : before.channels.length = channel
          · subst here
            simp [channelAt]
          · simp [here]
        rw [same]
        exact accounts.holds_kept rfl rfl (by simp) rfl
  | @sent _ into state text outbound found held after_eq =>
      subst after_eq
      have current : installed past = some into := accounts.outbound.symm.trans outbound
      refine accounts.update found _ (by simp) rfl (fun holds => ?_) fun channel apart => ?_
      · refine holds.step ?_ ?_ ?_ holds.sending ?_
        · simp [ChannelEvent.text?, current]
        · simp [ChannelEvent.text?, ChannelEvent.texts, current, Channel.queued,
            List.drop_append_of_le_length holds.taken_le]
        · exact Nat.le_trans holds.taken_le (by simp)
        · simp
      · simp [ChannelEvent.text?, ChannelEvent.texts, current, Ne.symm apart]
  | @received _ taken state found held after_eq =>
      subst after_eq
      refine accounts.update found _ (by simp) rfl (fun holds => ?_) fun channel apart => ?_
      · refine holds.step ?_ ?_ (Nat.le_refl _) holds.sending ?_
        · simp [ChannelEvent.text?]
        · simp [ChannelEvent.text?, ChannelEvent.texts, Channel.queued]
        · simp
      · simp [ChannelEvent.text?, ChannelEvent.texts, Ne.symm apart]
  | @hungUp _ left state found held after_eq =>
      subst after_eq
      refine accounts.update found _ (by simp) rfl (fun holds => ?_) fun channel apart => ?_
      · refine holds.step ?_ ?_ holds.taken_le holds.sending ?_
        · simp [ChannelEvent.text?]
        · simp [ChannelEvent.text?, ChannelEvent.texts, Channel.queued]
        · simp
      · simp [ChannelEvent.text?, ChannelEvent.texts, Ne.symm apart]

theorem fresh (accounts : Accounts before past) :
    accepted before.channels.length past = [] ∧
      installed past ≠ some before.channels.length := by
  have holds := accounts.holds before.channels.length
  have unknown :
      channelAt before before.channels.length = { Channel.new with sending := false } := by
    simp [channelAt]
  rw [unknown] at holds
  exact ⟨holds.texts, fun current => Bool.noConfusion (holds.sending.mpr current)⟩

end Accounts

theorem accounts_run (operations : List Operation) :
    Accounts (new.run operations).connection (new.history operations) := by
  induction operations using List.reverseRecOn with
  | nil => exact .new
  | append_singleton before operation induction =>
      rw [run_append, history_append_singleton]
      exact induction.step (moves_apply (new.run before) operation)

/-! ## Channels that are not installed -/

/-- A channel that was offered and is not installed gets no text, and is not installed again. -/
theorem Accounts.closed (accounts : Accounts before past) (moves : Moves before event after)
    (offered : WasOffered channel past) (gone : installed past ≠ some channel) :
    accepted channel (past ++ [event]) = accepted channel past ∧
      installed (past ++ [event]) ≠ some channel := by
  have known := (accounts.offered channel).mp offered
  rw [accepted_append_singleton, installed_append_singleton]
  cases moves with
  | installed => simp [ChannelEvent.text?, ChannelEvent.installs, Nat.ne_of_gt known]
  | sent => simp [ChannelEvent.text?, ChannelEvent.installs, gone]
  | parted => simp [ChannelEvent.text?, ChannelEvent.installs]
  | _ => simp [ChannelEvent.text?, ChannelEvent.installs, gone]

theorem closed_run {operations : List Operation}
    (offered : WasOffered channel (new.history operations))
    (gone : installed (new.history operations) ≠ some channel) (more : List Operation) :
    accepted channel (new.history (operations ++ more)) =
        accepted channel (new.history operations) ∧
      installed (new.history (operations ++ more)) ≠ some channel ∧
      WasOffered channel (new.history (operations ++ more)) := by
  induction more using List.reverseRecOn with
  | nil => simpa using ⟨gone, offered⟩
  | append_singleton more operation induction =>
      obtain ⟨same, still_gone, taken, member⟩ := induction
      rw [← List.append_assoc, history_append_singleton]
      obtain ⟨kept, gone_on⟩ := (accounts_run (operations ++ more)).closed
        (moves_apply (new.run (operations ++ more)) operation) ⟨taken, member⟩ still_gone
      exact ⟨kept.trans same, gone_on, taken, List.mem_append_left _ member⟩

/-- A channel that was refused never gets a text. -/
theorem accepted_of_refused {operations : List Operation}
    (refused : .offered channel false ∈ new.history operations) :
    accepted channel (new.history operations) = [] ∧
      installed (new.history operations) ≠ some channel := by
  induction operations using List.reverseRecOn with
  | nil => cases refused
  | append_singleton before operation induction =>
      have accounts := accounts_run before
      have moves := moves_apply (new.run before) operation
      rw [history_append_singleton] at refused ⊢
      rcases List.mem_append.mp refused with earlier | latest
      · obtain ⟨none_accepted, gone⟩ := induction earlier
        obtain ⟨kept, gone_on⟩ := accounts.closed moves ⟨false, earlier⟩ gone
        exact ⟨kept.trans none_accepted, gone_on⟩
      · rw [← List.mem_singleton.mp latest] at moves ⊢
        rw [accepted_append_singleton, installed_append_singleton]
        cases moves with
        | refused channels outbound =>
            obtain ⟨none_accepted, gone⟩ := accounts.fresh
            exact ⟨by simp [none_accepted, ChannelEvent.text?], gone⟩

/-! ## What the answers are -/

theorem receive_answer (session : ConnectionSession) (channel : Nat) :
    (session.apply (.receive channel)).1 = .received (session.connection.receive channel).1 := by
  unfold apply
  split <;> rfl

/-- A receiver that is held gets what was accepted and not yet received, and sees the end of the
queue once the channel is not installed. -/
theorem Accounts.receive_held (accounts : Accounts before past) (offered : WasOffered channel past)
    (held : .hungUp channel ∉ past) :
    (before.receive channel).1 =
        some ((channelAt before channel).queued, decide (installed past ≠ some channel)) ∧
      received channel past ++ (channelAt before channel).queued = accepted channel past := by
  have holds := accounts.holds channel
  obtain ⟨state, found⟩ : ∃ state, before.channels[channel]? = some state :=
    ⟨_, List.getElem?_eq_getElem ((accounts.offered channel).mp offered)⟩
  rw [channelAt_of_found found] at holds ⊢
  refine ⟨?_, by rw [holds.queued, holds.texts]⟩
  have ended : (!state.sending) = decide (installed past ≠ some channel) := by
    rw [Bool.eq_iff_iff, decide_eq_true_iff, Ne, ← holds.sending]
    simp
  simp [receive, found, holds.receiving.mpr held, ended]

/-- Without a receiver nothing is received. -/
theorem Accounts.receive_not_held (accounts : Accounts before past)
    (not_held : ¬ (WasOffered channel past ∧ .hungUp channel ∉ past)) :
    (before.receive channel).1 = none := by
  have holds := accounts.holds channel
  cases found : before.channels[channel]? with
  | none => simp [receive, found]
  | some state =>
      rw [channelAt_of_found found] at holds
      have offered : WasOffered channel past :=
        (accounts.offered channel).mpr (List.getElem?_eq_some_iff.mp found).1
      have left : state.receiving = false := by
        rw [Bool.eq_false_iff, Ne, holds.receiving]
        exact fun held => not_held ⟨offered, held⟩
      simp [receive, found, left]

/-- A text is accepted as long as a channel is installed and its receiver is held. -/
theorem Accounts.send_accepted_iff (accounts : Accounts before past) (text : String) :
    (before.send text).1 = .ok () ↔
      ∃ channel, installed past = some channel ∧ .hungUp channel ∉ past := by
  cases outbound : before.outbound with
  | none => simp [send, outbound, ← accounts.outbound]
  | some channel =>
      have current := accounts.outbound.symm.trans outbound
      have holds := accounts.holds channel
      have held_iff : (∃ other, installed past = some other ∧ .hungUp other ∉ past) ↔
          (channelAt before channel).receiving = true := by
        simp [current, holds.receiving]
      rw [held_iff]
      cases found : before.channels[channel]? with
      | none =>
          -- A channel that was never offered has no sending end.
          have sending := holds.sending.mpr current
          simp [channelAt, found] at sending
      | some state =>
          rw [channelAt_of_found found]
          obtain ⟨texts, taken, sending, held⟩ := state
          cases held <;> simp [send, outbound, found]

/-- A text that is not accepted leaves all as it was. -/
theorem send_refused {session : ConnectionSession} {text : String} {error : TransportError}
    (refused : (session.apply (.send text)).1 = .sent (.error error)) :
    (session.apply (.send text)).2 = session := by
  cases alive : session.isAlive with
  | true =>
      simp only [apply, alive, if_true, applyAlive] at refused ⊢
      obtain ⟨channel, state, -, -, -, sent⟩ | ⟨cause, sent, -⟩ :=
        session.connection.send_cases text
      · rw [sent] at refused
        cases refused
      · rw [sent]
        rfl
  | false => simp [apply, alive] at refused

/-! ## Delivery -/

/-- A receiver gets the texts that were accepted while its channel was installed, each once and in
order, and then the end of the queue. -/
theorem receivers_get_what_was_accepted (operations : List Operation) (channel : Nat) :
    let session := new.run operations
    let past := new.history operations
    received channel past <+: accepted channel past ∧
    (WasOffered channel past ∧ .hungUp channel ∉ past → ∃ texts,
      (session.apply (.receive channel)).1 =
        .received (some (texts, decide (installed past ≠ some channel))) ∧
      received channel past ++ texts = accepted channel past) ∧
    (¬ (WasOffered channel past ∧ .hungUp channel ∉ past) →
      (session.apply (.receive channel)).1 = .received none) ∧
    (WasOffered channel past → installed past ≠ some channel → ∀ more,
      installed (new.history (operations ++ more)) ≠ some channel ∧
      accepted channel (new.history (operations ++ more)) = accepted channel past) ∧
    (.offered channel false ∈ past →
      accepted channel past = [] ∧ installed past ≠ some channel) ∧
    (session.isAlive = true → ∀ text, (session.apply (.send text)).1 = .sent (.ok ()) ↔
      ∃ current, installed past = some current ∧ .hungUp current ∉ past) ∧
    ∀ text error, (session.apply (.send text)).1 = .sent (.error error) →
      (session.apply (.send text)).2 = session := by
  intro session past
  have accounts : Accounts session.connection past := accounts_run operations
  refine ⟨?first, ?held, ?not_held, ?closed, ?refused, ?accepted, ?unsent⟩
  case first =>
    have holds := accounts.holds channel
    exact ⟨_, holds.queued.trans holds.texts.symm⟩
  case held =>
    rintro ⟨offered, held⟩
    obtain ⟨answer, complete⟩ := accounts.receive_held offered held
    exact ⟨_, by rw [receive_answer, answer], complete⟩
  case not_held =>
    intro not_held
    rw [receive_answer, accounts.receive_not_held not_held]
  case closed =>
    intro offered gone more
    obtain ⟨same, still_gone, -⟩ := closed_run offered gone more
    exact ⟨still_gone, same⟩
  case refused => exact accepted_of_refused
  case accepted =>
    intro alive text
    unfold apply
    rw [if_pos alive, ← accounts.send_accepted_iff text]
    simp [applyAlive]
  case unsent => exact fun _ _ => send_refused

/-- A text that is sent after a channel was replaced goes to the next one, and one that is sent
after the loss goes nowhere. -/
example :
    let past := new.history
      [.dial "ws://gateway", .establish 1, .send "first", .establish 1, .send "second", .receive 0,
        .lose 1, .send "third", .establish 0, .receive 1]
    received 0 past = ["first"] ∧ received 1 past = ["second"] ∧ accepted 2 past = [] := by
  decide

end ConnectionSession

end GatewayLink
