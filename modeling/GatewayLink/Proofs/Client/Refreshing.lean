import Mathlib.Data.List.Induction
import GatewayLink.Proofs.Client.Ticking

/-!
# Which ticker makes the calls

A client keeps the ticker that it started last.  Here every ticker that was ever started is listed,
aborted ones too, and each of them would go on making calls if nobody aborted it.  Since a start
aborts the ticker that it replaces, and a stop and a close abort the one that is kept, no ticker
but the one of the latest start is ever live, and it makes exactly the calls that the client makes.

A start has two parts: the new ticker is spawned, and then it is kept and the one before is aborted.
Rounds that come in between are those of the one before, as if they had come before the start.  A
ticker that goes on does not wait until it has handed over its whole round, so a round during which
it is aborted is one that came before.
-/

namespace GatewayLink

/-- A ticker that was started at some time. -/
structure StartedTicker where
  start : Nat
  ticker : Ticker
  /-- Whether it has not been aborted. -/
  isLive : Bool

/-- All tickers that were started, oldest first, and the place of the one that is kept. -/
structure Tickers where
  started : List StartedTicker
  kept : Option Nat

namespace Tickers

/-- Nothing has been started. -/
def new : Tickers := ⟨[], none⟩

/-- Aborts the ticker in some place. -/
def abort (tickers : Tickers) (number : Nat) : Tickers :=
  { tickers with started := tickers.started.modify number ({ · with isLive := false }) }

/-- Aborts the ticker that is kept, which is kept no more. -/
def stop (tickers : Tickers) : Tickers :=
  match tickers.kept with
  | some number => { tickers with kept := none }.abort number
  | none => tickers

/-- Spawns a ticker, which is not kept yet. -/
def spawn (tickers : Tickers) (now interval : Nat) (calls : List RepeatedCall) : Tickers :=
  { tickers with started := tickers.started ++ [⟨now, ⟨interval, calls, none⟩, true⟩] }

/-- Keeps the ticker in some place, and aborts the one that was kept before. -/
def replace (tickers : Tickers) (number : Nat) : Tickers :=
  match tickers.kept with
  | some previous => { tickers with kept := some number }.abort previous
  | none => { tickers with kept := some number }

/-- Starts a ticker in place of the one that is kept. -/
def start (tickers : Tickers) (now interval : Nat) (calls : List RepeatedCall) : Tickers :=
  (tickers.spawn now interval calls).replace tickers.started.length

/-- Every ticker that was not aborted goes on. -/
def goOn (tickers : Tickers) (now : Nat) : Tickers :=
  { tickers with
    started := tickers.started.map fun started =>
      if started.isLive then { started with ticker := started.ticker.goOn now } else started }

/-- What is asked of the tickers is carried out. -/
def carryOut (tickers : Tickers) (now : Nat) : Option TickerCommand → Tickers
  | some (.start interval calls) => tickers.start now interval calls
  | some .stop => tickers.stop
  | some .goOn => tickers.goOn now
  | none => tickers

/-- The tickers after an action; a client that comes to its end aborts the one that is kept. -/
def step (tickers : Tickers) (client : Client) (action : Client.Action) : Tickers :=
  let tickers := tickers.carryOut client.clock.uptime (client.command? action)
  if (client.step action).isAlive then tickers else tickers.stop

/-- The tickers after a sequence of actions. -/
def along (tickers : Tickers) (client : Client) : List Client.Action → Tickers
  | [] => tickers
  | action :: rest => (tickers.step client action).along (client.step action) rest

theorem along_append (tickers : Tickers) (client : Client) (first second : List Client.Action) :
    tickers.along client (first ++ second) =
      (tickers.along client first).along (client.run first) second := by
  induction first generalizing tickers client with
  | nil => rfl
  | cons action rest induction => exact induction _ _

/-! ## While a ticker is started -/

/-- All tickers have been aborted, but for the latest one if it is kept. -/
inductive Fits : Option StartedTicker → Tickers → Prop where
  | idle {aborted : List StartedTicker} (dead : ∀ started ∈ aborted, started.isLive = false) :
      Fits none ⟨aborted, none⟩
  | running {aborted : List StartedTicker} {latest : StartedTicker}
      (dead : ∀ started ∈ aborted, started.isLive = false) (alive : latest.isLive = true) :
      Fits (some latest) ⟨aborted ++ [latest], some aborted.length⟩

theorem abort_append (front : List StartedTicker) (ticker : StartedTicker)
    (behind : List StartedTicker) (kept : Option Nat) :
    abort ⟨front ++ ticker :: behind, kept⟩ front.length =
      ⟨front ++ { ticker with isLive := false } :: behind, kept⟩ := by
  simp [abort, List.modify_eq_take_drop]

namespace Fits

variable {latest : Option StartedTicker} {tickers : Tickers}

theorem stop (fits : Fits latest tickers) : Fits none tickers.stop := by
  cases fits with
  | idle dead => exact .idle dead
  | running dead alive =>
      unfold Tickers.stop
      dsimp only
      rw [abort_append]
      exact .idle (by simpa [or_imp, forall_and] using dead)

theorem start (fits : Fits latest tickers) (now interval : Nat) (calls : List RepeatedCall) :
    Fits (some ⟨now, ⟨interval, calls, none⟩, true⟩) (tickers.start now interval calls) := by
  cases fits with
  | idle dead => exact .running dead rfl
  | @running aborted latest dead alive =>
      have replaced : (⟨aborted ++ [latest], some aborted.length⟩ : Tickers).start now interval calls =
          ⟨(aborted ++ [{ latest with isLive := false }]) ++ [⟨now, ⟨interval, calls, none⟩, true⟩],
            some (aborted ++ [{ latest with isLive := false }]).length⟩ := by
        unfold Tickers.start spawn replace
        dsimp only
        rw [List.append_assoc, List.singleton_append, abort_append]
        simp
      rw [replaced]
      exact .running (by simpa [or_imp, forall_and] using dead) rfl

theorem goOn (fits : Fits latest tickers) (now : Nat) :
    Fits (latest.map fun started => { started with ticker := started.ticker.goOn now })
      (tickers.goOn now) := by
  have unmoved {aborted : List StartedTicker} (dead : ∀ started ∈ aborted, started.isLive = false) :
      (aborted.map fun started : StartedTicker =>
        if started.isLive then { started with ticker := started.ticker.goOn now } else started) =
          aborted := by
    refine (List.map_congr_left fun started member => ?_).trans aborted.map_id
    simp [dead started member]
  cases fits with
  | idle dead =>
      rw [Tickers.goOn, unmoved dead]
      exact .idle dead
  | running dead alive =>
      rw [Tickers.goOn, List.map_append, unmoved dead, List.map_singleton, if_pos alive]
      exact .running dead alive

/-- The ticker that is kept after a command, if some ticker was kept before. -/
def carried (latest : Option StartedTicker) (now : Nat) :
    Option TickerCommand → Option StartedTicker
  | some (.start interval calls) => some ⟨now, ⟨interval, calls, none⟩, true⟩
  | some .stop => none
  | some .goOn => latest.map fun started => { started with ticker := started.ticker.goOn now }
  | none => latest

theorem carryOut (fits : Fits latest tickers) (now : Nat) (command : Option TickerCommand) :
    Fits (carried latest now command) (tickers.carryOut now command) := by
  cases command with
  | none => exact fits
  | some command =>
      cases command with
      | start interval calls => exact fits.start now interval calls
      | stop => exact fits.stop
      | goOn => exact fits.goOn now

theorem map_carried (latest : Option StartedTicker) (now : Nat) (command : Option TickerCommand) :
    (carried latest now command).map (·.ticker) =
      Ticker.commanded (latest.map (·.ticker)) now command := by
  cases command with
  | none => rfl
  | some command => cases command <;> cases latest <;> rfl

end Fits

end Tickers

/-! ## It was started last -/

/-- Whether an action, if it is carried out, replaces or stops the ticker. -/
def Client.Action.endsTicker : Client.Action → Bool
  | .startRefresh interval _ => interval != 0
  | .stopRefresh | .close => true
  | _ => false

open Client (Action)

/-- A run starts a ticker between two parts, and nothing that is carried out in the second part
replaces or stops it. -/
structure StartedTicker.IsOfLatestStart (started : StartedTicker) (origin : Client)
    (front behind : List Action) : Prop where
  held : (origin.run front).isHeld = true
  positive : started.ticker.interval ≠ 0
  start : started.start = (origin.run front).clock.uptime
  alone : ∀ before action after, behind = before ++ action :: after →
    (origin.run (front ++
      .startRefresh started.ticker.interval started.ticker.calls :: before)).isHeld = true →
    action.endsTicker = false

/-- A ticker was started last in a run, and has been due a full interval later at the earliest. -/
structure StartedTicker.Lasts (started : StartedTicker) (origin : Client) (actions : List Action) :
    Prop where
  begun : started.start ≤ (origin.run actions).clock.uptime
  later : ∀ due, started.ticker.due = some due → started.start + started.ticker.interval ≤ due
  latest : ∃ front behind,
    actions = front ++ .startRefresh started.ticker.interval started.ticker.calls :: behind ∧
      started.IsOfLatestStart origin front behind

namespace Client

/-- What an action asks of the ticker of a client. -/
inductive Commands (client : Client) (action : Action) : Option TickerCommand → Prop where
  | start (interval : Nat) (calls : List RepeatedCall) (held : client.isHeld = true)
      (is_start : action = .startRefresh interval calls) (positive : interval ≠ 0) :
      Commands client action (some (.start interval calls))
  | stop (ends : action.endsTicker = true) : Commands client action (some .stop)
  | goOn (is_tick : action = .tick) : Commands client action (some .goOn)
  | nothing (no_tick : client.isAlive = true → action ≠ .tick)
      (calm : client.isHeld = true → action.endsTicker = false) : Commands client action none

theorem commands (client : Client) (action : Action) :
    Commands client action (client.command? action) := by
  have of_task (calm : client.isHeld = true → action.endsTicker = false) :
      Commands client action action.taskCommand? := by
    cases action with
    | tick => exact .goOn rfl
    | _ => exact .nothing (fun _ => Action.noConfusion) calm
  unfold command?
  split
  · rename_i held
    cases action with
    | startRefresh interval calls =>
        by_cases zero : interval = 0
        · simpa [Action.command?, zero] using
            (Commands.nothing (fun _ => Action.noConfusion) (by simp [Action.endsTicker]) :
              Commands client (.startRefresh 0 calls) none)
        · simpa [Action.command?, zero] using Commands.start interval calls held rfl zero
    | stopRefresh => exact .stop rfl
    | close => exact .stop rfl
    | _ => exact of_task fun _ => rfl
  · rename_i let_go
    split
    · exact of_task fun held => absurd held let_go
    · rename_i dead
      exact .nothing (fun alive => absurd alive dead) fun held => absurd held let_go

end Client

namespace StartedTicker

variable {started : StartedTicker} {origin : Client} {actions : List Action}

/-- A ticker is still the one of the latest start after an action that does not end it. -/
theorem IsOfLatestStart.append {front behind : List Action} {action : Action}
    (latest : started.IsOfLatestStart origin front behind)
    (calm : (origin.run (front ++ .startRefresh started.ticker.interval started.ticker.calls ::
      behind)).isHeld = true → action.endsTicker = false) :
    started.IsOfLatestStart origin front (behind ++ [action]) where
  held := latest.held
  positive := latest.positive
  start := latest.start
  alone := by
    intro before other after split held
    rcases List.eq_nil_or_concat after with rfl | ⟨more, last, rfl⟩
    · obtain ⟨rfl, same⟩ := List.append_inj' split rfl
      obtain rfl := List.singleton_inj.mp same
      exact calm held
    · rw [List.concat_eq_append, ← List.cons_append, ← List.append_assoc] at split
      exact latest.alone before other more (List.append_inj' split rfl).1 held

theorem Lasts.of_start {interval : Nat} {calls : List RepeatedCall}
    (held : (origin.run actions).isHeld = true) (positive : interval ≠ 0) :
    Lasts ⟨(origin.run actions).clock.uptime, ⟨interval, calls, none⟩, true⟩ origin
      (actions ++ [.startRefresh interval calls]) where
  begun := by
    rw [Client.run_append]
    exact (Client.paced_step _ _).1
  later := by simp
  latest := ⟨actions, [], rfl, held, positive, rfl, by simp⟩

theorem Lasts.append {action : Action} (lasts : started.Lasts origin actions)
    (calm : (origin.run actions).isHeld = true → action.endsTicker = false) :
    started.Lasts origin (actions ++ [action]) where
  begun := by
    rw [Client.run_append]
    exact Nat.le_trans lasts.begun (Client.paced_step _ action).1
  later := lasts.later
  latest := by
    obtain ⟨front, behind, rfl, latest⟩ := lasts.latest
    exact ⟨front, behind ++ [action], by simp, latest.append calm⟩

theorem Lasts.goOn (lasts : started.Lasts origin actions) :
    { started with
      ticker := started.ticker.goOn (origin.run actions).clock.uptime }.Lasts origin actions where
  begun := lasts.begun
  later := by
    intro due next
    rw [Ticker.interval_goOn]
    exact started.ticker.le_of_due_goOn _ lasts.begun lasts.later next
  latest := by
    obtain ⟨front, behind, split, latest⟩ := lasts.latest
    exact ⟨front, behind, by simpa using split, latest.held, by simpa using latest.positive,
      latest.start, by simpa using latest.alone⟩

end StartedTicker

namespace Client

/-- What the tickers that were started along a run have to do with the client. -/
structure Accounts (origin : Client) (actions : List Action) (latest : Option StartedTicker)
    (tickers : Tickers) : Prop where
  fits : Tickers.Fits latest tickers
  ticker : (origin.run actions).ticker = latest.map (·.ticker)
  gone : (origin.run actions).isAlive = false → latest = none
  lasts : ∀ started ∈ latest, started.Lasts origin actions

namespace Accounts

variable {origin : Client} {actions : List Action} {latest : Option StartedTicker}
  {tickers : Tickers}

theorem step (accounts : Accounts origin actions latest tickers) (action : Action) :
    ∃ next, Accounts origin (actions ++ [action]) next
      (tickers.step (origin.run actions) action) := by
  have after : origin.run (actions ++ [action]) = (origin.run actions).step action :=
    run_append ..
  obtain ⟨-, ticker, -⟩ := (origin.run actions).paced_step action
  have carried := accounts.fits.carryOut (origin.run actions).clock.uptime
    ((origin.run actions).command? action)
  rw [Tickers.step]
  cases alive : ((origin.run actions).step action).isAlive with
  | false =>
      refine ⟨none, carried.stop, ?_, fun _ => rfl, by simp⟩
      rw [after, ticker, alive]
      rfl
  | true =>
      refine ⟨_, carried, ?_, ?_, ?_⟩
      · rw [after, ticker, alive, if_pos rfl, Tickers.Fits.map_carried, accounts.ticker]
      · rw [after, alive]
        exact Bool.noConfusion
      · intro started kept
        have commands := (origin.run actions).commands action
        generalize (origin.run actions).command? action = command at commands kept
        cases commands with
        | start interval calls held is_start positive =>
            obtain rfl := Option.some.inj kept
            exact is_start ▸ .of_start held positive
        | stop => cases kept
        | goOn is_tick =>
            obtain ⟨before, found, rfl⟩ := Option.map_eq_some_iff.mp kept
            exact (accounts.lasts before found).goOn.append fun _ => is_tick ▸ rfl
        | nothing no_tick calm => exact (accounts.lasts started kept).append calm

theorem run (settings : Settings) (limits : Limits) (wall : Timestamp) (actions : List Action) :
    ∃ latest, Accounts (new settings limits wall) actions latest
      (Tickers.new.along (new settings limits wall) actions) := by
  induction actions using List.reverseRecOn with
  | nil => exact ⟨none, .idle (by simp), rfl, fun _ => rfl, by simp⟩
  | append_singleton front action induction =>
      obtain ⟨latest, accounts⟩ := induction
      rw [Tickers.along_append]
      exact accounts.step action

end Accounts

section Ask

variable {client : Client}

end Ask

/-- A start that fails leaves the ticker alone, one that is carried out replaces it, and after a
stop nothing comes any more. -/
example :
    ((new .default .standard ⟨0, 0⟩).run
      [.startRefresh 20 [⟨"feeds.list", .null⟩], .tick, .pass 20, .tick, .startRefresh 0 [],
        .pass 20, .tick, .startRefresh 30 [⟨"feeds.read", .null⟩], .tick, .pass 20, .tick, .pass 10,
        .tick, .stopRefresh, .pass 60, .tick]).ticked.map Call.method =
      ["feeds.list", "feeds.list", "feeds.read"] := by decide

end Client

end GatewayLink
