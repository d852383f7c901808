import GatewayLink.Client.State
import GatewayLink.Settings.Check

/-!
# The ticker

At most one ticker runs.  Its first round is due one interval after it has begun.  A round that
comes late shifts the following ones, and rounds that were missed are not made up for.
-/

namespace GatewayLink

namespace Ticker

/-- The number of milliseconds by which a round may be late without shifting the next one. -/
def tolerance : Nat := 5

/-- When the next round is due after one that was due at some time and is made now. -/
def next (ticker : Ticker) (due now : Nat) : Nat :=
  if due + tolerance < now then now + ticker.interval else due + ticker.interval

/-- Whether there is something to do: to begin, or a round to make. -/
def isDue (ticker : Ticker) (now : Nat) : Bool :=
  match ticker.due with
  | none => true
  | some due => due ≤ now

/-- The calls of a round. -/
def round (ticker : Ticker) : List Call :=
  ticker.calls.map fun call => ⟨.ticker, call.method, call.params, .ready⟩

end Ticker

namespace Client

/-- Starts a ticker in place of the one that is there; an interval must be more than nothing. -/
def startRefresh (client : Client) (interval : Nat) (calls : List RepeatedCall) :
    Except ClientError Unit × Client :=
  if interval = 0 then (.error intervalFault, client)
  else (.ok (), { client with ticker := some ⟨interval, calls, none⟩ })

/-- Stops the ticker; whether there was one. -/
def stopRefresh (client : Client) : Bool × Client :=
  (client.ticker.isSome, { client with ticker := none })

/-- Lets the ticker begin or make the round that is due. -/
def tick (client : Client) : Client :=
  match client.ticker with
  | none => client
  | some ticker =>
    let now := client.clock.uptime
    match ticker.due with
    | none => { client with ticker := some { ticker with due := some (now + ticker.interval) } }
    | some due =>
      if due ≤ now then
        { client with ticker := some { ticker with due := some (ticker.next due now) } }.addCalls
          ticker.round
      else client

end Client

end GatewayLink
