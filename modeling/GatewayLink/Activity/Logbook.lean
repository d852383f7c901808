import GatewayLink.Activity.BoundedLog
import GatewayLink.Activity.Entry
import GatewayLink.Table

/-!
# The logbook

The logbook keeps the three logs and the standing of each method.  It generates the ids of entries
that belong to no request; they have the form of version-4 identifiers, with a serial number in
place of the random digits, so no two agree and none is a decimal number.
-/

namespace GatewayLink

/-- How many entries each log keeps. -/
structure Limits where
  history : Option Nat
  activity : Option Nat
  subscriptions : Option Nat
  deriving DecidableEq

namespace Limits

/-- The logs that an operator sees. -/
def standard : Limits := ⟨some 20, some 25, some 6⟩

/-- Logs that forget nothing. -/
def unlimited : Limits := ⟨none, none, none⟩

end Limits

/-- A generated id: 8, 4, 4, 4 and 12 hexadecimal digits, of which all but two count. -/
def generatedId (serial : Nat) : String :=
  let digits := Nat.toDigits 16 serial
  let all := List.replicate (30 - digits.length) '0' ++ digits
  let lead := all.length - 22
  let group (start count : Nat) : List Char := (all.drop (lead + start)).take count
  String.ofList <|
    all.take lead ++ '-' :: group 0 4 ++ '-' :: '4' :: group 4 3 ++ '-' :: '8' :: group 7 3 ++
      '-' :: group 10 12

/-- The logs and what is known of each method. -/
structure Logbook where
  history : BoundedLog CallRecord
  activity : BoundedLog Bulletin
  subscriptions : BoundedLog SubscriptionRecord
  standing : Table MethodStanding
  /-- How many ids were generated. -/
  generated : Nat
  deriving DecidableEq

namespace Logbook

/-- An empty logbook. -/
def new (limits : Limits) : Logbook where
  history := .new limits.history
  activity := .new limits.activity
  subscriptions := .new limits.subscriptions
  standing := .empty
  generated := 0

/-- Generates an id. -/
def draw (logbook : Logbook) : String × Logbook :=
  (generatedId logbook.generated, { logbook with generated := logbook.generated + 1 })

/-- Records an attempted call under its id, or under a generated one; the id. -/
def attempt (logbook : Logbook) (now : Timestamp) (id : Option String) (method : String)
    (status : CallStatus) (duration : Option UInt64) : String × Logbook :=
  let (id, logbook) :=
    match id with
    | some id => (id, logbook)
    | none => logbook.draw
  (id, { logbook with history := logbook.history.push ⟨id, method, status, duration, now⟩ })

/-- Whether an entry is an unfinished call with an id. -/
def awaits (id : String) (entry : CallRecord) : Bool :=
  entry.id == id && !entry.status.isFinal

/-- Gives the newest unfinished call with an id its outcome; whether there is one.  Only `ok` and
`error` are outcomes. -/
def settle (logbook : Logbook) (id : String) (status : CallStatus) (duration : UInt64) :
    Bool × Logbook :=
  if status = .ok ∨ status = .error then
    let (found, history) :=
      logbook.history.patch (awaits id) fun entry =>
        { entry with status, duration := some duration }
    (found, { logbook with history })
  else (false, logbook)

/-- Posts a bulletin. -/
def post (logbook : Logbook) (title content : String) (severity : Severity) : Logbook :=
  let (id, logbook) := logbook.draw
  { logbook with activity := logbook.activity.push ⟨id, title, content, severity⟩ }

/-- Adds a subscription record. -/
def subscription (logbook : Logbook) (action : String) (subscription : Option String) :
    Logbook :=
  let (id, logbook) := logbook.draw
  { logbook with
    subscriptions := logbook.subscriptions.push ⟨id, action, subscription⟩ }

/-- What is known of a method. -/
def standing? (logbook : Logbook) (method : String) : Option MethodStanding :=
  logbook.standing.get? method

/-- Changes what is known of a method. -/
def updateStanding (logbook : Logbook) (method : String)
    (update : MethodStanding → MethodStanding) : Logbook :=
  { logbook with
    standing := logbook.standing.set method (update ((logbook.standing? method).getD .unknown)) }

/-- Notes a success. -/
def noteSuccess (logbook : Logbook) (now : Timestamp) (method : String) : Logbook :=
  logbook.updateStanding method fun standing => { standing with lastOk := some now }

/-- Notes a failure and its text. -/
def noteFailure (logbook : Logbook) (now : Timestamp) (method text : String) : Logbook :=
  logbook.updateStanding method fun standing =>
    { standing with lastError := some now, lastErrorText := some text }

/-- What can be entered in a logbook. -/
inductive Operation where
  | attempt (now : Timestamp) (id : Option String) (method : String) (status : CallStatus)
    (duration : Option UInt64)
  | settle (id : String) (status : CallStatus) (duration : UInt64)
  | post (title content : String) (severity : Severity)
  | subscription (action : String) (subscription : Option String)
  | noteSuccess (now : Timestamp) (method : String)
  | noteFailure (now : Timestamp) (method text : String)

/-- The answer of a logbook. -/
inductive Outcome where
  | id (value : String)
  | truth (value : Bool)
  | standing (value : Option MethodStanding)
  | done
  deriving DecidableEq

/-- Carries out an operation. -/
def apply (logbook : Logbook) : Operation → Outcome × Logbook
  | .attempt now id method status duration =>
    let (id, after) := logbook.attempt now id method status duration
    (.id id, after)
  | .settle id status duration =>
    let (found, after) := logbook.settle id status duration
    (.truth found, after)
  | .post title content severity => (.done, logbook.post title content severity)
  | .subscription action subscription => (.done, logbook.subscription action subscription)
  | .noteSuccess now method =>
    let after := logbook.noteSuccess now method
    (.standing (after.standing? method), after)
  | .noteFailure now method text =>
    let after := logbook.noteFailure now method text
    (.standing (after.standing? method), after)

/-- The logbook after a sequence of operations. -/
def run (logbook : Logbook) (operations : List Operation) : Logbook :=
  operations.foldl (fun logbook operation => (logbook.apply operation).2) logbook

end Logbook

end GatewayLink
