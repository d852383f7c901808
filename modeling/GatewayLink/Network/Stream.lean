import GatewayLink.Failure

/-!
# Streams of messages

What arrives on a WebSocket stream, and the texts in it.  Control frames are passed over; a close
frame, or a report that the stream is closed, is an end.
-/

namespace GatewayLink

/-- What a WebSocket stream yields. -/
inductive StreamItem where
  | text (value : String)
  | binary (data : List UInt8)
  | ping (data : List UInt8)
  | pong (data : List UInt8)
  /-- A frame that belongs to no message. -/
  | raw (data : List UInt8)
  | close (code : Option Nat)
  /-- The connection has been closed. -/
  | closed
  /-- The connection had been closed before. -/
  | alreadyClosed
  | fault (cause : StreamFault)
  deriving DecidableEq, Repr

namespace StreamItem

/-- What a reader of texts makes of an item. -/
inductive Reading where
  | text (value : String)
  | failure (cause : TransportError)
  /-- The end of the stream. -/
  | finished
  deriving DecidableEq, Repr

/-- The reading of an item; nothing for one that is passed over. -/
def reading? : StreamItem → Option Reading
  | .text value => some (.text value)
  | .binary _ => some (.failure (.unexpected "收到了非预期的 WebSocket 二进制消息"))
  | .ping _ | .pong _ | .raw _ => none
  | .close _ | .closed | .alreadyClosed => some .finished
  | .fault cause => some (.failure (.stream cause))

/-- Reads up to the first item that is not passed over; an exhausted stream is at its end. -/
def next : List StreamItem → Reading × List StreamItem
  | [] => (.finished, [])
  | item :: rest =>
    match item.reading? with
    | some reading => (reading, rest)
    | none => next rest

@[simp] theorem next_nil : next [] = (.finished, []) := rfl

theorem next_of_passed_over (item : StreamItem) (rest : List StreamItem)
    (passed : item.reading? = none) : next (item :: rest) = next rest := by
  simp [next, passed]

theorem next_of_reading (item : StreamItem) (rest : List StreamItem) (reading : Reading)
    (read : item.reading? = some reading) : next (item :: rest) = (reading, rest) := by
  simp [next, read]

/-- The answers of so many readings in a row. -/
def readings : Nat → List StreamItem → List Reading
  | 0, _ => []
  | count + 1, items =>
    let (reading, rest) := next items
    reading :: readings count rest

end StreamItem

end GatewayLink
