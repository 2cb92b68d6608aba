import StreamMux.Connection.Basic
import StreamMux.Exchange.Inbound
import StreamMux.Exchange.Outbound

/-!
The requests that this end makes. A connection that is over refuses each of them with its cause.
One that needs an id does not come back while all of them are taken.
-/
namespace StreamMux.Connection

/-- The cause that an operation on a closed connection fails with. -/
def closedCause (c : Connection) : Failure := c.terminal.getD .closed

/-- Metadata for the peer as a whole. -/
def metadataPush (c : Connection) (metadata : ByteArray) : Except Refusal Connection :=
  match c.terminal with
  | some cause => .error (.failed cause)
  | none =>
    if c.queue.accepts then .ok (c.enqueuePriority (.metadataPush metadata))
    else .error (.failed c.closedCause)

/-- A request without an answer: an id is spent on it, but no stream is kept. -/
def fireAndForget (c : Connection) (payload : Payload) : Except Refusal Connection :=
  match c.terminal with
  | some cause => .error (.failed cause)
  | none =>
    match c.ids.next? c.registry.contains with
    | none => .error .endless
    | some (id, ids) =>
      if c.queue.accepts then .ok ({ c with ids }.enqueue (.payload (.fireAndForget id payload)))
      else .error (.failed c.closedCause)

/-- A request with one answer. -/
def requestResponse (c : Connection) (payload : Payload) : Except Refusal (Nat × Connection) := do
  let (i, c) ← c.register Exchange.requesterResponse
  return (i, c.enqueue (.payload (.requestResponse (c.stream i).id payload)))

/-- A request with a stream of answers, the first `batch` of which are asked for at once. -/
def requestStream (c : Connection) (batch : UInt32) (payload : Payload) :
    Except Refusal (Nat × Connection) := do
  let (i, c) ← c.register (Exchange.requesterStream batch)
  return (i, c.enqueue (.payload (.requestStream (c.stream i).id batch payload)))

/-- A channel. Nothing is written before the first item of this end is there. -/
def requestChannel (c : Connection) (batch : UInt32) : Except Refusal (Nat × Connection) :=
  c.register (Exchange.requesterChannel batch)

/-- The answer of a request-response, if it is there. -/
def pollResponse (c : Connection) (i : Nat) : Poll Item :=
  match (c.stream i).answer with
  | .given result => .ready result
  | _ => .pending

/-- The next item of the stream at a place. -/
def pollItem (c : Connection) (i : Nat) : Poll (Option Item) × Connection :=
  let (answer, after, frames) := (c.stream i).poll
  (answer, c.commit i after frames)

end StreamMux.Connection
