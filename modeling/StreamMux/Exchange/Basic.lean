import StreamMux.Fifo
import StreamMux.Limiter
import StreamMux.StreamId

/-!
One stream, as this end sees it. A stream has two directions, which close separately; a stream
both of whose directions are closed is over. What arrives on it waits in an inbox for the
consumer; what leaves it is limited by the credit that the peer grants.

An exchange is stepped by functions from an exchange to an exchange and the frames to be written.
They touch nothing else, so what happens on one stream cannot change another.
-/
namespace StreamMux

/-- What a stream is for, and which end opened it. -/
inductive StreamKind where
  | requesterResponse | requesterStream | requesterChannel
  | responderFireAndForget | responderResponse | responderStream | responderChannel
  deriving DecidableEq, Repr, Inhabited

namespace StreamKind

/-- The kind of stream that a frame of the peer opens. -/
def ofRequest? : FrameType → Option StreamKind
  | .requestFnf => some responderFireAndForget
  | .requestResponse => some responderResponse
  | .requestStream => some responderStream
  | .requestChannel => some responderChannel
  | _ => none

def isRequester : StreamKind → Bool
  | requesterResponse | requesterStream | requesterChannel => true
  | _ => false

/-- Items of this end need credit. -/
def needsCredit : StreamKind → Bool
  | requesterChannel | responderStream | responderChannel => true
  | _ => false

end StreamKind

/-- A set of directions: from the peer, and to the peer. -/
structure Directions where
  inbound : Bool := false
  outbound : Bool := false
  deriving DecidableEq, Repr, Inhabited

namespace Directions

def inboundOnly : Directions := { inbound := true }
def outboundOnly : Directions := { outbound := true }
def both : Directions := { inbound := true, outbound := true }

def union (a b : Directions) : Directions :=
  { inbound := a.inbound || b.inbound, outbound := a.outbound || b.outbound }

end Directions

/-- Directions in which a stream of this kind carries nothing from the start. -/
def StreamKind.initiallyClosed : StreamKind → Directions
  | requesterResponse | requesterStream | responderFireAndForget => Directions.outboundOnly
  | _ => {}

/-- Who takes the items out of an inbox, and when it asks the peer for more. -/
structure Consumer where
  /-- How many items it asks for at a time. -/
  batch : UInt32
  /-- Items taken since it last asked. -/
  delivered : Nat := 0
  /-- It has not asked yet. -/
  grantDue : Bool := false
  /-- The end, or a failure, was taken. -/
  finished : Bool := false
  deriving DecidableEq, Repr, Inhabited

/-- The one answer of a request-response. -/
inductive Answer where
  | none
  | awaited
  | given (result : Item)
  deriving Inhabited

/-- The state of one stream. -/
structure Exchange where
  id : UInt32
  kind : StreamKind
  closed : Directions
  /-- The application was told of the request. -/
  started : Bool := false
  /-- The peer knows of the stream. -/
  initiated : Bool := true
  /-- What has arrived of a payload that comes in fragments. -/
  fragments : Option Payload := none
  limiter : Limiter := {}
  /-- Work of this end for the stream is to be given up. -/
  stopped : Bool := false
  inbox : Fifo Item := .empty
  /-- More can come into the inbox. -/
  inboxOpen : Bool := false
  consumer : Option Consumer := none
  answer : Answer := .none
  deriving Inhabited

namespace Exchange

/-- A request-response of this end. -/
def requesterResponse (id : UInt32) : Exchange :=
  { id, kind := .requesterResponse, closed := StreamKind.initiallyClosed .requesterResponse
    answer := .awaited }

/-- A stream that this end asks for; its first `batch` items are asked for by the request. -/
def requesterStream (batch id : UInt32) : Exchange :=
  { id, kind := .requesterStream, closed := StreamKind.initiallyClosed .requesterStream
    inboxOpen := true, consumer := some { batch := max batch 1 } }

/-- A channel of this end. The peer learns of it with its first item. -/
def requesterChannel (batch id : UInt32) : Exchange :=
  { id, kind := .requesterChannel, closed := StreamKind.initiallyClosed .requesterChannel
    initiated := false, inboxOpen := true, consumer := some { batch := max batch 1 } }

/-- A stream that the peer opens, with the credit that it grants at first. -/
def responder (id : UInt32) (kind : StreamKind) (initial : UInt32) : Exchange :=
  { id, kind, closed := kind.initiallyClosed, limiter := Limiter.new initial.toNat
    inboxOpen := kind = .responderChannel }

/-- Both directions are closed. -/
def isOver (s : Exchange) : Bool := s.closed.inbound && s.closed.outbound

def close (s : Exchange) (sides : Directions) : Exchange :=
  { s with closed := s.closed.union sides }

/-- Gives up what this end still does for the stream. -/
def stop (s : Exchange) : Exchange := { s with stopped := true, limiter := s.limiter.cancel }

/-- An item for the consumer, as long as the inbox is open. -/
def deposit (s : Exchange) (item : Item) : Exchange :=
  if s.inboxOpen then { s with inbox := s.inbox.push item } else s

/-- Nothing more comes into the inbox. -/
def endInbox (s : Exchange) : Exchange := { s with inboxOpen := false }

/-- A failure is the last thing that comes into the inbox. -/
def failInbox (s : Exchange) (f : Failure) : Exchange := (s.deposit (.error f)).endInbox

/-- The first result of a request-response counts. -/
def settle (s : Exchange) (result : Item) : Exchange :=
  match s.answer with
  | .awaited => { s with answer := .given result }
  | _ => s

/-- Ends everything on the stream with one cause, as the peer or the connection wants it. -/
def fail (s : Exchange) (cause : Failure) : Exchange :=
  ((s.close Directions.both).stop.failInbox cause).settle (.error cause)

end Exchange
end StreamMux
