import StreamMux.Failure
import StreamMux.Fifo

/-!
The frames of a connection that wait to be written. Frames of the connection as a whole go
through a lane of their own and overtake the frames of streams. Closing the queue keeps what was
accepted and refuses what comes later; the first cause stays.
-/
namespace StreamMux

/-- Two lanes of frames; the priority lane is emptied first. -/
structure FrameQueue where
  priority : Fifo Frame := .empty
  normal : Fifo Frame := .empty
  /-- Why the queue was closed, once it is. -/
  cause : Option Failure := none
  /-- Somebody can still add frames. -/
  hasProducer : Bool := true
  /-- Somebody can still take frames. -/
  hasConsumer : Bool := true

namespace FrameQueue

def empty : FrameQueue := {}

instance : Inhabited FrameQueue := ⟨empty⟩

def isClosed (q : FrameQueue) : Bool := q.cause.isSome

/-- Both lanes hold nothing. -/
def isEmpty (q : FrameQueue) : Bool := q.priority.isEmpty && q.normal.isEmpty

/-- Frames are taken in. -/
def accepts (q : FrameQueue) : Bool := !q.isClosed && q.hasConsumer

def enqueue (q : FrameQueue) (frame : Frame) : FrameQueue :=
  if q.accepts then { q with normal := q.normal.push frame } else q

def enqueuePriority (q : FrameQueue) (frame : Frame) : FrameQueue :=
  if q.accepts then { q with priority := q.priority.push frame } else q

/-- Refuses frames from now on; the first cause stays. -/
def close (q : FrameQueue) (cause : Failure) : FrameQueue :=
  { q with cause := q.cause <|> some cause }

/-- What a consumer is told when no frame will come. -/
def finalCause (q : FrameQueue) : Failure := q.cause.getD .closed

/-- A frame that is already there, priority lane first. -/
def tryDequeue (q : FrameQueue) : Option (Frame × FrameQueue) :=
  match q.priority.pop? with
  | some (frame, priority) => some (frame, { q with priority })
  | none => q.normal.pop?.map fun (frame, normal) => (frame, { q with normal })

/-- Asks for the next frame. Once the queue is closed and empty the answer is the cause. -/
def dequeue (q : FrameQueue) : Poll (Except Failure Frame) × FrameQueue :=
  match q.tryDequeue with
  | some (frame, q) => (.ready (.ok frame), q)
  | none =>
    if q.isClosed || !q.hasProducer then (.ready (.error q.finalCause), q) else (.pending, q)

/-- Asks again after a pending answer. The priority lane is asked first: if it is exhausted
because nobody can add to it, that is the answer. -/
def resumeDequeue (q : FrameQueue) : Poll (Except Failure Frame) × FrameQueue :=
  match q.priority.pop? with
  | some (frame, priority) => (.ready (.ok frame), { q with priority })
  | none =>
    if q.hasProducer then q.dequeue else (.ready (.error q.finalCause), q)

/-- Asking again would not be answered by "pending". -/
def isReady (q : FrameQueue) : Bool := !q.isEmpty || q.isClosed || !q.hasProducer

end FrameQueue
end StreamMux
