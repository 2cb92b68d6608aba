import StreamMux.FrameQueue

/-!
A frame queue with the one that takes frames out of it, who may be waiting for the next.
-/
namespace StreamMux

/-- A queue and its only consumer. -/
structure Receiver where
  queue : FrameQueue := .empty
  /-- A frame was asked for and was not there. -/
  waiting : Bool := false
  deriving Inhabited

namespace Receiver

/-- All that could add frames is gone. -/
def dropProducers (r : Receiver) : Receiver :=
  { r with queue := { r.queue with hasProducer := false } }

/-- The one that takes frames goes away. -/
def drop (r : Receiver) : Receiver := { queue := { r.queue with hasConsumer := false } }

/-- Frames are taken in, as those that could add some see it. -/
def accepts (r : Receiver) : Bool := r.queue.accepts && r.queue.hasProducer

/-- Cannot be asked without waiting: a wait is under way, or nobody takes frames. -/
def isBusy (r : Receiver) : Bool := r.waiting || !r.queue.hasConsumer

/-- A frame that is there. -/
def tryNext (r : Receiver) : Option Frame × Receiver :=
  match r.queue.tryDequeue with
  | some (frame, queue) => (some frame, { r with queue })
  | none => (none, r)

/-- Asks for the next frame, or goes on waiting for it. -/
def next (r : Receiver) : Poll (Except Failure Frame) × Receiver :=
  match if r.waiting then r.queue.resumeDequeue else r.queue.dequeue with
  | (.pending, queue) => (.pending, { queue, waiting := true })
  | (answer, queue) => (answer, { queue })

/-- Whether the one who waits was woken, if somebody waits. -/
def woken? (r : Receiver) : Option Bool := if r.waiting then some r.queue.isReady else none

end Receiver
end StreamMux
