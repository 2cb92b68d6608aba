import StreamMux.Connection.Config
import StreamMux.Exchange.Basic
import StreamMux.FrameQueue
import StreamMux.Registry

/-!
The state of a connection. Every stream that was ever opened has a place in `streams`; the
registry holds the places of the live ones by id. A stream leaves the registry in the step that
closes its second direction. The first cause that ends a connection stays its cause.
-/
namespace StreamMux

/-- What one end knows of a connection. -/
structure Connection where
  side : Side
  config : ConnectionConfig
  streams : Array Exchange := #[]
  registry : Registry Nat := .empty
  queue : FrameQueue := .empty
  ids : StreamIds
  /-- When the peer last said that it is alive. -/
  lastHeard : Duration
  /-- Why the connection is over, once it is. -/
  terminal : Option Failure := none
  deriving Inhabited

namespace Connection

/-- A fresh connection. A client announces itself before it sends anything else. -/
def new (side : Side) (config : ConnectionConfig) (setup : Option Setup) (now : Duration) :
    Connection :=
  let queue :=
    match setup with
    | none => .empty
    | some setup => FrameQueue.empty.enqueuePriority (.setup setup)
  { side, config, queue, ids := StreamIds.forSide side, lastHeard := now }

/-- The connection has not ended. -/
def isActive (c : Connection) : Bool := c.terminal.isNone

/-- The stream at a place. -/
def stream (c : Connection) (i : Nat) : Exchange := c.streams[i]?.getD default

/-- Work for the stream at a place is to be given up: by itself, or with the connection. -/
def isStopped (c : Connection) (i : Nat) : Bool := !c.isActive || (c.stream i).stopped

def enqueue (c : Connection) (frame : Frame) : Connection :=
  { c with queue := c.queue.enqueue frame }

def enqueuePriority (c : Connection) (frame : Frame) : Connection :=
  { c with queue := c.queue.enqueuePriority frame }

/-- Puts a stream in its place after a step, queues what the step wants written, and takes the
stream off the registry if the step ended it. -/
def commit (c : Connection) (i : Nat) (after : Exchange) (frames : List Frame) : Connection :=
  let before := c.stream i
  { c with
    streams := c.streams.setIfInBounds i after
    registry := if !before.isOver && after.isOver then c.registry.erase before.id else c.registry
    queue := frames.foldl FrameQueue.enqueue c.queue }

/-- A step of one stream that writes nothing. -/
def step (c : Connection) (i : Nat) (f : Exchange → Exchange) : Connection :=
  c.commit i (f (c.stream i)) []

/-- A step of one stream. -/
def stepWriting (c : Connection) (i : Nat) (f : Exchange → Exchange × List Frame) : Connection :=
  let (after, frames) := f (c.stream i)
  c.commit i after frames

/-- Places a stream and registers it, unless its id is taken. -/
def insert? (c : Connection) (s : Exchange) : Option (Nat × Connection) :=
  (c.registry.insert? s.id c.streams.size).map fun registry =>
    (c.streams.size, { c with registry, streams := c.streams.push s })

/-- How a request of this end comes to nothing. -/
inductive Refusal where
  | failed (cause : Failure)
  /-- Every id of this end is taken: the search for a free one goes on and never comes back. -/
  | endless

/-- A stream of this end under the next free id. -/
def register (c : Connection) (make : UInt32 → Exchange) : Except Refusal (Nat × Connection) :=
  match c.terminal with
  | some cause => .error (.failed cause)
  | none =>
    match c.ids.next? c.registry.contains with
    | none => .error .endless
    | some (id, ids) =>
      match { c with ids }.insert? (make id) with
      | none =>
        .error (.failed (.protocol ("stream id " ++ toString id.toNat ++ " already in use")))
      | some registered => .ok registered

/-- Ends the connection: every live stream fails with the cause, and the queue takes nothing
more. Only the first call has an effect. -/
def teardown (c : Connection) (cause : Failure) : Connection :=
  match c.terminal with
  | some _ => c
  | none =>
    { c with
      terminal := some cause
      streams := c.registry.values.foldl (fun s i => s.modify i (·.fail cause)) c.streams
      registry := .empty
      queue := c.queue.close cause }

/-- Tells the peer the cause, ahead of what waits for streams, and ends the connection. -/
def terminate (c : Connection) (cause : Failure) : Connection :=
  match c.terminal with
  | some _ => c
  | none => (c.enqueuePriority cause.closingFrame).teardown cause

/-- The application of this end closes the connection. -/
def close (c : Connection) : Connection := c.terminate .closed

end Connection
end StreamMux
