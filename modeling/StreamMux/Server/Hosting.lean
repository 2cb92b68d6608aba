import StreamMux.Server.Admission
import StreamMux.Server.Basic
import StreamMux.Server.Error

/-!
A server with the tasks of its connections. The task of a connection awaits the SETUP frame, for as
long as the settings allow, and asks the acceptor, which may take its time; then it stands by the
connection until that ends, or tells the peer why it is turned away. When the task is over, however
that came about, its end is booked, as a failure or not. The accept loop and the tasks take turns:
each goes on until it has to wait.
-/
namespace StreamMux

/-- How the task of a connection ends: what the peer is told in an ERROR frame, if anything, and why
the task failed, if it did. -/
structure Parting where
  told : Option Failure := none
  error : Option ServerError := none
  deriving DecidableEq, Repr

/-- How far the task of a connection is. -/
inductive Handling where
  | awaiting
  /-- The acceptor was asked about a peer. -/
  | asking (setup : Setup)
  /-- The peer is being told why it is turned away. -/
  | leaving (parting : Parting)
  | serving (config : ConnectionConfig) (application : Application)
  | finished (parting : Parting)

namespace Handling

/-- What the task of a connection can meet with. -/
inductive Occurrence where
  /-- The socket cannot be prepared. -/
  | broken (error : IoError)
  /-- The first frame was read; none at the end of the stream. -/
  | first (read : Except Failure (Option ByteArray))
  /-- The time for the first frame is up. -/
  | overdue
  /-- The acceptor has made up its mind. -/
  | answered (answer : Except Failure Application)
  /-- The peer was told, or is out of reach. -/
  | told
  /-- The connection has ended. -/
  | ended

def isOver : Handling → Bool
  | finished _ => true
  | _ => false

/-- The task is over, and failed. -/
def hasFailed : Handling → Bool
  | finished parting => parting.error.isSome
  | _ => false

/-- A peer that does not announce itself in time. -/
def lateness (limit : Duration) : Parting :=
  let error := ServerError.setupTimeout limit
  { told := some (.invalidSetup error.text), error := some error }

/-- A peer that is not admitted. -/
def refusal (cause : Failure) : Parting :=
  { told := some cause, error := some (.setupRejected cause) }

/-- Checks the first frame. -/
def receive (first : ByteArray) : Handling :=
  match validateSetup first with
  | .ok setup => asking setup
  | .error cause => leaving (refusal cause)

/-- What becomes of a task. A peer that leaves before it has announced itself is no failure. -/
def meet (settings : Settings) : Handling → Occurrence → Handling
  | awaiting, .broken error => finished { error := some (.io error) }
  | awaiting, .first (.error cause) => finished { error := some (.failure cause) }
  | awaiting, .first (.ok none) => finished {}
  | awaiting, .first (.ok (some first)) => receive first
  | awaiting, .overdue => leaving (lateness settings.setupTimeout)
  | asking setup, .answered (.ok application) =>
    serving (setup.connectionConfig settings.prefetch) application
  | asking _, .answered (.error cause) => leaving (refusal (.rejectedSetup cause.message))
  | leaving parting, .told => finished parting
  | serving .., .ended => finished {}
  | handling, _ => handling

end Handling

/-- The task of a connection. -/
structure Visit where
  handling : Handling := .awaiting
  /-- The task was told that the server shuts down. It closes its connection, once it has one, and
  awaits the end of it like any other. -/
  shutdown : Bool := false

/-- The server is shut down. -/
def Visit.tell (v : Visit) : Visit := { v with shutdown := true }

/-- A server at work, with the tasks of all connections that it has taken on. -/
structure Hosting where
  server : Server
  /-- The tasks, in the order in which their connections were taken. -/
  visits : List Visit := []
  /-- A shutdown was asked for. -/
  called : Bool := false

namespace Hosting

/-- What can happen at a server. -/
inductive Event where
  /-- A connection was taken from the listener. -/
  | arrival
  /-- No connection could be taken. -/
  | lost (error : IoError)
  /-- The task with a number meets with something. -/
  | meets (task : Nat) (what : Handling.Occurrence)
  /-- A shutdown is asked for: all tasks are told. -/
  | shutdown
  /-- The accept loop learns of the shutdown. -/
  | stop

/-- A server that has just begun to listen. -/
def opening (settings : Settings) : Hosting := { server := { settings } }

/-- Takes a connection on, if there is room for it. -/
def arrive (h : Hosting) : Hosting :=
  { h with
    server := h.server.step .arrival
    visits := if h.server.running && !h.server.isFull then h.visits ++ [{}] else h.visits }

/-- Lets a task go on. Its end is booked. -/
def meet (h : Hosting) (task : Nat) (what : Handling.Occurrence) : Hosting :=
  match h.visits[task]? with
  | none => h
  | some visit =>
    let handling := visit.handling.meet h.server.settings what
    let visits := h.visits.set task { visit with handling }
    if handling.isOver && !visit.handling.isOver then
      { h with server := h.server.step (.ending task handling.hasFailed), visits }
    else { h with visits }

def step (h : Hosting) : Event → Hosting
  | .arrival => h.arrive
  | .lost _ => h
  | .meets task what => h.meet task what
  | .shutdown => { h with visits := h.visits.map Visit.tell, called := true }
  | .stop => if h.called then { h with server := h.server.step .shutdown } else h

def run (h : Hosting) (events : List Event) : Hosting := events.foldl step h

end Hosting
end StreamMux
