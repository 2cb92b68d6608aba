import StreamMux.Application
import StreamMux.Connection.Dispatch
import StreamMux.Connection.KeepAlive
import StreamMux.Connection.Request
import StreamMux.Pipe
import StreamMux.Text.Lossy

/-!
One end of a connection at work: the state of the connection, the application, the work that the
application has under way, and the requests that it has made. What can be seen from outside is
recorded in the order in which it happens.
-/
namespace StreamMux

/-- Items handed in from outside for a source that is fed. -/
structure Feed where
  items : Fifo Item := .empty
  ended : Bool := false
  /-- The source that takes the items still exists. -/
  alive : Bool := true
  deriving Inhabited

/-- How far a job has come. -/
inductive Phase where
  | fresh
  | asleep (alarm : Alarm)
  | awake

/-- Work of the application for one call. Streams are named by their place. -/
inductive Task where
  | push (metadata : ByteArray) (phase : Phase)
  | forget (stream : Nat) (payload : Payload) (phase : Phase)
  | respond (stream : Nat) (payload : Payload) (phase : Phase)
  /-- A channel of this end whose first item is awaited. -/
  | openChannel (stream : Nat) (batch : UInt32) (producer : Producer)
  /-- A sequence that is sent, and the item for which credit is awaited. -/
  | send (stream : Nat) (producer : Producer) (held : Option Payload)

/-- A stream or channel that is requested once somebody asks for its first item. -/
inductive Opening where
  | stream (payload : Payload)
  | channel (source : Source)

/-- A request of the application that it can come back to. -/
inductive Request where
  | response (stream : Nat)
  | unopened (opening : Opening) (batch : UInt32)
  | opened (stream : Nat)
  /-- Opening failed, and the failure was handed out. -/
  | refused

/-- The tasks of an endpoint: its three loops, and the application's work. -/
inductive TaskId where
  | write | read | watch | work (index : Nat)
  deriving DecidableEq, Repr

/-- How a step of a task went. -/
inductive Progress where
  /-- The task has more to do. -/
  | again
  /-- It waits for something. -/
  | blocked
  | done
  deriving DecidableEq, Repr

/-- A connection, its application, and the work under way on both sides of it. -/
structure Endpoint where
  connection : Connection
  application : Application
  clock : Clock := {}
  /-- The loop that writes frames runs. -/
  writing : Bool := true
  /-- The loop that reads frames runs. -/
  reading : Bool := true
  /-- The watchdog, while it runs. -/
  watch : Option Phase := some .fresh
  /-- The application's work; what is over leaves a gap. -/
  tasks : Array (Option Task) := #[]
  feeds : Array Feed := #[]
  /-- The feed that was opened last under each name. -/
  feedPlaces : List (String × Nat) := []
  requests : List (String × Request) := []
  /-- The channels of the peer whose items the application keeps apart from its own. -/
  kept : List Nat := []
  events : Array Event := #[]
  /-- Labels of work that was given up unfinished. -/
  dropped : Array String := #[]
  /-- Frames handed to the transport. -/
  written : Array ByteArray := #[]
  deriving Inhabited

namespace Endpoint

/-- Records what can be seen. -/
def report (e : Endpoint) (event : Event) : Endpoint := { e with events := e.events.push event }

/-- Records that work was lost before it ended. -/
def reportDropped (e : Endpoint) (label : String) : Endpoint :=
  { e with dropped := e.dropped.push label }

/-- Forgets what was recorded. -/
def clearRecord (e : Endpoint) : Endpoint :=
  { e with events := #[], dropped := #[], written := #[] }

def mapConnection (e : Endpoint) (f : Connection → Connection) : Endpoint :=
  { e with connection := f e.connection }

def spawn (e : Endpoint) (task : Task) : Endpoint := { e with tasks := e.tasks.push (some task) }

def setTask (e : Endpoint) (k : Nat) (task : Option Task) : Endpoint :=
  { e with tasks := e.tasks.setIfInBounds k task }

def setAlarm (e : Endpoint) (due : Duration) : Alarm × Endpoint :=
  let (alarm, clock) := e.clock.alarm due
  (alarm, { e with clock })

/-- Opens a feed under a name. A former feed with this name can be fed no more. -/
def openFeed (e : Endpoint) (name : String) : Nat × Endpoint :=
  let place := e.feeds.size
  (place,
    { e with
      feeds := e.feeds.push {}
      feedPlaces := (name, place) :: e.feedPlaces.filter (·.1 != name) })

def feedAt? (e : Endpoint) (place : Nat) : Option Feed := e.feeds[place]?

def setFeedAt (e : Endpoint) (place : Nat) (feed : Feed) : Endpoint :=
  { e with feeds := e.feeds.setIfInBounds place feed }

/-- The feed that was opened last under a name, and its place. -/
def feed? (e : Endpoint) (name : String) : Option (Nat × Feed) := do
  let place ← e.feedPlaces.lookup name
  return (place, ← e.feedAt? place)

def request? (e : Endpoint) (name : String) : Option Request := e.requests.lookup name

def setRequest (e : Endpoint) (name : String) (request : Request) : Endpoint :=
  { e with requests := (name, request) :: e.requests.filter (·.1 != name) }

def forgetRequest (e : Endpoint) (name : String) : Endpoint :=
  { e with requests := e.requests.filter (·.1 != name) }

/-- A source goes away. If it had not come to its end, that is reported. -/
def dropSource (e : Endpoint) (s : Source) : Endpoint :=
  let e :=
    match s.supply with
    | .feed place =>
      match e.feedAt? place with
      | some feed => e.setFeedAt place { feed with alive := false }
      | none => e
    | _ => e
  match s.label with
  | some label => if s.finished then e else e.reportDropped label
  | none => e

/-- The items of the peer are not wanted any more. -/
def dropInbound (e : Endpoint) (stream : Nat) : Endpoint :=
  e.mapConnection (·.stepWriting stream Exchange.dropConsumer)

/-- A producer goes away, and with it the items of the peer that it kept. -/
def dropProducer (e : Endpoint) (stream : Nat) (p : Producer) : Endpoint :=
  let e := e.dropSource p.tail
  match p.intake with
  | .none | .keep => e
  | _ => e.dropInbound stream

/-- The application takes the items of a channel for itself, if it keeps them apart from what it
answers with. -/
def keepChannel (e : Endpoint) (stream : Nat) (p : Producer) : Endpoint :=
  match p.intake with
  | .keep => { e with kept := stream :: e.kept }
  | _ => e

end Endpoint
end StreamMux
