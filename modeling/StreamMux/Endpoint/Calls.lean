import StreamMux.Endpoint.Requests

/-!
All that an application can do with its end of a connection, as values, and what comes back.
-/
namespace StreamMux

/-- Something that the application does. -/
inductive Call where
  | close
  /-- Asks whether the connection is over. -/
  | closed
  | fireAndForget (payload : Payload)
  | metadataPush (metadata : ByteArray)
  | requestResponse (name : String) (payload : Payload)
  | requestStream (name : String) (payload : Payload) (batch : Option UInt32)
  | requestChannel (name : String) (source : Source) (batch : Option UInt32)
  /-- A channel whose items are handed in under its name. -/
  | requestFedChannel (name : String) (label : Option String) (batch : Option UInt32)
  /-- Comes back to a request, for up to so many items. -/
  | poll (name : String) (limit : Nat)
  | drop (name : String)
  /-- Takes the next item of a channel of the peer whose items are kept. -/
  | pollKept (stream : Nat)
  | dropKept (stream : Nat)
  | feed (name : String) (item : Item)
  | endFeed (name : String)

/-- What comes back. -/
inductive Reply where
  | nothing
  /-- The connection is not over. -/
  | isOpen
  | isClosed (cause : Failure)
  | done (result : Except Failure Unit)
  | answer (answer : Poll Item)
  /-- A stream or channel that nobody has asked for items. -/
  | unopened
  | items (items : List Item) (pause : Endpoint.Pause) (stream : Option UInt32)
  /-- There is no such request any more. -/
  | gone
  | accepted (accepted : Bool)

/-- What comes back from something done at once, if it comes back. -/
def Reply.ofAttempt : Poll (Except Failure Unit) → Reply
  | .ready result => .done result
  | .pending => .answer .pending

namespace Endpoint

def pollNamed (e : Endpoint) (name : String) (limit : Nat) : Reply × Endpoint :=
  match e.request? name with
  | none => (.gone, e)
  | some (.response stream) =>
    let (answer, e) := e.pollResponse name stream
    (.answer answer, e)
  | some _ =>
    let (items, pause, e) := e.takeItems name limit
    (.items items pause (e.streamId? name), e)

/-- Takes an item that is kept, if it is there. -/
def pollKept (e : Endpoint) (stream : Nat) : Reply × Endpoint :=
  if stream ∈ e.kept then
    let (answer, e) := e.pullInbound stream false
    let (items, pause) : List Item × Pause :=
      match answer with
      | .pending => ([], .pending)
      | .ready none => ([], .ended)
      | .ready (some item) => ([item], .enough)
    (.items items pause (some (e.connection.stream stream).id), e)
  else (.gone, e)

def perform (e : Endpoint) : Call → Reply × Endpoint
  | .close => (.nothing, e.mapConnection (·.close))
  | .closed => ((e.connection.terminal.map .isClosed).getD .isOpen, e)
  | .fireAndForget payload => (e.fireAndForget payload).map .ofAttempt id
  | .metadataPush metadata => (e.pushMetadata metadata).map .ofAttempt id
  | .requestResponse name payload => (e.requestResponse name payload).map .answer id
  | .requestStream name payload batch => (.unopened, e.requestStream name payload batch)
  | .requestChannel name source batch => (.unopened, e.requestChannel name source batch)
  | .requestFedChannel name label batch => (.unopened, e.requestFedChannel name label batch)
  | .poll name limit => e.pollNamed name limit
  | .drop name => (.nothing, e.dropRequest name)
  | .pollKept stream => e.pollKept stream
  | .dropKept stream => (.nothing, e.dropKept stream)
  | .feed name item => (e.feed name item).map .accepted id
  | .endFeed name => (e.endFeed name).map .accepted id

end Endpoint
end StreamMux
