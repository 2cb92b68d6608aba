import StreamMux.Endpoint.Producing

/-!
The requests that the application of this end makes, and how it comes back to them. A stream and
a channel are opened when their first item is asked for. Letting go of a request that is not
over gives it up.
-/
namespace StreamMux.Endpoint

/-! ### Making requests -/

/-- A change of the connection that may be refused, or be awaited for ever. -/
def attempt (e : Endpoint) (change : Connection → Except Connection.Refusal Connection) :
    Poll (Except Failure Unit) × Endpoint :=
  match change e.connection with
  | .ok connection => (.ready (.ok ()), { e with connection })
  | .error (.failed f) => (.ready (.error f), e)
  | .error .endless => (.pending, e)

def pushMetadata (e : Endpoint) (metadata : ByteArray) : Poll (Except Failure Unit) × Endpoint :=
  e.attempt (·.metadataPush metadata)

def fireAndForget (e : Endpoint) (payload : Payload) : Poll (Except Failure Unit) × Endpoint :=
  e.attempt (·.fireAndForget payload)

/-- The number of items asked for at a time, unless the request itself says. -/
def batchSize (e : Endpoint) (chosen : Option UInt32) : UInt32 :=
  (chosen.map clampRequest).getD e.connection.config.prefetch

/-- The application lets go of a request. -/
def giveUp (e : Endpoint) : Request → Endpoint
  | .response stream => e.mapConnection (·.stepWriting stream Exchange.abandon)
  | .opened stream => e.dropInbound stream
  | .unopened (.channel source) _ => e.dropSource source
  | .unopened (.stream _) _ | .refused => e

/-- Keeps a request under a name. The one that had the name is let go of. -/
def keepRequest (e : Endpoint) (name : String) (request : Request) : Endpoint :=
  let former := e.request? name
  let e := e.setRequest name request
  match former with
  | some former => e.giveUp former
  | none => e

/-- Lets go of the request with this name. -/
def dropRequest (e : Endpoint) (name : String) : Endpoint :=
  match e.request? name with
  | some request => (e.forgetRequest name).giveUp request
  | none => e

/-- Asks for one answer, once the request that had the name is let go of. The request is kept as
long as the answer is not there. -/
def requestResponse (e : Endpoint) (name : String) (payload : Payload) : Poll Item × Endpoint :=
  let e := e.dropRequest name
  match e.connection.requestResponse payload with
  | .error (.failed f) => (.ready (.error f), e)
  | .error .endless => (.pending, e)
  | .ok (stream, connection) =>
    (.pending, { e with connection }.setRequest name (.response stream))

def requestStream (e : Endpoint) (name : String) (payload : Payload) (batch : Option UInt32) :
    Endpoint :=
  e.keepRequest name (.unopened (.stream payload) (e.batchSize batch))

def requestChannel (e : Endpoint) (name : String) (source : Source) (batch : Option UInt32) :
    Endpoint :=
  e.keepRequest name (.unopened (.channel source) (e.batchSize batch))

/-- Asks for a channel whose items are handed in under its name. -/
def requestFedChannel (e : Endpoint) (name : String) (label : Option String)
    (batch : Option UInt32) : Endpoint :=
  let (place, e) := e.openFeed name
  e.requestChannel name { label, supply := .feed place } batch

/-! ### Coming back to requests -/

/-- Looks whether the answer to a request is there; then the request is over. -/
def pollResponse (e : Endpoint) (name : String) (stream : Nat) : Poll Item × Endpoint :=
  match e.connection.pollResponse stream with
  | .pending => (.pending, e)
  | answer => (answer, e.forgetRequest name)

/-- Opens a stream or channel on the connection. A source that a failure leaves over goes away. -/
def «open» (e : Endpoint) (opening : Opening) (batch : UInt32) :
    Except Connection.Refusal Nat × Endpoint :=
  match opening with
  | .stream payload =>
    match e.connection.requestStream batch payload with
    | .ok (stream, connection) => (.ok stream, { e with connection })
    | .error refusal => (.error refusal, e)
  | .channel source =>
    match e.connection.requestChannel batch with
    | .ok (stream, connection) =>
      (.ok stream, { e with connection }.spawn (.openChannel stream batch { tail := source }))
    | .error (.failed f) => (.error (.failed f), e.dropSource source)
    | .error .endless => (.error .endless, e)

/-- Asks a stream or channel for its next item. -/
def pollItem (e : Endpoint) (name : String) : Poll (Option Item) × Endpoint :=
  match e.request? name with
  | some (.opened stream) => e.pullInbound stream false
  | some (.unopened opening batch) =>
    match e.open opening batch with
    | (.ok stream, e) => (e.setRequest name (.opened stream)).pullInbound stream false
    | (.error (.failed f), e) => (.ready (some (.error f)), e.setRequest name .refused)
    | (.error .endless, e) => (.pending, e)
  | _ => (.ready none, e)

/-- Why no more items were taken. -/
inductive Pause where
  /-- The next item is not there yet. -/
  | pending
  | ended
  /-- As many as were wanted were there. -/
  | enough
  deriving DecidableEq, Repr

/-- Takes up to so many items. -/
def takeItems (e : Endpoint) (name : String) : Nat → List Item × Pause × Endpoint
  | 0 => ([], .enough, e)
  | limit + 1 =>
    match e.pollItem name with
    | (.pending, e) => ([], .pending, e)
    | (.ready none, e) => ([], .ended, e)
    | (.ready (some item), e) =>
      let (items, pause, e) := e.takeItems name limit
      (item :: items, pause, e)

/-- The id under which the request with this name runs, if it was opened. -/
def streamId? (e : Endpoint) (name : String) : Option UInt32 :=
  match e.request? name with
  | some (.opened stream) => some (e.connection.stream stream).id
  | _ => none

/-! ### Items that are kept -/

/-- The application lets go of the items of a channel of the peer. -/
def dropKept (e : Endpoint) (stream : Nat) : Endpoint :=
  if stream ∈ e.kept then { e with kept := e.kept.filter (· != stream) }.dropInbound stream else e

/-! ### Feeding sources -/

/-- Hands an item to a source that is fed; tells whether it can still take items. -/
def feed (e : Endpoint) (name : String) (item : Item) : Bool × Endpoint :=
  match e.feed? name with
  | none => (false, e)
  | some (place, f) =>
    if f.ended || !f.alive then (false, e)
    else (true, e.setFeedAt place { f with items := f.items.push item })

/-- Says that a source that is fed gets nothing more; tells whether there was one. -/
def endFeed (e : Endpoint) (name : String) : Bool × Endpoint :=
  match e.feed? name with
  | none => (false, e)
  | some (place, f) =>
    if f.ended then (false, e) else (true, e.setFeedAt place { f with ended := true })

end StreamMux.Endpoint
