import StreamMux.Connection.Basic
import StreamMux.Exchange.Inbound

/-!
What a connection does with a frame of the peer. Frames of streams go to the stream that is
registered under their id; a request under an id of the peer opens a stream; everything else for
unknown streams is dropped.
-/
namespace StreamMux.Connection

/-- Work that a frame starts for the application. Streams are named by their place. -/
inductive Work where
  | metadataPush (metadata : ByteArray)
  | fireAndForget (stream : Nat) (payload : Payload)
  | response (stream : Nat) (payload : Payload)
  | items (stream : Nat) (payload : Payload)
  | channel (stream : Nat) (payload : Payload)

/-- The work that the payload of a request starts. -/
def Work.ofRequest? (kind : StreamKind) (stream : Nat) (payload : Payload) : Option Work :=
  match kind with
  | .responderFireAndForget => some (.fireAndForget stream payload)
  | .responderResponse => some (.response stream payload)
  | .responderStream => some (.items stream payload)
  | .responderChannel => some (.channel stream payload)
  | _ => none

/-- A payload-carrying frame for the stream at a place. -/
def receive (c : Connection) (keepsItems : Payload → Bool) (i : Nat) (f : PayloadFrame) :
    Connection × Option Work :=
  let s := c.stream i
  let r := s.receive { batch := c.config.prefetch, keepsItems } f
  (c.commit i r.stream r.frames, r.started.bind (Work.ofRequest? s.kind i))

/-- A request under an id that is not registered. The id has to be one of the peer's. -/
def accept (c : Connection) (keepsItems : Payload → Bool) (f : PayloadFrame) :
    Connection × Option Work :=
  match StreamKind.ofRequest? f.type with
  | none => (c, none)
  | some kind =>
    if c.side.owns f.id then (c, none)
    else
      match c.insert? (.responder f.id kind f.initial) with
      | none => (c, none)
      | some (i, c) => c.receive keepsItems i f

/-- A KEEPALIVE is noted, and answered if the peer wants an answer. -/
def hear (c : Connection) (now : Duration) (respond : Bool) : Connection :=
  let c := { c with lastHeard := now }
  if respond then c.enqueuePriority (.keepAlive false 0 ByteArray.empty) else c

/-- A step of the stream that is registered under an id, if there is one. -/
def stepRegistered (c : Connection) (id : UInt32) (f : Exchange → Exchange) : Connection :=
  match c.registry.get? id with
  | some i => c.step i f
  | none => c

/-- Handles one frame. `keepsItems` tells whether the application, called with a channel's first
payload, keeps the items of the peer. -/
def dispatch (c : Connection) (keepsItems : Payload → Bool) (now : Duration) :
    Frame → Connection × Option Work
  | .keepAlive respond _ _ => (c.hear now respond, none)
  | .metadataPush metadata => (c, some (.metadataPush metadata))
  | .setup _ | .lease .. => (c, none)
  | .error id code message =>
    let failure := Failure.ofErrorFrame code message
    if id = 0 then (c.teardown failure, none)
    else (c.stepRegistered id (·.fail failure), none)
  | .requestN id n => (c.stepRegistered id (·.grant n.toNat), none)
  | .cancel id => (c.stepRegistered id (·.cancelByPeer), none)
  | .payload f =>
    match c.registry.get? f.id with
    | some i => if f.type.opensStream then (c, none) else c.receive keepsItems i f
    | none => c.accept keepsItems f

end StreamMux.Connection
